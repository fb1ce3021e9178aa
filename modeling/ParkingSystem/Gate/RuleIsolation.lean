import ParkingSystem.Gate.Outcome

/-!
# Rules among Rules

What one rule does to the others. The engine tries them in order of priority and stops at the
first that matches; what raises in one ends it for all, and the gate goes on with its base
decision. The two runs compared here, with a rule and without it, are at the same instant.
-/

namespace ParkingSystem

open PyText PyValue Table Transaction

/-! ## What a rule comes to at an instant -/

/-- Whether it is between two times of day; a time that cannot be read is no match. -/
def windowMatches (t : ℤ) (target : Option Json) : Bool :=
  ((targetTime target "from").bind fun fromT =>
    (targetTime target "to").map fun toT => inWindow fromT toT (timeOfDay t)).getD false

/-- An operator on the value of a field. -/
def operatorMatches (t : ℤ) (val : Scalar) (target : Option Json) (op : String) : Bool :=
  if op = "time_window" then windowMatches t target else compareField val target op

/-- A condition on a field that can be looked up. -/
def fieldMatches (ctx : RuleContext) (t : ℤ) (cond : Dict) (field : String) : Bool :=
  (ctx.field field).any fun val => (Dict.get cond "op").any fun
    | .str op => operatorMatches t val (Dict.get cond "value") op
    | _ => false

/-- What a condition comes to; `none` is an exception. -/
def conditionAt (ctx : RuleContext) (t : ℤ) (cond : Dict) : Option Bool :=
  (Dict.get cond "field").elim (some false) fun
    | .str field => some (fieldMatches ctx t cond field)
    | .arr _ | .obj _ => none
    | _ => some false

/-- What the conditions of a rule come to. -/
def conditionsAt (ctx : RuleContext) (t : ℤ) : List Dict → Option (List Bool)
  | [] => some []
  | cond :: rest => (conditionAt ctx t cond).bind fun result =>
    (conditionsAt ctx t rest).bind fun results => some (result :: results)

/-- A rule lets the next one have its turn, ends the engine with an exception, or acts. -/
inductive RuleEffect where
  | passes
  | raises
  | acts (o : Overrides) (trace : RuleTrace)

/-- What a rule of the right direction comes to. -/
def EntryExitRule.effect (subject : RuleSubject) (ctx : RuleContext) (t : ℤ)
    (r : EntryExitRule) : RuleEffect :=
  if r.effectiveFrom.any fun t₀ => t < t₀ then .passes
  else match conditionsAt ctx t r.conditions with
    | none => .raises
    | some results =>
      if !combineResults r results then .passes
      else match ruleActions subject.decision subject.reason r.actions {} with
        | some o => .acts o { ruleId := r.id, ruleName := r.name, conditionResults := results }
        | none => .raises

/-- The first rule that does not pass decides. -/
def firstEffect : List RuleEffect → RuleEffect
  | [] => .passes
  | .passes :: rest => firstEffect rest
  | effect :: _ => effect

/-- What the engine returns; `none` is an exception. -/
def RuleEffect.outcome : RuleEffect → Option (Overrides × Option RuleTrace)
  | passes => some ({}, none)
  | raises => none
  | acts o trace => some (o, some trace)

/-- Every exception of the engine is a TypeError. -/
def orTypeError {α : Type} (o : Option α) : Except (Exc AppError) α :=
  o.elim (.error (.app .typeError)) .ok

theorem toOption_orTypeError {α : Type} (o : Option α) : (orTypeError o).toOption = o := by
  cases o <;> rfl

theorem yields_bind_orTypeError {α β : Type} {t : ℤ} {p : Handler α} {f : α → Handler β}
    {o : Option α} {g : α → Option β} (hp : p.Yields t (orTypeError o))
    (hf : ∀ a, (f a).Yields t (orTypeError (g a))) :
    (p.bind f).Yields t (orTypeError (o.bind g)) := by
  cases o with
  | none => exact hp.bind_error
  | some a => exact hp.bind (hf a)

theorem yields_matchCondition (ctx : RuleContext) (t : ℤ) (cond : Dict) :
    (matchCondition ctx cond).Yields t (orTypeError (conditionAt ctx t cond)) := by
  unfold matchCondition conditionAt
  cases hfield : Dict.get cond "field" with
  | none => exact Prog.yields_ret t _
  | some j =>
    cases j with
    | str field =>
      simp only [Option.elim_some, fieldMatches]
      cases ctx.field field with
      | none => exact Prog.yields_ret t _
      | some val =>
        cases Dict.get cond "op" with
        | none => exact Prog.yields_ret t _
        | some j =>
          cases j with
          | str op =>
            by_cases hop : op = "time_window"
            · subst hop
              refine (Prog.yields_getTime t).bind ?_
              simp only [Option.any_some, operatorMatches, windowMatches, if_true]
              cases targetTime (Dict.get cond "value") "from" with
              | none => exact Prog.yields_ret t _
              | some fromT =>
                cases targetTime (Dict.get cond "value") "to" with
                | none => exact Prog.yields_ret t _
                | some toT => exact Prog.yields_ret t _
            · simp only [Option.any_some, operatorMatches, if_neg hop]
              exact Prog.yields_ret t _
          | _ => exact Prog.yields_ret t _
    | arr items => exact Prog.yields_throw t _
    | obj fields => exact Prog.yields_throw t _
    | _ => exact Prog.yields_ret t _

theorem yields_matchConditions (ctx : RuleContext) (t : ℤ) (conds : List Dict) :
    (matchConditions ctx conds).Yields t (orTypeError (conditionsAt ctx t conds)) := by
  induction conds with
  | nil => exact Prog.yields_ret t _
  | cons cond rest ih =>
    refine yields_bind_orTypeError (yields_matchCondition ctx t cond) fun result => ?_
    exact yields_bind_orTypeError ih fun results => Prog.yields_ret t _

/-- **The engine at an instant**: by induction on the rules it has not tried. -/
theorem yields_firstMatch (subject : RuleSubject) (ctx : RuleContext) (t : ℤ)
    (rules : List EntryExitRule) : (firstMatch subject ctx t rules).Yields t
      (orTypeError (firstEffect (rules.map (·.effect subject ctx t))).outcome) := by
  induction rules with
  | nil => exact Prog.yields_ret t _
  | cons r rest ih =>
    rw [firstMatch, List.map_cons, EntryExitRule.effect]
    split
    · exact ih
    · have hconds := yields_matchConditions ctx t r.conditions
      cases hresults : conditionsAt ctx t r.conditions with
      | none =>
        rw [hresults] at hconds
        exact hconds.bind_error
      | some results =>
        rw [hresults] at hconds
        refine hconds.bind ?_
        dsimp only
        split
        · exact ih
        · cases ruleActions subject.decision subject.reason r.actions {} with
          | none => exact Prog.yields_throw t _
          | some o => exact Prog.yields_ret t _

/-! ## The verdict at an instant -/

/-- The context of the rules, on a store. -/
def contextOn (cfg : Config) (subject : RuleSubject) (s : Store) : RuleContext :=
  { gateCode := subject.gate.code, plate := subject.normalized
    driverRequest := subject.driverRequest
    isResident := (subject.vehicle.bind Vehicle.unitId).isSome
    hasValidPermit := subject.permit.isSome
    yardFull := cfg.capacity.any fun d =>
      (yardCapacityDecision (some d) (confirmedOccupancy s)).isSome
    coveredFreeCount := freeSpaces s
    hasOpenSession := subject.normalized.any fun plate => !(openSessions plate s).isEmpty
    hasDebt := subject.normalized.any fun plate =>
      !(sessionIds plate s).isEmpty && decide (0 < debtOf (sessionIds plate s) s)
    confirmedViolationsCount := (subject.normalized.map fun plate =>
      confirmedViolations plate s).getD 0 }

theorem reads_contextYardFull (cfg : Config) : (contextYardFull cfg).Reads fun s =>
    cfg.capacity.any fun d => (yardCapacityDecision (some d) (confirmedOccupancy s)).isSome := by
  unfold contextYardFull
  cases cfg.capacity with
  | none => exact Prog.reads_ret false
  | some d => exact (Prog.reads_select _).bind fun _ => Prog.reads_ret _

theorem reads_hasDebt (plate : String) : (hasDebt plate).Reads fun s =>
    !(sessionIds plate s).isEmpty && decide (0 < debtOf (sessionIds plate s) s) := by
  intro clk w hw
  refine (Prog.exec_bind_of_ok (Prog.exec_select clk _ hw)).trans ?_
  cases hids : (sessionIds plate w.view).isEmpty with
  | true => simp [hids]
  | false =>
    simp only [hids, Bool.false_eq_true, if_false, Bool.not_false, Bool.true_and]
    exact (Prog.exec_bind_of_ok (Prog.exec_select clk _ hw)).trans (Prog.exec_ret _ _ _)

theorem reads_plateContext (normalized : Option String) :
    (plateContext normalized).Reads fun s =>
      (normalized.any fun plate => !(openSessions plate s).isEmpty,
        normalized.any fun plate =>
          !(sessionIds plate s).isEmpty && decide (0 < debtOf (sessionIds plate s) s),
        (normalized.map fun plate => confirmedViolations plate s).getD 0) := by
  cases normalized with
  | none => exact Prog.reads_ret _
  | some plate =>
    exact (Prog.reads_select _).bind fun _ => (reads_hasDebt plate).bind fun _ =>
      (Prog.reads_select _).bind fun _ => Prog.reads_ret _

theorem reads_buildContext (cfg : Config) (subject : RuleSubject) :
    (buildContext cfg subject).Reads (contextOn cfg subject) :=
  (reads_contextYardFull cfg).bind fun _ => (Prog.reads_select _).bind fun _ =>
    (reads_plateContext _).bind fun _ => Prog.reads_ret _

section

variable (cfg : Config) (e : PlateEvent) (t : ℤ) (rd : Reading) (base : BaseDecision)

/-- What the rules of a table come to, in order. -/
def effectsOn (s : Store) : List RuleEffect :=
  (activeRules e.direction s).map
    (·.effect (ruleSubject e rd base) (contextOn cfg (ruleSubject e rd base) s) t)

/-- On a live transaction the rules come to their first effect. -/
theorem rulesOn_eq {w : Session Store} (hw : w.broken = false) :
    rulesOn cfg e (fun _ => t) rd base w =
      (firstEffect (effectsOn cfg e t rd base w.view)).outcome := by
  have hw' : ({ w with tick := w.tick + 1 } : Session Store).broken = false := hw
  unfold rulesOn effectsOn
  rw [applyRulesForEvent, Prog.bind_eq, Prog.exec_bind_of_ok (Prog.exec_select _ _ hw')]
  show (Prog.exec _ (if (activeRules e.direction w.view).isEmpty then _ else _) _).1.toOption = _
  by_cases hrules : (activeRules e.direction w.view).isEmpty = true
  · rw [if_pos hrules, List.isEmpty_iff.1 hrules]
    rfl
  · have hctx := reads_buildContext cfg (ruleSubject e rd base) (fun _ => t)
      { w with tick := w.tick + 1 } hw'
    have hfirst := yields_firstMatch (ruleSubject e rd base)
      (contextOn cfg (ruleSubject e rd base) w.view) t (activeRules e.direction w.view)
    rw [if_neg hrules, Prog.bind_eq, Prog.exec_bind_of_ok hctx]
    exact (congrArg Except.toOption (hfirst _)).trans (toOption_orTypeError _)

/-! ## Isolation -/

/-- Whether a rule is in force for a direction. -/
def EntryExitRule.selected (direction : String) (r : EntryExitRule) : Bool :=
  r.status == "ACTIVE" && r.enabled && (r.direction == direction || r.direction == "ANY")

/-- A store with other rules. -/
def Store.withRules (s : Store) (rules : List EntryExitRule) : Store := { s with rules }

/-- The verdict with these rules in the table. -/
def verdictWith (w : Session Store) (rules : List EntryExitRule) : Verdict :=
  verdictOn cfg e (fun _ => t) rd base { w with view := w.view.withRules rules }

/-- The same decision, reason and actions. -/
structure SameOutcome (v v' : Verdict) : Prop where
  decision : v.decision = v'.decision
  reason : v.reason = v'.reason
  overrides : v.overrides = v'.overrides

/-- A rule makes no difference, whatever the other rules are. -/
def Isolated (w : Session Store) (r : EntryExitRule) : Prop :=
  ∀ L₁ L₂, SameOutcome (verdictWith cfg e t rd base w (L₁ ++ r :: L₂))
    (verdictWith cfg e t rd base w (L₁ ++ L₂))

/-- **The condition.** A rule that is not in force, not yet effective, or whose conditions are
looked up without an exception and do not match in the rule's own mode. -/
inductive Inert (s : Store) (r : EntryExitRule) : Prop
  | unselected (h : r.selected e.direction = false)
  | later (h : (r.effectiveFrom.any fun t₀ => t < t₀) = true)
  | unmatched (results : List Bool)
    (hresults : conditionsAt (contextOn cfg (ruleSubject e rd base) s) t r.conditions = some results)
    (hno : combineResults r results = false)

/-- A rule of the right direction passes exactly where it is inert. -/
theorem effect_eq_passes {s : Store} {r : EntryExitRule} (hr : r.selected e.direction = true) :
    r.effect (ruleSubject e rd base) (contextOn cfg (ruleSubject e rd base) s) t = .passes ↔
      Inert cfg e t rd base s r := by
  unfold EntryExitRule.effect
  constructor
  · intro h
    split at h
    · exact .later ‹_›
    · split at h
      · cases h
      · rename_i results hresults
        split at h
        · rename_i hno
          exact .unmatched results hresults (by simpa using hno)
        · split at h <;> cases h
  · rintro (hun | hlater | ⟨results, hresults, hno⟩)
    · rw [hr] at hun
      cases hun
    · rw [if_pos hlater]
    · split
      · rfl
      · simp [hresults, hno]

theorem firstEffect_around (A B : List RuleEffect) :
    firstEffect (A ++ .passes :: B) = firstEffect (A ++ B) := by
  induction A with
  | nil => rfl
  | cons effect A ih => cases effect <;> simp [firstEffect, ih]

theorem firstEffect_cons_of_ne {effect : RuleEffect} (h : effect ≠ .passes)
    (rest : List RuleEffect) : firstEffect (effect :: rest) = effect := by
  cases effect with
  | passes => exact absurd rfl h
  | _ => rfl

/-- What a table of rules comes to. -/
theorem verdictWith_eq {w : Session Store} (hw : w.broken = false) (rules : List EntryExitRule) :
    verdictWith cfg e t rd base w rules = (Verdict.ofRules base
      (firstEffect (effectsOn cfg e t rd base (w.view.withRules rules))).outcome).locked rd.review := by
  rw [verdictWith, verdictOn, rulesOn_eq cfg e t rd base (w := { w with view := w.view.withRules rules }) hw]

/-- An inert rule makes no difference. -/
theorem firstEffect_inert {s : Store} {r : EntryExitRule} (h : Inert cfg e t rd base s r)
    (L₁ L₂ : List EntryExitRule) :
    firstEffect (effectsOn cfg e t rd base (s.withRules (L₁ ++ r :: L₂))) =
      firstEffect (effectsOn cfg e t rd base (s.withRules (L₁ ++ L₂))) := by
  cases hr : r.selected e.direction with
  | false =>
    have hskip : activeRules e.direction (s.withRules (L₁ ++ r :: L₂)) =
        activeRules e.direction (s.withRules (L₁ ++ L₂)) := by
      show orderBy _ ((L₁ ++ r :: L₂).filter (EntryExitRule.selected e.direction)) =
        orderBy _ ((L₁ ++ L₂).filter (EntryExitRule.selected e.direction))
      simp [hr]
    rw [effectsOn, hskip]
    rfl
  | true =>
    obtain ⟨A, B, hwith, hwithout⟩ := orderBy_around EntryExitRule.priority r
      (L₁.filter (EntryExitRule.selected e.direction))
      (L₂.filter (EntryExitRule.selected e.direction))
    have hA : activeRules e.direction (s.withRules (L₁ ++ r :: L₂)) = A ++ r :: B := by
      show orderBy _ ((L₁ ++ r :: L₂).filter (EntryExitRule.selected e.direction)) = _
      rw [List.filter_append, List.filter_cons_of_pos hr, hwith]
    have hB : activeRules e.direction (s.withRules (L₁ ++ L₂)) = A ++ B := by
      show orderBy _ ((L₁ ++ L₂).filter (EntryExitRule.selected e.direction)) = _
      rw [List.filter_append, hwithout]
    have hpasses := (effect_eq_passes cfg e t rd base hr).2 h
    rw [effectsOn, effectsOn, hA, hB, List.map_append, List.map_cons, List.map_append]
    exact (congrArg (fun x => firstEffect (_ ++ x :: _)) hpasses).trans (firstEffect_around _ _)

/-- A rule that refuses everything, for a reason, after another rule. -/
def denyAfter (r : EntryExitRule) (reason : Json) : EntryExitRule :=
  { id := 0, name := "", priority := r.priority + 1, conditions := [], status := "ACTIVE"
    actions := [[("action", .str "deny"), ("params", .obj [("reason", reason)])]] }

theorem activeRules_withRules (s : Store) (rules : List EntryExitRule) :
    activeRules e.direction (s.withRules rules) =
      orderBy EntryExitRule.priority (rules.filter (EntryExitRule.selected e.direction)) := rfl

theorem selected_denyAfter (direction : String) (r : EntryExitRule) (reason : Json) :
    (denyAfter r reason).selected direction = true := by
  simp [EntryExitRule.selected, denyAfter]

/-- Its action refuses, whatever was decided. -/
theorem ruleActions_deny (decision : Decision) (text : String) (reason : Json) :
    ruleActions decision text [[("action", .str "deny"), ("params", .obj [("reason", reason)])]] {} =
      some { decision := some .deny, reason := some reason } := by
  have hact : Dict.get [("action", .str "deny"), ("params", .obj [("reason", reason)])] "action" =
      some (.str "deny") := rfl
  have hparams : Dict.get [("action", .str "deny"), ("params", .obj [("reason", reason)])] "params" =
      some (.obj [("reason", reason)]) := rfl
  have hreason : Dict.get [("reason", reason)] "reason" = some reason := rfl
  simp [ruleActions, ruleAction, actionName, applyAction, Overrides.decide, actionParams, param,
    hact, hparams, hreason]

/-- That rule matches, whatever the context, and refuses. -/
theorem effect_denyAfter (subject : RuleSubject) (ctx : RuleContext) (r : EntryExitRule)
    (reason : Json) : (denyAfter r reason).effect subject ctx t =
      .acts { decision := some .deny, reason := some reason }
        { ruleId := 0, ruleName := "", conditionResults := [] } := by
  have hmatch : combineResults (denyAfter r reason) [] = true := by
    have hall : upperString "ALL" = "ALL" := by decide
    simp [combineResults, denyAfter, hall]
  have hact := ruleActions_deny subject.decision subject.reason reason
  simp only [denyAfter] at hmatch
  simp [EntryExitRule.effect, denyAfter, conditionsAt, hmatch, hact]

/-- Alone, that rule gives its reason. -/
theorem verdictWith_deny {w : Session Store} (hw : w.broken = false) (r : EntryExitRule)
    (reason : Json) : (verdictWith cfg e t rd base w [denyAfter r reason]).reason = reason := by
  have heffects : effectsOn cfg e t rd base (w.view.withRules [denyAfter r reason]) =
      [.acts { decision := some .deny, reason := some reason }
        { ruleId := 0, ruleName := "", conditionResults := [] }] := by
    rw [effectsOn, activeRules_withRules, List.filter_cons_of_pos (selected_denyAfter _ _ _)]
    exact congrArg (fun x => [x]) (effect_denyAfter t _ _ r reason)
  rw [verdictWith_eq cfg e t rd base hw, heffects]
  simp [firstEffect, RuleEffect.outcome, Verdict.ofRules, Verdict.locked, Decision.allowed]

/-- After a rule that does not pass, nobody gets a turn. -/
theorem firstEffect_before {s : Store} {r : EntryExitRule} (hr : r.selected e.direction = true)
    (h : ¬ Inert cfg e t rd base s r) (reason : Json) :
    firstEffect (effectsOn cfg e t rd base (s.withRules [r, denyAfter r reason])) =
      r.effect (ruleSubject e rd base) (contextOn cfg (ruleSubject e rd base) s) t := by
  have horder : activeRules e.direction (s.withRules [r, denyAfter r reason]) =
      [r, denyAfter r reason] := by
    rw [activeRules_withRules, List.filter_cons_of_pos hr,
      List.filter_cons_of_pos (selected_denyAfter _ _ _), List.filter_nil, orderBy]
    simp [denyAfter]
  rw [effectsOn, horder, List.map_cons]
  exact firstEffect_cons_of_ne (fun hpasses => h ((effect_eq_passes cfg e t rd base hr).1 hpasses)) _

/-- On a broken transaction the engine fails. -/
theorem rulesOn_broken {w : Session Store} (hw : w.broken = true) :
    rulesOn cfg e (fun _ => t) rd base w = none := by
  have hw' : ({ w with tick := w.tick + 1 } : Session Store).broken = true := hw
  unfold rulesOn
  rw [applyRulesForEvent, Prog.bind_eq, Prog.exec_bind_of_error (Prog.exec_select_broken _ _ hw')]
  rfl

/-- Where no rule has any say. -/
theorem verdictWith_broken {w : Session Store} (hw : w.broken = true)
    (rules rules' : List EntryExitRule) :
    verdictWith cfg e t rd base w rules = verdictWith cfg e t rd base w rules' := by
  have hfails (rules : List EntryExitRule) :
      rulesOn cfg e (fun _ => t) rd base { w with view := w.view.withRules rules } = none :=
    rulesOn_broken cfg e t rd base hw
  rw [verdictWith, verdictWith, verdictOn, verdictOn, hfails, hfails]

/-- **Rule isolation**: a rule makes no difference among whatever other rules exactly where it
is inert, or where no rule has any say because the transaction is broken. -/
theorem isolated_iff (w : Session Store) (r : EntryExitRule) :
    Isolated cfg e t rd base w r ↔ w.broken = true ∨ Inert cfg e t rd base w.view r := by
  constructor
  · intro hisolated
    by_contra hneither
    obtain ⟨hlive, hacts⟩ := not_or.1 hneither
    have hw : w.broken = false := by simpa using hlive
    have hr : r.selected e.direction = true := by
      by_contra hun
      exact hacts (.unselected (by simpa using hun))
    -- before two rules that refuse for different reasons, the verdict is the same
    have hsame (reason : Json) : (Verdict.locked rd.review (Verdict.ofRules base
        (r.effect (ruleSubject e rd base) (contextOn cfg (ruleSubject e rd base) w.view)
          t).outcome)).reason = reason := by
      have hreason := (hisolated [] [denyAfter r reason]).reason
      rw [List.nil_append, List.nil_append, verdictWith_deny cfg e t rd base hw,
        verdictWith_eq cfg e t rd base hw, firstEffect_before cfg e t rd base hr hacts] at hreason
      exact hreason
    have habsurd := (hsame .null).symm.trans (hsame (.bool true))
    cases habsurd
  · rintro (hbroken | hinert) L₁ L₂
    · rw [verdictWith_broken cfg e t rd base hbroken _ (L₁ ++ L₂)]
      exact ⟨rfl, rfl, rfl⟩
    · cases hw : w.broken with
      | true =>
        rw [verdictWith_broken cfg e t rd base hw _ (L₁ ++ L₂)]
        exact ⟨rfl, rfl, rfl⟩
      | false =>
        rw [verdictWith_eq cfg e t rd base hw, verdictWith_eq cfg e t rd base hw,
          firstEffect_inert cfg e t rd base hinert]
        exact ⟨rfl, rfl, rfl⟩

/-- A condition the engine knows: a field and an operator from its lists. -/
def wellFormed (cond : Dict) : Bool :=
  match Dict.get cond "field", Dict.get cond "op" with
  | some (.str field), some (.str op) =>
    ["membership_kind", "is_resident", "has_valid_permit", "yard_full", "covered_free_count",
      "has_open_session", "has_debt", "confirmed_violations_count", "driver_request",
      "time_window", "gate_code", "plate_in"].contains field &&
    ["true", "false", "eq", "ne", "in", "not_in", "gte", "lte", "time_window"].contains op
  | _, _ => false

/-- An action the engine knows, with parameters it can read. -/
def knownAction (act : Dict) : Bool :=
  (actionName act).any (["show_message", "require_driver_selection", "refer_to_guard", "deny",
    "allow_with_warning", "notify_field_op", "issue_receipt", "request_payment"].contains ·) &&
    (actionParams act).isSome

/-- A rule that should have no say in an event: not for its direction, not yet effective,
well-formed and not matching, or malformed. -/
inductive NotApplicable (s : Store) (r : EntryExitRule) : Prop
  | direction (h : r.direction ≠ e.direction ∧ r.direction ≠ "ANY")
  | later (h : (r.effectiveFrom.any fun t₀ => t < t₀) = true)
  | unmatched (h : r.conditions.all wellFormed = true) (results : List Bool)
    (hresults : conditionsAt (contextOn cfg (ruleSubject e rd base) s) t r.conditions = some results)
    (hno : combineResults r results = false)
  | condition (h : r.conditions.all wellFormed = false)
  | action (h : r.actions.all knownAction = false)

end

/-! ### A field that cannot be looked up -/

/-- A rule whose field is a list, and that should have no say. -/
def listField : EntryExitRule :=
  { id := 1, name := "typo", priority := 1, status := "ACTIVE", actions := []
    conditions := [[("field", .arr [.str "gate_code"]), ("op", .str "eq"), ("value", .str "G1")]] }

/-- An entry at the only gate. -/
def gateEvent : PlateEvent := { gateCode := "G1", plateRaw := "12ب34567", sourceEventId := "1" }

/-- What is known of it. -/
def gateReading : Reading :=
  { now := 0, gate := { id := "g1", code := "G1", name := "North" }, normalized := some "12ب34567"
    envelope := { ok := true, reviewRequired := false, violations := []
                  thresholds := { maxAngleDeg := .num 0, minLux := .num 0, maxSpeedKmh := .num 0
                                  lowConf := .num 0 } }
    review := .autoOk, recognitionId := some 1, vehicle := none }

/-- **A rule that ends the engine**: the entry goes through with its base decision, although
another rule would have refused it. -/
theorem isolation_broken :
    ¬ ∀ (cfg : Config) (e : PlateEvent) (t : ℤ) (rd : Reading) (base : BaseDecision)
      (w : Session Store) (r : EntryExitRule), NotApplicable cfg e t rd base w.view r →
      Isolated cfg e t rd base w r := by
  intro h
  have hmalformed : NotApplicable {} gateEvent 0 gateReading
      { decision := .allow, reason := "VALID_PERMIT" } {} listField := .condition (by decide)
  have hsame := (h {} gateEvent 0 gateReading { decision := .allow, reason := "VALID_PERMIT" }
    (Session.fresh {} 0 0) listField hmalformed [] [denyAfter listField .null]).decision
  revert hsame
  decide

end ParkingSystem
