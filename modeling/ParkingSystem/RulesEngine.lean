import ParkingSystem.Capacity
import ParkingSystem.Envelope
import ParkingSystem.Vehicles

/-!
# The Rules Engine

An operator's rules look at a context and act on the decision of the gate. The first matching
rule, by priority, acts; its actions may refuse, refer to the guard, or allow a plate nobody
knows. A rule may not soften the refusal of a restricted plate or an inactive vehicle, and may
not turn a refusal into an admission.

Conditions and actions are JSON objects. What raises inside a condition makes it false; what
raises anywhere else ends the engine, and the gate goes on without it.
-/

namespace ParkingSystem

open PyText PyValue Table Transaction

/-! ## Warnings -/

/-- A warning of the gate. -/
inductive Warning where
  | text (s : String)
  | envelope (v : EnvelopeViolation)
  /-- `UNKNOWN_ACTION:` and the text of the action. -/
  | unknownAction (action : Json)

/-! ## Context -/

/-- The fields conditions may look at. -/
structure RuleContext where
  gateCode : String
  plate : Option String
  driverRequest : Option String
  isResident : Bool
  hasValidPermit : Bool
  yardFull : Bool
  coveredFreeCount : ℤ
  hasOpenSession : Bool
  hasDebt : Bool
  confirmedViolationsCount : ℤ
  deriving DecidableEq, Repr

/-- A text or nothing, as a Python value. -/
def Scalar.ofText : Option String → Scalar
  | some s => .str s
  | none => .null

/-- `ctx[field]`, for the fields of `CONDITION_FIELDS`. A vehicle has no `vehicle_group_id`
column, so its `membership_kind` is never set. -/
def RuleContext.field (ctx : RuleContext) : String → Option Scalar
  | "membership_kind" => some .null
  | "is_resident" => some (.bool ctx.isResident)
  | "has_valid_permit" => some (.bool ctx.hasValidPermit)
  | "yard_full" => some (.bool ctx.yardFull)
  | "covered_free_count" => some (.int ctx.coveredFreeCount)
  | "has_open_session" => some (.bool ctx.hasOpenSession)
  | "has_debt" => some (.bool ctx.hasDebt)
  | "confirmed_violations_count" => some (.int ctx.confirmedViolationsCount)
  | "driver_request" => some (Scalar.ofText ctx.driverRequest)
  | "time_window" => some (.bool true)
  | "gate_code" => some (.str ctx.gateCode)
  | "plate_in" => some (Scalar.ofText ctx.plate)
  | _ => none

/-- The OPEN sessions of a plate. -/
def openSessions (plate : String) (s : Store) : List ParkingSession :=
  s.sessions.filter fun r => r.plateNormalized == plate && r.status == .opened

@[simp] theorem mem_openSessions {plate : String} {s : Store} {r : ParkingSession} :
    r ∈ openSessions plate s ↔
      r ∈ s.sessions ∧ r.plateNormalized = plate ∧ r.status = .opened := by
  simp [openSessions]

/-- The sessions of a plate. -/
def sessionIds (plate : String) (s : Store) : List ℕ :=
  (s.sessions.filter fun r => r.plateNormalized == plate).map ParkingSession.id

/-- What the unpaid charges of some sessions still owe. -/
def debtOf (sessions : List ℕ) (s : Store) : ℤ :=
  ((s.charges.filter fun c => c.parkingSessionId.any sessions.contains && c.status == .unpaid).map
    chargeDebt).sum
where
  /-- `max(0, amount - paid_amount)`. -/
  chargeDebt (c : Charge) : ℤ := max 0 (c.amount - c.paidAmount)

/-- The number of CONFIRMED violations of a plate. -/
def confirmedViolations (plate : String) (s : Store) : ℤ :=
  (s.violations.filter fun v => v.plateNormalized == some plate && v.status == "CONFIRMED").length

/-- The number of free covered spaces. -/
def freeSpaces (s : Store) : ℤ :=
  (s.spaces.filter fun sp => sp.status == "FREE" && sp.isActive).length

/-- `yard_full` of the context: the environment's capacity only. -/
def contextYardFull (cfg : Config) : Handler Bool :=
  match cfg.capacity with
  | some declared => do
    let confirmed ← countConfirmedOccupancy
    return (yardCapacityDecision (some declared) confirmed).isSome
  | none => return false

/-- `has_debt` of a plate. -/
def hasDebt (plate : String) : Handler Bool := do
  let sessions ← .select (sessionIds plate)
  if sessions.isEmpty then return false
  else do
    let debt ← .select (debtOf sessions)
    return decide (0 < debt)

/-- The part of the context that depends on a readable plate: open session, debt, confirmed
violations. -/
def plateContext : Option String → Handler (Bool × Bool × ℤ)
  | none => return (false, false, 0)
  | some plate => do
    let sessions ← .select (openSessions plate)
    let debt ← hasDebt plate
    let violations ← .select (confirmedViolations plate)
    return (!sessions.isEmpty, debt, violations)

/-- What the rules are asked about. -/
structure RuleSubject where
  direction : String
  gate : Gate
  normalized : Option String
  vehicle : Option Vehicle
  permit : Option AccessPermit
  decision : Decision
  reason : String
  driverRequest : Option String

/-- `build_context`. -/
def buildContext (cfg : Config) (subject : RuleSubject) : Handler RuleContext := do
  let yardFull ← contextYardFull cfg
  let coveredFreeCount ← .select freeSpaces
  let (hasOpenSession, hasDebt, confirmedViolationsCount) ← plateContext subject.normalized
  return { gateCode := subject.gate.code, plate := subject.normalized
           driverRequest := subject.driverRequest
           isResident := (subject.vehicle.bind Vehicle.unitId).isSome
           hasValidPermit := subject.permit.isSome
           yardFull, coveredFreeCount, hasOpenSession, hasDebt, confirmedViolationsCount }

/-! ## Conditions -/

/-- The hour of `%H:%M`, up to the colon. -/
def strptimeHour : List Char → Option ℤ
  | [a] => (digitValue a).map Int.ofNat
  | [a, b] => do
    let tens ← digitValue a
    let ones ← digitValue b
    if a = '0' ∨ a = '1' ∨ a = '2' ∧ ['0', '1', '2', '3'].contains b then
      some (tens * 10 + ones : ℕ)
    else none
  | _ => none

/-- The minute of `%H:%M`, to the end. -/
def strptimeMinute : List Char → Option ℤ
  | [a] => (digitValue a).map Int.ofNat
  | [a, b] => do
    let tens ← digitValue a
    let ones ← digitValue b
    if ['0', '1', '2', '3', '4', '5'].contains a then some (tens * 10 + ones : ℕ) else none
  | _ => none

/-- `datetime.strptime(text, "%H:%M").time()`. -/
def strptime (text : String) : Option ℤ :=
  match split ':' text.toList with
  | [hour, minute] => do clockTime (← strptimeHour hour) (← strptimeMinute minute)
  | _ => none

/-- `target[name]` as a time of day. -/
def targetTime (target : Option Json) (name : String) : Option ℤ :=
  match target with
  | some (.obj d) => match Dict.get d name with
    | some (.str text) => strptime text
    | _ => none
  | _ => none

/-- `target or []`. -/
def orEmpty : Option Json → Json
  | some j => if j.truthy then j else .arr []
  | none => .arr []

/-- The operators that do not look at the clock; what raises is false. -/
def compareField (val : Scalar) (target : Option Json) : String → Bool
  | "true" => val.truthy
  | "false" => !val.truthy
  | "eq" => val.eq (target.getD .null)
  | "ne" => !val.eq (target.getD .null)
  | "in" => (val.isIn (orEmpty target)).getD false
  | "not_in" => ((val.isIn (orEmpty target)).map (!·)).getD false
  | "gte" => (val.ge (target.getD .null)).getD false
  | "lte" => (val.le (target.getD .null)).getD false
  | _ => false

/-- `_match_condition`. A field that is a list or an object cannot be looked up. -/
def matchCondition (ctx : RuleContext) (cond : Dict) : Handler Bool :=
  match Dict.get cond "field" with
  | some (.str field) =>
    match ctx.field field, Dict.get cond "op" with
    | some _, some (.str "time_window") => do
      let now ← Prog.getTime
      return match targetTime (Dict.get cond "value") "from",
          targetTime (Dict.get cond "value") "to" with
        | some fromT, some toT => inWindow fromT toT (timeOfDay now)
        | _, _ => false
    | some val, some (.str op) => return compareField val (Dict.get cond "value") op
    | _, _ => return false
  | some (.arr _) | some (.obj _) => Prog.raise .typeError
  | _ => return false

/-- All conditions are looked at, also after one failed. -/
def matchConditions (ctx : RuleContext) : List Dict → Handler (List Bool)
  | [] => return []
  | cond :: rest => do
    let result ← matchCondition ctx cond
    let results ← matchConditions ctx rest
    return result :: results

/-! ## Actions -/

/-- What a rule changes. The message is kept as the value it is the text of. -/
structure Overrides where
  decision : Option Decision := none
  reason : Option Json := none
  warnings : List Warning := []
  message : Option Json := none
  requireDriverSelection : Bool := false
  notifyFieldOp : Bool := false
  issueReceipt : Bool := false
  requestPayment : Bool := false

/-- `act.get("params") or {}`; `none` where it has no `get`. -/
def actionParams (act : Dict) : Option Dict :=
  match Dict.get act "params" with
  | some (.obj d) => some d
  | some j => if j.truthy then none else some []
  | none => some []

/-- `p.get(name, default)`. -/
def param (p : Dict) (name : String) (default : Json) : Json := (Dict.get p name).getD default

/-- A decision and its reason, from the parameters of an action. -/
def Overrides.decide (o : Overrides) (act : Dict) (decision : Decision) (default : String) :
    Option Overrides :=
  (actionParams act).map fun p =>
    { o with decision := some decision, reason := some (param p "reason" (.str default)) }

/-- `_apply_action`; `none` is an exception. -/
def applyAction (act : Dict) (o : Overrides) : Option Overrides :=
  match Dict.get act "action" with
  | some (.str "show_message") =>
    (actionParams act).map fun p => { o with message := some (param p "text" (.str "")) }
  | some (.str "require_driver_selection") => some { o with requireDriverSelection := true }
  | some (.str "refer_to_guard") =>
    o.decide act .requireOperatorApproval "RULE_REFER_GUARD"
  | some (.str "deny") => o.decide act .deny "RULE_DENY"
  | some (.str "allow_with_warning") => o.decide act .allowWithWarning "RULE_ALLOW"
  | some (.str "notify_field_op") => some { o with notifyFieldOp := true }
  | some (.str "issue_receipt") => some { o with issueReceipt := true }
  | some (.str "request_payment") => some { o with requestPayment := true }
  | some (.arr _) | some (.obj _) => none
  | action => some { o with warnings := o.warnings ++ [.unknownAction (action.getD .null)] }

/-- `SOFTEN_PROTECTED_REASONS`. -/
def softenBlocked (reason : String) : Bool :=
  reason == "PLATE_RESTRICTED" || reason == "VEHICLE_INACTIVE"

/-- Whether a rule may not admit what the gate decided. -/
def neverAllow (decision : Decision) (reason : String) : Bool :=
  (decision == .deny || decision == .requireOperatorApproval) &&
    !(reason == "UNKNOWN_PLATE" || reason == "NO_ACTIVE_PERMIT")

/-- The name of an action, where it is a text. -/
def actionName (act : Dict) : Option String :=
  match Dict.get act "action" with
  | some (.str s) => some s
  | _ => none

/-- One action of a matching rule. -/
def ruleAction (decision : Decision) (reason : String) (act : Dict) (o : Overrides) :
    Option Overrides :=
  let blocked : Overrides := { o with warnings := o.warnings ++ [.text "RULE_SOFTEN_BLOCKED"] }
  let allow := actionName act = some "allow_with_warning"
  if softenBlocked reason ∧ (allow ∨ actionName act = some "refer_to_guard") then some blocked
  else if allow ∧ neverAllow decision reason then
    -- the override is made and taken back, and with it every earlier one
    (applyAction act o).map fun _ => { blocked with decision := none, reason := none }
  else applyAction act o

/-- The actions of a matching rule, in order. -/
def ruleActions (decision : Decision) (reason : String) : List Dict → Overrides → Option Overrides
  | [], o => some o
  | act :: rest, o => (ruleAction decision reason act o).bind (ruleActions decision reason rest)

/-! ## Rules -/

/-- What a rule that matched looked at. -/
structure RuleTrace where
  ruleId : ℕ
  ruleName : String
  conditionResults : List Bool
  deriving DecidableEq, Repr

/-- The rules of a direction, in the order they are tried. -/
def activeRules (direction : String) (s : Store) : List EntryExitRule :=
  orderBy EntryExitRule.priority (s.rules.filter fun r =>
    r.status == "ACTIVE" && r.enabled && (r.direction == direction || r.direction == "ANY"))

/-- Whether a rule's conditions match: all of them, or any. -/
def combineResults (r : EntryExitRule) (results : List Bool) : Bool :=
  if upperString (if r.conditionMode = "" then "ALL" else r.conditionMode) = "ALL" then
    results.all id
  else results.any id

/-- The first rule that matches. -/
def firstMatch (subject : RuleSubject) (ctx : RuleContext) (now : ℤ) :
    List EntryExitRule → Handler (Overrides × Option RuleTrace)
  | [] => return ({}, none)
  | r :: rest =>
    if r.effectiveFrom.any fun t => now < t then firstMatch subject ctx now rest
    else do
      let results ← matchConditions ctx r.conditions
      if !combineResults r results then firstMatch subject ctx now rest
      else match ruleActions subject.decision subject.reason r.actions {} with
        | some o => return (o, some { ruleId := r.id, ruleName := r.name
                                      conditionResults := results })
        | none => Prog.raise .typeError

/-- `apply_rules_for_event`. -/
def applyRulesForEvent (cfg : Config) (subject : RuleSubject) (now : ℤ) :
    Handler (Overrides × Option RuleTrace) := do
  let rules ← .select (activeRules subject.direction)
  if rules.isEmpty then return ({}, none)
  else do
    let ctx ← buildContext cfg subject
    firstMatch subject ctx now rules

/-! ## What the engine may do -/

/-- A decision a rule may end with, over the decision of the gate: a refusal or a referral
always, unless the reason is protected; an admission only where nothing was refused. -/
def RuleMay (decision : Decision) (reason : String) : Option Decision → Prop
  | none => True
  | some .deny => True
  | some .requireOperatorApproval => softenBlocked reason = false
  | some .allowWithWarning => softenBlocked reason = false ∧ neverAllow decision reason = false
  | some _ => False

theorem Overrides.decide_eq {o o' : Overrides} {act : Dict} {decision : Decision}
    {default : String} (h : o.decide act decision default = some o') :
    o'.decision = some decision := by
  obtain ⟨p, _, rfl⟩ := Option.map_eq_some_iff.1 h
  rfl

theorem applyAction_decision {act : Dict} {o o' : Overrides} (h : applyAction act o = some o') :
    o'.decision = o.decision ∨
      (actionName act = some "refer_to_guard" ∧ o'.decision = some .requireOperatorApproval) ∨
      o'.decision = some .deny ∨
      (actionName act = some "allow_with_warning" ∧ o'.decision = some .allowWithWarning) := by
  unfold applyAction at h
  unfold actionName
  split at h
  · obtain ⟨p, _, rfl⟩ := Option.map_eq_some_iff.1 h
    exact Or.inl rfl
  · cases h
    exact Or.inl rfl
  · rename_i hact
    exact Or.inr (Or.inl ⟨by rw [hact], Overrides.decide_eq h⟩)
  · exact Or.inr (Or.inr (Or.inl (Overrides.decide_eq h)))
  · rename_i hact
    exact Or.inr (Or.inr (Or.inr ⟨by rw [hact], Overrides.decide_eq h⟩))
  all_goals
    cases h
    try exact Or.inl rfl

theorem ruleAction_may {decision : Decision} {reason : String} {act : Dict} {o o' : Overrides}
    (ho : RuleMay decision reason o.decision) (h : ruleAction decision reason act o = some o') :
    RuleMay decision reason o'.decision := by
  unfold ruleAction at h
  dsimp only at h
  split at h
  · cases h
    exact ho
  · rename_i hsoft
    split at h
    · obtain ⟨_, _, rfl⟩ := Option.map_eq_some_iff.1 h
      trivial
    · rename_i hnever
      rcases applyAction_decision h with hd | ⟨hact, hd⟩ | hd | ⟨hact, hd⟩ <;> rw [hd]
      · exact ho
      · exact show softenBlocked reason = false by simpa [hact] using hsoft
      · trivial
      · exact ⟨by simpa [hact] using hsoft, by simpa [hact] using hnever⟩

/-- **The rules' limits**: whatever the actions of a rule are, they may do no more. -/
theorem ruleActions_may {decision : Decision} {reason : String} {acts : List Dict}
    {o o' : Overrides} (ho : RuleMay decision reason o.decision)
    (h : ruleActions decision reason acts o = some o') : RuleMay decision reason o'.decision := by
  induction acts generalizing o with
  | nil =>
    cases h
    exact ho
  | cons act rest ih =>
    obtain ⟨o₁, h₁, h₂⟩ := Option.bind_eq_some_iff.1 h
    exact ih (ruleAction_may ho h₁) h₂

theorem returns_firstMatch (subject : RuleSubject) (ctx : RuleContext) (now : ℤ)
    (rules : List EntryExitRule) : (firstMatch subject ctx now rules).Returns fun r =>
      RuleMay subject.decision subject.reason r.1.decision := by
  induction rules with
  | nil => trivial
  | cons r rest ih =>
    rw [firstMatch]
    split
    · exact ih
    · refine Prog.returns_bind fun results => ?_
      split
      · exact ih
      · split
        · rename_i o ho
          exact ruleActions_may (o := {}) trivial ho
        · trivial

theorem returns_applyRulesForEvent (cfg : Config) (subject : RuleSubject) (now : ℤ) :
    (applyRulesForEvent cfg subject now).Returns fun r =>
      RuleMay subject.decision subject.reason r.1.decision := by
  refine Prog.returns_bind fun rules => ?_
  split
  · trivial
  · exact Prog.returns_bind fun ctx => returns_firstMatch subject ctx now rules

/-! ## The engine only reads -/

theorem readOnly_contextYardFull (cfg : Config) : (contextYardFull cfg).ReadOnly := by
  unfold contextYardFull
  split
  · exact (Prog.writesOnly_select _).bind fun _ => trivial
  · trivial

theorem readOnly_hasDebt (plate : String) : (hasDebt plate).ReadOnly := by
  refine (Prog.writesOnly_select _).bind fun sessions => ?_
  split
  · trivial
  · exact (Prog.writesOnly_select _).bind fun _ => trivial

theorem readOnly_plateContext (plate : Option String) : (plateContext plate).ReadOnly := by
  cases plate with
  | none => trivial
  | some plate =>
    exact (Prog.writesOnly_select _).bind fun _ => (readOnly_hasDebt plate).bind fun _ =>
      (Prog.writesOnly_select _).bind fun _ => trivial

theorem readOnly_buildContext (cfg : Config) (subject : RuleSubject) :
    (buildContext cfg subject).ReadOnly :=
  (readOnly_contextYardFull cfg).bind fun _ => (Prog.writesOnly_select _).bind fun _ =>
    (readOnly_plateContext _).bind fun _ => trivial

theorem readOnly_matchCondition (ctx : RuleContext) (cond : Dict) :
    (matchCondition ctx cond).ReadOnly := by
  unfold matchCondition
  split
  · split
    · exact Prog.writesOnly_getTime.bind fun _ => trivial
    · trivial
    · trivial
  all_goals trivial

theorem readOnly_matchConditions (ctx : RuleContext) (conds : List Dict) :
    (matchConditions ctx conds).ReadOnly := by
  induction conds with
  | nil => trivial
  | cons cond rest ih =>
    exact (readOnly_matchCondition ctx cond).bind fun _ => ih.bind fun _ => trivial

theorem readOnly_firstMatch (subject : RuleSubject) (ctx : RuleContext) (now : ℤ)
    (rules : List EntryExitRule) : (firstMatch subject ctx now rules).ReadOnly := by
  induction rules with
  | nil => trivial
  | cons r rest ih =>
    rw [firstMatch]
    split
    · exact ih
    · refine (readOnly_matchConditions ctx r.conditions).bind fun results => ?_
      split
      · exact ih
      · split <;> trivial

theorem readOnly_applyRulesForEvent (cfg : Config) (subject : RuleSubject) (now : ℤ) :
    (applyRulesForEvent cfg subject now).ReadOnly := by
  refine (Prog.writesOnly_select _).bind fun rules => ?_
  split
  · trivial
  · exact (readOnly_buildContext cfg subject).bind fun ctx =>
      readOnly_firstMatch subject ctx now rules

end ParkingSystem
