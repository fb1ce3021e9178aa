import ParkingSystem.Gate.Process

/-!
# The Limits of the Rules over the Decision of the Gate

The rules of a direction run over the base decision of `process_plate_event`. Whatever their
conditions and actions are, a refusal or a referral of the base branch is not turned into an
admission, and a plate that is restricted or inactive stays refused.

## The two guards

`apply_rules_for_event` takes an `allow_with_warning` back over a refusal, except for two
reasons: UNKNOWN_PLATE and NO_ACTIVE_PERMIT. The base branch gives the first to nobody, and the
second only with the decision UNKNOWN_PLATE, so the exception is never made for a refusal.
-/

namespace ParkingSystem

open PyValue Table Transaction

/-! ## The pairs of the base branch -/

/-- What is used of the decision and the reason a base branch may end with. -/
structure BasePair (base : BaseDecision) : Prop where
  /-- No reason exempts a refusal from the guard of the rules. -/
  guarded : base.decision = .deny ∨ base.decision = .requireOperatorApproval →
    neverAllow base.decision base.reason = true
  /-- A protected reason comes with a refusal. -/
  refused : softenBlocked base.reason = true → base.decision = .deny

theorem basePair_noPermit {reason : String}
    (h : reason = "PERMIT_NOT_FOUND" ∨ reason = "PERMIT_INVALID_NOW") :
    BasePair (noPermit reason) := by
  rcases h with rfl | rfl
  · exact ⟨by simp [noPermit], by decide⟩
  · exact ⟨by decide, by decide⟩

theorem basePair_yardIsFull (p : AccessPermit) :
    BasePair (yardIsFull p "YARD_CAPACITY_FULL") := ⟨fun _ => rfl, fun h => by cases h⟩

theorem basePair_blockedExit (session : ParkingSession) (duration : ℤ) (preview : Amounts) :
    BasePair (blockedExit session duration preview) := ⟨fun _ => rfl, fun _ => rfl⟩

theorem basePair_closedExit (policy : String) (c : Closing) (status : PaymentStatus)
    (warnings : List Warning) : BasePair (closedExit policy c status warnings) :=
  ⟨by simp [closedExit], fun h => by cases h⟩

theorem basePair_alreadyOpen (p : AccessPermit) : BasePair (alreadyOpen p) :=
  ⟨by simp [alreadyOpen], fun h => by cases h⟩

theorem basePair_countedEntry (p : AccessPermit) : BasePair (countedEntry p) :=
  ⟨by simp [countedEntry], fun h => by cases h⟩

/-! ## Branch by branch -/

theorem returns_findActivePermit (plate gateId : String) (now : ℤ) :
    (findActivePermit plate gateId now).Returns fun permit => ∀ reason,
      permit = .error reason → reason = "PERMIT_NOT_FOUND" ∨ reason = "PERMIT_INVALID_NOW" := by
  refine Prog.returns_select fun s reason h => ?_
  unfold activePermit at h
  split at h
  · cases h
  · cases h
    split <;> simp

theorem returns_checkYardCapacity (cfg : Config) :
    (checkYardCapacity cfg).Returns fun full => ∀ reason,
      full = some reason → reason = "YARD_CAPACITY_FULL" := by
  refine Prog.returns_bind fun declared => ?_
  cases declared with
  | none => exact fun reason h => by cases h
  | some d =>
    refine Prog.returns_bind fun confirmed reason h => ?_
    simp only [yardCapacityDecision] at h
    split at h
    · cases h
    · split at h
      · exact (Option.some.inj h).symm
      · cases h

theorem returns_exitDecision (cfg : Config) (plate : String) (now : ℤ) :
    (exitDecision cfg plate now).Returns BasePair := by
  refine Prog.returns_bind fun session => ?_
  cases session with
  | none => exact ⟨by simp, fun h => by cases h⟩
  | some session =>
    refine Prog.returns_bind fun policy => Prog.returns_bind fun preview => ?_
    cases preview with
    | some amounts => exact basePair_blockedExit _ _ _
    | none =>
      -- the closing and the settlement decide the status and the warnings only
      exact Prog.returns_bind fun closing => Prog.returns_bind fun _ => basePair_closedExit _ _ _ _

theorem returns_entryDecision (cfg : Config) (plate gateId : String) (now : ℤ) :
    (entryDecision cfg plate gateId now).Returns BasePair := by
  refine (returns_findActivePermit plate gateId now).bind fun permit hpermit => ?_
  cases permit with
  | error reason => exact basePair_noPermit (hpermit reason rfl)
  | ok p =>
    refine Prog.returns_bind fun sessions => ?_
    split
    · exact basePair_alreadyOpen p
    · refine (returns_checkYardCapacity cfg).bind fun full hfull => ?_
      cases full with
      | some reason =>
        rw [hfull reason rfl]
        exact basePair_yardIsFull p
      | none => exact Prog.returns_bind fun _ => basePair_countedEntry p

/-- **The pairs of the base branch**, whatever the store answers. -/
theorem returns_baseDecision (cfg : Config) (direction gateId : String)
    (normalized : Option String) (vehicle : Option Vehicle) (now : ℤ) :
    (baseDecision cfg direction gateId normalized vehicle now).Returns BasePair := by
  unfold baseDecision
  split
  · exact ⟨by simp [unreadable], fun h => by cases h⟩
  · exact ⟨by simp [unregistered], fun h => by cases h⟩
  · split
    · exact ⟨fun _ => rfl, fun _ => rfl⟩
    · refine Prog.returns_bind fun restriction => ?_
      split
      · exact ⟨fun _ => rfl, fun _ => rfl⟩
      · split
        · exact returns_exitDecision cfg _ now
        · exact returns_entryDecision cfg _ gateId now

/-! ## The decision after the rules -/

/-- The first two layers: the base decision, and the decision after the rules. -/
def ruledDecision (cfg : Config) (e : PlateEvent) (r : Reading) :
    Handler (BaseDecision × Verdict) := do
  let base ← baseDecision cfg e.direction r.gate.id r.normalized r.vehicle r.now
  let now ← Prog.getTime
  let rules ← (applyRulesForEvent cfg (ruleSubject e r base) now).attempt
  return (base, Verdict.ofRules base rules.toOption)

/-- The decision of the gate is the decision after the rules, under the review lock. -/
theorem decideEvent_eq (cfg : Config) (e : PlateEvent) (r : Reading) :
    decideEvent cfg e r =
      (ruledDecision cfg e r).bind fun decided => .ret (decided.2.locked r.review) := by
  simp only [decideEvent, laterLayers, ruledDecision, Prog.bind_eq, Prog.pure_eq,
    Prog.bind_assoc, Prog.bind]

/-- Neither a refusal is lifted nor a protected one replaced. -/
structure RulesRespect (base : BaseDecision) (v : Verdict) : Prop where
  notAdmitted : base.decision = .deny ∨ base.decision = .requireOperatorApproval →
    v.decision ≠ .allow ∧ v.decision ≠ .allowWithWarning
  stillDenied : base.reason = "PLATE_RESTRICTED" ∨ base.reason = "VEHICLE_INACTIVE" →
    v.decision = .deny

/-- An engine that failed, and rules that decided nothing, leave the decision as it was. -/
theorem rulesRespect_unchanged {base : BaseDecision} {v : Verdict} (hbase : BasePair base)
    (hv : v.decision = base.decision) : RulesRespect base v := by
  refine ⟨fun hrefused => ?_, fun hreason => ?_⟩
  · rw [hv]
    rcases hrefused with h | h <;> simp [h]
  · rw [hv]
    exact hbase.refused (by simpa [softenBlocked] using hreason)

/-- What a rule may decide, it may decide over a pair of the base branch. -/
theorem rulesRespect_of_may {base : BaseDecision} {v : Verdict} (hbase : BasePair base)
    (hmay : RuleMay base.decision base.reason (some v.decision)) : RulesRespect base v := by
  cases hv : v.decision with
  | deny => exact ⟨fun _ => by simp [hv], fun _ => hv⟩
  | requireOperatorApproval =>
    have hsoft : softenBlocked base.reason = false := by simpa [hv, RuleMay] using hmay
    refine ⟨fun _ => by simp [hv], fun hreason => ?_⟩
    -- a protected reason would have blocked the referral
    simp [softenBlocked] at hsoft
    exact absurd hreason (by simpa using hsoft)
  | allowWithWarning =>
    have hsoft : softenBlocked base.reason = false ∧
        neverAllow base.decision base.reason = false := by simpa [hv, RuleMay] using hmay
    refine ⟨fun hrefused => ?_, fun hreason => ?_⟩
    · have := hbase.guarded hrefused
      rw [hsoft.2] at this
      cases this
    · have := hsoft.1
      simp [softenBlocked] at this
      exact absurd hreason (by simpa using this)
  | _ => simp [hv, RuleMay] at hmay

theorem rulesRespect_ofRules {base : BaseDecision} (hbase : BasePair base)
    {found : Option (Overrides × Option RuleTrace)}
    (hmay : ∀ o trace, found = some (o, trace) →
      RuleMay base.decision base.reason o.decision) :
    RulesRespect base (Verdict.ofRules base found) := by
  cases found with
  | none => exact rulesRespect_unchanged hbase rfl
  | some found =>
    obtain ⟨o, trace⟩ := found
    have ho := hmay o trace rfl
    cases hd : o.decision with
    | none => exact rulesRespect_unchanged hbase (by simp [Verdict.ofRules, hd])
    | some d =>
      refine rulesRespect_of_may hbase ?_
      simpa [Verdict.ofRules, hd] using ho

/-- **Rules only tighten**: for every event, every reading and whatever the store answers, what
the base branch refused or referred is not admitted by the rules, and a restricted or inactive
plate stays refused. -/
theorem ruledDecision_respects (cfg : Config) (e : PlateEvent) (r : Reading) :
    (ruledDecision cfg e r).Returns fun decided => RulesRespect decided.1 decided.2 := by
  refine (returns_baseDecision cfg e.direction r.gate.id r.normalized r.vehicle r.now).bind
    fun base hbase => Prog.returns_bind fun now => ?_
  refine (returns_applyRulesForEvent cfg (ruleSubject e r base) now).attempt.bind
    fun rules hrules => rulesRespect_ofRules hbase fun o trace hfound => ?_
  cases rules with
  | error exc => cases hfound
  | ok found =>
    obtain rfl : found = (o, trace) := by simpa [Except.toOption] using hfound
    exact hrules _ rfl

end ParkingSystem
