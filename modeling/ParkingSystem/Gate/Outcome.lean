import ParkingSystem.Gate.Statements

/-!
# What an Event Comes To

`process_plate_event` alone on a store, turned inside out: from a run that returned, which
branch of the first layer was taken, what the later layers made of it, and what was recorded
or not. Every property of one event is read off this account instead of the program.
-/

namespace ParkingSystem

open Plate PyValue Table Transaction

/-! ## Reading -/

/-- The plate of an event. -/
def PlateEvent.plate (cfg : Config) (e : PlateEvent) : Option String :=
  normalizePlate cfg.plateLetterMapping e.plateRaw

/-- How the capture of an event is judged on a store. -/
def PlateEvent.envelope (cfg : Config) (e : PlateEvent) (s : Store) : EnvelopeResult :=
  captureResult cfg e.captureQuality e.confidence (e.plate cfg) s

/-- Whether the reading of an event needs review, on a store. -/
def PlateEvent.review (cfg : Config) (e : PlateEvent) (s : Store) : ReviewStatus :=
  captureReview cfg e.captureQuality e.confidence (e.plate cfg) s

/-- The vehicle of an event on a store. -/
def PlateEvent.vehicle (cfg : Config) (e : PlateEvent) (s : Store) : Option Vehicle :=
  (e.plate cfg).bind fun plate => vehicleOf plate s

/-- The recognition an event is stored as. -/
def PlateEvent.recognition (cfg : Config) (e : PlateEvent) (gate : Gate) (now : ℤ) (s : Store)
    (id : ℕ) : PlateRecognitionEvent :=
  { id, gateId := gate.id, deviceId := e.deviceId, direction := e.direction
    plateRaw := e.plateRaw, plateNormalized := e.plate cfg, confidence := e.confidence
    capturedAt := e.capturedAt.getD now, receivedAt := now
    sourceEventId := e.sourceEventId, rawPayload := e.rawPayload
    reviewStatus := e.review cfg s, captureQuality := e.captureQuality
    envelopeOk := (e.envelope cfg s).ok, processingMs := e.processingMs }

/-- What is known of an event on a store when the decision is made. -/
def PlateEvent.reading (cfg : Config) (e : PlateEvent) (gate : Gate) (now : ℤ) (s : Store)
    (recognitionId : Option ℕ) : Reading :=
  { now, gate, normalized := e.plate cfg, envelope := e.envelope cfg s
    review := e.review cfg s, recognitionId, vehicle := e.vehicle cfg s }

/-- The identifier of the recognition, where one is stored. -/
def PlateEvent.recognitionId (e : PlateEvent) (w : Session Store) : Option ℕ :=
  if e.dryRun then none else some w.nextId

/-- The session once the plate was read. -/
def PlateEvent.afterReading (cfg : Config) (e : PlateEvent) (gate : Gate) (now : ℤ)
    (w : Session Store) : Session Store :=
  if e.dryRun then w
  else { w with
    view := (insertRecognition (e.recognition cfg gate now w.view w.nextId)).apply w.view
    nextId := w.nextId + 1 }

section

variable {cfg : Config} {e : PlateEvent} {gate : Gate} {now : ℤ} {clk : ℕ → ℤ}

@[simp] theorem afterReading_committed (w : Session Store) :
    (e.afterReading cfg gate now w).committed = w.committed := by
  unfold PlateEvent.afterReading
  split <;> rfl

@[simp] theorem afterReading_broken (w : Session Store) :
    (e.afterReading cfg gate now w).broken = w.broken := by
  unfold PlateEvent.afterReading
  split <;> rfl

theorem afterReading_view_wet (hwet : e.dryRun = false) (w : Session Store) :
    (e.afterReading cfg gate now w).view =
      (insertRecognition (e.recognition cfg gate now w.view w.nextId)).apply w.view := by
  simp [PlateEvent.afterReading, hwet]

/-- Reading a plate adds a recognition to the view, or nothing. -/
theorem afterReading_view (cfg : Config) (e : PlateEvent) (gate : Gate) (now : ℤ)
    (w : Session Store) :
    ∃ rs, (e.afterReading cfg gate now w).view = { w.view with recognitions := rs } := by
  unfold PlateEvent.afterReading
  split
  · exact ⟨w.view.recognitions, rfl⟩
  · exact ⟨_, rfl⟩

theorem exec_storeRecognition {w : Session Store} (hw : w.broken = false)
    (hcheck : e.dryRun = false →
      (insertRecognition (e.recognition cfg gate now w.view w.nextId)).check w.view = none) :
    (storeRecognition e gate (e.plate cfg) now (e.envelope cfg w.view)
      (e.review cfg w.view)).exec clk w =
      (.ok (e.recognitionId w), e.afterReading cfg gate now w) := by
  unfold storeRecognition PlateEvent.recognitionId PlateEvent.afterReading
  split
  · rfl
  · rename_i hwet
    have hw' : ({ w with nextId := w.nextId + 1 } : Session Store).broken = false := hw
    refine (Prog.exec_bind_of_ok (Prog.exec_newId clk w)).trans ?_
    exact (Prog.exec_bind_of_ok (Prog.exec_flush_done clk _ hw'
      (hcheck (by simpa using hwet)))).trans rfl

theorem exec_vehicleByPlate {w : Session Store} (hw : w.broken = false) (plate : Option String) :
    (vehicleByPlate plate).exec clk w =
      (.ok (plate.bind fun p => vehicleOf p w.view), w) := by
  cases plate with
  | none => rfl
  | some p => exact Prog.exec_select clk _ hw

/-- **Reading a plate**, where the recognition is accepted. -/
theorem exec_readPlate {w : Session Store} (hw : w.broken = false)
    (hcheck : e.dryRun = false →
      (insertRecognition (e.recognition cfg gate now w.view w.nextId)).check w.view = none) :
    (readPlate cfg e gate now).exec clk w =
      (.ok (e.reading cfg gate now w.view (e.recognitionId w)),
        e.afterReading cfg gate now w) := by
  refine (Prog.exec_bind_of_ok (reads_evaluateCapture cfg _ _ _ clk w hw)).trans ?_
  refine (Prog.exec_bind_of_ok (exec_storeRecognition hw hcheck)).trans ?_
  have hw' : (e.afterReading cfg gate now w).broken = false := by simpa using hw
  refine (Prog.exec_bind_of_ok (exec_vehicleByPlate hw' _)).trans ?_
  obtain ⟨rs, hview⟩ := afterReading_view cfg e gate now w
  rw [hview]
  rfl

/-- A reading that returned is the reading on the view, and its recognition was accepted. -/
theorem exec_readPlate_ok {w w' : Session Store} {r : Reading} (hw : w.broken = false)
    (h : (readPlate cfg e gate now).exec clk w = (.ok r, w')) :
    r = e.reading cfg gate now w.view (e.recognitionId w) ∧
      w' = e.afterReading cfg gate now w ∧ (e.dryRun = false →
        (insertRecognition (e.recognition cfg gate now w.view w.nextId)).check w.view = none) := by
  have hcheck : e.dryRun = false →
      (insertRecognition (e.recognition cfg gate now w.view w.nextId)).check w.view = none := by
    intro hwet
    have hpeel := h
    rw [readPlate, Prog.bind_eq,
      Prog.exec_bind_of_ok (reads_evaluateCapture cfg _ _ _ clk w hw)] at hpeel
    obtain ⟨id, w₁, hstore, _⟩ := Prog.exec_bind_ok hpeel
    rw [storeRecognition, if_neg (by simp [hwet]), Prog.bind_eq,
      Prog.exec_bind_of_ok (Prog.exec_newId clk w)] at hstore
    obtain ⟨_, w₂, hflush, _⟩ := Prog.exec_bind_ok hstore
    exact (Prog.exec_flush_ok hflush).2.1
  rw [exec_readPlate hw hcheck] at h
  obtain ⟨h₁, h₂⟩ := Prod.mk.inj h
  exact ⟨(Except.ok.inj h₁).symm, h₂.symm, hcheck⟩

end

/-! ## The branches of the first layer -/

/-- What the first layer comes to: an answer that changes nothing, an exit that closes its
session, or an entry that is counted on its permit. -/
inductive BaseCase where
  | fixed (d : BaseDecision)
  | exitCloses (policy : String) (session : ParkingSession)
  | entryCounts (p : AccessPermit)

/-- Whether the policy refuses an exit that has to be paid. -/
def exitBlocked (cfg : Config) (session : ParkingSession) (now : ℤ) (s : Store) : Bool :=
  exitPolicy cfg s == "DENY" && decide (0 < (stayAmounts cfg session now s).final)

/-- The exit branch on a store. -/
def exitCase (cfg : Config) (plate : String) (now : ℤ) (s : Store) : BaseCase :=
  match latestOpenSession plate s with
  | none => .fixed { decision := .allowWithWarning, reason := "NO_OPEN_SESSION_FOR_EXIT"
                     warnings := [.text "NO_OPEN_SESSION_FOR_EXIT"] }
  | some session =>
    if exitBlocked cfg session now s then
      .fixed (blockedExit session (secondsBetween session.entryAt now)
        (stayAmounts cfg session now s))
    else .exitCloses (exitPolicy cfg s) session

/-- The entry branch on a store. -/
def entryCase (cfg : Config) (plate gateId : String) (now : ℤ) (s : Store) : BaseCase :=
  match activePermit plate gateId now s with
  | .error reason => .fixed (noPermit reason)
  | .ok p =>
    if !(openSessions plate s).isEmpty then .fixed (alreadyOpen p)
    else match yardFull cfg s with
      | some reason => .fixed (yardIsFull p reason)
      | none => .entryCounts p

/-- The first layer on a store. -/
def baseCase (cfg : Config) (direction gateId : String) (normalized : Option String)
    (vehicle : Option Vehicle) (now : ℤ) (s : Store) : BaseCase :=
  match normalized, vehicle with
  | none, _ => .fixed unreadable
  | some _, none => .fixed unregistered
  | some plate, some v =>
    if !v.isActive then .fixed inactive
    else if (activeRestriction plate now s).isSome then .fixed restricted
    else if direction = "OUT" then exitCase cfg plate now s
    else entryCase cfg plate gateId now s

/-- The part of the first layer that is left once its branch is known. -/
def BaseCase.run (cfg : Config) (now : ℤ) : BaseCase → Handler BaseDecision
  | .fixed d => return d
  | .exitCloses policy session =>
    closeExit cfg policy session (secondsBetween session.entryAt now) now
  | .entryCounts p => do
    Prog.flush (updatePermit p)
    return countedEntry p

/-- Whether a branch changes the store. -/
def BaseCase.changes : BaseCase → Bool
  | .fixed _ => false
  | .exitCloses _ _ | .entryCounts _ => true

/-- The decision of a branch. -/
def BaseCase.decision : BaseCase → Decision
  | .fixed d => d.decision
  | .exitCloses _ _ | .entryCounts _ => .allow

section

variable {cfg : Config} {clk : ℕ → ℤ} {w : Session Store}

theorem exec_exitPreview (hw : w.broken = false) (session : ParkingSession) (now : ℤ) :
    (exitPreview cfg (exitPolicy cfg w.view) session
      (secondsBetween session.entryAt now) now).exec clk w =
      (.ok (if exitBlocked cfg session now w.view then some (stayAmounts cfg session now w.view)
        else none), w) := by
  unfold exitPreview exitBlocked
  by_cases hpolicy : exitPolicy cfg w.view = "DENY"
  · rw [if_pos hpolicy]
    refine (Prog.exec_bind_of_ok (Prog.exec_select clk _ hw)).trans ?_
    refine (Prog.exec_bind_of_ok (reads_resolveTariffPolicy cfg clk w hw)).trans ?_
    simp only [hpolicy, beq_self_eq_true, Bool.true_and, decide_eq_true_eq]
    rfl
  · rw [if_neg hpolicy]
    simp [hpolicy]

theorem exec_exitDecision (hw : w.broken = false) (plate : String) (now : ℤ) :
    (exitDecision cfg plate now).exec clk w =
      ((exitCase cfg plate now w.view).run cfg now).exec clk w := by
  refine (Prog.exec_bind_of_ok (Prog.exec_select clk _ hw)).trans ?_
  unfold exitCase
  cases latestOpenSession plate w.view with
  | none => rfl
  | some session =>
    refine (Prog.exec_bind_of_ok (reads_resolveExitPolicy cfg clk w hw)).trans ?_
    refine (Prog.exec_bind_of_ok (exec_exitPreview hw session now)).trans ?_
    cases hblocked : exitBlocked cfg session now w.view with
    | true => simp [hblocked, BaseCase.run]
    | false => simp [hblocked, BaseCase.run]

theorem exec_entryDecision (hw : w.broken = false) (plate gateId : String) (now : ℤ) :
    (entryDecision cfg plate gateId now).exec clk w =
      ((entryCase cfg plate gateId now w.view).run cfg now).exec clk w := by
  refine (Prog.exec_bind_of_ok (Prog.exec_select clk _ hw)).trans ?_
  unfold entryCase
  cases activePermit plate gateId now w.view with
  | error reason => rfl
  | ok p =>
    refine (Prog.exec_bind_of_ok (Prog.exec_select clk _ hw)).trans ?_
    cases hopen : (openSessions plate w.view).isEmpty with
    | false => rfl
    | true =>
      refine (Prog.exec_bind_of_ok (reads_checkYardCapacity cfg clk w hw)).trans ?_
      cases hfull : yardFull cfg w.view with
      | some reason => simp [BaseCase.run]
      | none => simp [BaseCase.run]

/-- **The first layer** is the branch that the view selects. -/
theorem exec_baseDecision (hw : w.broken = false) (direction gateId : String)
    (normalized : Option String) (vehicle : Option Vehicle) (now : ℤ) :
    (baseDecision cfg direction gateId normalized vehicle now).exec clk w =
      ((baseCase cfg direction gateId normalized vehicle now w.view).run cfg now).exec clk w := by
  unfold baseDecision baseCase
  split
  · rfl
  · rfl
  · rename_i plate v
    cases hactive : v.isActive with
    | false => simp [hactive, BaseCase.run]
    | true =>
      simp only [hactive, Bool.not_true, Bool.false_eq_true, if_false]
      refine (Prog.exec_bind_of_ok (Prog.exec_select clk _ hw)).trans ?_
      cases hrestricted : (activeRestriction plate now w.view).isSome with
      | true => simp [BaseCase.run]
      | false =>
        by_cases hout : direction = "OUT"
        · simpa [hout] using exec_exitDecision hw plate now
        · simpa [hout] using exec_entryDecision hw plate gateId now

/-- When an exit closes a session. -/
theorem exitCase_closes {plate : String} {now : ℤ} {s : Store} {policy : String}
    {session : ParkingSession} (h : exitCase cfg plate now s = .exitCloses policy session) :
    latestOpenSession plate s = some session ∧ exitBlocked cfg session now s = false ∧
      policy = exitPolicy cfg s := by
  unfold exitCase at h
  split at h
  · cases h
  · rename_i found hfound
    split at h
    · cases h
    · rename_i hblocked
      cases h
      exact ⟨hfound, by simpa using hblocked, rfl⟩

/-- When an entry is counted. -/
theorem entryCase_counts {plate gateId : String} {now : ℤ} {s : Store} {p : AccessPermit}
    (h : entryCase cfg plate gateId now s = .entryCounts p) :
    activePermit plate gateId now s = .ok p ∧ openSessions plate s = [] ∧
      yardFull cfg s = none := by
  unfold entryCase at h
  split at h
  · cases h
  · rename_i q hq
    split at h
    · cases h
    · rename_i hopen
      split at h
      · cases h
      · cases h
        exact ⟨hq, by simpa using hopen, by assumption⟩

theorem entryCase_ne_closes {plate gateId : String} {now : ℤ} {s : Store} {policy : String}
    {session : ParkingSession} :
    entryCase cfg plate gateId now s ≠ .exitCloses policy session := by
  intro h
  unfold entryCase at h
  split at h
  · cases h
  · split at h
    · cases h
    · split at h <;> cases h

theorem exitCase_ne_counts {plate : String} {now : ℤ} {s : Store} {p : AccessPermit} :
    exitCase cfg plate now s ≠ .entryCounts p := by
  intro h
  unfold exitCase at h
  split at h
  · cases h
  · split at h <;> cases h

/-- The first layer gets to the exit or the entry branch with a readable plate of an active
vehicle that is not restricted. -/
structure Cleared (normalized : Option String) (vehicle : Option Vehicle) (now : ℤ) (s : Store)
    (plate : String) (v : Vehicle) : Prop where
  readable : normalized = some plate
  registered : vehicle = some v
  active : v.isActive = true
  unrestricted : activeRestriction plate now s = none

/-- The first layer, once the plate is cleared. -/
theorem baseCase_cleared {normalized : Option String} {vehicle : Option Vehicle} {now : ℤ}
    {s : Store} {plate : String} {v : Vehicle} (h : Cleared normalized vehicle now s plate v)
    (direction gateId : String) :
    baseCase cfg direction gateId normalized vehicle now s =
      if direction = "OUT" then exitCase cfg plate now s
      else entryCase cfg plate gateId now s := by
  obtain ⟨rfl, rfl, hactive, hrestriction⟩ := h
  simp [baseCase, hactive, hrestriction]

/-- A branch that changes the store is one of a cleared plate. -/
theorem baseCase_changes {direction gateId : String} {normalized : Option String}
    {vehicle : Option Vehicle} {now : ℤ} {s : Store}
    (h : (baseCase cfg direction gateId normalized vehicle now s).changes = true) :
    ∃ plate v, Cleared normalized vehicle now s plate v := by
  unfold baseCase at h
  split at h
  · cases h
  · cases h
  · rename_i plate v
    refine ⟨plate, v, ?_⟩
    split_ifs at h with hactive hrestriction
    · cases h
    · cases h
    all_goals exact ⟨rfl, rfl, by simpa using hactive, by simpa using hrestriction⟩

/-- The first layer closes a session: that of the plate, at an exit. -/
theorem baseCase_closes {direction gateId : String} {normalized : Option String}
    {vehicle : Option Vehicle} {now : ℤ} {s : Store} {policy : String}
    {session : ParkingSession}
    (h : baseCase cfg direction gateId normalized vehicle now s = .exitCloses policy session) :
    ∃ plate v, Cleared normalized vehicle now s plate v ∧ direction = "OUT" ∧
      latestOpenSession plate s = some session := by
  have hchanges : (baseCase cfg direction gateId normalized vehicle now s).changes = true := by
    rw [h]
    rfl
  obtain ⟨plate, v, hcleared⟩ := baseCase_changes hchanges
  rw [baseCase_cleared hcleared] at h
  split at h
  · exact ⟨plate, v, hcleared, by assumption, (exitCase_closes h).1⟩
  · exact absurd h entryCase_ne_closes

/-- The first layer counts an entry: on a permit of the plate, which has no OPEN session, with
room in the yard. -/
theorem baseCase_counts {direction gateId : String} {normalized : Option String}
    {vehicle : Option Vehicle} {now : ℤ} {s : Store} {p : AccessPermit}
    (h : baseCase cfg direction gateId normalized vehicle now s = .entryCounts p) :
    ∃ plate v, Cleared normalized vehicle now s plate v ∧ direction ≠ "OUT" ∧
      activePermit plate gateId now s = .ok p ∧ openSessions plate s = [] ∧
      yardFull cfg s = none := by
  have hchanges : (baseCase cfg direction gateId normalized vehicle now s).changes = true := by
    rw [h]
    rfl
  obtain ⟨plate, v, hcleared⟩ := baseCase_changes hchanges
  rw [baseCase_cleared hcleared] at h
  split at h
  · exact absurd h exitCase_ne_counts
  · exact ⟨plate, v, hcleared, by assumption, entryCase_counts h⟩

/-- The first layer never answers what only an agent decides. -/
theorem baseCase_decision (direction gateId : String) (normalized : Option String)
    (vehicle : Option Vehicle) (now : ℤ) (s : Store) :
    (baseCase cfg direction gateId normalized vehicle now s).decision ≠ .offlineAllow := by
  have hexit (plate : String) : (exitCase cfg plate now s).decision ≠ .offlineAllow := by
    unfold exitCase
    split
    · simp [BaseCase.decision]
    · split_ifs <;> simp [BaseCase.decision, blockedExit]
  have hentry (plate : String) : (entryCase cfg plate gateId now s).decision ≠ .offlineAllow := by
    unfold entryCase
    split
    · unfold noPermit
      split_ifs <;> simp [BaseCase.decision]
    · split_ifs
      · simp [BaseCase.decision, alreadyOpen]
      · split <;> simp [BaseCase.decision, yardIsFull]
  unfold baseCase
  split
  · simp [BaseCase.decision, unreadable]
  · simp [BaseCase.decision, unregistered]
  · split_ifs
    · simp [BaseCase.decision, inactive]
    · simp [BaseCase.decision, restricted]
    · exact hexit _
    · exact hentry _

/-- A recognition makes no difference to the branch. -/
theorem baseCase_recognitions (direction gateId : String) (normalized : Option String)
    (vehicle : Option Vehicle) (now : ℤ) (s : Store) (rs : List PlateRecognitionEvent) :
    baseCase cfg direction gateId normalized vehicle now { s with recognitions := rs } =
      baseCase cfg direction gateId normalized vehicle now s := rfl

end

/-! ## The later layers -/

/-- What the rules come to in a session, `none` where the engine fails. -/
def rulesOn (cfg : Config) (e : PlateEvent) (clk : ℕ → ℤ) (r : Reading) (base : BaseDecision)
    (w : Session Store) : Option (Overrides × Option RuleTrace) :=
  ((applyRulesForEvent cfg (ruleSubject e r base) (clk w.tick)).exec clk
    { w with tick := w.tick + 1 }).1.toOption

/-- The verdict over a base decision in a session. -/
def verdictOn (cfg : Config) (e : PlateEvent) (clk : ℕ → ℤ) (r : Reading) (base : BaseDecision)
    (w : Session Store) : Verdict := (Verdict.ofRules base (rulesOn cfg e clk r base w)).locked r.review

section

variable {cfg : Config} {e : PlateEvent} {clk : ℕ → ℤ} {r : Reading} {base : BaseDecision}

/-- The later layers return the verdict and leave the transaction as it was. -/
theorem exec_laterLayers (cfg : Config) (e : PlateEvent) (clk : ℕ → ℤ) (r : Reading)
    (base : BaseDecision) (w : Session Store) :
    ∃ w', (laterLayers cfg e r base).exec clk w = (.ok (verdictOn cfg e clk r base w), w') ∧
      w'.committed = w.committed ∧ w'.view = w.view ∧ w'.broken = w.broken := by
  refine ⟨_, ?_, Prog.WritesOnly.exec_readOnly clk
    (readOnly_applyRulesForEvent cfg (ruleSubject e r base) (clk w.tick))
    { w with tick := w.tick + 1 }⟩
  refine (Prog.exec_bind_of_ok (Prog.exec_getTime clk w)).trans ?_
  exact (Prog.exec_bind_of_ok (Prog.exec_attempt clk _ _)).trans rfl

/-- What the rules come to keeps within their limits. -/
theorem rulesOn_may {w : Session Store} {o : Overrides} {trace : Option RuleTrace}
    (h : rulesOn cfg e clk r base w = some (o, trace)) :
    RuleMay base.decision base.reason o.decision := by
  unfold rulesOn at h
  rcases hexec : (applyRulesForEvent cfg (ruleSubject e r base) (clk w.tick)).exec clk
    { w with tick := w.tick + 1 } with ⟨exc | found, w'⟩
  · simp [hexec, Except.toOption] at h
  · obtain rfl : found = (o, trace) := by simpa [hexec, Except.toOption] using h
    exact (returns_applyRulesForEvent cfg _ _).exec_ok hexec

@[simp] theorem Verdict.locked_permit (review : ReviewStatus) (v : Verdict) :
    (v.locked review).permit = v.permit := by
  unfold Verdict.locked
  split <;> rfl

@[simp] theorem Verdict.locked_createNewSession (review : ReviewStatus) (v : Verdict) :
    (v.locked review).createNewSession = v.createNewSession := by
  unfold Verdict.locked
  split <;> rfl

theorem Verdict.locked_allowed (review : ReviewStatus) (v : Verdict) :
    (v.locked review).decision.allowed = true ↔
      review ≠ .needsReview ∧ v.decision.allowed = true := by
  unfold Verdict.locked
  split
  · rename_i hlock
    simp [hlock.1, Decision.allowed]
  · rename_i hlock
    rw [not_and] at hlock
    exact ⟨fun hv => ⟨fun hreview => hlock hreview hv, hv⟩, And.right⟩

@[simp] theorem verdictOn_permit (w : Session Store) :
    (verdictOn cfg e clk r base w).permit = base.permit := by
  unfold verdictOn
  cases rulesOn cfg e clk r base w <;> simp [Verdict.ofRules]

@[simp] theorem verdictOn_createNewSession (w : Session Store) :
    (verdictOn cfg e clk r base w).createNewSession = base.createNewSession := by
  unfold verdictOn
  cases rulesOn cfg e clk r base w <;> simp [Verdict.ofRules]

/-- The decision of the rules, where they made one. -/
def ruleDecision (cfg : Config) (e : PlateEvent) (clk : ℕ → ℤ) (r : Reading)
    (base : BaseDecision) (w : Session Store) : Option Decision :=
  (rulesOn cfg e clk r base w).bind fun found => found.1.decision

theorem ruleDecision_may (cfg : Config) (e : PlateEvent) (clk : ℕ → ℤ) (r : Reading)
    (base : BaseDecision) (w : Session Store) :
    RuleMay base.decision base.reason (ruleDecision cfg e clk r base w) := by
  unfold ruleDecision
  cases h : rulesOn cfg e clk r base w with
  | none => trivial
  | some found => exact rulesOn_may h

/-- **Who may pass**: the reading needs no review, and the rules admit the plate, or leave the
decision alone and it is an admission. -/
theorem verdictOn_allowed (w : Session Store) :
    (verdictOn cfg e clk r base w).decision.allowed = true ↔
      r.review ≠ .needsReview ∧
        ((ruleDecision cfg e clk r base w).getD base.decision).allowed = true := by
  rw [verdictOn, Verdict.locked_allowed, ruleDecision]
  cases rulesOn cfg e clk r base w <;> rfl

/-- Nothing but the two admissions opens the barrier at the gate. -/
theorem verdictOn_opened (hbase : base.decision ≠ .offlineAllow) (w : Session Store) :
    barrierActionFor (verdictOn cfg e clk r base w).decision = .opened ↔
      (verdictOn cfg e clk r base w).decision.allowed = true := by
  have hnot : (verdictOn cfg e clk r base w).decision ≠ .offlineAllow := by
    intro h
    have hmay := ruleDecision_may cfg e clk r base w
    unfold verdictOn Verdict.locked at h
    split at h
    · cases h
    · unfold ruleDecision at hmay
      cases hrules : rulesOn cfg e clk r base w with
      | none => exact hbase (by simpa [hrules, Verdict.ofRules] using h)
      | some found =>
        obtain ⟨o, trace⟩ := found
        simp only [hrules, Verdict.ofRules, Option.bind_some] at h hmay
        cases ho : o.decision with
        | none => exact hbase (by simpa [ho] using h)
        | some d =>
          obtain rfl : d = .offlineAllow := by simpa [ho] using h
          simp [ho, RuleMay] at hmay
  cases hd : (verdictOn cfg e clk r base w).decision with
  | offlineAllow => exact absurd hd hnot
  | _ => simp [barrierActionFor, Decision.allowed]

end

/-! ## What recording leaves -/

/-- The occupancy of an entry. -/
def entryOccupancy (e : PlateEvent) (r : Reading) (eventId id : ℕ)
    (space : Option ParkingSpace) : ParkingOccupancy :=
  { id, parkingSpaceId := space.map ParkingSpace.id, vehicleId := r.vehicle.map Vehicle.id
    accessEventId := some eventId, occupiedAt := e.capturedAt.getD r.now
    source := if e.offlineCreated then "OFFLINE_SYNC" else "GATE" }

/-- Whether an entry takes a space. -/
def ParkingSpace.isFree (sp : ParkingSpace) : Bool :=
  (if sp.status = "" then "FREE" else sp.status) == "FREE"

/-- The assigned space, taken if it is free. -/
def spaceTaken (space : Option ParkingSpace) (s : Store) : Store :=
  match space with
  | none => s
  | some sp => if sp.isFree then (updateSpace sp.id "OCCUPIED").apply s else s

/-- The space assigned to the vehicle of a reading. -/
def Reading.space (r : Reading) (s : Store) : Option ParkingSpace :=
  r.vehicle.bind fun v => assignedSpace v s

/-- The store once a session and an occupancy were opened. -/
def entryStore (e : PlateEvent) (r : Reading) (eventId sessionId occupancyId : ℕ) (s : Store) :
    Store :=
  spaceTaken (r.space s)
    ((insertOccupancy (entryOccupancy e r eventId occupancyId (r.space s))).apply
      ((insertSession (entrySession e r eventId sessionId)).apply s))

/-- Whether an event opens a session. -/
def opensSession (e : PlateEvent) (v : Verdict) : Prop :=
  e.direction = "IN" ∧ v.decision.allowed = true ∧ v.createNewSession = true

instance (e : PlateEvent) (v : Verdict) : Decidable (opensSession e v) :=
  inferInstanceAs (Decidable (_ ∧ _ ∧ _))

/-- Whether an event releases an occupancy. -/
def releases (e : PlateEvent) (v : Verdict) : Prop :=
  e.direction = "OUT" ∧ v.decision.allowed = true

instance (e : PlateEvent) (v : Verdict) : Decidable (releases e v) :=
  inferInstanceAs (Decidable (_ ∧ _))

/-- The store once a space was freed. -/
def spaceFreed (id : Option ℕ) (s : Store) : Store :=
  match id with
  | none => s
  | some id => if (spaceById id s).isSome then (updateSpace id "FREE").apply s else s

/-- The store once the vehicle's latest occupancy was released. -/
def exitStore (r : Reading) (s : Store) : Store :=
  match r.vehicle.bind fun v => latestOccupancy v.id s with
  | none => s
  | some o => spaceFreed o.parkingSpaceId ((vacate o.id r.now).apply s)

/-- The store once an event was recorded under the next identifiers. -/
def recordedStore (e : PlateEvent) (r : Reading) (v : Verdict) (n : ℕ) (s : Store) : Store :=
  let s := (insertEvent (eventRow e r v n)).apply s
  if opensSession e v then entryStore e r n (n + 1) (n + 2) s
  else if releases e v then exitStore r s
  else s

section

variable {cfg : Config} {e : PlateEvent} {clk : ℕ → ℤ} {r : Reading} {v : Verdict}

theorem exec_takeSpace (clk : ℕ → ℤ) {w : Session Store} (hw : w.broken = false) (sp : ParkingSpace) :
    (takeSpace sp).exec clk w = (.error (.app .noResultFound), w) ∨
      ∃ out, (takeSpace sp).exec clk w =
        (.ok out, { w with view := spaceTaken (some sp) w.view }) := by
  have hlock := Prog.exec_flush_done (ε := AppError) clk (lockSpace sp.id) hw rfl
  have hrow := Prog.exec_select (κ := Lock) (τ := Label) (ε := AppError) clk (spaceById sp.id) hw
  have hstart : (takeSpace sp).exec clk w = _ :=
    (Prog.exec_bind_of_ok hlock).trans (Prog.exec_bind_of_ok hrow)
  rw [hstart]
  cases hnone : (spaceById sp.id w.view).isNone with
  | true => exact Or.inl rfl
  | false =>
    right
    by_cases hfree : (if sp.status = "" then "FREE" else sp.status) = "FREE"
    · have htaken := Prog.exec_flush_done (ε := AppError) clk (updateSpace sp.id "OCCUPIED") hw rfl
      refine ⟨(some sp.info, []), ?_⟩
      simp only [Bool.false_eq_true, if_false, hfree, ne_eq, not_true_eq_false, Prog.bind_eq,
        Prog.exec_bind_of_ok htaken, spaceTaken, ParkingSpace.isFree, beq_self_eq_true, if_true]
      rfl
    · refine ⟨(some sp.info, [.text "ASSIGNED_SPACE_NOT_FREE"]), ?_⟩
      simp only [Bool.false_eq_true, if_false, ne_eq, hfree, not_false_eq_true, if_true, spaceTaken,
        ParkingSpace.isFree, beq_iff_eq]
      rfl

theorem exec_findAssignedSpace {w : Session Store} (hw : w.broken = false) (r : Reading) :
    (findAssignedSpace r.vehicle).exec clk w = (.ok (r.space w.view), w) := by
  unfold Reading.space
  cases r.vehicle with
  | none => rfl
  | some v => exact Prog.exec_select clk _ hw

/-- The occupancy of an entry goes in, with its space, unless the space has gone. -/
theorem exec_occupySpace (clk : ℕ → ℤ) (e : PlateEvent) (r : Reading) {w : Session Store}
    (hw : w.broken = false) (eventId : ℕ) :
    (∃ w', (occupySpace e r eventId).exec clk w = (.error (.app .noResultFound), w')) ∨
      ∃ out, (occupySpace e r eventId).exec clk w =
        (.ok out, { w with
          view := spaceTaken (r.space w.view)
            ((insertOccupancy (entryOccupancy e r eventId w.nextId (r.space w.view))).apply w.view)
          nextId := w.nextId + 1 }) := by
  have hw' : ({ w with nextId := w.nextId + 1 } : Session Store).broken = false := hw
  have hstart : (occupySpace e r eventId).exec clk w = _ :=
    (Prog.exec_bind_of_ok (exec_findAssignedSpace hw r)).trans
      ((Prog.exec_bind_of_ok (Prog.exec_newId clk w)).trans
        (Prog.exec_bind_of_ok (Prog.exec_flush_done clk _ hw' rfl)))
  rw [hstart]
  cases hspace : r.space w.view with
  | none => exact Or.inr ⟨(none, []), rfl⟩
  | some sp =>
    rcases exec_takeSpace clk (w := { w with
      view := (insertOccupancy (entryOccupancy e r eventId w.nextId (some sp))).apply w.view
      nextId := w.nextId + 1 }) hw sp with herr | ⟨out, hok⟩
    · exact Or.inl ⟨_, herr⟩
    · exact Or.inr ⟨out, hok⟩

theorem recordEntry_of_opens (h : opensSession e v) (eventId : ℕ) :
    recordEntry e r v eventId = openSession e r eventId := if_pos h

theorem recordEntry_of_not_opens (h : ¬ opensSession e v) (eventId : ℕ) :
    recordEntry e r v eventId = .ret (none, []) := if_neg h

/-- The bookkeeping of an entry, where it went through. -/
theorem exec_recordEntry_ok {w w' : Session Store} (hw : w.broken = false) {eventId : ℕ}
    {out : Option ParkingInfo × List Warning}
    (h : (recordEntry e r v eventId).exec clk w = (.ok out, w')) :
    w'.broken = false ∧
      w'.view = (if opensSession e v then
        entryStore e r eventId w.nextId (w.nextId + 1) w.view else w.view) ∧
      (opensSession e v →
        (insertSession (entrySession e r eventId w.nextId)).check w.view = none ∧
          w'.nextId = w.nextId + 2) := by
  by_cases hopens : opensSession e v
  · rw [recordEntry_of_opens hopens, openSession, Prog.bind_eq, Prog.exec_bind_of_ok (Prog.exec_newId clk w)] at h
    obtain ⟨_, w₁, hsession, hspace⟩ := Prog.exec_bind_ok h
    obtain ⟨_, hcheck, rfl⟩ := Prog.exec_flush_ok hsession
    rcases exec_occupySpace clk e r (w := { w with
      view := (insertSession (entrySession e r eventId w.nextId)).apply w.view
      nextId := w.nextId + 1 }) hw eventId with ⟨_, herr⟩ | ⟨_, hok⟩
    · simp [herr] at hspace
    · obtain rfl : _ = w' := congrArg Prod.snd (hok.symm.trans hspace)
      exact ⟨hw, by rw [if_pos hopens]; rfl, fun _ => ⟨hcheck, rfl⟩⟩
  · rw [recordEntry_of_not_opens hopens] at h
    obtain rfl : w = w' := congrArg Prod.snd h
    exact ⟨hw, by rw [if_neg hopens], fun ho => absurd ho hopens⟩

/-- It fails only where it opens a session: the session was refused, or its space has gone. -/
theorem exec_recordEntry_error {w w' : Session Store} (hw : w.broken = false) {eventId : ℕ}
    {exc : Exc AppError} (h : (recordEntry e r v eventId).exec clk w = (.error exc, w')) :
    opensSession e v ∧ (exc = .app .noResultFound ∨ ∃ rej, exc = .rejected rej) := by
  by_cases hopens : opensSession e v
  · refine ⟨hopens, ?_⟩
    rw [recordEntry_of_opens hopens, openSession, Prog.bind_eq, Prog.exec_bind_of_ok (Prog.exec_newId clk w)] at h
    have hw' : ({ w with nextId := w.nextId + 1 } : Session Store).broken = false := hw
    rcases Prog.exec_bind_error h with hsession | ⟨_, w₁, hsession, hspace⟩
    · rw [Prog.exec_flush clk _ hw'] at hsession
      split at hsession
      · cases hsession
      · right
        exact ⟨_, (Except.error.inj (congrArg Prod.fst hsession)).symm⟩
    · obtain ⟨_, _, rfl⟩ := Prog.exec_flush_ok hsession
      rcases exec_occupySpace clk e r (w := { w with
        view := (insertSession (entrySession e r eventId w.nextId)).apply w.view
        nextId := w.nextId + 1 }) hw eventId with ⟨_, herr⟩ | ⟨_, hok⟩
      · left
        exact (Except.error.inj (congrArg Prod.fst (herr.symm.trans hspace))).symm
      · cases hok.symm.trans hspace
  · rw [recordEntry_of_not_opens hopens] at h
    cases h

theorem exec_freeSpace {w : Session Store} (hw : w.broken = false) (id : Option ℕ) :
    (freeSpace id).exec clk w = (.ok (), { w with view := spaceFreed id w.view }) := by
  cases id with
  | none => rfl
  | some id =>
    have hfree := Prog.exec_flush_done (ε := AppError) clk (updateSpace id "FREE") hw rfl
    refine (Prog.exec_bind_of_ok (Prog.exec_select clk _ hw)).trans ?_
    cases hspace : (spaceById id w.view).isSome with
    | true => simpa [spaceFreed, hspace] using hfree
    | false => simp [spaceFreed, hspace]

/-- The bookkeeping of an exit always goes through. -/
theorem exec_recordExit {w : Session Store} (hw : w.broken = false) :
    (recordExit e r v).exec clk w =
      (.ok (), { w with view := if releases e v then exitStore r w.view else w.view }) := by
  by_cases hreleases : releases e v
  · rw [if_pos hreleases, recordExit, if_pos (show _ ∧ _ from hreleases), exitStore]
    cases r.vehicle with
    | none => rfl
    | some vehicle =>
      refine (Prog.exec_bind_of_ok (Prog.exec_select clk _ hw)).trans ?_
      simp only [Option.bind_some]
      cases latestOccupancy vehicle.id w.view with
      | none => rfl
      | some o =>
        refine (Prog.exec_bind_of_ok (Prog.exec_flush_done clk _ hw rfl)).trans ?_
        exact exec_freeSpace (w := { w with view := (vacate o.id r.now).apply w.view }) hw _
  · rw [if_neg hreleases, recordExit, if_neg (show ¬ (_ ∧ _) from hreleases)]
    rfl

/-- An event does not open a session and release an occupancy. -/
theorem not_releases_of_opens (h : opensSession e v) : ¬ releases e v := by
  intro hreleases
  have hin := h.1
  rw [hreleases.1] at hin
  revert hin
  decide

/-- **Recording**, where it went through: everything is committed at once. -/
theorem exec_recordEvent_ok {w w' : Session Store} {rec : Recorded}
    (h : (recordEvent e r v).exec clk w = (.ok rec, w')) :
    w.broken = false ∧ rec.event = eventRow e r v w.nextId ∧
      w'.committed = recordedStore e r v w.nextId w.view ∧ w'.view = w'.committed ∧
      w'.broken = false ∧
      (opensSession e v → (insertSession (entrySession e r w.nextId (w.nextId + 1))).check
        w.view = none ∧ w'.nextId = w.nextId + 3) := by
  rw [recordEvent, Prog.bind_eq, Prog.exec_bind_of_ok (Prog.exec_newId clk w)] at h
  obtain ⟨_, w₁, hevent, h⟩ := Prog.exec_bind_ok h
  obtain ⟨hw, _, rfl⟩ := Prog.exec_flush_ok hevent
  obtain ⟨⟨parking, warnings⟩, w₂, hentry, h⟩ := Prog.exec_bind_ok h
  have hw₁ : ({ w with
      view := (insertEvent (eventRow e r v w.nextId)).apply w.view
      nextId := w.nextId + 1 } : Session Store).broken = false := hw
  obtain ⟨hw₂, hview, hcheck⟩ := exec_recordEntry_ok hw₁ hentry
  have h := (Prog.exec_bind_of_ok (exec_recordExit hw₂)).symm.trans h
  obtain ⟨_, w₃, hcommit, h⟩ := Prog.exec_bind_ok h
  obtain ⟨_, rfl⟩ := Prog.exec_commitTx_ok hcommit
  obtain ⟨rfl, rfl⟩ : _ = rec ∧ _ = w' := ⟨Except.ok.inj (congrArg Prod.fst h), congrArg Prod.snd h⟩
  refine ⟨hw, rfl, ?_, rfl, hw₂, fun hopens => ?_⟩
  · show (if releases e v then exitStore r w₂.view else w₂.view) = _
    rw [hview, recordedStore]
    by_cases hopens : opensSession e v
    · simp [hopens, not_releases_of_opens hopens]
    · simp [hopens]
  · exact hcheck hopens

theorem eventByKey_check (ev : AccessEvent) {s : Store}
    (hnew : eventByKey ev.idempotencyKey s = none) :
    (insertEvent ev).check s ≠ some .integrity := by
  have hany : (s.events.any fun other => other.idempotencyKey == ev.idempotencyKey) = false := by
    rw [eventByKey_eq_none] at hnew
    simpa using hnew
  simp only [insertEvent, hany]
  split <;> simp

/-- A conflict of an event whose key is new is about the session it opens; nothing is
committed. -/
theorem exec_recordEvent_conflict {w w' : Session Store} (hw : w.broken = false)
    (hnew : eventByKey e.key w.view = none)
    (h : (recordEvent e r v).exec clk w = (.error (.rejected .integrity), w')) :
    opensSession e v ∧ w'.committed = w.committed := by
  rw [recordEvent, Prog.bind_eq, Prog.exec_bind_of_ok (Prog.exec_newId clk w)] at h
  have hw' : ({ w with nextId := w.nextId + 1 } : Session Store).broken = false := hw
  rcases Prog.exec_bind_error h with hevent | ⟨_, w₁, hevent, h⟩
  · -- the key is new, so the event itself is not in conflict
    rw [Prog.exec_flush clk _ hw'] at hevent
    split at hevent
    · cases hevent
    · rename_i rej hcheck
      obtain rfl : rej = .integrity := by simpa using congrArg Prod.fst hevent
      exact absurd hcheck (eventByKey_check (eventRow e r v w.nextId) hnew)
  · obtain ⟨_, _, rfl⟩ := Prog.exec_flush_ok hevent
    rcases Prog.exec_bind_error h with hentry | ⟨⟨parking, warnings⟩, w₂, hentry, h⟩
    · have hcommitted := (writesOnly_recordEntry e r v w.nextId).exec_committed clk { w with
        view := (insertEvent (eventRow e r v w.nextId)).apply w.view
        nextId := w.nextId + 1 }
      refine ⟨(exec_recordEntry_error (w := { w with
        view := (insertEvent (eventRow e r v w.nextId)).apply w.view
        nextId := w.nextId + 1 }) hw hentry).1, ?_⟩
      exact (congrArg (fun out => out.2.committed) hentry).symm.trans hcommitted
    · -- what comes after the entry always goes through
      obtain ⟨hw₂, _, _⟩ := exec_recordEntry_ok (w := { w with
        view := (insertEvent (eventRow e r v w.nextId)).apply w.view
        nextId := w.nextId + 1 }) hw hentry
      have h := (Prog.exec_bind_of_ok (exec_recordExit hw₂)).symm.trans h
      have hw₃ : ({ w₂ with
        view := if releases e v then exitStore r w₂.view else w₂.view } : Session Store).broken =
          false := hw₂
      have h := (Prog.exec_bind_of_ok (Prog.exec_commitTx clk hw₃)).symm.trans h
      cases h

end

/-! ## The account of a run -/

/-- The session when the decision is made. -/
def PlateEvent.atDecision (cfg : Config) (e : PlateEvent) (gate : Gate) (clk : ℕ → ℤ)
    (w : Session Store) : Session Store :=
  e.afterReading cfg gate (clk w.tick) { w with tick := w.tick + 1 }

/-- What is known in a session when the decision is made. -/
def PlateEvent.readingIn (cfg : Config) (e : PlateEvent) (gate : Gate) (clk : ℕ → ℤ)
    (w : Session Store) : Reading :=
  e.reading cfg gate (clk w.tick) w.view (e.recognitionId w)

/-- The branch of the first layer in a session. -/
def PlateEvent.branch (cfg : Config) (e : PlateEvent) (gate : Gate) (clk : ℕ → ℤ)
    (w : Session Store) : BaseCase :=
  baseCase cfg e.direction gate.id (e.plate cfg) (e.vehicle cfg w.view) (clk w.tick) w.view

/-- From a session `w` the first layer ran its branch and left `w₁`, and the later layers made
the verdict of it and left `w₂`. -/
structure Decided (cfg : Config) (clk : ℕ → ℤ) (e : PlateEvent) (gate : Gate)
    (w : Session Store) (base : BaseDecision) (w₁ : Session Store) (v : Verdict)
    (w₂ : Session Store) : Prop where
  known : gateByCode e.gateCode w.view = some gate
  run : ((e.branch cfg gate clk w).run cfg (clk w.tick)).exec clk (e.atDecision cfg gate clk w) =
    (.ok base, w₁)
  verdict : v = verdictOn cfg e clk (e.readingIn cfg gate clk w) base w₁
  committed : w₂.committed = w.committed
  view : w₂.view = w₁.view
  broken : w₂.broken = w₁.broken
  drawn : w.nextId ≤ w₂.nextId

/-- How a decided event ended: it was dry, it was recorded, or its session was in conflict. -/
inductive Ending (e : PlateEvent) (r : Reading) (v : Verdict) (w : Session Store) :
    GateResponse → Session Store → Prop where
  | dry {resp w'} (hdry : e.dryRun = true) (hanswer : AnswersFor (eventRow e r v 0) none resp)
    (hcommitted : w'.committed = w.committed) : Ending e r v w resp w'
  | stored {resp w'} (hwet : e.dryRun = false) (hlive : w.broken = false)
    (hanswer : AnswersFor (eventRow e r v w.nextId) (some w.nextId) resp)
    (hcommitted : w'.committed = recordedStore e r v w.nextId w.view)
    (hsession : opensSession e v →
      (insertSession (entrySession e r w.nextId (w.nextId + 1))).check w.view = none)
    (hdrawn : opensSession e v → w.nextId + 3 ≤ w'.nextId) : Ending e r v w resp w'
  | conflict {resp w' plate session} (hwet : e.dryRun = false) (hopens : opensSession e v)
    (hplate : r.normalized = some plate)
    (hsession : latestOpenSession plate w.committed = some session)
    (hresp : resp = sessionConflict e r session)
    (hcommitted : w'.committed = w.committed) : Ending e r v w resp w'

/-- The tables that the decision leaves alone. -/
def Store.undecided (s : Store) : Store :=
  { s with permits := [], sessions := [], charges := [], allocations := [] }

theorem DecisionStmt.undecided {st : Stmt} (h : DecisionStmt st) (s : Store) :
    (st.apply s).undecided = s.undecided := by
  cases h <;> rfl

section

variable {cfg : Config} {e : PlateEvent} {clk : ℕ → ℤ} {gate : Gate}

@[simp] theorem atDecision_committed (w : Session Store) :
    (e.atDecision cfg gate clk w).committed = w.committed := afterReading_committed _

@[simp] theorem atDecision_broken (w : Session Store) :
    (e.atDecision cfg gate clk w).broken = w.broken := afterReading_broken _

theorem atDecision_nextId_le (w : Session Store) :
    w.nextId ≤ (e.atDecision cfg gate clk w).nextId := by
  unfold PlateEvent.atDecision PlateEvent.afterReading
  split
  · exact Nat.le_refl _
  · exact Nat.le_succ _

theorem atDecision_view (cfg : Config) (e : PlateEvent) (gate : Gate) (clk : ℕ → ℤ)
    (w : Session Store) :
    ∃ rs, (e.atDecision cfg gate clk w).view = { w.view with recognitions := rs } :=
  afterReading_view cfg e gate _ _

/-- A part of the transaction whose statements are known commits nothing. -/
theorem writesOnly_branch (cfg : Config) (b : BaseCase) (now : ℤ) : (b.run cfg now).WritesOnly DecisionStmt := by
  cases b with
  | fixed d => trivial
  | exitCloses policy session =>
    exact (writesOnly_closeSessionAmounts cfg _ _).bind fun closing =>
      (writesOnly_settleExit cfg closing.closed now).bind fun _ => trivial
  | entryCounts p => exact (Prog.writesOnly_flush (.permit p)).bind fun _ => trivial

/-- What a branch returns has its decision. -/
theorem exec_branch_decision {b : BaseCase} {now : ℤ} {w w₁ : Session Store}
    {base : BaseDecision} (h : (b.run cfg now).exec clk w = (.ok base, w₁)) :
    base.decision = b.decision := by
  cases b with
  | fixed d =>
    cases h
    rfl
  | exitCloses policy session =>
    obtain ⟨c, w₂, _, h⟩ := Prog.exec_bind_ok h
    obtain ⟨⟨status, warnings⟩, w₃, _, h⟩ := Prog.exec_bind_ok h
    cases h
    rfl
  | entryCounts p =>
    obtain ⟨_, w₂, _, h⟩ := Prog.exec_bind_ok h
    cases h
    rfl

/-- A branch that changes the store admits the event. -/
theorem exec_branch_changes {b : BaseCase} (hb : b.changes = true) {now : ℤ}
    {w w₁ : Session Store} {base : BaseDecision}
    (h : (b.run cfg now).exec clk w = (.ok base, w₁)) : base.decision = .allow := by
  rw [exec_branch_decision h]
  cases b with
  | fixed d => cases hb
  | _ => rfl

/-- A decision that returned is the verdict over its branch. -/
theorem exec_decideEvent_ok {w w₂ : Session Store} {v : Verdict} (hw : w.broken = false)
    (hgate : gateByCode e.gateCode w.view = some gate)
    (h : (decideEvent cfg e (e.readingIn cfg gate clk w)).exec clk
      (e.atDecision cfg gate clk w) = (.ok v, w₂)) :
    ∃ base w₁, Decided cfg clk e gate w base w₁ v w₂ := by
  obtain ⟨base, w₁, hbase, hlater⟩ := Prog.exec_bind_ok h
  have hlive : (e.atDecision cfg gate clk w).broken = false := by simpa using hw
  obtain ⟨rs, hview⟩ := atDecision_view cfg e gate clk w
  have hrun := (exec_baseDecision hlive _ _ _ _ _).symm.trans hbase
  rw [hview, baseCase_recognitions] at hrun
  obtain ⟨w', hexec, hcommitted, hview', hbroken⟩ := exec_laterLayers cfg e clk
    (e.readingIn cfg gate clk w) base w₁
  obtain ⟨hv, rfl⟩ := Prod.mk.inj (hexec.symm.trans hlater)
  have hsame := (writesOnly_branch cfg (e.branch cfg gate clk w) (clk w.tick)).exec_committed
    clk (e.atDecision cfg gate clk w)
  refine ⟨base, w₁, hgate, hrun, (Except.ok.inj hv).symm, ?_, hview', hbroken, ?_⟩
  · have hw₁ : w₁.committed = (e.atDecision cfg gate clk w).committed :=
      (congrArg (fun out => out.2.committed) hrun).symm.trans hsame
    rw [hcommitted, hw₁, atDecision_committed]
  · have hdrawn := Prog.exec_nextId_le clk
      (decideEvent cfg e (e.readingIn cfg gate clk w)) (e.atDecision cfg gate clk w)
    rw [h] at hdrawn
    exact (atDecision_nextId_le w).trans hdrawn

/-- A conflict that was answered, of an event whose key is new. -/
theorem exec_recoverConflict_ok {r : Reading} {w w' : Session Store} {resp : GateResponse}
    (hnew : eventByKey e.key w.committed = none)
    (h : (recoverConflict e r).exec clk w = (.ok resp, w')) :
    w'.committed = w.committed ∧ ∃ plate session, r.normalized = some plate ∧
      latestOpenSession plate w.committed = some session ∧ resp = sessionConflict e r session := by
  have hlive : ({ w with view := w.committed, broken := false } : Session Store).broken = false :=
    rfl
  have h := (Prog.exec_bind_of_ok (Prog.exec_rollbackTx clk w)).symm.trans h
  have h := (Prog.exec_bind_of_ok (Prog.exec_select clk _ hlive)).symm.trans h
  simp only [hnew] at h
  obtain ⟨found, w₁, hfound, h⟩ := Prog.exec_bind_ok h
  unfold conflictSession at hfound
  split at hfound
  · rename_i plate hplate
    split at hfound
    · obtain ⟨_, rfl, rfl⟩ := Prog.exec_select_ok hfound
      cases hsession : latestOpenSession plate w.committed with
      | none =>
        simp only [hsession] at h
        cases h
      | some session =>
        simp only [hsession] at h
        cases h
        exact ⟨rfl, plate, session, hplate, hsession, rfl⟩
    · cases hfound
      cases h
  · cases hfound
    cases h

/-- What was decided, and what the tables other than those of the decision hold then. -/
theorem Decided.undecided {w w₁ w₂ : Session Store} {base : BaseDecision} {v : Verdict}
    (h : Decided cfg clk e gate w base w₁ v w₂) :
    w₂.view.undecided = (e.atDecision cfg gate clk w).view.undecided := by
  have hrel := (writesOnly_branch cfg (e.branch cfg gate clk w) (clk w.tick)).exec_rel
    (R := fun s s' => s'.undecided = s.undecided) (fun _ => rfl)
    (by intro s₁ s₂ s₃ h₁ h₂; exact h₂.trans h₁) (fun _ hst s => hst.undecided s) clk
    (e.atDecision cfg gate clk w)
  rw [h.run] at hrel
  rw [h.view]
  exact hrel.2

/-- The barrier opens at the gate exactly where the verdict admits. -/
theorem Decided.opened_iff {w w₁ w₂ : Session Store} {base : BaseDecision} {v : Verdict}
    (h : Decided cfg clk e gate w base w₁ v w₂) :
    barrierActionFor v.decision = .opened ↔ v.decision.allowed = true := by
  rw [h.verdict]
  refine verdictOn_opened ?_ w₁
  rw [exec_branch_decision h.run]
  exact baseCase_decision _ _ _ _ _ _

/-- And so it is answered. -/
theorem Ending.opened_iff {w w₁ w₂ w' : Session Store} {base : BaseDecision} {v : Verdict}
    {resp : GateResponse} (hdecided : Decided cfg clk e gate w base w₁ v w₂)
    (h : Ending e (e.readingIn cfg gate clk w) v w₂ resp w') :
    resp.barrierAction = .opened ↔ v.decision.allowed = true := by
  rw [← hdecided.opened_iff]
  cases h with
  | dry _ hanswer => rw [hanswer.barrier]; rfl
  | stored _ _ hanswer => rw [hanswer.barrier]; rfl
  | conflict _ hopens _ _ hresp =>
    -- the conflict is that of an admission, and its answer is one
    subst hresp
    simp [sessionConflict, hdecided.opened_iff, hopens.2.1]

/-- Finishing an event whose key is new. -/
theorem exec_finishEvent_ok {r : Reading} {v : Verdict} {w w' : Session Store}
    {resp : GateResponse} (hview : eventByKey e.key w.view = none)
    (hnew : eventByKey e.key w.committed = none)
    (h : (finishEvent e r v).exec clk w = (.ok resp, w')) : Ending e r v w resp w' := by
  by_cases hdry : e.dryRun = true
  · rw [finishEvent, if_pos hdry] at h
    have hsame := (readOnly_respond e r v (eventRow e r v 0) none none []).exec_committed clk w
    rw [h] at hsame
    exact .dry hdry ((returns_respond _ _ _ _ _ _ _).exec_ok h) hsame
  · have hwet : e.dryRun = false := by simpa using hdry
    rw [finishEvent, if_neg hdry] at h
    have h := (Prog.exec_bind_of_ok (Prog.exec_attempt clk _ _)).symm.trans h
    rcases hrecord : (recordEvent e r v).exec clk w with ⟨exc | rec, w₃⟩
    · simp only [hrecord] at h
      split at h
      · rename_i hok
        cases hok
      · -- only a conflict is answered, and the event itself is not in conflict
        rename_i hexc
        cases hexc
        have hlive : w.broken = false := by
          cases hb : w.broken with
          | false => rfl
          | true =>
            have hw' : ({ w with nextId := w.nextId + 1 } : Session Store).broken = true := hb
            rw [recordEvent, Prog.bind_eq, Prog.exec_bind_of_ok (Prog.exec_newId clk w),
              Prog.bind_eq, Prog.exec_bind_of_error (Prog.exec_flush_broken clk _ hw')] at hrecord
            cases hrecord
        obtain ⟨hopens, hcommitted⟩ := exec_recordEvent_conflict hlive hview hrecord
        obtain ⟨hsame, plate, session, hplate, hsession, hresp⟩ :=
          exec_recoverConflict_ok (hcommitted.symm ▸ hnew) h
        rw [hcommitted] at hsame hsession
        exact .conflict hwet hopens hplate hsession hresp hsame
      · cases h
    · simp only [hrecord] at h
      obtain ⟨hlive, hevent, hcommitted, _, _, hsession⟩ := exec_recordEvent_ok hrecord
      have hanswer := (returns_respond _ _ _ _ _ _ _).exec_ok h
      have hsame := (readOnly_respond e r v rec.event (some rec.event.id) rec.parking
        rec.warnings).exec_committed clk w₃
      have hdrawn := Prog.exec_nextId_le clk (respond e r v rec.event (some rec.event.id)
        rec.parking rec.warnings) w₃
      rw [h] at hsame hdrawn
      rw [hevent] at hanswer
      exact .stored hwet hlive hanswer (hsame.trans hcommitted) (fun hopens => (hsession hopens).1)
        fun hopens => (hsession hopens).2 ▸ hdrawn

/-- **The account of an event** whose key is new, on a session that has nothing pending. -/
theorem processPlateEvent_ok {w w' : Session Store} {resp : GateResponse}
    (hw : w.broken = false) (hclean : w.view = w.committed)
    (hnew : eventByKey e.key w.view = none)
    (h : (processPlateEvent cfg e).exec clk w = (.ok resp, w')) :
    ∃ gate base w₁ v w₂, Decided cfg clk e gate w base w₁ v w₂ ∧
      Ending e (e.readingIn cfg gate clk w) v w₂ resp w' := by
  have hw₀ : ({ w with tick := w.tick + 1 } : Session Store).broken = false := hw
  have h := (Prog.exec_bind_of_ok (Prog.exec_getTime clk w)).symm.trans h
  have h := (Prog.exec_bind_of_ok (Prog.exec_select clk _ hw₀)).symm.trans h
  cases hgate : gateByCode e.gateCode w.view with
  | none =>
    simp only [hgate] at h
    cases h
  | some gate =>
    simp only [hgate] at h
    have h := (Prog.exec_bind_of_ok (Prog.exec_select clk _ hw₀)).symm.trans h
    simp only [hnew] at h
    obtain ⟨r, w_r, hread, h⟩ := Prog.exec_bind_ok h
    obtain ⟨rfl, rfl, _⟩ := exec_readPlate_ok hw₀ hread
    obtain ⟨v, w₂, hdecide, hfinish⟩ := Prog.exec_bind_ok h
    obtain ⟨base, w₁, hdecided⟩ := exec_decideEvent_ok (w := w) hw hgate hdecide
    refine ⟨gate, base, w₁, v, w₂, hdecided, exec_finishEvent_ok ?_ ?_ hfinish⟩
    · -- neither the recognition nor the decision touches the events
      obtain ⟨rs, hview⟩ := atDecision_view cfg e gate clk w
      have hevents : w₂.view.events = w.view.events := by
        have hsame := congrArg Store.events hdecided.undecided
        rw [hview] at hsame
        exact hsame
      rw [eventByKey, hevents]
      exact hnew
    · rw [hdecided.committed, ← hclean]
      exact hnew

end

end ParkingSystem
