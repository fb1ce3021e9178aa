import ParkingSystem.Agent.Decision
import ParkingSystem.Gate.Answer

/-!
# What the Agent Allows and the Server Does Not

The agent lets a plate in on what its snapshot says of one permit. The server asks for more: a
registered vehicle that is active, a permit that has started and is valid at this hour, and
room in the yard.
-/

namespace ParkingSystem

open PyValue Table Transaction

/-- The server answers the event with an open barrier. -/
def ServerOpens (cfg : Config) (e : PlateEvent) (clk : ℕ → ℤ) (w : Session Store) : Prop :=
  ∃ resp w', (processPlateEvent cfg e).exec clk w = (.ok resp, w') ∧ resp.barrierAction = .opened

/-- What the server asks of an entry that nobody restricted: a registered, active vehicle, a
permit that is valid now, and an OPEN session or room in the yard. -/
def EntryPermitted (cfg : Config) (plate gateId : String) (now : ℤ) (s : Store) : Prop :=
  (∃ v, vehicleOf plate s = some v ∧ v.isActive = true) ∧
    ∃ p, activePermit plate gateId now s = .ok p ∧
      (openSessions plate s ≠ [] ∨ yardFull cfg s = none)

section

variable {cfg : Config} {plate gateId : String} {now : ℤ} {s : Store}

/-- When the entry branch admits. -/
theorem entryCase_allowed_iff :
    (entryCase cfg plate gateId now s).decision.allowed = true ↔
      ∃ p, activePermit plate gateId now s = .ok p ∧
        (openSessions plate s ≠ [] ∨ yardFull cfg s = none) := by
  unfold entryCase
  cases hpermit : activePermit plate gateId now s with
  | error reason =>
    have hrefused : (noPermit reason).decision.allowed = false := by
      unfold noPermit
      split <;> rfl
    simp [BaseCase.decision, hrefused]
  | ok p =>
    by_cases hopen : openSessions plate s = []
    · cases hfull : yardFull cfg s with
      | none => simp [hopen, BaseCase.decision, Decision.allowed]
      | some reason => simp [hopen, BaseCase.decision, yardIsFull, Decision.allowed]
    · simp [hopen, BaseCase.decision, alreadyOpen, Decision.allowed]

/-- How it admits. -/
theorem entryCase_admits (h : EntryPermitted cfg plate gateId now s) :
    (∃ p, entryCase cfg plate gateId now s = .fixed (alreadyOpen p)) ∨
      ∃ p, entryCase cfg plate gateId now s = .entryCounts p ∧ openSessions plate s = [] := by
  obtain ⟨_, p, hpermit, hroom⟩ := h
  by_cases hopen : openSessions plate s = []
  · have hfull : yardFull cfg s = none := hroom.resolve_left (not_not_intro hopen)
    exact Or.inr ⟨p, by simp [entryCase, hpermit, hopen, hfull], hopen⟩
  · exact Or.inl ⟨p, by simp [entryCase, hpermit, hopen]⟩

/-- When the first layer admits an entry. -/
theorem baseCase_entry_allowed_iff (hfree : activeRestriction plate now s = none) :
    (baseCase cfg "IN" gateId (some plate) (vehicleOf plate s) now s).decision.allowed = true ↔
      EntryPermitted cfg plate gateId now s := by
  unfold EntryPermitted
  cases hv : vehicleOf plate s with
  | none => simp [baseCase, BaseCase.decision, unregistered, Decision.allowed]
  | some v =>
    cases hactive : v.isActive with
    | false => simp [baseCase, hactive, BaseCase.decision, inactive, Decision.allowed]
    | true => simp [baseCase, hactive, hfree, entryCase_allowed_iff]

end

/-! ## Without rules and measurements -/

section

variable {cfg : Config} {e : PlateEvent} {clk : ℕ → ℤ} {gate : Gate} {w w₁ w₂ : Session Store}
  {base : BaseDecision} {v : Verdict} {plate : String}

/-- Where no rule is ACTIVE, none is tried. -/
theorem activeRules_eq_nil {s : Store} (h : ∀ r ∈ s.rules, r.status ≠ "ACTIVE")
    (direction : String) : activeRules direction s = [] := by
  have hnone : (s.rules.filter fun r =>
      r.status == "ACTIVE" && r.enabled && (r.direction == direction || r.direction == "ANY")) =
        [] := by
    rw [List.filter_eq_nil_iff]
    intro r hr hmatch
    simp only [Bool.and_eq_true, beq_iff_eq] at hmatch
    exact h r hr hmatch.1.1
  rw [activeRules, hnone]
  rfl

/-- The verdict where no rule is ACTIVE. -/
theorem verdictOn_noRules {r : Reading} (hw : w.broken = false)
    (h : ∀ x ∈ w.view.rules, x.status ≠ "ACTIVE") :
    verdictOn cfg e clk r base w = (Verdict.ofRules base (some ({}, none))).locked r.review := by
  have hrules : rulesOn cfg e clk r base w = some ({}, none) := by
    have hw' : ({ w with tick := w.tick + 1 } : Session Store).broken = false := hw
    unfold rulesOn applyRulesForEvent
    rw [Prog.bind_eq, Prog.exec_bind_of_ok (Prog.exec_select clk _ hw')]
    simp [activeRules_eq_nil h, Except.toOption]
  rw [verdictOn, hrules]

/-- A readable plate without measurements needs no review. -/
theorem review_noMeasurements (hplate : e.plate cfg = some plate) (hquality : e.captureQuality = {})
    (hconfidence : e.confidence = none) (s : Store) : e.review cfg s = .autoOk := by
  refine (captureReview_cases cfg _ _ _ s).resolve_left fun h => ?_
  rw [hquality, hconfidence, hplate,
    captureReview_confidence cfg _ (Plate.normalizePlate_ne_empty hplate)] at h
  simp [lowConfidence] at h

/-- Then the verdict is the decision of the branch. -/
theorem Decided.unruled (h : Decided cfg clk e gate w base w₁ v w₂) (hlive : w₁.broken = false)
    (hrules : ∀ x ∈ w.view.rules, x.status ≠ "ACTIVE") (hplate : e.plate cfg = some plate)
    (hquality : e.captureQuality = {}) (hconfidence : e.confidence = none) :
    v = Verdict.ofRules base (some ({}, none)) := by
  obtain ⟨rs, hview⟩ := atDecision_view cfg e gate clk w
  have hsame : w₁.view.rules = w.view.rules := by
    have hundecided := congrArg Store.rules h.undecided
    rw [hview, h.view] at hundecided
    exact hundecided
  have hsure : (e.readingIn cfg gate clk w).review = .autoOk :=
    review_noMeasurements hplate hquality hconfidence w.view
  rw [h.verdict, verdictOn_noRules hlive (hsame ▸ hrules), Verdict.locked, hsure]
  simp

/-- What the store and the request have to be for the answer to be the decision's: the request
fits its columns and is new. -/
structure PlateEvent.Accepted (cfg : Config) (e : PlateEvent) (gate : Gate) (now : ℤ) (id : ℕ)
    (s : Store) : Prop where
  known : gateByCode e.gateCode s = some gate
  new : eventByKey e.key s = none
  keyFits : fitsChar 128 e.key = true
  plateFits : fitsChar? 32 (e.plate cfg) = true
  recognition : (insertRecognition (e.recognition cfg gate now s id)).check s = none

/-- A branch that is no closing exit goes through. -/
theorem exec_branch_done (cfg : Config) (clk : ℕ → ℤ) {b : BaseCase} (hb : ∀ policy session, b ≠ .exitCloses policy session)
    (now : ℤ) (hw : w.broken = false) :
    ∃ base w₁, (b.run cfg now).exec clk w = (.ok base, w₁) ∧ w₁.broken = false := by
  cases b with
  | fixed d => exact ⟨d, w, rfl, hw⟩
  | exitCloses policy session => exact absurd rfl (hb policy session)
  | entryCounts p =>
    exact ⟨_, _, (Prog.exec_bind_of_ok (Prog.exec_flush_done clk (updatePermit p) hw rfl)).trans rfl,
      hw⟩

/-- **An entry that is permitted** is answered with an open barrier. -/
theorem serverOpens_of_permitted (hwet : e.dryRun = false) (hin : e.direction = "IN")
    (hw : w.broken = false) (hclean : w.view = w.committed)
    (haccepted : e.Accepted cfg gate (clk w.tick) w.nextId w.view)
    (hrules : ∀ x ∈ w.view.rules, x.status ≠ "ACTIVE") (hplate : e.plate cfg = some plate)
    (hquality : e.captureQuality = {}) (hconfidence : e.confidence = none)
    (hfree : activeRestriction plate (clk w.tick) w.view = none)
    (hpermitted : EntryPermitted cfg plate gate.id (clk w.tick) w.view) :
    ServerOpens cfg e clk w := by
  have hvehicle : e.vehicle cfg w.view = vehicleOf plate w.view := by
    simp [PlateEvent.vehicle, hplate]
  obtain ⟨vehicle, hv, hactive⟩ := hpermitted.1
  have hbranch : e.branch cfg gate clk w = entryCase cfg plate gate.id (clk w.tick) w.view := by
    rw [PlateEvent.branch, hvehicle, baseCase_cleared ⟨hplate, hv, hactive, hfree⟩, hin]
    rfl
  have hnotClosing (policy : String) (session : ParkingSession) :
      e.branch cfg gate clk w ≠ .exitCloses policy session := by
    rw [hbranch]
    exact entryCase_ne_closes
  obtain ⟨base, w₁, hrun, hw₁⟩ := exec_branch_done cfg clk hnotClosing
    (clk w.tick) (w := e.atDecision cfg gate clk w) (by simpa using hw)
  -- the two branches that admit have short reasons, and only one opens a session
  have hbase : base.decision.allowed = true ∧ fitsChar 64 base.reason = true ∧
      (base.createNewSession = true → openSessions plate w.view = []) := by
    rw [hbranch] at hrun
    rcases entryCase_admits hpermitted with ⟨p, hp⟩ | ⟨p, hp, hopen⟩
    · rw [hp] at hrun
      obtain rfl : alreadyOpen p = base := Except.ok.inj (congrArg Prod.fst hrun)
      refine ⟨rfl, ?_, fun h => by cases h⟩
      show fitsChar 64 "DUPLICATE_ENTRY_SESSION_OPEN" = true
      decide
    · rw [hp] at hrun
      obtain ⟨_, _, _, hret⟩ := Prog.exec_bind_ok hrun
      obtain rfl : countedEntry p = base := Except.ok.inj (congrArg Prod.fst hret)
      refine ⟨rfl, ?_, fun _ => hopen⟩
      show fitsChar 64 "VALID_PERMIT" = true
      decide
  obtain ⟨hallowed, hreason, hopen⟩ := hbase
  have haccepts (v : Verdict) (w₂ : Session Store) (h : Decided cfg clk e gate w base w₁ v w₂) :
      (insertEvent (eventRow e (e.readingIn cfg gate clk w) v w₂.nextId)).check w₂.view = none ∧
        (opensSession e v → (insertSession (entrySession e (e.readingIn cfg gate clk w) w₂.nextId
          (w₂.nextId + 1))).check w₂.view = none) := by
    have hverdict := h.unruled hw₁ hrules hplate hquality hconfidence
    have hevents := h.events
    have hplateFits := haccepted.plateFits
    constructor
    · have hnew := eventByKey_eq_none.1 haccepted.new
      subst hverdict
      simp only [insertEvent, eventRow, PlateEvent.readingIn, PlateEvent.reading, Verdict.ofRules,
        hevents]
      simp [hplateFits, fitsReason, hreason, haccepted.keyFits]
      exact hnew
    · intro hopens
      have hcreate : base.createNewSession = true := by
        have hv := hopens.2.2
        rw [hverdict] at hv
        exact hv
      have hnone : openSessions plate w₂.view = [] := by
        rw [openSessions, h.sessions_kept hnotClosing]
        exact hopen hcreate
      simp only [insertSession, entrySession, PlateEvent.readingIn, PlateEvent.reading, hplate]
      rw [hplate] at hplateFits
      have hfits : fitsChar 32 plate = true := hplateFits
      simp [hfits, hnone]
  obtain ⟨resp, w', hexec⟩ := processPlateEvent_done hwet hw haccepted.known haccepted.new
    haccepted.recognition hrun hw₁ haccepts
  refine ⟨resp, w', hexec, ?_⟩
  obtain ⟨gate', base', w₁', v, w₂, hdecided, hending⟩ :=
    processPlateEvent_ok hw hclean haccepted.new hexec
  obtain rfl : gate' = gate := Option.some.inj (hdecided.known.symm.trans haccepted.known)
  obtain ⟨hsame, rfl⟩ := Prod.mk.inj (hdecided.run.symm.trans hrun)
  obtain rfl := Except.ok.inj hsame
  rw [hending.opened_iff hdecided, hdecided.unruled hw₁ hrules hplate hquality hconfidence]
  exact hallowed

/-- An entry that is answered with an open barrier was permitted. -/
theorem permitted_of_serverOpens (hin : e.direction = "IN") (hw : w.broken = false)
    (hclean : w.view = w.committed) (hknown : gateByCode e.gateCode w.view = some gate)
    (hnew : eventByKey e.key w.view = none)
    (hrules : ∀ x ∈ w.view.rules, x.status ≠ "ACTIVE") (hplate : e.plate cfg = some plate)
    (hquality : e.captureQuality = {}) (hconfidence : e.confidence = none)
    (hfree : activeRestriction plate (clk w.tick) w.view = none)
    (h : ServerOpens cfg e clk w) : EntryPermitted cfg plate gate.id (clk w.tick) w.view := by
  obtain ⟨resp, w', hexec, hopened⟩ := h
  obtain ⟨gate', base, w₁, v, w₂, hdecided, hending⟩ := processPlateEvent_ok hw hclean hnew hexec
  obtain rfl : gate' = gate := Option.some.inj (hdecided.known.symm.trans hknown)
  have hallowed := (hending.opened_iff hdecided).1 hopened
  have hvehicle : e.vehicle cfg w.view = vehicleOf plate w.view := by
    simp [PlateEvent.vehicle, hplate]
  have hnotClosing (policy : String) (session : ParkingSession) :
      e.branch cfg gate' clk w ≠ .exitCloses policy session := fun hcloses => by
    obtain ⟨_, _, _, hout, _⟩ := baseCase_closes hcloses
    rw [hin] at hout
    exact absurd hout (by decide)
  obtain ⟨base', w₁', hrun, hw₁⟩ := exec_branch_done cfg clk hnotClosing
    (clk w.tick) (w := e.atDecision cfg gate' clk w) (by simpa using hw)
  obtain ⟨_, rfl⟩ := Prod.mk.inj (hrun.symm.trans hdecided.run)
  rw [hdecided.unruled hw₁ hrules hplate hquality hconfidence] at hallowed
  have hbase : base.decision.allowed = true := hallowed
  rw [exec_branch_decision hdecided.run, PlateEvent.branch, hplate, hvehicle, hin] at hbase
  exact (baseCase_entry_allowed_iff hfree).1 hbase

/-- A plate that a snapshot does not restrict has no restriction in force. -/
theorem unrestricted_of_offlineAllow {now agentNow : ℤ} {inside : Bool} {s : Store}
    (h : (offlineDecide (some (snapshotAt gate now s)) (some plate) "IN" inside agentNow).decision =
      .offlineAllow) : activeRestriction plate now s = none := by
  have hlisted : (snapshotAt gate now s).restricts plate = false := by
    by_contra hnot
    have hrestricted : (snapshotAt gate now s).restricts plate = true := by simpa using hnot
    simp [offlineDecide, hrestricted, offlineReview] at h
  rw [unrestricted_iff]
  intro r hr hkey hstatus
  by_contra hforce
  have hlist : r.listed now = true := by
    have hforce : r.inForce now = true := by simpa using hforce
    simp only [VehicleRestriction.inForce, Bool.and_eq_true] at hforce
    simp [VehicleRestriction.listed, hstatus, hforce.2]
  have hnot := hlisted
  simp only [Snapshot.restricts, snapshotAt, listedRestrictions, List.any_eq_false,
    List.mem_map, List.mem_filter] at hnot
  exact hnot r.snapshot ⟨r, ⟨hr, hlist⟩, rfl⟩ (by simpa [VehicleRestriction.snapshot] using hkey)

/-- **The agent and the server**: an entry that the agent allows on a fresh snapshot is answered
with an open barrier exactly where it is permitted. -/
theorem offlineAllow_serverOpens_iff (cfg : Config) (e : PlateEvent) (gate : Gate) (plate : String)
    (s : Store) (clk : ℕ → ℤ) (n k : ℕ) (inside : Bool) (agentNow : ℤ) (hwet : e.dryRun = false)
    (hin : e.direction = "IN") (hplate : e.plate cfg = some plate)
    (hquality : e.captureQuality = {}) (hconfidence : e.confidence = none)
    (hrules : ∀ x ∈ s.rules, x.status ≠ "ACTIVE") (haccepted : e.Accepted cfg gate (clk k) n s)
    (hoffline : (offlineDecide (some (snapshotAt gate (clk k) s)) (some plate) "IN" inside
      agentNow).decision = .offlineAllow) :
    ServerOpens cfg e clk (.fresh s n k) ↔ EntryPermitted cfg plate gate.id (clk k) s := by
  have hfree := unrestricted_of_offlineAllow hoffline
  constructor
  · exact permitted_of_serverOpens (w := .fresh s n k) hin rfl rfl haccepted.known haccepted.new
      hrules hplate hquality hconfidence hfree
  · exact serverOpens_of_permitted (w := .fresh s n k) hwet hin rfl rfl haccepted hrules hplate
      hquality hconfidence hfree

end

/-! ### A permit that has not started -/

/-- A registered vehicle whose permit starts at the instant 100. -/
def laterStore : Store :=
  { gates := [{ id := "g1", code := "G1", name := "North" }]
    vehicles := [{ id := 1, plateNormalized := "12B345IR67", createdAt := 0 }]
    permits := [{ id := 2, plateNormalized := "12B345IR67", validFrom := some 100, createdAt := 0 }] }

/-- Its vehicle arrives at the instant 0. -/
def earlyEntry : PlateEvent := { gateCode := "G1", plateRaw := "12ب34567", sourceEventId := "1" }

theorem earlyEntry_accepted :
    earlyEntry.Accepted {} { id := "g1", code := "G1", name := "North" } 0 10 laterStore :=
  ⟨rfl, rfl, by decide, by decide, by decide⟩

theorem offlineAllow_serverOpens_iff_earlyEntry :
    ServerOpens {} earlyEntry (fun _ => 0) (.fresh laterStore 10 0) ↔
      EntryPermitted {} "12B345IR67" "g1" 0 laterStore :=
  offlineAllow_serverOpens_iff {} earlyEntry { id := "g1", code := "G1", name := "North" }
    "12B345IR67" laterStore (fun _ => 0) 10 0 false 0 rfl rfl (by decide) rfl rfl (by decide)
    earlyEntry_accepted (by decide)

/-- **An entry that only the agent allows** -/
theorem early_entry_only_offline :
    ¬ ∀ (cfg : Config) (e : PlateEvent) (gate : Gate) (plate : String) (s : Store) (clk : ℕ → ℤ)
      (n k : ℕ) (inside : Bool) (agentNow : ℤ), e.dryRun = false → e.direction = "IN" →
      e.plate cfg = some plate → e.captureQuality = {} → e.confidence = none →
      (∀ x ∈ s.rules, x.status ≠ "ACTIVE") → e.Accepted cfg gate (clk k) n s →
      (offlineDecide (some (snapshotAt gate (clk k) s)) (some plate) "IN" inside agentNow).decision =
        .offlineAllow → ServerOpens cfg e clk (.fresh s n k) := by
  intro h
  obtain ⟨resp, w', hexec, hopened⟩ := h {} earlyEntry { id := "g1", code := "G1", name := "North" }
    "12B345IR67" laterStore (fun _ => 0) 10 0 false 0 rfl rfl (by decide) rfl rfl (by decide)
    earlyEntry_accepted (by decide)
  have hclosed : (((processPlateEvent {} earlyEntry).exec (fun _ => 0)
      (.fresh laterStore 10 0)).1.toOption.all fun resp => resp.barrierAction == .keepClosed) =
        true := by
    decide +kernel
  rw [hexec] at hclosed
  simp [Except.toOption, hopened] at hclosed

end ParkingSystem
