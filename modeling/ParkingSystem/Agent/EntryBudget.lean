import ParkingSystem.Agent.Queue

/-!
# The Entry Budget Offline

A permit of the snapshot may have a number of entries, and the snapshot says how many were used.
An agent that stays offline compares the two for every entry, and both are as the snapshot was
saved: what the agent itself let in since is not counted.

## What is counted

An event whose direction is not OUT is decided as an entry. The plates that are inside matter for
exits only, so which entries are allowed depends on the event and its time alone.
-/

namespace ParkingSystem

/-! ## A run without the server -/

/-- The answers to a sequence of readings, each decided at its time without the server, and the
database they leave. -/
def offlineRun (gateCode : String) : List (PlateReading × ℤ) → AgentDB → List AgentAnswer × AgentDB
  | [], db => ([], db)
  | (r, now) :: events, db =>
    let (answer, db) := handlePlateEvent gateCode r now none db
    let (answers, db) := offlineRun gateCode events db
    (answer :: answers, db)

/-- An event of a plate that is decided as an entry. -/
def PlateReading.isEntryOf (r : PlateReading) (plate : String) : Bool :=
  r.normalized == some plate && r.direction != "OUT"

/-- How many entries of a plate were allowed. -/
def allowedEntries (plate : String) (events : List (PlateReading × ℤ)) (answers : List AgentAnswer) :
    ℕ :=
  (events.zip answers).countP fun x => x.1.1.isEntryOf plate && x.2.decision == .offlineAllow

/-- An entry of a plate while its permit is in force. -/
def SnapshotPermit.covers (p : SnapshotPermit) (plate : String) (event : PlateReading × ℤ) : Bool :=
  event.1.isEntryOf plate && !p.validUntil.any fun t => t < event.2

/-! ## One event -/

section

variable {gateCode plate : String} {snap : Snapshot} {p : SnapshotPermit} {db : AgentDB}

/-- The snapshot stays until the next refresh. -/
theorem handlePlateEvent_snapshot (r : PlateReading) (now : ℤ) (db : AgentDB) :
    (handlePlateEvent gateCode r now none db).2.snapshot = db.snapshot := by
  have hlog (plate : String) (d : Decision) (direction : String) (db : AgentDB) :
      (db.logEvent plate d direction).snapshot = db.snapshot := by
    unfold AgentDB.logEvent
    split_ifs <;> rfl
  unfold handlePlateEvent
  rw [hlog]
  unfold AgentDB.addPending
  split <;> rfl

/-- The only permit of a plate is the one that is found. -/
theorem permit_of_only (h : snap.allowedPlates.filter (fun q => q.plate == plate) = [p]) :
    snap.permit plate = some p := by
  rw [Snapshot.permit, ← List.head?_filter, List.filter_reverse, h]
  rfl

/-- **One entry**: it is allowed where the plate is not restricted, the permit is in force and the
number in the snapshot is not reached. -/
theorem decide_entry_iff (hsnap : db.snapshot = some snap)
    (hpermit : snap.allowedPlates.filter (fun q => q.plate == plate) = [p]) (r : PlateReading)
    (now : ℤ) (hentry : r.isEntryOf plate = true) :
    (db.decide r now).decision = .offlineAllow ↔
      snap.restricts plate = false ∧ p.covers plate (r, now) = true ∧
        ∀ m, p.maxEntries = some m → p.usedEntries < m := by
  obtain ⟨hplate, hdirection⟩ : r.normalized = some plate ∧ r.direction ≠ "OUT" := by
    simpa [PlateReading.isEntryOf] using hentry
  rw [AgentDB.decide, hsnap, hplate, offlineDecide, if_neg hdirection, permit_of_only hpermit]
  unfold offlineEntry SnapshotPermit.covers
  rw [hentry]
  cases snap.restricts plate with
  | true => simp [offlineReview]
  | false =>
    by_cases hexpired : p.validUntil.any (fun t => decide (t < now)) = true
    · simp [hexpired, offlineReview]
    · rw [Bool.not_eq_true] at hexpired
      by_cases hfull : p.maxEntries.any (fun m => decide (m ≤ p.usedEntries)) = true
      · -- the number is reached
        obtain ⟨m, hm, hle⟩ := (Option.any_eq_true _ _).1 hfull
        have hnot : ¬ ∀ m, p.maxEntries = some m → p.usedEntries < m := fun h =>
          absurd (h m hm) (not_lt.2 (of_decide_eq_true hle))
        simp [hexpired, hfull, hnot, offlineReview]
      · have hroom : ∀ m, p.maxEntries = some m → p.usedEntries < m := by
          intro m hm
          rw [hm, Option.any_some, decide_eq_true_eq, not_le] at hfull
          exact hfull
        simpa [hexpired, hfull, offlineAllow] using hroom

/-! ## Every run -/

/-- Where an entry is allowed, every entry under the permit is. -/
theorem allowedEntries_eq (hsnap : db.snapshot = some snap)
    (hpermit : snap.allowedPlates.filter (fun q => q.plate == plate) = [p])
    (events : List (PlateReading × ℤ)) :
    allowedEntries plate events (offlineRun gateCode events db).1 =
      if snap.restricts plate = false ∧ ∀ m, p.maxEntries = some m → p.usedEntries < m then
        events.countP (p.covers plate)
      else 0 := by
  induction events generalizing db with
  | nil => simp [allowedEntries]
  | cons event events ih =>
    obtain ⟨r, now⟩ := event
    have hstays : (handlePlateEvent gateCode r now none db).2.snapshot = some snap :=
      (handlePlateEvent_snapshot r now db).trans hsnap
    have hanswer : (handlePlateEvent gateCode r now none db).1.decision =
        (db.decide r now).decision := rfl
    -- the first event is counted by its own decision, which the database does not change
    have hhead : (r.isEntryOf plate && (db.decide r now).decision == .offlineAllow) = true ↔
        snap.restricts plate = false ∧ p.covers plate (r, now) = true ∧
          ∀ m, p.maxEntries = some m → p.usedEntries < m := by
      rw [Bool.and_eq_true, beq_iff_eq]
      constructor
      · rintro ⟨hentry, hallowed⟩
        exact (decide_entry_iff hsnap hpermit r now hentry).1 hallowed
      · intro h
        have hentry : r.isEntryOf plate = true := (Bool.and_eq_true_iff.1 h.2.1).1
        exact ⟨hentry, (decide_entry_iff hsnap hpermit r now hentry).2 h⟩
    have hrest := ih hstays
    unfold allowedEntries at hrest ⊢
    rw [offlineRun, List.zip_cons_cons, List.countP_cons, hrest, hanswer, List.countP_cons]
    simp only [hhead]
    by_cases hopen : snap.restricts plate = false ∧ ∀ m, p.maxEntries = some m → p.usedEntries < m
    · have hcovers : (snap.restricts plate = false ∧ p.covers plate (r, now) = true ∧
          ∀ m, p.maxEntries = some m → p.usedEntries < m) ↔ p.covers plate (r, now) = true :=
        ⟨fun h => h.2.1, fun h => ⟨hopen.1, h, hopen.2⟩⟩
      rw [if_pos hopen, if_pos hopen]
      simp only [hcovers]
    · have hclosed : ¬ (snap.restricts plate = false ∧ p.covers plate (r, now) = true ∧
          ∀ m, p.maxEntries = some m → p.usedEntries < m) := fun h => hopen ⟨h.1, h.2.2⟩
      rw [if_neg hopen, if_neg hopen, if_neg hclosed]

/-- **The entry budget**: offline, a plate with one permit enters at most as often as the snapshot
has entries left exactly where it is restricted, none is left, or no more entries come while the
permit is in force. -/
theorem entryBudget_iff (gateCode plate : String) (snap : Snapshot) (p : SnapshotPermit) (m : ℤ)
    (db : AgentDB) (events : List (PlateReading × ℤ)) (hsnap : db.snapshot = some snap)
    (hpermit : snap.allowedPlates.filter (fun q => q.plate == plate) = [p])
    (hm : p.maxEntries = some m) :
    (allowedEntries plate events (offlineRun gateCode events db).1 : ℤ) ≤ max 0 (m - p.usedEntries) ↔
      snap.restricts plate = true ∨ m ≤ p.usedEntries ∨
        (events.countP (p.covers plate) : ℤ) ≤ m - p.usedEntries := by
  rw [allowedEntries_eq hsnap hpermit]
  cases hrestricts : snap.restricts plate with
  | true => simp
  | false =>
    by_cases hroom : p.usedEntries < m
    · have hopen : ∀ m', p.maxEntries = some m' → p.usedEntries < m' := by
        intro m' hm'
        cases hm.symm.trans hm'
        exact hroom
      rw [if_pos ⟨rfl, hopen⟩, max_eq_right (by omega)]
      simp only [Bool.false_eq_true, false_or, not_le.2 hroom]
    · have hclosed : ¬ ((false : Bool) = false ∧ ∀ m', p.maxEntries = some m' → p.usedEntries < m') :=
        fun h => hroom (h.2 m hm)
      rw [if_neg hclosed]
      refine iff_of_true ?_ (Or.inr (Or.inl (not_lt.1 hroom)))
      exact le_max_left _ _

end

/-! ### A permit for one entry -/

/-- A snapshot with a permit for one entry. -/
def oneEntrySnapshot : Snapshot where
  generatedAt := 0
  gate := { id := "1", code := "G1", name := "G1" }
  allowedPlates := [{ plate := "12B345IR67", permitId := 1, permitType := "GUEST"
                      validUntil := none, maxEntries := some 1, usedEntries := 0 }]
  restrictedPlates := []

/-- The plate is read at the entry. -/
def entryReading (sourceEventId : String) : PlateReading :=
  { plateRaw := "12ب34567", normalized := some "12B345IR67", sourceEventId, direction := "IN"
    capturedAt := 0 }

theorem entryBudget_iff_once :
    (allowedEntries "12B345IR67" [(entryReading "1", 0)]
      (offlineRun "G1" [(entryReading "1", 0)] { snapshot := some oneEntrySnapshot }).1 : ℤ) ≤
        max 0 (1 - 0) ↔
      oneEntrySnapshot.restricts "12B345IR67" = true ∨ (1 : ℤ) ≤ 0 ∨
        (List.countP (SnapshotPermit.covers
          { plate := "12B345IR67", permitId := 1, permitType := "GUEST", validUntil := none
            maxEntries := some 1, usedEntries := 0 } "12B345IR67") [(entryReading "1", 0)] : ℤ) ≤
          1 - 0 :=
  entryBudget_iff "G1" "12B345IR67" oneEntrySnapshot _ 1 { snapshot := some oneEntrySnapshot }
    [(entryReading "1", 0)] rfl rfl rfl

theorem twoEntries_allowed :
    ¬ ∀ (gateCode plate : String) (snap : Snapshot) (p : SnapshotPermit) (m : ℤ) (db : AgentDB)
      (events : List (PlateReading × ℤ)), db.snapshot = some snap →
      snap.allowedPlates.filter (fun q => q.plate == plate) = [p] → p.maxEntries = some m →
      (allowedEntries plate events (offlineRun gateCode events db).1 : ℤ) ≤
        max 0 (m - p.usedEntries) := by
  intro h
  have hcount := h "G1" "12B345IR67" oneEntrySnapshot _ 1 { snapshot := some oneEntrySnapshot }
    [(entryReading "1", 0), (entryReading "2", 1)] rfl rfl rfl
  exact absurd hcount (by decide)

end ParkingSystem
