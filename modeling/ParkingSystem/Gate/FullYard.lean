import ParkingSystem.Gate.AuditRun
import ParkingSystem.Library.Potential

/-!
# The Capacity of the Yard

The number of OCCUPIED occupancies against the declared capacity, with any number of events at
once. The capacity is looked at on one branch of the first layer, long before the occupancy is
inserted: an admission that a rule makes never looks at it, and two entries can look at it
before either is inside.
-/

namespace ParkingSystem

open Table Transaction

/-! ## Occupancies, committed and pending -/

/-- The number of OCCUPIED rows. -/
def occupiedRows (rows : List ParkingOccupancy) : ℤ :=
  (rows.filter fun o => o.status == .occupied).length

theorem confirmedOccupancy_eq (s : Store) : confirmedOccupancy s = occupiedRows s.occupancies := rfl

theorem occupiedRows_nonneg (rows : List ParkingOccupancy) : 0 ≤ occupiedRows rows :=
  Int.natCast_nonneg _

theorem occupiedRows_append (rows rows' : List ParkingOccupancy) :
    occupiedRows (rows ++ rows') = occupiedRows rows + occupiedRows rows' := by
  simp [occupiedRows]

theorem occupiedRows_singleton_le (o : ParkingOccupancy) : occupiedRows [o] ≤ 1 := by
  cases h : o.status == .occupied <;> simp [occupiedRows, h]

/-- The rows once one of them is vacated. -/
def vacatedRows (id : ℕ) (now : ℤ) (rows : List ParkingOccupancy) : List ParkingOccupancy :=
  updateWhere (fun r => r.id == id)
    (fun r => { r with vacatedAt := some now, status := .vacated }) rows

theorem vacatedRows_append (id : ℕ) (now : ℤ) (rows rows' : List ParkingOccupancy) :
    vacatedRows id now (rows ++ rows') = vacatedRows id now rows ++ vacatedRows id now rows' :=
  List.map_append

/-- Vacating an occupancy adds nobody. -/
theorem occupiedRows_vacated_le (id : ℕ) (now : ℤ) (rows : List ParkingOccupancy) :
    occupiedRows (vacatedRows id now rows) ≤ occupiedRows rows := by
  induction rows with
  | nil => exact Int.le_refl _
  | cons o rows ih =>
    have hhead : occupiedRows (vacatedRows id now [o]) ≤ occupiedRows [o] := by
      rw [vacatedRows, updateWhere_cons, updateWhere_nil]
      split
      · exact occupiedRows_nonneg [o]
      · exact Int.le_refl _
    have hrows := vacatedRows_append id now [o] rows
    have hcount := occupiedRows_append [o] rows
    rw [List.singleton_append] at hrows hcount
    rw [hrows, hcount, occupiedRows_append]
    omega

/-- Pending updates of the gate: some rows are rewritten, without making any OCCUPIED, others
are added, and the settings stay. -/
structure YardPending (pend : Store → Store) : Prop where
  rows : ∃ (rewrite : List ParkingOccupancy → List ParkingOccupancy)
    (added : List ParkingOccupancy), (∀ s, (pend s).occupancies = rewrite s.occupancies ++ added) ∧
      ∀ rows, occupiedRows (rewrite rows) ≤ occupiedRows rows
  settings : ∀ s, (pend s).appSettings = s.appSettings

/-- The entries of a connection that are recorded and not committed: those its pending updates
would make in an empty yard. -/
def inFlight (pend : Store → Store) : ℤ := confirmedOccupancy (pend {})

/-- What a statement may add. -/
def occupancyCost (st : Stmt) : ℤ :=
  match st.label with
  | .insertOccupancy => 1
  | _ => 0

theorem yardPending_id : YardPending id where
  rows := ⟨id, [], by simp, fun _ => Int.le_refl _⟩
  settings _ := rfl

/-- A statement of the gate leaves the occupancies alone, adds one, or vacates one. -/
theorem GateStmt.occupancies {st : Stmt} (h : GateStmt st) :
    (∀ s, (st.apply s).occupancies = s.occupancies) ∨ (∃ o, st = insertOccupancy o) ∨
      ∃ id now, st = vacate id now := by
  cases h with
  | reading h =>
    cases h
    exact Or.inl fun _ => rfl
  | decision h => cases h <;> exact Or.inl fun _ => rfl
  | event ev => exact Or.inl fun _ => rfl
  | entry h =>
    cases h with
    | session n => exact Or.inl fun _ => rfl
    | occupancy o => exact Or.inr (Or.inl ⟨o, rfl⟩)
    | space h => cases h <;> exact Or.inl fun _ => rfl
  | exit h =>
    cases h with
    | occupancy id now => exact Or.inr (Or.inr ⟨id, now, rfl⟩)
    | space h => cases h <;> exact Or.inl fun _ => rfl

theorem GateStmt.appSettings {st : Stmt} (h : GateStmt st) (s : Store) :
    (st.apply s).appSettings = s.appSettings := by
  cases h with
  | reading h =>
    cases h
    rfl
  | decision h => cases h <;> rfl
  | event ev => rfl
  | entry h =>
    cases h with
    | space h => cases h <;> rfl
    | _ => rfl
  | exit h =>
    cases h with
    | space h => cases h <;> rfl
    | _ => rfl

theorem YardPending.send {st : Stmt} (h : GateStmt st) {pend : Store → Store}
    (hpend : YardPending pend) : YardPending fun s => st.apply (pend s) := by
  obtain ⟨⟨rewrite, added, hrows, hle⟩, hsettings⟩ := hpend
  refine ⟨?_, fun s => (h.appSettings _).trans (hsettings s)⟩
  rcases h.occupancies with hsame | ⟨o, rfl⟩ | ⟨id, now, rfl⟩
  · exact ⟨rewrite, added, fun s => (hsame _).trans (hrows s), hle⟩
  · refine ⟨rewrite, added ++ [o], fun s => ?_, hle⟩
    show (pend s).occupancies ++ [o] = _
    rw [hrows, List.append_assoc]
  · refine ⟨fun rows => vacatedRows id now (rewrite rows), vacatedRows id now added,
      fun s => ?_, fun rows => (occupiedRows_vacated_le id now _).trans (hle rows)⟩
    show vacatedRows id now (pend s).occupancies = _
    rw [hrows, vacatedRows_append]

/-- **The shares of the yard**: an entry costs one place, and nothing else costs any. -/
theorem yardShares {env : Store → Store → Prop}
    (henv : ∀ s s', env s s' → confirmedOccupancy s' ≤ confirmedOccupancy s) :
    Shares GateStmt YardPending env confirmedOccupancy inFlight occupancyCost where
  nonneg _ := occupiedRows_nonneg _
  idle := rfl
  commits pend hpend s := by
    obtain ⟨⟨rewrite, added, hrows, hle⟩, _⟩ := hpend
    have hadded : occupiedRows added ≤ inFlight pend := by
      rw [inFlight, confirmedOccupancy_eq, hrows, occupiedRows_append]
      exact Int.le_add_of_nonneg_left (occupiedRows_nonneg _)
    rw [confirmedOccupancy_eq, hrows, occupiedRows_append, confirmedOccupancy_eq]
    exact Int.add_le_add (hle _) hadded
  sends st hst pend hpend := by
    have hcost : 0 ≤ occupancyCost st := by
      unfold occupancyCost
      split <;> decide
    rcases hst.occupancies with hsame | ⟨o, rfl⟩ | ⟨id, now, rfl⟩
    · rw [inFlight, inFlight, confirmedOccupancy_eq, hsame, ← confirmedOccupancy_eq]
      omega
    · show occupiedRows ((pend {}).occupancies ++ [o]) ≤ occupiedRows (pend {}).occupancies + 1
      rw [occupiedRows_append]
      exact Int.add_le_add_left (occupiedRows_singleton_le o) _
    · have hle := occupiedRows_vacated_le id now (pend {}).occupancies
      show occupiedRows (vacatedRows id now (pend {}).occupancies) ≤ occupiedRows _ + 0
      omega
  env := henv

/-! ## The gate at large -/

/-- What a request sends. -/
theorem GateRequest.allWrites (cfg : Config) (q : GateRequest) :
    (q.handler cfg).AllWrites GateStmt := q.allWrites_of cfg coversEvent_gateStmt

section

variable {ι : Type} [Fintype ι]

/-- **The condition.** Whenever an occupancy is inserted, the yard is not full, counting the
entries that are recorded and not yet committed. -/
def InsertsWithRoom (cfg : Config) (w : World ι Store Lock Label AppError GateAnswer) :
    Label → Store → Prop
  | .insertOccupancy, _ => yardCapacityDecision (declaredCapacity cfg w.committed)
      (w.potential confirmedOccupancy inFlight) = none
  | _, _ => True

/-- Gate requests, with the declared capacity left alone; others may only vacate. -/
def yardRegime (allowed : World ι Store Lock Label AppError GateAnswer → Label → Store → Prop)
    (w : World ι Store Lock Label AppError GateAnswer) : Regime Store Label where
  isFresh s n := n ∉ s.ids
  allowed := allowed w
  env s s' := confirmedOccupancy s' ≤ confirmedOccupancy s ∧ s'.appSettings = s.appSettings

/-- What a yard with room keeps: the settings, and a potential within the capacity. -/
structure WithinCapacity (C : ℤ) (settings : List AppSetting)
    (w : World ι Store Lock Label AppError GateAnswer) : Prop where
  written : Written GateStmt YardPending w
  settings : w.committed.appSettings = settings
  room : w.potential confirmedOccupancy inFlight ≤ C

/-- The declared capacity depends on the settings only. -/
theorem declaredCapacity_congr (cfg : Config) {s s' : Store}
    (h : s'.appSettings = s.appSettings) : declaredCapacity cfg s' = declaredCapacity cfg s := by
  rw [declaredCapacity, declaredCapacity, storedCapacity, storedCapacity, h]

/-- A yard that is not full has room for one more. -/
theorem lt_of_not_full {C n : ℤ} (hC : 0 < C) (h : yardCapacityDecision (some C) n = none) :
    n < C := by
  by_contra hfull
  rw [yardCapacityDecision, if_neg (by omega), if_pos (by omega)] at h
  cases h

variable [DecidableEq ι]

/-- **Step**: an entry takes a place that is free. -/
theorem WithinCapacity.step {cfg : Config} {s : Store} {C : ℤ} (hC : 0 < C)
    (hdeclared : declaredCapacity cfg s = some C)
    {w w' : World ι Store Lock Label AppError GateAnswer}
    (h : WithinCapacity C s.appSettings w)
    (hstep : World.Step (yardRegime (InsertsWithRoom cfg) w) w w') :
    WithinCapacity C s.appSettings w' where
  written := h.written.step yardPending_id (fun _ hst _ hp => hp.send hst) hstep
  settings := by
    have henv : ∀ s₁ s₂, (yardRegime (InsertsWithRoom cfg) w).env s₁ s₂ →
        s₂.appSettings = s₁.appSettings := fun _ _ hs => hs.2
    have hsame := h.written.committed_rel (R := fun s s' => s'.appSettings = s.appSettings)
      (fun _ => rfl) (fun p hp s => hp.settings s) henv hstep
    exact hsame.trans h.settings
  room := by
    have hshares : Shares GateStmt YardPending (yardRegime (InsertsWithRoom cfg) w).env
        confirmedOccupancy inFlight occupancyCost := yardShares fun _ _ hs => hs.1
    have hroom := h.room
    rcases hshares.step h.written hstep with hle | ⟨st, v, _, hallowed, hle⟩
    · omega
    · -- only an occupancy costs anything, and it is inserted with room
      unfold occupancyCost at hle
      split at hle
      · rename_i hlabel
        rw [hlabel] at hallowed
        have hnone : yardCapacityDecision (declaredCapacity cfg w.committed) _ = none := hallowed
        rw [declaredCapacity_congr cfg h.settings, hdeclared] at hnone
        have hlt := lt_of_not_full hC hnone
        omega
      · omega

/-- **Capacity**: in every run in which occupancies are inserted with room, the yard never
holds more than its declared capacity. -/
theorem capacity_run (cfg : Config) (requests : ι → GateRequest) (s : Store) (C : ℤ)
    (hC : 0 < C) (hdeclared : declaredCapacity cfg s = some C) (hs : confirmedOccupancy s ≤ C)
    (w : World ι Store Lock Label AppError GateAnswer)
    (hrun : World.RunUnder (yardRegime (InsertsWithRoom cfg)) (gateWorld cfg requests s) w) :
    confirmedOccupancy w.committed ≤ C := by
  have hstart : WithinCapacity C s.appSettings (gateWorld cfg requests s) := by
    refine ⟨.start yardPending_id (fun i => (requests i).allWrites cfg) s, rfl, ?_⟩
    have hidle : inFlight (id : Store → Store) = 0 := rfl
    show confirmedOccupancy s + ∑ i : ι, inFlight id ≤ C
    simpa [hidle] using hs
  have hkept : WithinCapacity C s.appSettings w := by
    induction hrun with
    | refl => exact hstart
    | tail _ hstep ih => exact ih.step hC hdeclared hstep
  have hshares : Shares GateStmt YardPending (fun _ _ => False) confirmedOccupancy inFlight
      occupancyCost := yardShares fun _ _ => False.elim
  exact (hshares.committed_le w).trans hkept.room

end

/-! ### Two guests and one place -/

/-- Two plates, each at the gate once. -/
def twoGuests : Fin 2 → GateRequest
  | 0 => .plateEvent { gateCode := "G1", plateRaw := "12ب34567", sourceEventId := "1" }
  | 1 => .plateEvent { gateCode := "G1", plateRaw := "12ب34568", sourceEventId := "2" }

/-- A yard with one place. -/
def onePlace : Config := { yardCapacityTotal := some 1 }

instance (w : World (Fin 2) Store Lock Label AppError GateAnswer) :
    ∀ (l : Label) (v : Store), Decidable (InsertsWithRoom onePlace w l v)
  | .insertOccupancy, _ => inferInstanceAs (Decidable (yardCapacityDecision
      (declaredCapacity onePlace w.committed) (w.potential confirmedOccupancy inFlight) = none))
  | .insertSession _, _ | .insertRecognition _, _ | .insertEvent _, _ | .updateSession, _
  | .insertCharge, _ | .updateCharge _, _ | .insertPayment, _ | .insertAllocation, _
  | .insertAdjustment _, _ | .updateAdjustment _, _ | .updatePermit _, _
  | .updateOccupancy, _ | .lockSpace, _ | .updateSpace, _ | .insertAssignment, _
  | .updateAssignment, _ | .insertRule, _ | .updateRule _ _, _ | .insertTariff _, _
  | .updateTariff _ _, _ | .updateViolation, _
  | .updateAppeal, _ | .registry _, _ | .identity _, _ => inferInstanceAs (Decidable True)

instance (allowed : World (Fin 2) Store Lock Label AppError GateAnswer → Label → Store → Prop)
    (w : World (Fin 2) Store Lock Label AppError GateAnswer) (s : Store) (n : ℕ) :
    Decidable ((yardRegime allowed w).isFresh s n) := inferInstanceAs (Decidable (n ∉ s.ids))

instance (w : World (Fin 2) Store Lock Label AppError GateAnswer) (l : Label) (v : Store) :
    Decidable ((yardRegime (InsertsWithRoom onePlace) w).allowed l v) :=
  inferInstanceAs (Decidable (InsertsWithRoom onePlace w l v))

instance (w : World (Fin 2) Store Lock Label AppError GateAnswer) (l : Label) (v : Store) :
    Decidable ((yardRegime (fun _ _ _ => True) w).allowed l v) := inferInstanceAs (Decidable True)

/-- The first guest takes the place. -/
theorem capacity_run_onePlace :
    ∃ w, World.RunUnder (yardRegime (InsertsWithRoom onePlace))
        (gateWorld onePlace twoGuests guestStore) w ∧
      w.committed.occupancies.length = 1 ∧ confirmedOccupancy w.committed ≤ 1 := by
  have hrun : (World.burstUnder (yardRegime (InsertsWithRoom onePlace)) 0 0 27 10
      (gateWorld onePlace twoGuests guestStore)).any
      (fun w => w.committed.occupancies.length == 1) = true := by decide
  obtain ⟨w, hw, hlength⟩ := (Option.any_eq_true _ _).1 hrun
  have hsteps := World.burstUnder_run hw
  exact ⟨w, hsteps, beq_iff_eq.1 hlength, capacity_run onePlace twoGuests guestStore 1
    (by decide) rfl (by decide) w hsteps⟩

/-- **The second guest** comes in as well: a rule admits both, and on that branch nobody asks
whether the yard is full. -/
theorem yard_overfull :
    ¬ ∀ (cfg : Config) (requests : Fin 2 → GateRequest) (s : Store) (C : ℤ), 0 < C →
      declaredCapacity cfg s = some C → confirmedOccupancy s ≤ C →
      (∀ i e, requests i = .plateEvent e → e.isManual = false) →
      ∀ w, World.RunUnder (yardRegime fun _ _ _ => True) (gateWorld cfg requests s) w →
        confirmedOccupancy w.committed ≤ C := by
  intro h
  -- one guest after the other
  have hrun : ((World.burstUnder (yardRegime fun _ _ _ => True) 0 0 27 10
      (gateWorld onePlace twoGuests guestStore)).bind
        (World.burstUnder (yardRegime fun _ _ _ => True) 1 0 27 40)).any
      (fun w => decide (1 < confirmedOccupancy w.committed)) = true := by decide
  obtain ⟨w, hw, hmore⟩ := (Option.any_eq_true _ _).1 hrun
  obtain ⟨w₁, hfirst, hsecond⟩ := Option.bind_eq_some_iff.1 hw
  have hsteps := (World.burstUnder_run hfirst).trans (World.burstUnder_run hsecond)
  have hmanual : ∀ i e, twoGuests i = .plateEvent e → e.isManual = false := by
    refine Fin.forall_fin_two.2 ⟨fun e he => ?_, fun e he => ?_⟩
    · cases he
      rfl
    · cases he
      rfl
  have hle := h onePlace twoGuests guestStore 1 (by decide) rfl (by decide) hmanual w hsteps
  have hlt := of_decide_eq_true hmore
  omega

end ParkingSystem
