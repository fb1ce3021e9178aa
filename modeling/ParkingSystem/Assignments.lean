import ParkingSystem.Library.Scheduler
import ParkingSystem.Parking

/-!
# One Active Assignment per Space

Any number of `create_assignment` and `close_assignment` requests at once. No unique index stands
behind the test for an ACTIVE assignment; what makes it hold is the order of the request: the row
of the space is locked first, then the test is made, and the lock lasts until the commit.

## Why closing needs no lock

Ending an assignment only takes an ACTIVE row away. Whoever holds a space has seen none, and none
is made by anybody else before the commit.
-/

namespace ParkingSystem

open Table Transaction

/-! ## Active assignments -/

/-- The ACTIVE assignments of a space. -/
def activeOf (spaceId : ℕ) (s : Store) : List ParkingAssignment :=
  s.assignments.filter fun a => a.parkingSpaceId == spaceId && a.status == "ACTIVE"

/-- Every space has at most one ACTIVE assignment. -/
def OneActive (s : Store) : Prop := ∀ spaceId, (activeOf spaceId s).length ≤ 1

/-- What the request looks for is an ACTIVE assignment. -/
theorem activeAssignment_eq_none {spaceId : ℕ} {s : Store} :
    activeAssignment spaceId s = none ↔ activeOf spaceId s = [] := by
  simp [activeAssignment, activeOf]

theorem activeOf_insertAssignment (a : ParkingAssignment) (spaceId : ℕ) (s : Store) :
    activeOf spaceId ((insertAssignment a).apply s) = activeOf spaceId s ++
      if a.parkingSpaceId = spaceId ∧ a.status = "ACTIVE" then [a] else [] := by
  simp [activeOf, insertAssignment, List.filter_append, List.filter_cons]

/-- Ending assignments makes none ACTIVE. -/
theorem activeOf_updateAssignment (id spaceId : ℕ) (s : Store) :
    (activeOf spaceId ((updateAssignment id "CLOSED").apply s)).length ≤
      (activeOf spaceId s).length := by
  unfold activeOf updateAssignment
  dsimp only
  induction s.assignments with
  | nil => simp
  | cons a rest ih =>
    rw [updateWhere_cons]
    by_cases hid : a.id = id
    · -- a row that is ended is not counted any more
      simp only [hid, beq_self_eq_true, if_true, List.filter_cons]
      simp only [String.reduceBEq, Bool.and_false, Bool.false_eq_true, if_false]
      split
      · exact ih.trans (Nat.le_succ _)
      · exact ih
    · simp only [beq_eq_false_iff_ne.2 hid, Bool.false_eq_true, if_false, List.filter_cons]
      split
      · exact Nat.succ_le_succ ih
      · exact ih

/-! ## Requests -/

/-- The two requests on assignments. -/
inductive AssignmentRequest where
  | create (body : ParkingAssignmentCreate)
  | close (assignmentId : ℕ)

/-- What a request runs; what it answers does not matter here. -/
def AssignmentRequest.handler : AssignmentRequest → Handler Unit
  | create body => (createAssignment body).bind fun _ => .ret ()
  | close assignmentId => closeAssignment assignmentId

/-- The rest of the system leaves the assignments alone. -/
def assignmentRegime : Regime Store Label where
  isFresh s n := ∀ a ∈ s.assignments, a.id ≠ n
  allowed _ _ := True
  env s s' := s'.assignments = s.assignments

/-- The requests arrive at a store. -/
def assignmentWorld {ι : Type} (requests : ι → AssignmentRequest) (s : Store) :
    World ι Store Lock Label AppError Unit :=
  .start s fun i => (requests i).handler

/-! ## Rely and guarantee -/

/-- The others keep the law, and make no assignment of a locked space. -/
def assignmentR : Interference Store Lock := fun H s s' =>
  (OneActive s → OneActive s') ∧ ∀ spaceId, .spaceRow spaceId ∈ H.locks →
    (activeOf spaceId s').length ≤ (activeOf spaceId s).length

/-- A commit keeps the law, and makes assignments of locked spaces only. -/
def assignmentG : Interference Store Lock := fun H s s' =>
  (OneActive s → OneActive s') ∧ ∀ spaceId, .spaceRow spaceId ∉ H.locks →
    (activeOf spaceId s').length ≤ (activeOf spaceId s).length

theorem assignmentR_trans (H : Held Lock) (s₁ s₂ s₃ : Store) (h : assignmentR H s₁ s₂)
    (h' : assignmentR H s₂ s₃) : assignmentR H s₁ s₃ :=
  ⟨fun hs => h'.1 (h.1 hs), fun spaceId hl => (h'.2 spaceId hl).trans (h.2 spaceId hl)⟩

theorem assignmentContract {ι : Type} :
    World.Contract assignmentRegime assignmentR assignmentG
      fun _ : ι => anyEnd (ε := AppError) (α := Unit) where
  refl _ _ := ⟨id, fun _ _ => le_rfl⟩
  trans := assignmentR_trans
  env s s' h H := by
    have hsame (spaceId : ℕ) : activeOf spaceId s' = activeOf spaceId s := by
      unfold activeOf
      rw [show s'.assignments = s.assignments from h]
    exact ⟨fun hs spaceId => hsame spaceId ▸ hs spaceId, fun spaceId _ => by rw [hsame]⟩
  guarantee H H' s s' hd hG := ⟨hG.1, fun spaceId hl => hG.2 spaceId fun hl' => hd.locks _ hl' hl⟩
  aborted _ _ := trivial
  closed _ _ _ _ _ _ _ _ _ := trivial

/-! ## The requests are safe -/

/-- An assignment of a locked space that has none keeps the law. -/
theorem assignmentG_insert {H : Held Lock} {a : ParkingAssignment} {s : Store}
    (hlock : .spaceRow a.parkingSpaceId ∈ H.locks) (hnone : activeOf a.parkingSpaceId s = []) :
    assignmentG H s ((insertAssignment a).apply s) := by
  refine ⟨fun hs spaceId => ?_, fun spaceId hl => ?_⟩
  · rw [activeOf_insertAssignment]
    by_cases hspace : a.parkingSpaceId = spaceId
    · subst hspace
      rw [hnone]
      split <;> simp
    · simpa [hspace] using hs spaceId
  · have hother : a.parkingSpaceId ≠ spaceId := fun hspace => hl (hspace ▸ hlock)
    rw [activeOf_insertAssignment, if_neg fun h => hother h.1, List.append_nil]

/-- Ending an assignment keeps the law, locks or not. -/
theorem assignmentG_update (H : Held Lock) (id : ℕ) (s : Store) :
    assignmentG H s ((updateAssignment id "CLOSED").apply s) :=
  ⟨fun hs spaceId => (activeOf_updateAssignment id spaceId s).trans (hs spaceId),
    fun spaceId _ => activeOf_updateAssignment id spaceId s⟩

/-- What was seen of a locked space is still so later in the transaction. -/
theorem activeOf_stays {H : Held Lock} {spaceId : ℕ} {s s' : Store}
    (hlock : .spaceRow spaceId ∈ H.locks) (hnone : activeOf spaceId s = [])
    (hR : assignmentR H s s') : activeOf spaceId s' = [] := by
  have hle := hR.2 spaceId hlock
  rw [hnone] at hle
  exact List.length_eq_zero_iff.1 (Nat.le_zero.1 hle)

/-- **Assigning is safe**: the lock is taken before the test, and held from the test over the
INSERT to the commit. -/
theorem safe_createAssignment (body : ParkingAssignmentCreate) (s : Store) :
    (createAssignment body).Safe assignmentRegime assignmentR assignmentG anyEnd id false {} s := by
  have hlive {P : Prop} : false = true → P := fun h => absurd h Bool.false_ne_true
  have hraise (e : AppError) {pend : Store → Store} {H : Held Lock} {s : Store} :
      (Prog.raise e : Handler ParkingAssignment).Safe assignmentRegime assignmentR assignmentG
        anyEnd pend false H s := fun _ _ => trivial
  refine Prog.safe_flush hlive (fun _ _ _ _ _ _ _ _ => trivial) fun _ s₁ _ _ _ => ?_
  refine Prog.safe_select hlive fun _ s₂ _ => ?_
  split
  · exact hraise _
  · dsimp only
    split
    · exact hraise _
    · refine Prog.safe_select hlive fun _ s₃ _ => ?_
      split
      · exact hraise _
      · rename_i hdup
        have hnone : activeOf body.parkingSpaceId s₃ = [] :=
          activeAssignment_eq_none.1 (by simpa [lockSpace] using hdup)
        have hlock : .spaceRow body.parkingSpaceId ∈
            (({} : Held Lock).lock (lockSpace body.parkingSpaceId).locks).locks := by
          simp [lockSpace]
        refine Prog.safe_select hlive fun _ s₄ hR₄ => ?_
        split
        · exact hraise _
        · refine Prog.safe_select hlive fun _ s₅ hR₅ => ?_
          split
          · exact hraise _
          · refine Prog.safe_newId fun s₆ n hR₆ _ => ?_
            refine Prog.safe_flush hlive (fun _ _ _ _ _ _ _ _ => trivial) fun _ s₇ hR₇ _ _ => ?_
            refine Prog.safe_commit hlive fun _ s₈ hR₈ => ⟨?_, fun _ _ => trivial⟩
            -- nobody made an assignment of the space since the test
            have hnone₅ := activeOf_stays hlock (activeOf_stays hlock hnone hR₄) hR₅
            have hnone₇ := activeOf_stays hlock (activeOf_stays hlock hnone₅ hR₆) hR₇
            have hnone₈ := activeOf_stays (List.mem_append_right _ hlock) hnone₇ hR₈
            exact assignmentG_insert (List.mem_append_right _ hlock) hnone₈

theorem safe_closeAssignment (assignmentId : ℕ) (s : Store) :
    (closeAssignment assignmentId).Safe assignmentRegime assignmentR assignmentG anyEnd id false
      {} s := by
  have hlive {P : Prop} : false = true → P := fun h => absurd h Bool.false_ne_true
  refine Prog.safe_select hlive fun _ s₁ _ => ?_
  split
  · exact fun _ _ => trivial
  · refine Prog.safe_flush hlive (fun _ _ _ _ _ _ _ _ => trivial) fun _ s₂ _ _ _ => ?_
    exact Prog.safe_commit_last hlive fun _ s₃ _ => ⟨assignmentG_update _ _ _, fun _ _ => trivial⟩

theorem AssignmentRequest.safe (request : AssignmentRequest) (s : Store) :
    request.handler.Safe assignmentRegime assignmentR assignmentG anyEnd id false {} s := by
  cases request with
  | create body =>
    exact (safe_createAssignment body s).bind (fun _ _ => ⟨fun h => h, fun _ _ => le_rfl⟩)
      (fun _ _ _ _ _ _ _ _ => trivial) fun _ _ _ _ _ _ => trivial
  | close assignmentId => exact safe_closeAssignment assignmentId s

/-! ## Every run -/

/-- **One active assignment**: in every run of any assignments and closings, every committed store
has at most one ACTIVE assignment of each space. -/
theorem oneActive_run {ι : Type} [DecidableEq ι] (requests : ι → AssignmentRequest) (s : Store)
    (hs : OneActive s) (w : World ι Store Lock Label AppError Unit)
    (hrun : World.Run assignmentRegime (assignmentWorld requests s) w) : OneActive w.committed := by
  have hok : World.Ok assignmentRegime assignmentR assignmentG (fun _ => anyEnd)
      (assignmentWorld requests s) := World.Ok.init fun i => (requests i).safe s
  exact (hok.run assignmentContract hrun).2.1 hs

/-! ### Two assignments of one space -/

instance (s : Store) (n : ℕ) : Decidable (assignmentRegime.isFresh s n) :=
  inferInstanceAs (Decidable (∀ a ∈ s.assignments, a.id ≠ n))

instance (l : Label) (s : Store) : Decidable (assignmentRegime.allowed l s) :=
  inferInstanceAs (Decidable True)

/-- A space without an assignment. -/
def freeSpaceStore : Store := { spaces := [{ id := 1, code := "P1" }] }

/-- Two assignments of the space arrive. -/
def twoAssignments (sched : List (Fin 2 × ℕ × ℤ)) :
    Option (World (Fin 2) Store Lock Label AppError Unit) :=
  World.runSchedule assignmentRegime sched 10
    (assignmentWorld (fun _ => .create { parkingSpaceId := 1 }) freeSpaceStore)

theorem oneActive_run_two : ∃ w, World.Run assignmentRegime (assignmentWorld
      (fun _ : Fin 2 => .create { parkingSpaceId := 1 }) freeSpaceStore) w ∧
    (activeOf 1 w.committed).length = 1 ∧ OneActive w.committed := by
  -- the second request gets the lock when the first one has committed
  have hrun : (twoAssignments [(0, 12, 0), (1, 6, 0)]).any
      (fun w => (activeOf 1 w.committed).length == 1) = true := by decide
  obtain ⟨w, hw, hone⟩ := (Option.any_eq_true _ _).1 hrun
  have hsteps := World.runSchedule_run hw
  exact ⟨w, hsteps, beq_iff_eq.1 hone,
    oneActive_run _ freeSpaceStore (fun _ => Nat.zero_le 1) w hsteps⟩

end ParkingSystem
