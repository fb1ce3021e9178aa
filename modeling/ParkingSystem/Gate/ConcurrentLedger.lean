import ParkingSystem.Finance.PaymentScope
import ParkingSystem.Gate.KeepsBooks
import ParkingSystem.Library.Scheduler

/-!
# The Ledger Between Concurrent Requests

Payments, exits and approvals at once, one statement at a time. Nothing locks a charge while
it is being read, and an UPDATE writes absolute values: what another request committed since
the charge was read is overwritten. Where every UPDATE finds its row as it was loaded, the
books are kept along every run.
-/

namespace ParkingSystem

open Table Transaction

/-! ## Requests -/

/-- A request that pays, settles or credits charges. -/
inductive LedgerRequest where
  | createPayment (body : PaymentCreate) (user : Option ℕ)
  /-- An exit settles its session with prepaid credit. -/
  | plateEvent (e : PlateEvent)
  | approveAdjustment (adjustmentId : ℕ) (user : Option ℕ)

/-- The handler of a request, without its answer. -/
def LedgerRequest.handler (cfg : Config) : LedgerRequest → Handler Unit
  | createPayment body user => (ParkingSystem.createPayment cfg body user).bind fun _ => .ret ()
  | plateEvent e => (processPlateEvent cfg e).bind fun _ => .ret ()
  | approveAdjustment adjustmentId user =>
    (ParkingSystem.approveAdjustment cfg adjustmentId user).bind fun _ => .ret ()

/-- The requests arrive at a store. -/
def ledgerWorld {ι : Type} (cfg : Config) (requests : ι → LedgerRequest) (s : Store) :
    World ι Store Lock Label AppError Unit := .start s fun i => (requests i).handler cfg

/-! ## The condition on a run -/

/-- No UPDATE overwrites what its request did not see: a charge and an adjustment are written
back over the row they were loaded from. An adjustment that is approved takes nothing back. -/
def FindsLoadedRow : Label → Store → Prop
  | .updateCharge c, v => c ∈ v.charges
  | .updateAdjustment a, v => a ∈ v.adjustments ∧ 0 ≤ a.amount
  | _, _ => True

instance : ∀ (l : Label) (v : Store), Decidable (FindsLoadedRow l v)
  | .updateCharge c, v => inferInstanceAs (Decidable (c ∈ v.charges))
  | .updateAdjustment a, v => inferInstanceAs (Decidable (a ∈ v.adjustments ∧ 0 ≤ a.amount))
  | .insertRecognition _, _ | .insertEvent _, _ | .insertSession _, _ | .updateSession, _
  | .insertCharge, _ | .insertPayment, _ | .insertAllocation, _ | .insertAdjustment _, _
  | .updatePermit _, _ | .insertOccupancy, _ | .updateOccupancy, _ | .lockSpace, _
  | .updateSpace, _ | .insertAssignment, _ | .updateAssignment, _ | .insertRule, _
  | .updateRule _ _, _ | .insertTariff _, _
  | .updateTariff _ _, _ | .updateViolation, _ | .updateAppeal, _ | .registry _, _ | .identity _, _ =>
    inferInstanceAs (Decidable True)

/-- Ledger requests under a condition on their statements; the rest of the system works on
other tables. -/
def ledgerRegime (allowed : Label → Store → Prop) : Regime Store Label where
  isFresh s n := n ∉ s.ids
  allowed := allowed
  env := LedgerSame

instance (allowed : Label → Store → Prop) (s : Store) (n : ℕ) :
    Decidable ((ledgerRegime allowed).isFresh s n) := inferInstanceAs (Decidable (n ∉ s.ids))

instance (l : Label) (v : Store) : Decidable ((ledgerRegime FindsLoadedRow).allowed l v) :=
  inferInstanceAs (Decidable (FindsLoadedRow l v))

instance (l : Label) (v : Store) : Decidable ((ledgerRegime fun _ _ => True).allowed l v) :=
  inferInstanceAs (Decidable True)

/-! ## Rely -/

/-- While the books are in order, the others keep them so and leave locked rows alone. -/
def ledgerR : Interference Store Lock := fun H s s' => Books False s → LedgerRely False H s s'

theorem LedgerSame.rely {s s' : Store} (h : LedgerSame s s') (H : Held Lock) : ledgerR H s s' :=
  fun hs => {
    books := {
      charge := fun id => (hs.charge id).of_same (h.charge id)
      adjustment := fun id => (hs.adjustment id).of_same (h.adjustment id)
      payments := False.elim }
    charge := fun id _ => h.charge id
    adjustment := fun id _ => h.adjustment id }

theorem ledgerR_trans (H : Held Lock) (s₁ s₂ s₃ : Store) (h : ledgerR H s₁ s₂)
    (h' : ledgerR H s₂ s₃) : ledgerR H s₁ s₃ := by
  intro hs
  have h₁ := h hs
  have h₂ := h' h₁.books
  exact ⟨h₂.books, fun id hl => (h₁.charge id hl).trans (h₂.charge id hl),
    fun id hl => (h₁.adjustment id hl).trans (h₂.adjustment id hl)⟩

theorem concurrentMode : LedgerMode (ledgerRegime FindsLoadedRow) ledgerR False where
  refl H _ := LedgerSame.rely ⟨rfl, rfl, rfl, rfl, rfl⟩ H
  trans := ledgerR_trans
  draw _ _ _ _ h hs := ⟨(h hs).books, (h hs).charge, (h hs).adjustment⟩
  rely _ _ _ h := h
  alone h := h.elim
  current := Or.inr ⟨fun _ _ h => h, fun _ _ h => h⟩

theorem ledgerContract {ι : Type} : World.Contract (ledgerRegime FindsLoadedRow) ledgerR
    (ledgerG False)
    (fun _ : ι => fun (r : Except (Exc AppError) Unit) pend b H s =>
      Books False s → LedgerPost False r pend b H s) where
  refl := concurrentMode.refl
  trans := concurrentMode.trans
  env _ _ h H := LedgerSame.rely h H
  guarantee _ _ _ _ hd hG hs :=
    -- what one transaction locked, no other one holds
    ⟨(hG hs).books, fun id hl => (hG hs).charge id fun hl' => hd.locks _ hl' hl,
      fun id hl => (hG hs).adjustment id fun hl' => hd.locks _ hl' hl⟩
  aborted _ _ hs := ⟨hs, fun _ => Settled.start hs⟩
  closed _ _ _ _ _ _ _ _ _ hs := ⟨hs, fun _ => Settled.start hs⟩

/-- **Step**: every request keeps the books, from whatever store it arrives at. -/
theorem LedgerRequest.keepsBooks (cfg : Config) (q : LedgerRequest) {s : Store}
    (hs : Books False s) :
    KeepsBooks (ledgerRegime FindsLoadedRow) ledgerR False (q.handler cfg) id {} s := by
  have hM := concurrentMode
  have hret (u : Unit) : LedgerSafe (ledgerRegime FindsLoadedRow) ledgerR False
      (.ret u : Handler Unit) := ledgerSafe_ret hM u
  cases q with
  | createPayment body user =>
    exact ((ledgerSafe_createPayment hM cfg body user).bind hM fun _ => hret ()) _ _ _ _ hs
      fun _ => Settled.start hs
  | plateEvent e =>
    exact ((ledgerSafe_processPlateEvent hM cfg e).bind hM fun _ => hret ()) _ _ _ _ hs
      fun _ => Settled.start hs
  | approveAdjustment adjustmentId user =>
    exact (safe_approveAdjustment hM cfg user hs False.elim).bind hM.refl
      (fun _ _ _ _ _ hQ => hret () _ _ _ _ hQ.1 hQ.2) fun _ _ _ _ _ hQ => hQ

/-! ## Every run -/

/-- No charge is settled twice and no allocation is lost: what is allocated to a charge stays
within its amount, and what is paid on it is what was allocated to it and what approved
adjustments credited, each of them once. -/
structure LedgerBalanced (s : Store) : Prop where
  within : ∀ c ∈ s.charges, allocatedTo c.id s ≤ c.amount
  balance : ∀ c ∈ s.charges, c.paidAmount = allocatedTo c.id s + grantedOn c.id s
  credit : ∀ g ∈ s.grants, ∃ a ∈ s.adjustments, a.id = g.adjustmentId ∧ g.Of a
  once : (s.grants.map Grant.adjustmentId).Nodup

theorem grantedOn_nonneg {id : ℕ} {s : Store} (h : ∀ g ∈ grantsOf id s, 0 ≤ g.amount) :
    0 ≤ grantedOn id s :=
  List.sum_nonneg fun a ha => by
    obtain ⟨g, hg, rfl⟩ := List.mem_map.1 ha
    exact h g hg

theorem Books.balanced {s : Store} (h : Books False s) : LedgerBalanced s where
  within c hc := by
    have hrow : c ∈ chargeRows c.id s := mem_rowsAt.2 ⟨hc, rfl⟩
    have hle := ((h.charge c.id).row c hrow).le
    have hbalance := (h.charge c.id).balance c hrow
    -- no credit is negative, so the allocations are at most what is paid
    have hcredit := grantedOn_nonneg ((h.charge c.id).grants not_false)
    omega
  balance c hc := by
    simpa using (h.charge c.id).balance c (mem_rowsAt.2 ⟨hc, rfl⟩)
  credit g hg := by
    obtain ⟨a, ha, hof⟩ := (h.adjustment g.adjustmentId).granted g (mem_rowsAt.2 ⟨hg, rfl⟩)
    exact ⟨a, (mem_rowsAt.1 ha).1, (mem_rowsAt.1 ha).2, hof⟩
  once := nodup_map_of_rowsAt fun id => (h.adjustment id).once

/-- **Concurrent ledger**: in every run in which each UPDATE finds its row as it was loaded,
and no approved adjustment is negative, every committed store is balanced. -/
theorem ledger_run {ι : Type} [DecidableEq ι] (cfg : Config) (requests : ι → LedgerRequest)
    (s : Store) (hs : Books False s) (w : World ι Store Lock Label AppError Unit)
    (hrun : World.Run (ledgerRegime FindsLoadedRow) (ledgerWorld cfg requests s) w) :
    LedgerBalanced w.committed := by
  have hok : World.Ok (ledgerRegime FindsLoadedRow) ledgerR (ledgerG False)
      (fun _ r pend b H s => Books False s → LedgerPost False r pend b H s)
      (ledgerWorld cfg requests s) := by
    refine World.Ok.init fun i => Prog.Safe.mono ?_ ((requests i).keepsBooks cfg hs)
    exact fun _ _ _ _ _ hQ _ => hQ
  have hR := (hok.run ledgerContract hrun).2
  exact (hR hs).books.balanced

/-! ### Two payments for one debt -/

theorem books_debtStore : Books False debtStore where
  charge id := by
    by_cases hid : id = 5
    · subst hid
      have hrow : ∀ c ∈ chargeRows 5 debtStore, Charge.Ok False c := by
        intro c hc
        simp only [chargeRows, mem_rowsAt, debtStore, List.mem_singleton] at hc
        obtain ⟨rfl, _⟩ := hc
        constructor <;> decide
      constructor
      · decide
      · exact hrow
      · decide
      · exact fun _ => by decide
      · decide
    · have hrows : chargeRows id debtStore = [] := by
        simp [chargeRows, debtStore, rowsAt, Ne.symm hid]
      have halloc : allocatedTo id debtStore = 0 := by simp [allocatedTo, allocationsOf, debtStore]
      have hgrants : grantsOf id debtStore = [] := by simp [grantsOf, debtStore]
      constructor <;> simp [hrows, halloc, hgrants, grantedOn]
  adjustment id := by
    constructor <;> simp [adjustmentRows, grantsBy, debtStore]
  payments := False.elim

/-- Two payments of 70, each under its own reference, by the plate that owes 100. -/
def debtRace : Fin 2 → LedgerRequest
  | 0 => .createPayment { plateRaw := some "12ب34567", amount := 70, referenceNumber := some "R1"
                          positive := by decide } none
  | 1 => .createPayment { plateRaw := some "12ب34567", amount := 70, referenceNumber := some "R2"
                          positive := by decide } none

/-- What a schedule of the two payments leads to. -/
def afterRace (allowed : Label → Store → Prop)
    [∀ l v, Decidable ((ledgerRegime allowed).allowed l v)] (sched : List (Fin 2 × ℕ × ℤ)) :
    Option (World (Fin 2) Store Lock Label AppError Unit) :=
  World.runSchedule (ledgerRegime allowed) sched 10 (ledgerWorld {} debtRace debtStore)

/-- One payment after the other: each UPDATE finds its row as it was loaded. -/
theorem ledger_run_debtRace :
    ∃ w, World.Run (ledgerRegime FindsLoadedRow) (ledgerWorld {} debtRace debtStore) w ∧
      w.committed.payments.length = 2 ∧ LedgerBalanced w.committed := by
  have hrun : (afterRace FindsLoadedRow [(0, 14, 0), (1, 14, 0)]).any
      (fun w => w.committed.payments.length == 2) = true := by decide
  obtain ⟨w, hw, hlength⟩ := (Option.any_eq_true _ _).1 hrun
  have hsteps := World.runSchedule_run hw
  exact ⟨w, hsteps, beq_iff_eq.1 hlength,
    ledger_run {} debtRace debtStore books_debtStore w hsteps⟩

/-- Both payments committed and more than the charge was allocated to it. -/
def settledTwice (w : World (Fin 2) Store Lock Label AppError Unit) : Bool :=
  w.allReturned && w.committed.charges.any fun c => c.amount < allocatedTo c.id w.committed

/-- **A lost allocation**: the first payment reads the charge, the second one pays 70 of it,
and the first writes its own 70 over that. -/
theorem allocation_lost :
    ¬ ∀ (cfg : Config) (requests : Fin 2 → LedgerRequest) (s : Store)
      (w : World (Fin 2) Store Lock Label AppError Unit), Books False s →
      World.Run (ledgerRegime fun _ _ => True) (ledgerWorld cfg requests s) w →
      (∀ i, (w.conns i).prog.result? = some ()) → LedgerBalanced w.committed := by
  intro h
  have hrun : (afterRace (fun _ _ => True) [(0, 6, 0), (1, 14, 0), (0, 8, 0)]).any
      settledTwice = true := by decide
  obtain ⟨w, hw, htwice⟩ := (Option.any_eq_true _ _).1 hrun
  simp only [settledTwice, World.allReturned, Bool.and_eq_true, List.any_eq_true, List.all_eq_true,
    decide_eq_true_eq, Option.isSome_iff_exists] at htwice
  obtain ⟨hboth, c, hc, hmore⟩ := htwice
  have hdone (i : Fin 2) : (w.conns i).prog.result? = some () :=
    (hboth i (List.mem_finRange i)).choose_spec
  have hle := (h {} debtRace debtStore w books_debtStore (World.runSchedule_run hw) hdone).within c hc
  omega

end ParkingSystem
