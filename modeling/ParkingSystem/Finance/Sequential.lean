import ParkingSystem.Finance.KeepsBooks

/-!
# Requests One After the Other

Every finite sequence of finance operations, each in a transaction of its own with nobody else
on the store. The books are kept along the whole sequence, except by the approval of a
negative adjustment that takes more off a charge than was paid on it: the amount of an
adjustment comes from the request unchecked.
-/

namespace ParkingSystem

open Table Transaction

/-! ## Operations -/

/-- One operation on the finance tables. -/
inductive FinanceOp where
  | createPayment (body : PaymentCreate) (user : Option ℕ)
  | closeSession (loaded session : ParkingSession)
  | settleExit (session : ParkingSession) (now graceMinutes : ℤ)
  | createAdjustment (body : AdjustmentCreate) (user : Option ℕ)
  | approveAdjustment (adjustmentId : ℕ) (user : Option ℕ)
  | confirmViolation (violationId : ℕ) (user : Option ℕ)
  | cancelViolation (violationId : ℕ) (user : Option ℕ)
  | reviewAppeal (appealId : ℕ) (result : String) (note : Option String) (user : Option ℕ)

namespace FinanceOp

/-- The handler of an operation, up to its commit. -/
def handler (cfg : Config) : FinanceOp → Handler Unit
  | createPayment body user => (ParkingSystem.createPayment cfg body user).bind fun _ => .ret ()
  | closeSession loaded session => do
    let closing ← closeSessionAmounts cfg loaded session
    flushClosing closing
    Prog.commitTx
  | settleExit session now graceMinutes => do
    let _ ← settleExitWithPrepaidCredit session now graceMinutes
    Prog.commitTx
  | createAdjustment body user => (ParkingSystem.createAdjustment body user).bind fun _ => .ret ()
  | approveAdjustment adjustmentId user =>
    (ParkingSystem.approveAdjustment cfg adjustmentId user).bind fun _ => .ret ()
  | confirmViolation violationId user =>
    (ParkingSystem.confirmViolation violationId user).bind fun _ => .ret ()
  | cancelViolation violationId user =>
    (ParkingSystem.cancelViolation violationId user).bind fun _ => .ret ()
  | reviewAppeal appealId result note user =>
    (ParkingSystem.reviewAppeal appealId result note user).bind fun _ => .ret ()

/-- The session after an operation: it runs on what is committed, and what it left
uncommitted is gone. An exception ends the operation, not the sequence. -/
def after (cfg : Config) (clk : ℕ → ℤ) (op : FinanceOp) (w : Session Store) : Session Store :=
  let w' := ((op.handler cfg).exec clk (Session.fresh w.committed w.nextId w.tick)).2
  Session.fresh w'.committed w'.nextId w'.tick

/-- What an operation must not do: approve an adjustment that takes more off an unpaid charge
than was paid on it. -/
def Admissible (s : Store) : FinanceOp → Prop
  | approveAdjustment adjustmentId _ => Approvable adjustmentId s
  | _ => True

end FinanceOp

/-- The session after a sequence of operations. -/
def afterAll (cfg : Config) (clk : ℕ → ℤ) : List FinanceOp → Session Store → Session Store
  | [], w => w
  | op :: ops, w => afterAll cfg clk ops (op.after cfg clk w)

/-- Every operation of a sequence is admissible where it runs. -/
def AllAdmissible (cfg : Config) (clk : ℕ → ℤ) : List FinanceOp → Session Store → Prop
  | [], _ => True
  | op :: ops, w => op.Admissible w.committed ∧ AllAdmissible cfg clk ops (op.after cfg clk w)

/-! ## The ledger invariant -/

/-- **The ledger invariant**: charges within their bounds, payments not overdrawn, what is
paid on a charge accounted for by allocations and by the credit of approved adjustments on it,
and PAID exactly when nothing is outstanding. -/
structure LedgerInvariant (s : Store) : Prop where
  bounds : ∀ c ∈ s.charges, 0 ≤ c.paidAmount ∧ c.paidAmount ≤ c.amount
  payments : ∀ p ∈ s.payments, allocatedSum p.id s ≤ p.amount
  balance : ∀ c ∈ s.charges, c.paidAmount = allocatedTo c.id s + grantedOn c.id s
  credit : ∀ g ∈ s.grants, ∃ a ∈ s.adjustments, a.id = g.adjustmentId ∧ g.Of a
  once : (s.grants.map Grant.adjustmentId).Nodup
  status : ∀ c ∈ s.charges, c.status ≠ .voided → (c.status = .paid ↔ chargeOutstanding c = 0)

/-- Finance tables with nothing in them. -/
structure NoFinance (s : Store) : Prop where
  charges : s.charges = []
  payments : s.payments = []
  allocations : s.allocations = []
  adjustments : s.adjustments = []
  grants : s.grants = []

theorem NoFinance.books {s : Store} (h : NoFinance s) (strict : Prop) : Books strict s where
  charge id := by
    constructor <;> simp [chargeRows, allocatedTo, allocationsOf, grantedOn, grantsOf, h.charges,
      h.allocations, h.grants]
  adjustment id := by
    constructor <;> simp [adjustmentRows, grantsBy, h.adjustments, h.grants]
  payments _ := by
    constructor <;> simp [h.payments, h.allocations]

theorem Books.invariant {s : Store} (h : Books True s) : LedgerInvariant s where
  bounds c hc :=
    have hrow := (h.charge c.id).row c (mem_rowsAt.2 ⟨hc, rfl⟩)
    ⟨hrow.nonneg, hrow.le⟩
  payments := (h.payments trivial).within
  balance c hc := by
    simpa using (h.charge c.id).balance c (mem_rowsAt.2 ⟨hc, rfl⟩)
  credit g hg := by
    obtain ⟨a, ha, hof⟩ := (h.adjustment g.adjustmentId).granted g (mem_rowsAt.2 ⟨hg, rfl⟩)
    exact ⟨a, (mem_rowsAt.1 ha).1, (mem_rowsAt.1 ha).2, hof⟩
  once := nodup_map_of_rowsAt fun id => (h.adjustment id).once
  status c hc := ((h.charge c.id).row c (mem_rowsAt.2 ⟨hc, rfl⟩)).status not_false

/-! ## Running alone -/

/-- Nobody else: every statement goes through, and nothing else commits. -/
def soloRegime : Regime Store Label where
  isFresh _ _ := True
  allowed _ _ := True
  env _ _ := False

/-- The committed store moves only by the handler's own commits. -/
def soloRely : Interference Store Lock := fun _ s s' => s = s'

theorem soloMode : LedgerMode soloRegime soloRely True where
  refl _ _ := rfl
  trans _ _ _ _ h h' := h.trans h'
  draw _ _ _ _ h := h
  rely _ _ s' h hs := by
    obtain rfl := h
    exact ⟨hs, fun id _ => .refl id _, fun id _ => .refl id _⟩
  alone _ _ _ _ h := h
  current := Or.inl trivial

/-- A handler that keeps the books, run alone. -/
theorem books_exec {α : Type} {p : Handler α} {s : Store} (clk : ℕ → ℤ)
    (h : KeepsBooks soloRegime soloRely True p id {} s) (hs : Books True s) (nextId tick : ℕ) :
    Books True (p.exec clk (Session.fresh s nextId tick)).2.committed := by
  let T (s s' : Store) : Prop := Books True s → Books True s'
  have hT : T s (p.exec clk (Session.fresh s nextId tick)).2.committed := by
    refine (Prog.Safe.exec (fun _ _ => rfl) (fun _ _ => trivial) (fun _ _ _ _ _ _ _ => trivial)
      (fun _ h => h) (fun _ _ _ h h' hs => h' (h hs)) (fun _ _ _ hG hs => (hG hs).books) clk
      h rfl rfl (by simp) fun _ _ => trivial).2.1
  exact hT hs

/-- **Step**: an admissible operation keeps the books. -/
theorem FinanceOp.keepsBooks (cfg : Config) {op : FinanceOp} {s : Store} (hs : Books True s)
    (hop : op.Admissible s) : KeepsBooks soloRegime soloRely True (op.handler cfg) id {} s := by
  have hM := soloMode
  have hret (a : Unit) : LedgerSafe soloRegime soloRely True (.ret a : Handler Unit) :=
    ledgerSafe_ret hM a
  have of {p : Handler Unit} (h : LedgerSafe soloRegime soloRely True p) :
      KeepsBooks soloRegime soloRely True p id {} s :=
    h _ _ _ _ hs fun _ => Settled.start hs
  cases op with
  | createPayment body user =>
    exact of ((ledgerSafe_createPayment hM cfg body user).bind hM fun _ => hret ())
  | closeSession loaded session =>
    exact of ((ledgerSafe_closeSessionAmounts hM cfg loaded session).bind hM fun closing =>
      (ledgerSafe_flushClosing hM closing).bind hM fun _ => ledgerSafe_commit hM)
  | settleExit session now graceMinutes =>
    exact of ((ledgerSafe_settleExitWithPrepaidCredit hM session now graceMinutes).bind hM
      fun _ => ledgerSafe_commit hM)
  | createAdjustment body user =>
    exact of ((ledgerSafe_createAdjustment hM body user).bind hM fun _ => hret ())
  | approveAdjustment adjustmentId user =>
    have happ := safe_approveAdjustment hM cfg user hs fun _ => hop
    exact happ.bind hM.refl (fun _ _ _ _ _ hQ => hret () _ _ _ _ hQ.1 hQ.2)
      fun _ _ _ _ _ hQ => hQ
  | confirmViolation violationId user =>
    exact of ((ledgerSafe_confirmViolation hM violationId user).bind hM fun _ => hret ())
  | cancelViolation violationId user =>
    exact of ((ledgerSafe_cancelViolation hM violationId user).bind hM fun _ => hret ())
  | reviewAppeal appealId result note user =>
    exact of ((ledgerSafe_reviewAppeal hM appealId result note user).bind hM fun _ => hret ())

/-- **Run**: a sequence of admissible operations keeps the books. -/
theorem books_afterAll (cfg : Config) (clk : ℕ → ℤ) {ops : List FinanceOp} {w : Session Store}
    (hw : Books True w.committed) (hops : AllAdmissible cfg clk ops w) :
    Books True (afterAll cfg clk ops w).committed := by
  induction ops generalizing w with
  | nil => exact hw
  | cons op ops ih =>
    exact ih (books_exec clk (FinanceOp.keepsBooks cfg hw hops.1) hw w.nextId w.tick) hops.2

/-- **Sequential ledger**: from empty finance tables, every sequence of operations in which
no approval takes more off a charge than was paid on it ends with the ledger invariant. -/
theorem ledger_afterAll (cfg : Config) (clk : ℕ → ℤ) (ops : List FinanceOp) (w : Session Store)
    (hw : NoFinance w.committed) (hops : AllAdmissible cfg clk ops w) :
    LedgerInvariant (afterAll cfg clk ops w).committed :=
  (books_afterAll cfg clk (hw.books True) hops).invariant

/-! ### A violation of 100, its charge, and an adjustment -/

/-- One registered violation, nothing else. -/
def fineStore : Store :=
  { violations := [{ id := 1, plateNormalized := none, penaltyAmount := 100 }] }

/-- Confirm the violation, pay 60 of its charge, request an adjustment and approve it. -/
def fineOps (adjustment : ℤ) : List FinanceOp :=
  [.confirmViolation 1 none,
    .createPayment { amount := 60, referenceNumber := some "R1", positive := by decide } none,
    .createAdjustment { entityId := 10, amount := .int adjustment } none,
    .approveAdjustment 13 none]

/-- Taking 20 back off the 60 that were paid is admissible. -/
theorem ledger_afterAll_fine :
    LedgerInvariant (afterAll {} (fun _ => 0) (fineOps (-20))
      (Session.fresh fineStore 10 0)).committed := by
  refine ledger_afterAll {} (fun _ => 0) (fineOps (-20)) (Session.fresh fineStore 10 0)
    ⟨rfl, rfl, rfl, rfl, rfl⟩ ⟨trivial, trivial, trivial, ?_, trivial⟩
  change Approvable 13 _
  decide

/-- **Taking 70 back off the 60 that were paid** leaves the charge at minus ten. -/
theorem ledger_broken_by_adjustment :
    ¬ ∀ (cfg : Config) (clk : ℕ → ℤ) (ops : List FinanceOp) (w : Session Store),
      NoFinance w.committed → LedgerInvariant (afterAll cfg clk ops w).committed := by
  intro h
  have hinv := h {} (fun _ => 0) (fineOps (-70)) (Session.fresh fineStore 10 0)
    ⟨rfl, rfl, rfl, rfl, rfl⟩
  have hnonneg : ∀ c ∈ (afterAll {} (fun _ => 0) (fineOps (-70))
      (Session.fresh fineStore 10 0)).committed.charges, 0 ≤ c.paidAmount :=
    fun c hc => (hinv.bounds c hc).1
  revert hnonneg
  decide

end ParkingSystem
