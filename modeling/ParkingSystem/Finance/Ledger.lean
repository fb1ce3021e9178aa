import ParkingSystem.Finance.Payments
import ParkingSystem.Library.Interleaving

/-!
# The Ledger

What must hold between charges, allocations, payments and adjustments, and how a transaction
in progress keeps it.

## Charge by charge

`ChargeOk strict id d lag s` says that the rows of one charge balance up to `d`: what is paid on it is
what was allocated to it and granted on it, plus `d`. Between the UPDATE of a charge and the
INSERT of the allocation that goes with it, `d` is the amount of the allocation. While `lag`
holds, the status of the charge is still to be brought up to date: a settlement writes the
paid amounts first and PAID at its end.

## A transaction in progress

`Posting` describes the pending updates of a transaction: they touch only charges and
adjustments whose rows are locked, what they do to a charge depends on that charge alone, and
on the view every charge balances up to a known difference. `Posting.stable` carries this
over what other transactions commit; each statement has one lemma that says how it moves the
differences. A transaction that commits with no difference left keeps the books.
-/

namespace ParkingSystem

open Table Transaction

/-! ## The books -/

/-- The allocations to a charge. -/
def allocationsOf (chargeId : ℕ) (s : Store) : List PaymentAllocation :=
  rowsAt PaymentAllocation.chargeId chargeId s.allocations

/-- The credit granted on a charge. -/
def grantsOf (chargeId : ℕ) (s : Store) : List Grant := rowsAt Grant.chargeId chargeId s.grants

/-- The credit granted by an adjustment. -/
def grantsBy (adjustmentId : ℕ) (s : Store) : List Grant :=
  rowsAt Grant.adjustmentId adjustmentId s.grants

/-- The rows of a charge; the primary key allows one. -/
def chargeRows (id : ℕ) (s : Store) : List Charge := rowsAt Charge.id id s.charges

/-- The rows of an adjustment. -/
def adjustmentRows (id : ℕ) (s : Store) : List FinancialAdjustment :=
  rowsAt FinancialAdjustment.id id s.adjustments

/-- What was allocated to a charge. -/
def allocatedTo (chargeId : ℕ) (s : Store) : ℤ :=
  ((allocationsOf chargeId s).map PaymentAllocation.amount).sum

/-- What adjustments granted on a charge. -/
def grantedOn (chargeId : ℕ) (s : Store) : ℤ := ((grantsOf chargeId s).map Grant.amount).sum

/-- One charge's row on its own: within its bounds, and PAID exactly when nothing is
outstanding, unless it is voided or its status lags behind. -/
structure Charge.Ok (lag : Prop) (c : Charge) : Prop where
  nonneg : 0 ≤ c.paidAmount
  le : c.paidAmount ≤ c.amount
  status : ¬lag → c.status ≠ .voided → (c.status = .paid ↔ chargeOutstanding c = 0)

/-- The rows of one charge, balanced up to `d`. Unless `strict`, no credit on it is negative,
so what is allocated to it stays within its amount. -/
structure ChargeOk (strict : Prop) (id : ℕ) (d : ℤ) (lag : Prop) (s : Store) : Prop where
  unique : (chargeRows id s).length ≤ 1
  row : ∀ c ∈ chargeRows id s, c.Ok lag
  balance : ∀ c ∈ chargeRows id s, c.paidAmount = allocatedTo id s + grantedOn id s + d
  grants : ¬strict → ∀ g ∈ grantsOf id s, 0 ≤ g.amount
  /-- The foreign keys: nothing is allocated to or granted on a charge that is not there. -/
  missing : chargeRows id s = [] → allocatedTo id s = 0 ∧ grantedOn id s = 0 ∧ d = 0

/-- A grant is the credit of an adjustment: the adjustment is approved, it is for the charge
the credit is on, and it asks for at least the credit. -/
structure Grant.Of (g : Grant) (a : FinancialAdjustment) : Prop where
  approved : a.status = .approved
  entityType : a.entityType = "CHARGE"
  entityId : a.entityId = g.chargeId
  le : g.amount ≤ a.amount

/-- One adjustment: it granted credit at most once, and only as it may. -/
structure AdjustmentOk (id : ℕ) (s : Store) : Prop where
  unique : (adjustmentRows id s).length ≤ 1
  once : (grantsBy id s).length ≤ 1
  granted : ∀ g ∈ grantsBy id s, ∃ a ∈ adjustmentRows id s, g.Of a

/-- No payment is allocated beyond its amount, and nothing is allocated from a payment that
is not there. -/
structure PaymentsOk (s : Store) : Prop where
  ids : (s.payments.map Payment.id).Nodup
  within : ∀ p ∈ s.payments, allocatedSum p.id s ≤ p.amount
  known : ∀ a ∈ s.allocations, ∃ p ∈ s.payments, p.id = a.paymentId

/-- A payment has an amount left to allocate. -/
def HasRoom (paymentId : ℕ) (amount : ℤ) (s : Store) : Prop :=
  ∃ p ∈ s.payments, p.id = paymentId ∧ allocatedSum paymentId s + amount ≤ p.amount

/-- **The books**: every charge balances and every adjustment is in order. With `strict`,
which is for requests one after the other, no payment is overdrawn either. -/
structure Books (strict : Prop) (s : Store) : Prop where
  charge : ∀ id, ChargeOk strict id 0 False s
  adjustment : ∀ id, AdjustmentOk id s
  payments : strict → PaymentsOk s

/-! ## One charge in two stores -/

/-- Two stores agree on everything about one charge. -/
structure ChargeSame (id : ℕ) (s s' : Store) : Prop where
  rows : chargeRows id s = chargeRows id s'
  allocations : allocationsOf id s = allocationsOf id s'
  grants : grantsOf id s = grantsOf id s'

namespace ChargeSame

theorem refl (id : ℕ) (s : Store) : ChargeSame id s s := ⟨rfl, rfl, rfl⟩

theorem symm {id : ℕ} {s s' : Store} (h : ChargeSame id s s') : ChargeSame id s' s :=
  ⟨h.rows.symm, h.allocations.symm, h.grants.symm⟩

theorem trans {id : ℕ} {s₁ s₂ s₃ : Store} (h : ChargeSame id s₁ s₂) (h' : ChargeSame id s₂ s₃) :
    ChargeSame id s₁ s₃ :=
  ⟨h.rows.trans h'.rows, h.allocations.trans h'.allocations, h.grants.trans h'.grants⟩

end ChargeSame

/-- Two stores agree on everything about one adjustment. -/
structure AdjustmentSame (id : ℕ) (s s' : Store) : Prop where
  rows : adjustmentRows id s = adjustmentRows id s'
  grants : grantsBy id s = grantsBy id s'

namespace AdjustmentSame

theorem refl (id : ℕ) (s : Store) : AdjustmentSame id s s := ⟨rfl, rfl⟩

theorem symm {id : ℕ} {s s' : Store} (h : AdjustmentSame id s s') : AdjustmentSame id s' s :=
  ⟨h.rows.symm, h.grants.symm⟩

theorem trans {id : ℕ} {s₁ s₂ s₃ : Store} (h : AdjustmentSame id s₁ s₂)
    (h' : AdjustmentSame id s₂ s₃) : AdjustmentSame id s₁ s₃ :=
  ⟨h.rows.trans h'.rows, h.grants.trans h'.grants⟩

end AdjustmentSame

theorem ChargeOk.of_same {strict : Prop} {id : ℕ} {d : ℤ} {lag : Prop} {s s' : Store}
    (h : ChargeOk strict id d lag s) (hs : ChargeSame id s s') : ChargeOk strict id d lag s' := by
  have ha : allocatedTo id s' = allocatedTo id s := by rw [allocatedTo, allocatedTo, hs.allocations]
  have hg : grantedOn id s' = grantedOn id s := by rw [grantedOn, grantedOn, hs.grants]
  refine ⟨hs.rows ▸ h.unique, hs.rows ▸ h.row, ?_, hs.grants ▸ h.grants, ?_⟩
  · rw [ha, hg, ← hs.rows]
    exact h.balance
  · rw [ha, hg, ← hs.rows]
    exact h.missing

theorem AdjustmentOk.of_same {id : ℕ} {s s' : Store} (h : AdjustmentOk id s)
    (hs : AdjustmentSame id s s') : AdjustmentOk id s' := by
  refine ⟨hs.rows ▸ h.unique, hs.grants ▸ h.once, ?_⟩
  rw [← hs.rows, ← hs.grants]
  exact h.granted

/-! ## Rely and guarantee -/

/-- What a transaction that holds `H` may rely on, as long as the books are in order. -/
structure LedgerRely (strict : Prop) (H : Held Lock) (s s' : Store) : Prop where
  books : Books strict s'
  charge : ∀ id, .chargeRow id ∈ H.locks → ChargeSame id s s'
  adjustment : ∀ id, .adjustmentRow id ∈ H.locks → AdjustmentSame id s s'

/-- What a transaction that held `H` did to the committed store. -/
structure LedgerGuarantee (strict : Prop) (H : Held Lock) (s s' : Store) : Prop where
  books : Books strict s'
  charge : ∀ id, .chargeRow id ∉ H.locks → ChargeSame id s s'
  adjustment : ∀ id, .adjustmentRow id ∉ H.locks → AdjustmentSame id s s'

/-- How ledger transactions are run: what they rely on, and why a loaded row is still current
when it is written back. Either nobody else is there (`strict`), or the condition on the run
says so. -/
structure LedgerMode (ρ : Regime Store Label) (R : Interference Store Lock) (strict : Prop) :
    Prop where
  refl : ∀ H s, R H s s
  trans : ∀ H s₁ s₂ s₃, R H s₁ s₂ → R H s₂ s₃ → R H s₁ s₃
  draw : ∀ H n s s', R (H.draw n) s s' → R H s s'
  rely : ∀ H s s', R H s s' → Books strict s → LedgerRely strict H s s'
  alone : strict → ∀ H s s', R H s s' → s = s'
  current : strict ∨ (∀ c v, ρ.allowed (.updateCharge c) v → c ∈ v.charges) ∧
    ∀ a v, ρ.allowed (.updateAdjustment a) v → a ∈ v.adjustments ∧ 0 ≤ a.amount

/-- A guarantee that may assume the books. -/
def ledgerG (strict : Prop) : Interference Store Lock :=
  fun H s s' => Books strict s → LedgerGuarantee strict H s s'

/-! ## A transaction in progress -/

/-- Move one difference. -/
def bump (d : ℕ → ℤ) (id : ℕ) (δ : ℤ) : ℕ → ℤ := fun j => d j + if id = j then δ else 0

@[simp] theorem bump_self (d : ℕ → ℤ) (id : ℕ) (δ : ℤ) : bump d id δ id = d id + δ := by
  simp [bump]

theorem bump_of_ne {id j : ℕ} (h : id ≠ j) (d : ℕ → ℤ) (δ : ℤ) : bump d id δ j = d j := by
  simp [bump, h]

/-- The pending updates `pend` of a transaction that holds `H`, over the committed store `s`,
with the differences `d` still to be made up and the status of the charge `lag` still to be
written. -/
structure Posting (strict : Prop) (pend : Store → Store) (H : Held Lock) (d : ℕ → ℤ)
    (lag : Option ℕ) (s : Store) : Prop where
  localCharge : ∀ id x y, ChargeSame id x y → ChargeSame id (pend x) (pend y)
  footCharge : ∀ id, .chargeRow id ∉ H.locks → ∀ x, ChargeSame id x (pend x)
  localAdjustment : ∀ id x y, AdjustmentSame id x y → AdjustmentSame id (pend x) (pend y)
  footAdjustment : ∀ id, .adjustmentRow id ∉ H.locks → ∀ x, AdjustmentSame id x (pend x)
  books : Books strict s
  charge : ∀ id, ChargeOk strict id (d id) (lag = some id) (pend s)
  adjustment : ∀ id, AdjustmentOk id (pend s)
  payments : strict → PaymentsOk (pend s)
  off : ∀ id, .chargeRow id ∉ H.locks → d id = 0 ∧ lag ≠ some id

/-- A transaction with nothing left to make up. -/
abbrev Settled (strict : Prop) (pend : Store → Store) (H : Held Lock) (s : Store) : Prop :=
  Posting strict pend H (fun _ => 0) none s

/-- A transaction that has done nothing yet. -/
theorem Settled.start {strict : Prop} {s : Store} (h : Books strict s) :
    Settled strict id {} s where
  localCharge _ _ _ hs := hs
  footCharge id _ x := .refl id x
  localAdjustment _ _ _ hs := hs
  footAdjustment id _ x := .refl id x
  books := h
  charge id := by simpa using h.charge id
  adjustment := h.adjustment
  payments := h.payments
  off _ _ := ⟨rfl, by simp⟩

section

variable {ρ : Regime Store Label} {R : Interference Store Lock} {strict : Prop}
  {pend : Store → Store} {H : Held Lock} {d : ℕ → ℤ} {lag : Option ℕ} {s s' : Store}

/-- What others commit does not disturb a transaction in progress. -/
theorem Posting.stable (hM : LedgerMode ρ R strict) (h : Posting strict pend H d lag s)
    (hR : R H s s') : Posting strict pend H d lag s' := by
  have hrely := hM.rely _ _ _ hR h.books
  refine { h with
    books := hrely.books, charge := fun id => ?_, adjustment := fun id => ?_
    payments := fun hs => ?_ }
  · by_cases hl : Lock.chargeRow id ∈ H.locks
    · exact (h.charge id).of_same (h.localCharge _ _ _ (hrely.charge id hl))
    · obtain ⟨hd, hlag⟩ := h.off id hl
      simp only [hd, hlag]
      exact (hrely.books.charge id).of_same (h.footCharge id hl s')
  · by_cases hl : Lock.adjustmentRow id ∈ H.locks
    · exact (h.adjustment id).of_same (h.localAdjustment _ _ _ (hrely.adjustment id hl))
    · exact (hrely.books.adjustment id).of_same (h.footAdjustment id hl s')
  · exact hM.alone hs _ _ _ hR ▸ h.payments hs

/-- Drawing an identifier and locking more change nothing. -/
theorem Posting.draw (h : Posting strict pend H d lag s) (n : ℕ) :
    Posting strict pend (H.draw n) d lag s := { h with }

/-- A transaction with no difference left keeps the books when it commits. -/
theorem Settled.commit (h : Settled strict pend H s) : ledgerG strict H s (pend s) := fun _ =>
  { books := ⟨fun id => by simpa using h.charge id, h.adjustment, h.payments⟩
    charge := fun id hl => h.footCharge id hl s
    adjustment := fun id hl => h.footAdjustment id hl s }

/-! ### Statements -/

/-- The tables the books are about. -/
structure LedgerSame (s s' : Store) : Prop where
  charges : s'.charges = s.charges
  allocations : s'.allocations = s.allocations
  payments : s'.payments = s.payments
  adjustments : s'.adjustments = s.adjustments
  grants : s'.grants = s.grants

theorem LedgerSame.charge (h : LedgerSame s s') (id : ℕ) : ChargeSame id s s' :=
  ⟨by rw [chargeRows, chargeRows, h.charges], by rw [allocationsOf, allocationsOf, h.allocations],
    by rw [grantsOf, grantsOf, h.grants]⟩

theorem LedgerSame.adjustment (h : LedgerSame s s') (id : ℕ) : AdjustmentSame id s s' :=
  ⟨by rw [adjustmentRows, adjustmentRows, h.adjustments], by rw [grantsBy, grantsBy, h.grants]⟩

theorem LedgerSame.paymentsOk (h : LedgerSame s s') (hp : PaymentsOk s) : PaymentsOk s' := by
  refine ⟨h.payments ▸ hp.ids, ?_, ?_⟩
  · simp only [allocatedSum, h.payments, h.allocations]
    exact hp.within
  · rw [h.payments, h.allocations]
    exact hp.known

/-- A statement on other tables. -/
theorem Posting.other (h : Posting strict pend H d lag s) {st : Stmt}
    (hst : ∀ x, LedgerSame x (st.apply x)) :
    Posting strict (fun x => st.apply (pend x)) (H.lock st.locks) d lag s where
  localCharge id x y hs :=
    ((hst _).charge id).symm.trans ((h.localCharge id x y hs).trans ((hst _).charge id))
  footCharge id hl x :=
    (h.footCharge id (fun hm => hl (List.mem_append_right _ hm)) x).trans ((hst _).charge id)
  localAdjustment id x y hs :=
    ((hst _).adjustment id).symm.trans
      ((h.localAdjustment id x y hs).trans ((hst _).adjustment id))
  footAdjustment id hl x :=
    (h.footAdjustment id (fun hm => hl (List.mem_append_right _ hm)) x).trans
      ((hst _).adjustment id)
  books := h.books
  charge id := (h.charge id).of_same ((hst _).charge id)
  adjustment id := (h.adjustment id).of_same ((hst _).adjustment id)
  payments hs := (hst _).paymentsOk (h.payments hs)
  off id hl := h.off id fun hm => hl (List.mem_append_right _ hm)

/-- A statement, by what it does charge by charge and adjustment by adjustment. -/
theorem Posting.step (h : Posting strict pend H d lag s) {st : Stmt} {d' : ℕ → ℤ}
    {lag' : Option ℕ}
    (hlc : ∀ id x y, ChargeSame id x y → ChargeSame id (st.apply x) (st.apply y))
    (hfc : ∀ id, .chargeRow id ∉ st.locks → .chargeRow id ∉ H.locks →
      (∀ x, ChargeSame id x (st.apply x)) ∧ d' id = d id ∧ (lag' = some id → lag = some id))
    (hla : ∀ id x y, AdjustmentSame id x y → AdjustmentSame id (st.apply x) (st.apply y))
    (hfa : ∀ id, .adjustmentRow id ∉ st.locks → .adjustmentRow id ∉ H.locks →
      ∀ x, AdjustmentSame id x (st.apply x))
    (hc : ∀ id, ChargeOk strict id (d' id) (lag' = some id) (st.apply (pend s)))
    (ha : ∀ id, AdjustmentOk id (st.apply (pend s)))
    (hp : strict → PaymentsOk (st.apply (pend s))) :
    Posting strict (fun x => st.apply (pend x)) (H.lock st.locks) d' lag' s where
  localCharge id x y hs := hlc id _ _ (h.localCharge id x y hs)
  footCharge id hl x := by
    obtain ⟨hl₁, hl₂⟩ := List.mem_append.not.1 hl |> not_or.1
    exact (h.footCharge id hl₂ x).trans ((hfc id hl₁ hl₂).1 _)
  localAdjustment id x y hs := hla id _ _ (h.localAdjustment id x y hs)
  footAdjustment id hl x := by
    obtain ⟨hl₁, hl₂⟩ := List.mem_append.not.1 hl |> not_or.1
    exact (h.footAdjustment id hl₂ x).trans (hfa id hl₁ hl₂ _)
  books := h.books
  charge := hc
  adjustment := ha
  payments := hp
  off id hl := by
    obtain ⟨hl₁, hl₂⟩ := List.mem_append.not.1 hl |> not_or.1
    obtain ⟨-, hd, hlag⟩ := hfc id hl₁ hl₂
    exact ⟨hd.trans (h.off id hl₂).1, fun hs => (h.off id hl₂).2 (hlag hs)⟩

/-- The row of a charge that is in the table. -/
theorem chargeRows_of_mem {c : Charge} (hc : c ∈ s.charges)
    (hu : (chargeRows c.id s).length ≤ 1) : chargeRows c.id s = [c] := by
  have hm : c ∈ chargeRows c.id s := mem_rowsAt.2 ⟨hc, rfl⟩
  obtain ⟨a, ha⟩ := List.length_eq_one_iff.1 (Nat.le_antisymm hu (List.length_pos_of_mem hm))
  rw [ha] at hm ⊢
  rw [List.mem_singleton.1 hm]

/-- The row of an adjustment that is in the table. -/
theorem adjustmentRows_of_mem {a : FinancialAdjustment} (ha : a ∈ s.adjustments)
    (hu : (adjustmentRows a.id s).length ≤ 1) : adjustmentRows a.id s = [a] := by
  have hm : a ∈ adjustmentRows a.id s := mem_rowsAt.2 ⟨ha, rfl⟩
  obtain ⟨b, hb⟩ := List.length_eq_one_iff.1 (Nat.le_antisymm hu (List.length_pos_of_mem hm))
  rw [hb] at hm ⊢
  rw [List.mem_singleton.1 hm]

theorem chargeRows_eq_nil {id : ℕ} (h : ∀ c ∈ s.charges, c.id ≠ id) : chargeRows id s = [] := by
  refine List.eq_nil_iff_forall_not_mem.2 fun c hc => ?_
  exact h c (mem_rowsAt.1 hc).1 (mem_rowsAt.1 hc).2

theorem adjustmentRows_eq_nil {id : ℕ} (h : ∀ a ∈ s.adjustments, a.id ≠ id) :
    adjustmentRows id s = [] := by
  refine List.eq_nil_iff_forall_not_mem.2 fun a ha => ?_
  exact h a (mem_rowsAt.1 ha).1 (mem_rowsAt.1 ha).2

/-- A new version of a charge: only what is paid and the status differ. -/
def Charge.Rewrites (c new : Charge) : Prop :=
  new = { c with paidAmount := new.paidAmount, status := new.status }

theorem Charge.Rewrites.written {c new : Charge} (h : c.Rewrites new) :
    Charge.written c new c = new := by
  rw [h]
  simp [Charge.written]

theorem Charge.Rewrites.id {c new : Charge} (h : c.Rewrites new) : new.id = c.id := by rw [h]

/-- What UPDATE of a charge does to the rows of each charge. -/
theorem chargeRows_update_self (c new : Charge) (s : Store) :
    chargeRows c.id ((updateCharge c new).apply s) =
      (chargeRows c.id s).map (Charge.written c new) :=
  rowsAt_updateWhere_self (fun r => Charge.written_id c new r) c.id s.charges

theorem chargeRows_update_of_ne {c new : Charge} {id : ℕ} (h : c.id ≠ id) (s : Store) :
    chargeRows id ((updateCharge c new).apply s) = chargeRows id s :=
  rowsAt_updateWhere_of_ne (fun r => Charge.written_id c new r) h s.charges

/-- UPDATE of a current charge moves its difference by what it adds to the paid amount; the
status may be left to lag behind. -/
theorem Posting.updateCharge (h : Posting strict pend H d lag s) {c new : Charge}
    (lag' : Option ℕ) (hlag : ∀ id, c.id ≠ id → (lag' = some id ↔ lag = some id))
    (hc : c ∈ (pend s).charges) (hn : c.Rewrites new) (hok : new.Ok (lag' = some c.id)) :
    Posting strict (fun x => (updateCharge c new).apply (pend x))
      (H.lock (ParkingSystem.updateCharge c new).locks)
      (bump d c.id (new.paidAmount - c.paidAmount)) lag' s := by
  have hview := chargeRows_of_mem hc (h.charge c.id).unique
  refine h.step (fun id x y hs => ?_) (fun id hl _ => ?_) (fun id x y hs => ⟨hs.rows, hs.grants⟩)
    (fun id _ _ x => ⟨rfl, rfl⟩) (fun id => ?_) (fun id => ?_) fun hs => ?_
  · rcases eq_or_ne c.id id with rfl | hne
    · exact ⟨by rw [chargeRows_update_self, chargeRows_update_self, hs.rows], hs.allocations,
        hs.grants⟩
    · exact ⟨by rw [chargeRows_update_of_ne hne, chargeRows_update_of_ne hne, hs.rows],
        hs.allocations, hs.grants⟩
  · have hne : c.id ≠ id := fun he => hl (by simp [ParkingSystem.updateCharge, he])
    exact ⟨fun x => ⟨(chargeRows_update_of_ne hne x).symm, rfl, rfl⟩, bump_of_ne hne _ _,
      (hlag id hne).1⟩
  · rcases eq_or_ne c.id id with rfl | hne
    · have hrow : chargeRows c.id ((ParkingSystem.updateCharge c new).apply (pend s)) = [new] := by
        rw [chargeRows_update_self, hview]
        simp [hn.written]
      have hbal := (h.charge c.id).balance c (by rw [hview]; exact List.mem_singleton_self c)
      refine ⟨by simp [hrow], by simpa [hrow] using hok, ?_, (h.charge c.id).grants,
        by simp [hrow]⟩
      rw [hrow, bump_self]
      intro r hr
      rw [List.mem_singleton.1 hr]
      change new.paidAmount = allocatedTo c.id (pend s) + grantedOn c.id (pend s) + _
      omega
    · rw [bump_of_ne hne]
      simp only [hlag id hne]
      exact (h.charge id).of_same ⟨(chargeRows_update_of_ne hne _).symm, rfl, rfl⟩
  · exact (h.adjustment id).of_same ⟨rfl, rfl⟩
  · exact ⟨(h.payments hs).ids, (h.payments hs).within, (h.payments hs).known⟩

@[simp] theorem allocatedSum_insert_self (a : PaymentAllocation) (s : Store) :
    allocatedSum a.paymentId ((insertAllocation a).apply s) =
      allocatedSum a.paymentId s + a.amount := by
  simp [allocatedSum, insertAllocation]

theorem allocatedSum_insert_of_ne {a : PaymentAllocation} {id : ℕ} (h : a.paymentId ≠ id)
    (s : Store) : allocatedSum id ((insertAllocation a).apply s) = allocatedSum id s := by
  simp [allocatedSum, insertAllocation, h]

/-- What an allocation leaves of a payment. -/
theorem HasRoom.insert {a : PaymentAllocation} {amount : ℤ}
    (h : HasRoom a.paymentId (a.amount + amount) s) :
    HasRoom a.paymentId amount ((insertAllocation a).apply s) := by
  obtain ⟨p, hp, hid, hle⟩ := h
  refine ⟨p, hp, hid, ?_⟩
  rw [allocatedSum_insert_self]
  omega

theorem HasRoom.mono {id : ℕ} {amount amount' : ℤ} (h : HasRoom id amount s)
    (hle : amount' ≤ amount) : HasRoom id amount' s := by
  obtain ⟨p, hp, hid, h⟩ := h
  exact ⟨p, hp, hid, by omega⟩

/-- INSERT of an allocation makes up the difference its charge was left with. -/
theorem Posting.insertAllocation (h : Posting strict pend H d lag s) {a : PaymentAllocation}
    (hl : .chargeRow a.chargeId ∈ H.locks) (hrow : chargeRows a.chargeId (pend s) ≠ [])
    (hp : strict → HasRoom a.paymentId a.amount (pend s)) :
    Posting strict (fun x => (insertAllocation a).apply (pend x))
      (H.lock (ParkingSystem.insertAllocation a).locks) (bump d a.chargeId (-a.amount)) lag s := by
  have hself (x : Store) : allocationsOf a.chargeId ((ParkingSystem.insertAllocation a).apply x) =
      allocationsOf a.chargeId x ++ [a] := rowsAt_append_self PaymentAllocation.chargeId _ a
  have hne {id : ℕ} (hid : a.chargeId ≠ id) (x : Store) :
      allocationsOf id ((ParkingSystem.insertAllocation a).apply x) = allocationsOf id x :=
    rowsAt_append_of_ne hid _
  refine h.step (fun id x y hs => ?_) (fun id _ hl' => ?_) (fun id x y hs => ⟨hs.rows, hs.grants⟩)
    (fun id _ _ x => ⟨rfl, rfl⟩) (fun id => ?_) (fun id => (h.adjustment id).of_same ⟨rfl, rfl⟩)
    fun hs => ?_
  · rcases eq_or_ne a.chargeId id with rfl | hid
    · exact ⟨hs.rows, by rw [hself, hself, hs.allocations], hs.grants⟩
    · exact ⟨hs.rows, by rw [hne hid, hne hid, hs.allocations], hs.grants⟩
  · have hid : a.chargeId ≠ id := fun he => hl' (he ▸ hl)
    exact ⟨fun x => ⟨rfl, (hne hid x).symm, rfl⟩, bump_of_ne hid _ _, fun hs => hs⟩
  · rcases eq_or_ne a.chargeId id with rfl | hid
    · have hc := h.charge a.chargeId
      have hsum : allocatedTo a.chargeId ((ParkingSystem.insertAllocation a).apply (pend s)) =
          allocatedTo a.chargeId (pend s) + a.amount := by
        simp [allocatedTo, hself]
      refine ⟨hc.unique, hc.row, fun c hcr => ?_, hc.grants, fun hnil => absurd hnil hrow⟩
      have hbal := hc.balance c hcr
      rw [bump_self, hsum]
      change c.paidAmount = _ + grantedOn a.chargeId (pend s) + _
      omega
    · rw [bump_of_ne hid]
      exact (h.charge id).of_same ⟨rfl, (hne hid _).symm, rfl⟩
  · obtain ⟨p, hpm, hpid, hle⟩ := hp hs
    have hpay := h.payments hs
    refine ⟨hpay.ids, fun q hq => ?_, fun b hb => ?_⟩
    · have hq' : q ∈ (pend s).payments := hq
      by_cases hqa : a.paymentId = q.id
      · have hqp : q = p :=
          List.inj_on_of_nodup_map hpay.ids hq' hpm (hqa.symm.trans hpid.symm)
        rw [← hqa, allocatedSum_insert_self, hqp]
        exact hle
      · rw [allocatedSum_insert_of_ne hqa]
        exact hpay.within q hq'
    · rcases List.mem_append.1 hb with hb | hb
      · exact hpay.known b hb
      · rw [List.mem_singleton.1 hb]
        exact ⟨p, hpm, hpid⟩

/-- A payment that was inserted has a new identifier. -/
theorem insertPayment_new {p : Payment} (hc : (insertPayment p).check s = none) :
    ∀ q ∈ s.payments, q.id ≠ p.id := by
  intro q hq he
  simp only [ParkingSystem.insertPayment] at hc
  split at hc
  · cases hc
  · split at hc
    · cases hc
    · rename_i hany
      exact hany (List.any_eq_true.2 ⟨q, hq, by simp [he]⟩)

/-- Nothing is allocated from a payment that is not there. -/
theorem PaymentsOk.unallocated (h : PaymentsOk s) {id : ℕ} (hnew : ∀ q ∈ s.payments, q.id ≠ id) :
    allocatedSum id s = 0 := by
  have hnil : s.allocations.filter (fun a => a.paymentId == id) = [] := by
    refine List.filter_eq_nil_iff.2 fun a ha he => ?_
    obtain ⟨q, hq, hqa⟩ := h.known a ha
    exact hnew q hq (hqa.trans (by simpa using he))
  simp [allocatedSum, hnil]

/-- INSERT of a payment: it has no allocation yet. -/
theorem Posting.insertPayment (h : Posting strict pend H d lag s) {p : Payment}
    (hc : (insertPayment p).check (pend s) = none) (hp : 0 ≤ p.amount) :
    Posting strict (fun x => (insertPayment p).apply (pend x))
      (H.lock (ParkingSystem.insertPayment p).locks) d lag s := by
  refine h.step (fun id x y hs => ⟨hs.rows, hs.allocations, hs.grants⟩)
    (fun id _ _ => ⟨fun x => ⟨rfl, rfl, rfl⟩, rfl, fun hs => hs⟩) (fun id x y hs => ⟨hs.rows, hs.grants⟩)
    (fun id _ _ x => ⟨rfl, rfl⟩) (fun id => (h.charge id).of_same ⟨rfl, rfl, rfl⟩)
    (fun id => (h.adjustment id).of_same ⟨rfl, rfl⟩) fun hs => ?_
  have hpay := h.payments hs
  have hnew := insertPayment_new hc
  refine ⟨?_, fun q hq => ?_, fun a ha => ?_⟩
  · simp only [ParkingSystem.insertPayment, List.map_append, List.map_cons, List.map_nil]
    refine List.nodup_append.2 ⟨hpay.ids, by simp, fun x hx y hy => ?_⟩
    obtain ⟨q, hq, rfl⟩ := List.mem_map.1 hx
    rw [List.mem_singleton.1 hy]
    exact hnew q hq
  · rcases List.mem_append.1 hq with hq | hq
    · exact hpay.within q hq
    · rw [List.mem_singleton.1 hq]
      change allocatedSum p.id (pend s) ≤ p.amount
      rw [hpay.unallocated hnew]
      exact hp
  · obtain ⟨q, hq, hqa⟩ := hpay.known a ha
    exact ⟨q, List.mem_append_left _ hq, hqa⟩

/-- INSERT of a charge: nothing is paid on it yet. -/
theorem Posting.insertCharge (h : Posting strict pend H d lag s) {c : Charge}
    (hc : (insertCharge c).check (pend s) = none) (hpos : 0 < c.amount)
    (hpaid : c.paidAmount = 0) (hst : c.status = .unpaid) :
    Posting strict (fun x => (insertCharge c).apply (pend x))
      (H.lock (ParkingSystem.insertCharge c).locks) d lag s := by
  have hself (x : Store) : chargeRows c.id ((ParkingSystem.insertCharge c).apply x) =
      chargeRows c.id x ++ [c] := rowsAt_append_self Charge.id _ c
  have hne {id : ℕ} (hid : c.id ≠ id) (x : Store) :
      chargeRows id ((ParkingSystem.insertCharge c).apply x) = chargeRows id x :=
    rowsAt_append_of_ne hid _
  have hnil : chargeRows c.id (pend s) = [] := by
    refine chargeRows_eq_nil fun r hr he => ?_
    simp only [ParkingSystem.insertCharge] at hc
    split at hc
    · cases hc
    · split at hc
      · cases hc
      · rename_i hany
        exact hany (List.any_eq_true.2 ⟨r, hr, by simp [he]⟩)
  refine h.step (fun id x y hs => ?_) (fun id hl' _ => ?_) (fun id x y hs => ⟨hs.rows, hs.grants⟩)
    (fun id _ _ x => ⟨rfl, rfl⟩) (fun id => ?_) (fun id => (h.adjustment id).of_same ⟨rfl, rfl⟩)
    fun hs => ⟨(h.payments hs).ids, (h.payments hs).within, (h.payments hs).known⟩
  · rcases eq_or_ne c.id id with rfl | hid
    · exact ⟨by rw [hself, hself, hs.rows], hs.allocations, hs.grants⟩
    · exact ⟨by rw [hne hid, hne hid, hs.rows], hs.allocations, hs.grants⟩
  · have hid : c.id ≠ id := fun he => hl' (by simp [ParkingSystem.insertCharge, he])
    exact ⟨fun x => ⟨(hne hid x).symm, rfl, rfl⟩, rfl, fun hs => hs⟩
  · rcases eq_or_ne c.id id with rfl | hid
    · obtain ⟨ha, hg, hd⟩ := (h.charge c.id).missing hnil
      have hrow : chargeRows c.id ((ParkingSystem.insertCharge c).apply (pend s)) = [c] := by
        rw [hself, hnil, List.nil_append]
      refine ⟨by simp [hrow], ?_, ?_, (h.charge c.id).grants, by simp [hrow]⟩
      · rw [hrow]
        intro r hr
        rw [List.mem_singleton.1 hr]
        refine ⟨hpaid.ge, by omega, fun _ _ => ?_⟩
        simp only [hst, chargeOutstanding, hpaid]
        constructor
        · intro hf; cases hf
        · intro hz; omega
      · rw [hrow]
        intro r hr
        rw [List.mem_singleton.1 hr]
        change c.paidAmount = allocatedTo c.id (pend s) + grantedOn c.id (pend s) + d c.id
        omega
    · exact (h.charge id).of_same ⟨(hne hid _).symm, rfl, rfl⟩

/-- INSERT of an adjustment: it granted nothing yet. -/
theorem Posting.insertAdjustment (h : Posting strict pend H d lag s) {a : FinancialAdjustment}
    (hc : (insertAdjustment a).check (pend s) = none) :
    Posting strict (fun x => (insertAdjustment a).apply (pend x))
      (H.lock (ParkingSystem.insertAdjustment a).locks) d lag s := by
  have hself (x : Store) : adjustmentRows a.id ((ParkingSystem.insertAdjustment a).apply x) =
      adjustmentRows a.id x ++ [a] := rowsAt_append_self FinancialAdjustment.id _ a
  have hne {id : ℕ} (hid : a.id ≠ id) (x : Store) :
      adjustmentRows id ((ParkingSystem.insertAdjustment a).apply x) = adjustmentRows id x :=
    rowsAt_append_of_ne hid _
  have hnil : adjustmentRows a.id (pend s) = [] := by
    refine adjustmentRows_eq_nil fun r hr he => ?_
    simp only [ParkingSystem.insertAdjustment] at hc
    split at hc
    · cases hc
    · split at hc
      · cases hc
      · rename_i hany
        exact hany (List.any_eq_true.2 ⟨r, hr, by simp [he]⟩)
  refine h.step (fun id x y hs => ⟨hs.rows, hs.allocations, hs.grants⟩)
    (fun id _ _ => ⟨fun x => ⟨rfl, rfl, rfl⟩, rfl, fun hs => hs⟩) (fun id x y hs => ?_)
    (fun id hl' _ x => ?_) (fun id => (h.charge id).of_same ⟨rfl, rfl, rfl⟩) (fun id => ?_)
    fun hs => ⟨(h.payments hs).ids, (h.payments hs).within, (h.payments hs).known⟩
  · rcases eq_or_ne a.id id with rfl | hid
    · exact ⟨by rw [hself, hself, hs.rows], hs.grants⟩
    · exact ⟨by rw [hne hid, hne hid, hs.rows], hs.grants⟩
  · have hid : a.id ≠ id := fun he => hl' (by simp [ParkingSystem.insertAdjustment, he])
    exact ⟨(hne hid x).symm, rfl⟩
  · rcases eq_or_ne a.id id with rfl | hid
    · have hrow : adjustmentRows a.id ((ParkingSystem.insertAdjustment a).apply (pend s)) = [a] := by
        rw [hself, hnil, List.nil_append]
      refine ⟨by simp [hrow], (h.adjustment a.id).once, fun g hg => ?_⟩
      obtain ⟨b, hb, _⟩ := (h.adjustment a.id).granted g hg
      rw [hnil] at hb
      simp at hb
    · exact (h.adjustment id).of_same ⟨(hne hid _).symm, rfl⟩

/-- The identifiers of the charges are distinct. -/
theorem Posting.charges_nodup (h : Posting strict pend H d lag s) :
    ((pend s).charges.map Charge.id).Nodup :=
  nodup_map_of_rowsAt fun id => (h.charge id).unique

/-- A pending adjustment granted nothing yet. -/
theorem AdjustmentOk.grantsBy_nil {a : FinancialAdjustment} (h : AdjustmentOk a.id s)
    (hrow : adjustmentRows a.id s = [a]) (hst : a.status = .pending) : grantsBy a.id s = [] := by
  refine List.eq_nil_iff_forall_not_mem.2 fun g hg => ?_
  obtain ⟨b, hb, hof⟩ := h.granted g hg
  rw [hrow, List.mem_singleton] at hb
  have happ := hof.approved
  rw [hb, hst] at happ
  cases happ

/-- An approval that has not granted its credit yet. -/
structure Approved (a : FinancialAdjustment) (s : Store) : Prop where
  row : ∃ user now, adjustmentRows a.id s = [a.approve user now]
  grants : grantsBy a.id s = []

theorem Approved.of_same {a : FinancialAdjustment} (h : Approved a s)
    (hs : AdjustmentSame a.id s s') : Approved a s' :=
  ⟨hs.rows ▸ h.row, hs.grants ▸ h.grants⟩

/-- UPDATE of a pending adjustment that is being approved. -/
theorem Posting.approve (h : Posting strict pend H d lag s) {a : FinancialAdjustment}
    (ha : a ∈ (pend s).adjustments) (hst : a.status = .pending) (user : Option ℕ) (now : ℤ) :
    Posting strict (fun x => (approveStmt a user now).apply (pend x))
        (H.lock (approveStmt a user now).locks) d lag s ∧
      Approved a ((approveStmt a user now).apply (pend s)) := by
  have hview := adjustmentRows_of_mem ha (h.adjustment a.id).unique
  have hnil := (h.adjustment a.id).grantsBy_nil hview hst
  have hself (x : Store) : adjustmentRows a.id ((approveStmt a user now).apply x) =
      (adjustmentRows a.id x).map (FinancialAdjustment.approve user now) :=
    rowsAt_updateWhere_self (FinancialAdjustment.approve_id user now) a.id x.adjustments
  have hne {id : ℕ} (hid : a.id ≠ id) (x : Store) :
      adjustmentRows id ((approveStmt a user now).apply x) = adjustmentRows id x :=
    rowsAt_updateWhere_of_ne (FinancialAdjustment.approve_id user now) hid _
  have hrow : adjustmentRows a.id ((approveStmt a user now).apply (pend s)) =
      [a.approve user now] := by
    rw [hself, hview, List.map_singleton]
  refine ⟨h.step (fun id x y hs => ⟨hs.rows, hs.allocations, hs.grants⟩)
    (fun id _ _ => ⟨fun x => ⟨rfl, rfl, rfl⟩, rfl, fun hs => hs⟩) (fun id x y hs => ?_)
    (fun id hl' _ x => ?_) (fun id => (h.charge id).of_same ⟨rfl, rfl, rfl⟩) (fun id => ?_)
    fun hs => ⟨(h.payments hs).ids, (h.payments hs).within, (h.payments hs).known⟩,
    ⟨user, now, hrow⟩, hnil⟩
  · rcases eq_or_ne a.id id with rfl | hid
    · exact ⟨by rw [hself, hself, hs.rows], hs.grants⟩
    · exact ⟨by rw [hne hid, hne hid, hs.rows], hs.grants⟩
  · have hid : a.id ≠ id := fun he => hl' (by simp [approveStmt, he])
    exact ⟨(hne hid x).symm, rfl⟩
  · rcases eq_or_ne a.id id with rfl | hid
    · have hgr : grantsBy a.id ((approveStmt a user now).apply (pend s)) = [] := hnil
      exact ⟨by simp [hrow], by simp [hgr], by simp [hgr]⟩
    · exact (h.adjustment id).of_same ⟨(hne hid _).symm, rfl⟩

/-- UPDATE of a charge by an approved adjustment: the credit is granted with it. -/
theorem Posting.creditCharge (h : Posting strict pend H d lag s) {a : FinancialAdjustment}
    {c new : Charge} (hc : c ∈ (pend s).charges) (hn : c.Rewrites new) (hok : new.Ok False)
    (hl : .adjustmentRow a.id ∈ H.locks) (happ : Approved a (pend s))
    (htype : a.entityType = "CHARGE") (hid : a.entityId = c.id)
    (hle : new.paidAmount - c.paidAmount ≤ a.amount)
    (hnonneg : ¬strict → c.paidAmount ≤ new.paidAmount) :
    Posting strict (fun x => (creditCharge a.id c new).apply (pend x))
      (H.lock (ParkingSystem.creditCharge a.id c new).locks) d lag s := by
  have hview := chargeRows_of_mem hc (h.charge c.id).unique
  let st := ParkingSystem.creditCharge a.id c new
  let g : Grant := { adjustmentId := a.id, chargeId := c.id
                     amount := new.paidAmount - c.paidAmount }
  have hrows (x : Store) : chargeRows c.id (st.apply x) =
      (chargeRows c.id x).map (Charge.written c new) := chargeRows_update_self c new x
  have hrows' {id : ℕ} (hid : c.id ≠ id) (x : Store) :
      chargeRows id (st.apply x) = chargeRows id x := chargeRows_update_of_ne hid x
  have hgr (x : Store) : grantsOf c.id (st.apply x) = grantsOf c.id x ++ [g] :=
    rowsAt_append_self Grant.chargeId _ g
  have hgr' {id : ℕ} (hid : g.chargeId ≠ id) (x : Store) :
      grantsOf id (st.apply x) = grantsOf id x := rowsAt_append_of_ne hid _
  have hby (x : Store) : grantsBy a.id (st.apply x) = grantsBy a.id x ++ [g] :=
    rowsAt_append_self Grant.adjustmentId _ g
  have hby' {id : ℕ} (hid : g.adjustmentId ≠ id) (x : Store) :
      grantsBy id (st.apply x) = grantsBy id x := rowsAt_append_of_ne hid _
  refine h.step (fun id x y hs => ?_) (fun id hl' _ => ?_) (fun id x y hs => ?_)
    (fun id _ hl' x => ?_) (fun id => ?_) (fun id => ?_)
    fun hs => ⟨(h.payments hs).ids, (h.payments hs).within, (h.payments hs).known⟩
  · rcases eq_or_ne c.id id with rfl | hid
    · exact ⟨by rw [hrows, hrows, hs.rows], hs.allocations, by rw [hgr, hgr, hs.grants]⟩
    · exact ⟨by rw [hrows' hid, hrows' hid, hs.rows], hs.allocations,
        by rw [hgr' hid, hgr' hid, hs.grants]⟩
  · have hid : c.id ≠ id := fun he => hl' (by simp [ParkingSystem.creditCharge, he])
    exact ⟨fun x => ⟨(hrows' hid x).symm, rfl, (hgr' hid x).symm⟩, rfl, fun hs => hs⟩
  · rcases eq_or_ne a.id id with rfl | hid
    · exact ⟨hs.rows, by rw [hby, hby, hs.grants]⟩
    · exact ⟨hs.rows, by rw [hby' hid, hby' hid, hs.grants]⟩
  · have hid : a.id ≠ id := fun he => hl' (he ▸ hl)
    exact ⟨rfl, (hby' hid x).symm⟩
  · rcases eq_or_ne c.id id with rfl | hid
    · have hch := h.charge c.id
      have hrow : chargeRows c.id (st.apply (pend s)) = [new] := by
        rw [hrows, hview]
        simp [hn.written]
      have hsum : grantedOn c.id (st.apply (pend s)) =
          grantedOn c.id (pend s) + (new.paidAmount - c.paidAmount) := by
        simp [grantedOn, hgr, g]
      have hbal := hch.balance c (by rw [hview]; exact List.mem_singleton_self c)
      refine ⟨by rw [hrow]; simp, ?_, ?_, ?_, by rw [hrow]; simp⟩
      · rw [hrow]
        intro r hr
        rw [List.mem_singleton.1 hr]
        exact ⟨hok.nonneg, hok.le, fun _ => hok.status not_false⟩
      · rw [hrow, hsum]
        intro r hr
        rw [List.mem_singleton.1 hr]
        change new.paidAmount = allocatedTo c.id (pend s) + _ + _
        omega
      · rw [hgr]
        intro hns g' hg'
        rcases List.mem_append.1 hg' with hg' | hg'
        · exact hch.grants hns g' hg'
        · rw [List.mem_singleton.1 hg']
          have hge := hnonneg hns
          change 0 ≤ new.paidAmount - c.paidAmount
          omega
    · exact (h.charge id).of_same ⟨(hrows' hid _).symm, rfl, (hgr' hid _).symm⟩
  · rcases eq_or_ne a.id id with rfl | hid
    · obtain ⟨user, now, hr⟩ := happ.row
      have hrow : adjustmentRows a.id (st.apply (pend s)) = [a.approve user now] := hr
      have hg : grantsBy a.id (st.apply (pend s)) = [g] := by
        rw [hby, happ.grants, List.nil_append]
      refine ⟨(h.adjustment a.id).unique, by rw [hg]; simp, ?_⟩
      rw [hg, hrow]
      intro g' hg'
      rw [List.mem_singleton.1 hg']
      exact ⟨_, List.mem_singleton_self _, rfl, htype, hid, hle⟩
    · exact (h.adjustment id).of_same ⟨rfl, (hby' hid _).symm⟩

end

end ParkingSystem
