import ParkingSystem.Finance.Posting

/-!
# The Money Handlers

Each handler that writes a charge, an allocation, a payment or an adjustment keeps the books.
A handler reads rows, computes in memory and writes absolute values back; `LedgerMode.current`
is what makes the rows it writes back the rows it read.
-/

namespace ParkingSystem

open Plate Table Transaction

section

variable {ρ : Regime Store Label} {R : Interference Store Lock} {strict : Prop}
  {α β : Type} {pend : Store → Store} {b : Bool} {H : Held Lock} {d : ℕ → ℤ} {lag : Option ℕ}
  {s s' : Store}

/-! ## What a list of allocations adds up to -/

/-- What a list of amounts adds to each charge. -/
def owed : List (ℕ × ℤ) → ℕ → ℤ
  | [] => fun _ => 0
  | (id, amount) :: rest => bump (owed rest) id amount

theorem owed_nonneg {l : List (ℕ × ℤ)} (h : ∀ x ∈ l, 0 < x.2) (id : ℕ) : 0 ≤ owed l id := by
  induction l with
  | nil => exact le_refl 0
  | cons x l ih =>
    have hx := h x List.mem_cons_self
    have hl := ih fun y hy => h y (List.mem_cons_of_mem x hy)
    simp only [owed, bump]
    split <;> omega

/-- The first of a list of positive amounts is owed to its charge. -/
theorem owed_head_pos {id : ℕ} {amount : ℤ} {l : List (ℕ × ℤ)}
    (h : ∀ x ∈ (id, amount) :: l, 0 < x.2) : 0 < owed ((id, amount) :: l) id := by
  have hx := h _ List.mem_cons_self
  have hl := owed_nonneg (fun y hy => h y (List.mem_cons_of_mem _ hy)) id
  rw [owed, bump_self]
  omega

theorem bump_bump_neg (d : ℕ → ℤ) (id : ℕ) (a : ℤ) : bump (bump d id a) id (-a) = d := by
  funext j
  simp only [bump]
  split <;> omega

/-- A charge with a difference is locked, and it is there. -/
theorem Posting.locked (h : Posting strict pend H d lag s) {id : ℕ} (hd : d id ≠ 0) :
    .chargeRow id ∈ H.locks ∧ chargeRows id (pend s) ≠ [] :=
  ⟨Classical.byContradiction fun hl => hd (h.off id hl).1,
    fun hnil => hd ((h.charge id).missing hnil).2.2⟩

/-! ## Payments -/

/-- Bringing the status of an unpaid charge up to date. -/
theorem Charge.settle_ok {c : Charge} (hst : c.status = .unpaid) (hnonneg : 0 ≤ c.paidAmount)
    (hle : c.paidAmount ≤ c.amount) : c.settle.Ok False := by
  unfold Charge.settle
  split
  · rename_i hdone
    have hzero : max 0 (c.amount - c.paidAmount) = 0 := le_antisymm hdone (le_max_left _ _)
    exact ⟨hnonneg, hle, fun _ _ => iff_of_true rfl hzero⟩
  · rename_i hopen
    exact ⟨hnonneg, hle, fun _ _ => iff_of_false (by simp [hst]) fun hz => hopen hz.le⟩

/-- `new` differs from `c` in what is paid and in the status only, and `settle` keeps that. -/
theorem Charge.Rewrites.settle {c new : Charge} (h : c.Rewrites new) : c.Rewrites new.settle := by
  rw [h]
  unfold Charge.settle
  split <;> rfl

/-- A charge that is paid in part. -/
theorem Charge.Ok.paidBy {lag : Prop} {c : Charge} (h : c.Ok lag) (hst : c.status = .unpaid)
    {a : ℤ} (hpos : 0 < a) (hle : a ≤ chargeOutstanding c) : (c.paidBy a).Ok False := by
  have hnonneg := h.nonneg
  unfold chargeOutstanding at hle
  exact Charge.settle_ok hst (by simp only; omega) (by simp only; omega)

theorem Charge.rewrites_paidBy (c : Charge) (a : ℤ) : c.Rewrites (c.paidBy a) :=
  Charge.Rewrites.settle rfl

@[simp] theorem Charge.paidBy_paidAmount (c : Charge) (a : ℤ) :
    (c.paidBy a).paidAmount = c.paidAmount + a := Charge.settle_paidAmount _

/-- Another charge is still there after an UPDATE. -/
theorem mem_charges_updateCharge {c new r : Charge} (hr : r ∈ s.charges) (hne : r.id ≠ c.id) :
    r ∈ ((updateCharge c new).apply s).charges :=
  mem_updateWhere.2 (Or.inr ⟨hr, by simpa using hne⟩)

/-- A charge that was read is there when it is written back. -/
theorem LedgerMode.mem_charges (hM : LedgerMode ρ R strict) {c : Charge} {v : Store}
    (hcur : strict → c ∈ v.charges) (ha : ρ.allowed (.updateCharge c) v) : c ∈ v.charges :=
  hM.current.elim hcur fun h => h.1 c v ha

/-- The charges a list of allocations goes to, as they were read. -/
structure Payable (l : List (Charge × ℤ)) : Prop where
  unpaid : ∀ x ∈ l, x.1.status = .unpaid
  bounds : ∀ x ∈ l, 0 < x.2 ∧ x.2 ≤ chargeOutstanding x.1
  ids : (l.map fun x => x.1.id).Nodup

/-- The UPDATEs of the charges leave each with the amount of its allocation to make up. -/
theorem safe_payCharges (hM : LedgerMode ρ R strict) {paymentId : ℕ} {total : ℤ}
    {l : List (Charge × ℤ)} (hl : Payable l) (hcur : strict → ∀ x ∈ l, x.1 ∈ (pend s).charges)
    (hroom : strict → HasRoom paymentId total (pend s)) (h : Posting strict pend H d none s)
    {k : Unit → Handler β}
    (hk : ∀ pend H s,
      Posting strict pend H (fun j => d j + owed (l.map fun x => (x.1.id, x.2)) j) none s →
      (strict → HasRoom paymentId total (pend s)) → KeepsBooks ρ R strict (k ()) pend H s) :
    KeepsBooks ρ R strict
      ((flushAll (l.map fun x => updateCharge x.1 (x.1.paidBy x.2))).bind k) pend H s := by
  induction l generalizing pend H d s with
  | nil => exact hk pend H s (by simpa [owed] using h) hroom
  | cons x l ih =>
    obtain ⟨hnotin, hids⟩ := List.nodup_cons.1 hl.ids
    refine h.safe_flushAll_cons hM fun s' h' _ ha hsame _ => ?_
    have hmem : x.1 ∈ (pend s').charges :=
      hM.mem_charges (fun hst => hsame hst ▸ hcur hst x List.mem_cons_self) ha
    have hrow := (h'.charge x.1.id).row x.1 (mem_rowsAt.2 ⟨hmem, rfl⟩)
    obtain ⟨hpos, hle⟩ := hl.bounds x List.mem_cons_self
    have hok := hrow.paidBy (hl.unpaid x List.mem_cons_self) hpos hle
    have hstep := h'.updateCharge none (fun _ _ => Iff.rfl) hmem
      (Charge.rewrites_paidBy x.1 x.2) (by simpa using hok)
    refine ih ⟨fun y hy => hl.unpaid y (List.mem_cons_of_mem x hy),
      fun y hy => hl.bounds y (List.mem_cons_of_mem x hy), hids⟩ (fun hst y hy => ?_)
      (fun hst => hsame hst ▸ hroom hst) hstep fun pend H s hpost => hk pend H s ?_
    · have hy' := hcur hst y (List.mem_cons_of_mem x hy)
      rw [hsame hst] at hy'
      exact mem_charges_updateCharge hy' fun he => hnotin (List.mem_map.2 ⟨y, hy, he⟩)
    · have hd : (fun j => d j + owed ((x :: l).map fun x => (x.1.id, x.2)) j) =
          fun j => bump d x.1.id ((x.1.paidBy x.2).paidAmount - x.1.paidAmount) j +
            owed (l.map fun x => (x.1.id, x.2)) j := by
        funext j
        simp only [List.map_cons, owed, bump, Charge.paidBy_paidAmount]
        split <;> omega
      rw [hd]
      exact hpost

/-- The amounts of allocation rows, by charge. -/
def rowAmounts (rows : List PaymentAllocation) : List (ℕ × ℤ) :=
  rows.map fun a => (a.chargeId, a.amount)

/-- The INSERTs of the allocations make the differences up. -/
theorem safe_insertAllocations (hM : LedgerMode ρ R strict) {paymentId : ℕ}
    {rows : List PaymentAllocation} (hpos : ∀ x ∈ rowAmounts rows, 0 < x.2)
    (hpay : ∀ a ∈ rows, a.paymentId = paymentId)
    (hroom : strict → HasRoom paymentId (rows.map PaymentAllocation.amount).sum (pend s))
    (h : Posting strict pend H (owed (rowAmounts rows)) none s) {k : Unit → Handler β}
    (hk : ∀ pend H s, Settled strict pend H s → KeepsBooks ρ R strict (k ()) pend H s) :
    KeepsBooks ρ R strict ((flushAll (rows.map insertAllocation)).bind k) pend H s := by
  induction rows generalizing pend H s with
  | nil => exact hk pend H s h
  | cons a rows ih =>
    refine h.safe_flushAll_cons hM fun s' h' _ _ hsame _ => ?_
    have hpos' : ∀ x ∈ rowAmounts rows, 0 < x.2 := fun x hx => hpos x (List.mem_cons_of_mem _ hx)
    obtain rfl := hpay a List.mem_cons_self
    obtain ⟨hlock, hrow⟩ := h'.locked (ne_of_gt (owed_head_pos hpos))
    have hleft (hst : strict) : HasRoom a.paymentId
        (a.amount + (rows.map PaymentAllocation.amount).sum) (pend s') :=
      hsame hst ▸ hroom hst
    have hsum : 0 ≤ (rows.map PaymentAllocation.amount).sum := by
      refine List.sum_nonneg fun y hy => ?_
      obtain ⟨c, hc, rfl⟩ := List.mem_map.1 hy
      exact le_of_lt (hpos' (c.chargeId, c.amount) (List.mem_map.2 ⟨c, hc, rfl⟩))
    have hstep := h'.insertAllocation hlock hrow fun hst => (hleft hst).mono (by omega)
    refine ih hpos' (fun c hc => hpay c (List.mem_cons_of_mem a hc))
      (fun hst => (hleft hst).insert) ?_
    have hd : bump (owed (rowAmounts (a :: rows))) a.chargeId (-a.amount) =
        owed (rowAmounts rows) := bump_bump_neg _ _ _
    rwa [hd] at hstep

/-- The rows made for a list of allocations. -/
structure RowsFor (paymentId : ℕ) (l : List (Charge × ℤ)) (rows : List PaymentAllocation) :
    Prop where
  amounts : rowAmounts rows = l.map fun x => (x.1.id, x.2)
  payment : ∀ a ∈ rows, a.paymentId = paymentId

theorem RowsFor.sum {paymentId : ℕ} {l : List (Charge × ℤ)} {rows : List PaymentAllocation}
    (h : RowsFor paymentId l rows) :
    (rows.map PaymentAllocation.amount).sum = (l.map Prod.snd).sum := by
  have hamounts := congrArg (List.map Prod.snd) h.amounts
  simp only [rowAmounts, List.map_map] at hamounts
  exact congrArg List.sum hamounts

theorem safe_newAllocations (hM : LedgerMode ρ R strict) (paymentId : ℕ) {l : List (Charge × ℤ)}
    (h : Posting strict pend H d lag s) {k : List PaymentAllocation → Handler β}
    (hk : ∀ rows H' s', RowsFor paymentId l rows → Posting strict pend H' d lag s' →
      (strict → s = s') → KeepsBooks ρ R strict (k rows) pend H' s') :
    KeepsBooks ρ R strict ((newAllocations paymentId l).bind k) pend H s := by
  induction l generalizing H s k with
  | nil => exact hk [] H s ⟨rfl, by simp⟩ h fun _ => rfl
  | cons x l ih =>
    rw [newAllocations, Prog.bind_eq, Prog.bind_assoc]
    refine h.safe_newId hM fun n s' h' hsame => ?_
    rw [Prog.bind_eq, Prog.bind_assoc]
    refine ih h' fun rows H'' s'' hrows h'' hsame' => ?_
    refine hk _ H'' s'' ⟨by simp [rowAmounts, ← hrows.amounts], ?_⟩ h''
      fun hst => (hsame hst).trans (hsame' hst)
    intro a ha
    rcases List.mem_cons.1 ha with rfl | ha
    · rfl
    · exact hrows.payment a ha

/-- The charges of an allocation query, split among a payment. -/
theorem payable_of_query {v : Store} (h : (v.charges.map Charge.id).Nodup)
    (plate : Option String) (amount : ℤ) :
    Payable (allocatePaymentAmounts (allocationQuery plate v) amount).1 where
  unpaid x hx := (mem_allocationQuery.1 (allocate_bounds hx).1).2.1
  bounds x hx := (allocate_bounds hx).2
  ids := by
    have hsub := (allocate_sublist (allocationQuery plate v) amount).map Charge.id
    rw [List.map_map] at hsub
    exact (allocationQuery_nodup h plate).sublist hsub

/-- A committed handler that returns keeps the books. -/
theorem safe_commit_ret (hM : LedgerMode ρ R strict) (h : Settled strict pend H s) (a : α) :
    KeepsBooks ρ R strict (Prog.commitTx.bind fun _ => .ret a) pend H s :=
  safe_commit_of_settled hM
    (fun _ hs => ledgerSafe_ret hM a _ _ _ _ hs fun _ => Settled.start hs) h.books fun _ => h

theorem ledgerSafe_allocatePayment (hM : LedgerMode ρ R strict) {payment : Payment}
    (hpos : 0 ≤ payment.amount) : LedgerSafe ρ R strict (allocatePayment payment) := by
  intro pend b H s hs h
  cases b with
  | true => exact safe_flush_broken hM hs
  | false =>
    refine (h rfl).safe_flush hM fun s' h' hc _ _ _ => ?_
    have hroom : strict → HasRoom payment.id payment.amount
        ((insertPayment payment).apply (pend s')) := by
      intro hst
      refine ⟨payment, List.mem_append_right _ (List.mem_singleton_self _), rfl, ?_⟩
      have hzero := (h'.payments hst).unallocated (insertPayment_new hc)
      change allocatedSum payment.id (pend s') + payment.amount ≤ payment.amount
      omega
    have hpaid := h'.insertPayment hc hpos
    refine hpaid.safe_select hM fun s'' h'' hsame _ => ?_
    have hpayable := payable_of_query h''.charges_nodup payment.plateNormalized
      payment.amount
    refine safe_newAllocations hM payment.id h'' fun rows H₃ s₃ hrows h₃ hsame' => ?_
    rw [Prog.bind_eq, flushAll_append]
    -- every charge first, each with its allocation still to be made
    refine safe_payCharges hM hpayable (fun hst x hx => ?_)
      (fun hst => ((hsame hst).trans (hsame' hst)) ▸ hroom hst) h₃ fun pend₄ H₄ s₄ h₄ hroom₄ => ?_
    · exact hsame' hst ▸ (mem_allocationQuery.1 (allocate_bounds hx).1).1
    · have hsum := allocate_sum_le (allocationQuery payment.plateNormalized
        ((insertPayment payment).apply (pend s''))) hpos
      rw [← hrows.sum] at hsum
      rw [← hrows.amounts] at h₄
      refine safe_insertAllocations hM (fun x hx => ?_) hrows.payment
        (fun hst => (hroom₄ hst).mono hsum) (by simpa using h₄) fun pend₅ H₅ s₅ h₅ =>
          safe_commit_ret hM h₅ _
      rw [hrows.amounts] at hx
      obtain ⟨y, hy, rfl⟩ := List.mem_map.1 hx
      exact (hpayable.bounds y hy).1

theorem ledgerSafe_paymentConflict (hM : LedgerMode ρ R strict) (reference : String) :
    LedgerSafe ρ R strict (paymentConflict reference) := by
  refine (ledgerSafe_rollback hM).bind hM fun _ => (ledgerSafe_select hM _).bind hM fun dup => ?_
  cases dup with
  | none => exact ledgerSafe_throw hM _
  | some p => exact ledgerSafe_ret hM _

theorem readOnly_payerVehicle (body : PaymentCreate) (plate : Option String) :
    (payerVehicle body plate).ReadOnly := by
  unfold payerVehicle
  split
  · exact Prog.writesOnly_select _
  · trivial

theorem ledgerSafe_createNewPayment (hM : LedgerMode ρ R strict) (cfg : Config)
    (body : PaymentCreate) (user : Option ℕ) (reference : String) :
    LedgerSafe ρ R strict (createNewPayment cfg body user reference) :=
  (ledgerSafe_readOnly hM (readOnly_payerVehicle _ _)).bind hM fun _ =>
    (ledgerSafe_newId hM).bind hM fun _ => (ledgerSafe_getTime hM).bind hM fun _ =>
      (ledgerSafe_allocatePayment hM body.positive.le).onIntegrity hM
        (ledgerSafe_paymentConflict hM reference)

theorem ledgerSafe_createPayment (hM : LedgerMode ρ R strict) (cfg : Config)
    (body : PaymentCreate) (user : Option ℕ) :
    LedgerSafe ρ R strict (createPayment cfg body user) := by
  unfold createPayment createCleanPayment
  split
  · refine (ledgerSafe_select hM _).bind hM fun existing => ?_
    cases existing with
    | some p => exact ledgerSafe_ret hM _
    | none => exact ledgerSafe_createNewPayment hM cfg _ user _
  · refine LedgerSafe.bind hM ?_ fun _ => ledgerSafe_createNewPayment hM cfg _ user _
    exact (ledgerSafe_getTime hM).bind hM fun _ => (ledgerSafe_newId hM).bind hM fun _ =>
      ledgerSafe_ret hM _

/-! ## Adjustments -/

theorem ledgerSafe_createAdjustment (hM : LedgerMode ρ R strict) (body : AdjustmentCreate)
    (user : Option ℕ) : LedgerSafe ρ R strict (createAdjustment body user) := by
  unfold createAdjustment
  split
  · exact ledgerSafe_throw hM _
  · refine (ledgerSafe_newId hM).bind hM fun _ => LedgerSafe.bind hM ?_ fun _ =>
      (ledgerSafe_commit hM).bind hM fun _ => ledgerSafe_ret hM _
    exact ledgerSafe_flush_of hM fun pend H s h hc => h.insertAdjustment hc

/-- Approving an adjustment leaves what is paid on its charge non-negative. -/
def Approvable (adjustmentId : ℕ) (s : Store) : Prop :=
  ∀ a ∈ adjustmentById adjustmentId s, a.entityType = "CHARGE" →
    ∀ c ∈ chargeById a.entityId s, c.status = .unpaid → 0 ≤ c.paidAmount + a.amount

instance (adjustmentId : ℕ) (s : Store) : Decidable (Approvable adjustmentId s) :=
  inferInstanceAs (Decidable (∀ a ∈ adjustmentById adjustmentId s, a.entityType = "CHARGE" →
    ∀ c ∈ chargeById a.entityId s, c.status = .unpaid → 0 ≤ c.paidAmount + a.amount))

/-- A charge that an adjustment credits. -/
theorem Charge.Ok.adjustedBy {lag : Prop} {c : Charge} (h : c.Ok lag) (hst : c.status = .unpaid)
    {a : ℤ} (hpos : 0 ≤ c.paidAmount + a) : (c.adjustedBy a).Ok False := by
  have hnonneg := h.nonneg
  have hle := h.le
  exact Charge.settle_ok hst (by simp only; omega) (by simp only; omega)

theorem Charge.rewrites_adjustedBy (c : Charge) (a : ℤ) : c.Rewrites (c.adjustedBy a) :=
  Charge.Rewrites.settle rfl

@[simp] theorem Charge.adjustedBy_paidAmount (c : Charge) (a : ℤ) :
    (c.adjustedBy a).paidAmount = min c.amount (c.paidAmount + a) := Charge.settle_paidAmount _

/-- An adjustment that is locked is as it was. -/
theorem Posting.adjustmentSame (hM : LedgerMode ρ R strict) (h : Posting strict pend H d lag s)
    (hR : R H s s') {id : ℕ} (hl : .adjustmentRow id ∈ H.locks) :
    AdjustmentSame id (pend s) (pend s') :=
  h.localAdjustment _ _ _ ((hM.rely _ _ _ hR h.books).adjustment id hl)

/-- The credit of an adjustment that was just approved. -/
theorem safe_applyAdjustment (hM : LedgerMode ρ R strict) {a : FinancialAdjustment}
    (h : Settled strict pend H s) (hl : .adjustmentRow a.id ∈ H.locks)
    (happ : Approved a (pend s)) (hnonneg : ¬strict → 0 ≤ a.amount)
    (hok : strict → a.entityType = "CHARGE" → ∀ c ∈ chargeById a.entityId (pend s),
      c.status = .unpaid → 0 ≤ c.paidAmount + a.amount)
    {k : Unit → Handler β}
    (hk : ∀ pend H s, Settled strict pend H s → KeepsBooks ρ R strict (k ()) pend H s) :
    KeepsBooks ρ R strict ((applyAdjustment a).bind k) pend H s := by
  unfold applyAdjustment
  split
  · rename_i htype
    rw [Prog.bind_eq, Prog.bind_assoc]
    refine h.safe_select hM fun s₁ h₁ hsame₁ hR₁ => ?_
    have happ₁ := happ.of_same (h.adjustmentSame hM hR₁ hl)
    cases hfound : chargeById a.entityId (pend s₁) with
    | none => exact hk _ _ _ h₁
    | some c =>
      simp only
      split
      · rename_i hunpaid
        refine h₁.safe_flush hM fun s₂ h₂ _ ha hsame₂ hR₂ => ?_
        have happ₂ := happ₁.of_same (h₁.adjustmentSame hM hR₂ hl)
        have hmem : c ∈ (pend s₂).charges :=
          hM.mem_charges (fun hst => hsame₂ hst ▸ List.mem_of_find?_eq_some hfound) ha
        have hrow := (h₂.charge c.id).row c (mem_rowsAt.2 ⟨hmem, rfl⟩)
        have hpos : 0 ≤ c.paidAmount + a.amount := by
          by_cases hst : strict
          · exact hok hst htype c (by rw [hsame₁ hst]; exact hfound) hunpaid
          · have hpaid := hrow.nonneg
            have hamount := hnonneg hst
            omega
        have hid : c.id = a.entityId := by simpa using List.find?_some hfound
        refine hk _ _ _ (h₂.creditCharge hmem (Charge.rewrites_adjustedBy c a.amount)
          (hrow.adjustedBy hunpaid hpos) hl happ₂ htype hid.symm ?_ fun hst => ?_)
        · rw [Charge.adjustedBy_paidAmount]
          omega
        · have hle := hrow.le
          have hamount := hnonneg hst
          rw [Charge.adjustedBy_paidAmount]
          omega
      · exact hk _ _ _ h₁
  · exact hk _ _ _ h

/-- An approval keeps the books where it may. -/
theorem safe_approveAdjustment (hM : LedgerMode ρ R strict) (cfg : Config) {adjustmentId : ℕ}
    (user : Option ℕ) (hs : Books strict s) (hok : strict → Approvable adjustmentId s) :
    KeepsBooks ρ R strict (approveAdjustment cfg adjustmentId user) id {} s := by
  refine (Settled.start hs).safe_select hM fun s₁ h₁ hsame₁ _ => ?_
  have hthrow {H : Held Lock} {s : Store} (e : Exc AppError) (h : Settled strict id H s) :
      KeepsBooks ρ R strict (.throw e : Handler Bool) id H s :=
    ledgerSafe_throw hM e _ _ _ _ h.books fun _ => h
  cases hfound : adjustmentById adjustmentId s₁ with
  | none =>
    simp only [id_eq, hfound]
    exact hthrow _ h₁
  | some a =>
    simp only [id_eq, hfound]
    split
    · exact hthrow _ h₁
    · rename_i hpending
      refine Settled.safe_readOnly hM (readOnly_resolveSelfApprovalPolicy cfg) h₁
        fun policy H₂ s₂ h₂ hsame₂ => ?_
      split
      · exact hthrow _ h₂
      · refine h₂.safe_getTime hM fun now s₃ h₃ hsame₃ _ => ?_
        refine h₃.safe_flush hM fun s₄ h₄ _ ha hsame₄ _ => ?_
        have hcur (hst : strict) : s₁ = s₄ :=
          (hsame₂ hst).trans ((hsame₃ hst).trans (hsame₄ hst))
        have hmem : a ∈ s₄.adjustments ∧ (¬strict → 0 ≤ a.amount) := by
          by_cases hst : strict
          · exact ⟨hcur hst ▸ List.mem_of_find?_eq_some hfound, fun hn => absurd hst hn⟩
          · have hcurrent := (hM.current.resolve_left hst).2 a _ ha
            exact ⟨hcurrent.1, fun _ => hcurrent.2⟩
        obtain ⟨h₅, happ⟩ := h₄.approve hmem.1 (not_not.1 hpending) user now
        refine safe_applyAdjustment hM h₅ (by simp [approveStmt]) happ hmem.2
          (fun hst htype c hc hunpaid => ?_) fun _ _ _ h₆ => safe_commit_ret hM h₆ _
        obtain rfl := (hsame₁ hst).trans (hcur hst)
        obtain rfl := hcur hst
        exact hok hst a hfound htype c hc hunpaid

/-! ## Settling an exit -/

/-- A charge under settlement: it was read UNPAID, and the allocation that is not sent yet is
positive and within what the charge owes. -/
structure Dirty.Ok (x : Dirty) : Prop where
  unpaid : x.loaded.status = .unpaid
  allocation : ∀ a ∈ x.allocation, a.chargeId = x.loaded.id ∧ 0 < a.amount ∧
    a.amount ≤ chargeOutstanding x.loaded

theorem Dirty.Ok.added_nonneg {x : Dirty} (h : x.Ok) : 0 ≤ x.added := by
  cases ha : x.allocation with
  | none => simp [Dirty.added, ha]
  | some a => simpa [Dirty.added, ha] using (h.allocation a ha).2.1.le

theorem Dirty.Ok.charge_le {x : Dirty} (h : x.Ok) {lag : Prop} (hrow : x.loaded.Ok lag) :
    x.charge.paidAmount ≤ x.charge.amount := by
  have hle := hrow.le
  cases ha : x.allocation with
  | none => simpa [Dirty.charge, Dirty.added, ha] using hle
  | some a =>
    have hbound := (h.allocation a ha).2.2
    simp only [chargeOutstanding] at hbound
    simp only [Dirty.charge, Dirty.added, ha, Option.map_some, Option.getD_some]
    omega

/-- A settlement in progress: nothing to make up, and at most the status of its own charge
lags behind. With `strict`, the charge is in the table as it was last sent and the payment of
the allocation not sent yet still has room for it. -/
structure Settling (strict : Prop) (pend : Store → Store) (H : Held Lock) (x : Dirty)
    (creditUsed : ℤ) (s : Store) : Prop where
  posting : ∃ lag, Posting strict pend H (fun _ => 0) lag s ∧
    (lag = none ∨ lag = some x.loaded.id) ∧ (creditUsed = 0 → lag = none)
  ok : x.Ok
  credit : 0 ≤ creditUsed
  unused : creditUsed = 0 → x.allocation = none
  current : strict → x.loaded ∈ (pend s).charges
  room : strict → ∀ a ∈ x.allocation, HasRoom a.paymentId a.amount (pend s)

/-- Two options for the lagging charge agree elsewhere. -/
theorem lag_iff {id j : ℕ} {lag lag' : Option ℕ} (h : lag = none ∨ lag = some id)
    (h' : lag' = none ∨ lag' = some id) (hne : id ≠ j) : lag' = some j ↔ lag = some j := by
  rcases h with rfl | rfl <;> rcases h' with rfl | rfl <;> simp [hne]

/-- Sending the charge and its allocation leaves nothing to make up; `charge` may bring the
status up to date (`lag' = none`) or leave it behind. -/
theorem Settling.safe_send (hM : LedgerMode ρ R strict) {x : Dirty} {creditUsed : ℤ}
    (h : Settling strict pend H x creditUsed s) {charge : Charge} (lag' : Option ℕ)
    (hlag' : lag' = none ∨ lag' = some x.loaded.id) (hn : x.loaded.Rewrites charge)
    (hpaid : charge.paidAmount = x.charge.paidAmount)
    (hok : ∀ lag, x.loaded.Ok lag → charge.Ok (lag' = some x.loaded.id))
    {sts : List Stmt} {k : Unit → Handler β}
    (hk : ∀ pend' H' s', Posting strict pend' H' (fun _ => 0) lag' s' →
      (strict → charge ∈ (pend' s').charges ∧ (pend' s').payments = (pend s).payments) →
      KeepsBooks ρ R strict ((flushAll sts).bind k) pend' H' s') :
    KeepsBooks ρ R strict ((flushAll (sendDirty x charge ++ sts)).bind k) pend H s := by
  obtain ⟨lag, hposting, hlag, _⟩ := h.posting
  refine hposting.safe_flushAll_cons hM fun s₁ h₁ _ ha hsame₁ _ => ?_
  have hmem : x.loaded ∈ (pend s₁).charges :=
    hM.mem_charges (fun hst => hsame₁ hst ▸ h.current hst) ha
  have hrow := (h₁.charge x.loaded.id).row x.loaded (mem_rowsAt.2 ⟨hmem, rfl⟩)
  have h₂ := h₁.updateCharge lag' (fun _ hne => lag_iff hlag hlag' hne) hmem hn (hok _ hrow)
  have hself : charge ∈ ((updateCharge x.loaded charge).apply (pend s₁)).charges :=
    mem_updateWhere.2 (Or.inl ⟨x.loaded, hmem, by simp, hn.written⟩)
  have hadded : charge.paidAmount - x.loaded.paidAmount = x.added := by
    rw [hpaid, Dirty.charge]
    simp
  rw [hadded] at h₂
  cases halloc : x.allocation with
  | none =>
    have hzero : bump (fun _ => (0 : ℤ)) x.loaded.id x.added = fun _ => 0 := by
      funext j
      simp [bump, Dirty.added, halloc]
    rw [hzero] at h₂
    refine hk _ _ _ h₂ fun hst => ⟨hself, ?_⟩
    rw [hsame₁ hst]
    rfl
  | some a =>
    obtain ⟨hid, hpos, _⟩ := h.ok.allocation a halloc
    have hamount : x.added = a.amount := by simp [Dirty.added, halloc]
    have hne : bump (fun _ => (0 : ℤ)) x.loaded.id x.added x.loaded.id ≠ 0 := by
      rw [bump_self]
      omega
    refine h₂.safe_flushAll_cons hM fun s₃ h₃ _ _ hsame₃ _ => ?_
    obtain ⟨hlock, hthere⟩ := h₃.locked hne
    rw [← hid] at hlock hthere
    have h₄ := h₃.insertAllocation hlock hthere fun hst => by
      have hroom := h.room hst a halloc
      rw [(hsame₁ hst).trans (hsame₃ hst)] at hroom
      exact hroom
    rw [hid, ← hamount, bump_bump_neg] at h₄
    refine hk _ _ _ h₄ fun hst => ⟨?_, ?_⟩
    · rw [← hsame₃ hst]
      exact hself
    · rw [(hsame₁ hst).trans (hsame₃ hst)]
      rfl

/-- Before the next query, the pending change is sent; the status lags behind from then on. -/
theorem Settling.safe_flushDirty (hM : LedgerMode ρ R strict) {x : Dirty} {creditUsed : ℤ}
    (h : Settling strict pend H x creditUsed s) {k : Charge → Handler β}
    (hk : ∀ charge pend' H' s',
      Settling strict pend' H' { loaded := charge, allocation := none } creditUsed s' →
      (strict → (pend' s').payments = (pend s).payments) →
      KeepsBooks ρ R strict (k charge) pend' H' s') :
    KeepsBooks ρ R strict ((flushDirty x).bind k) pend H s := by
  unfold flushDirty
  split
  · exact hk x.loaded pend H s
      ⟨h.posting, ⟨h.ok.unpaid, by simp⟩, h.credit, fun _ => rfl, h.current, by simp⟩ fun _ => rfl
  · rename_i hsome
    have hused : creditUsed ≠ 0 := fun hz => hsome (by simp [h.unused hz])
    have hcharge : x.loaded.Rewrites x.charge := rfl
    rw [Prog.bind_eq, Prog.bind_assoc, ← List.append_nil (sendDirty x x.charge)]
    refine h.safe_send hM (some x.loaded.id) (Or.inr rfl) hcharge rfl
      (fun lag hrow => ?_) fun pend' H' s' h' hcur => ?_
    · have hnonneg := hrow.nonneg
      have hadded := h.ok.added_nonneg
      exact ⟨by simp only [Dirty.charge]; omega, h.ok.charge_le hrow, fun hn => absurd rfl hn⟩
    · exact hk x.charge pend' H' s'
        ⟨⟨_, h', Or.inr rfl, fun hz => absurd hz hused⟩, ⟨h.ok.unpaid, by simp⟩, h.credit,
          fun _ => rfl, fun hst => (hcur hst).1, by simp⟩ fun hst => (hcur hst).2

theorem Settling.stable (hM : LedgerMode ρ R strict) {x : Dirty} {creditUsed : ℤ}
    (h : Settling strict pend H x creditUsed s) (hR : R H s s') :
    Settling strict pend H x creditUsed s' := by
  obtain ⟨lag, hp, hlag⟩ := h.posting
  exact { h with
    posting := ⟨lag, hp.stable hM hR, hlag⟩
    current := fun hst => hM.alone hst _ _ _ hR ▸ h.current hst
    room := fun hst => hM.alone hst _ _ _ hR ▸ h.room hst }

/-- The loop: each payment's credit goes to the charge as far as it still owes something. -/
theorem Settling.safe_loop (hM : LedgerMode ρ R strict) {ps : List Payment} {x : Dirty}
    {creditUsed : ℤ} (h : Settling strict pend H x creditUsed s)
    (hps : strict → ∀ p ∈ ps, p ∈ (pend s).payments) {k : Dirty × ℤ → Handler β}
    (hk : ∀ x creditUsed pend H s, Settling strict pend H x creditUsed s →
      KeepsBooks ρ R strict (k (x, creditUsed)) pend H s) :
    KeepsBooks ρ R strict ((settleLoop ps x creditUsed).bind k) pend H s := by
  induction ps generalizing x creditUsed pend H s with
  | nil => exact hk x creditUsed pend H s h
  | cons p ps ih =>
    rw [settleLoop, Prog.bind_eq, Prog.bind_assoc]
    refine h.safe_flushDirty hM fun charge pend₁ H₁ s₁ h₁ hpay₁ => ?_
    obtain ⟨lag, hposting, hlag⟩ := h₁.posting
    rw [Prog.bind_eq, Prog.bind_assoc]
    refine hposting.safe_select hM fun s₂ h₂ hsame₂ hR₂ => ?_
    have hset := h₁.stable hM hR₂
    have hps₂ (hst : strict) : ∀ q ∈ p :: ps, q ∈ (pend₁ s₂).payments := by
      rw [← hsame₂ hst, hpay₁ hst]
      exact hps hst
    have hrest (hst : strict) : ∀ q ∈ ps, q ∈ (pend₁ s₂).payments := fun q hq =>
      hps₂ hst q (List.mem_cons_of_mem p hq)
    dsimp only
    split
    · exact ih hset hrest
    · rename_i hcredit
      split
      · exact hk _ _ _ _ _ hset
      · rename_i howes
        rw [Prog.bind_eq, Prog.bind_assoc]
        refine h₂.safe_newId hM fun id s₃ h₃ hsame₃ => ?_
        have hpos : 0 < min (paymentUnallocatedCredit p (allocatedSum p.id (pend₁ s₂)))
            (chargeOutstanding charge) := by omega
        refine ih ⟨⟨lag, h₃, hlag.1, fun hz => ?_⟩, ⟨hset.ok.unpaid, ?_⟩, ?_, fun hz => ?_,
          fun hst => ?_, fun hst => ?_⟩ fun hst => hsame₃ hst ▸ hrest hst
        · have hused := hset.credit
          omega
        · rintro a ⟨⟩
          exact ⟨rfl, hpos, min_le_right _ _⟩
        · have hused := hset.credit
          omega
        · have hused := hset.credit
          omega
        · exact hsame₃ hst ▸ hset.current hst
        · rintro a ⟨⟩
          refine hsame₃ hst ▸ ⟨p, hps₂ hst p List.mem_cons_self, rfl, ?_⟩
          simp only [paymentUnallocatedCredit] at hcredit ⊢
          omega

/-- The end of a settlement brings the status up to date. -/
theorem Settling.safe_finish (hM : LedgerMode ρ R strict) {session : ParkingSession}
    {graceMinutes : ℤ} {x : Dirty} {creditUsed : ℤ} (h : Settling strict pend H x creditUsed s)
    {k : Option Settlement → Handler β}
    (hk : ∀ r pend H s, Settled strict pend H s → KeepsBooks ρ R strict (k r) pend H s) :
    KeepsBooks ρ R strict ((finishSettlement session graceMinutes x creditUsed).bind k) pend H
      s := by
  unfold finishSettlement
  split
  · rename_i hused
    obtain ⟨lag, hposting, _, hnone⟩ := h.posting
    obtain rfl := hnone (le_antisymm hused h.credit)
    exact hk none pend H s hposting
  · dsimp only
    rw [Prog.bind_eq, Prog.bind_assoc]
    have hcharge : x.loaded.Rewrites x.charge := rfl
    refine h.safe_send hM none (Or.inl rfl) hcharge.settle
      (Charge.settle_paidAmount _) (fun lag hrow => ?_) fun pend₁ H₁ s₁ h₁ _ => ?_
    · have hnonneg := hrow.nonneg
      have hadded := h.ok.added_nonneg
      have hok := Charge.settle_ok (c := x.charge) h.ok.unpaid
        (by simp only [Dirty.charge]; omega) (h.ok.charge_le hrow)
      simpa using hok
    · split
      · refine h₁.safe_flushAll_cons hM fun s₂ h₂ _ _ _ _ => ?_
        exact hk _ _ _ _ (h₂.other fun _ => ⟨rfl, rfl, rfl, rfl, rfl⟩)
      · exact hk _ _ _ _ h₁

/-- What the query for the unpaid charge of a session returns. -/
theorem unpaidSessionCharge_mem {sessionId : ℕ} {v : Store} {c : Charge}
    (h : unpaidSessionCharge sessionId v = some c) : c ∈ v.charges ∧ c.status = .unpaid := by
  have hc := List.mem_of_mem_head? h
  simp only [mem_orderByDesc, List.mem_filter, Bool.and_eq_true, beq_iff_eq] at hc
  exact ⟨hc.1, hc.2.2⟩

theorem gracePayments_mem {plate : String} {since : ℤ} {v : Store} {p : Payment}
    (h : p ∈ gracePayments plate since v) : p ∈ v.payments := by
  have hp := List.mem_of_mem_take h
  simp only [mem_orderByDesc, List.mem_filter] at hp
  exact hp.1

theorem ledgerSafe_settleExitWithPrepaidCredit (hM : LedgerMode ρ R strict)
    (session : ParkingSession) (now graceMinutes : ℤ) :
    LedgerSafe ρ R strict (settleExitWithPrepaidCredit session now graceMinutes) := by
  unfold settleExitWithPrepaidCredit
  split
  · exact ledgerSafe_ret hM _
  · intro pend b H s hs h
    cases b with
    | true => exact safe_select_broken hM hs
    | false =>
      refine (h rfl).safe_select hM fun s₁ h₁ hsame₁ _ => ?_
      have hret {H : Held Lock} {s : Store} (r : Option Settlement)
          (h : Settled strict pend H s) :
          KeepsBooks ρ R strict (.ret r : Handler (Option Settlement)) pend H s :=
        ledgerSafe_ret hM r _ _ _ _ h.books fun _ => h
      cases hfound : unpaidSessionCharge session.id (pend s₁) with
      | none => exact hret none h₁
      | some c =>
        obtain ⟨hmem, hunpaid⟩ := unpaidSessionCharge_mem hfound
        dsimp only
        split
        · exact hret none h₁
        · split
          · exact ledgerSafe_throw hM _ _ _ _ _ h₁.books fun _ => h₁
          · split
            · exact hret none h₁
            · refine h₁.safe_select hM fun s₂ h₂ hsame₂ _ => ?_
              have hset : Settling strict pend H { loaded := c, allocation := none } 0 s₂ :=
                ⟨⟨none, h₂, Or.inl rfl, fun _ => rfl⟩, ⟨hunpaid, by simp⟩, le_refl 0, fun _ => rfl,
                  fun hst => hsame₂ hst ▸ hmem, by simp⟩
              refine hset.safe_loop hM (fun _ p hp => gracePayments_mem hp)
                fun x creditUsed pend₃ H₃ s₃ h₃ => ?_
              have hfinish : KeepsBooks ρ R strict
                  ((finishSettlement session graceMinutes x creditUsed).bind fun r => .ret r)
                  pend₃ H₃ s₃ :=
                h₃.safe_finish hM fun r _ _ _ h => ledgerSafe_ret hM r _ _ _ _ h.books fun _ => h
              rwa [Prog.bind_ret] at hfinish

/-! ## Closing a session -/

theorem ledgerSame_updateSession (loaded new : ParkingSession) (x : Store) :
    LedgerSame x ((updateSession loaded new).apply x) := ⟨rfl, rfl, rfl, rfl, rfl⟩

theorem ledgerSafe_closeSessionAmounts (hM : LedgerMode ρ R strict) (cfg : Config)
    (loaded session : ParkingSession) :
    LedgerSafe ρ R strict (closeSessionAmounts cfg loaded session) :=
  (ledgerSafe_getTime hM).bind hM fun _ =>
    (ledgerSafe_flush hM (ledgerSame_updateSession _ _)).bind hM fun _ =>
      (ledgerSafe_select hM _).bind hM fun _ =>
        (ledgerSafe_readOnly hM (readOnly_resolveTariffPolicy cfg)).bind hM fun _ =>
          (ledgerSafe_readOnly hM (readOnly_newCharge _ _)).bind hM fun _ => ledgerSafe_ret hM _

theorem ledgerSafe_flushAll (hM : LedgerMode ρ R strict) {sts : List Stmt}
    (h : ∀ st ∈ sts, LedgerSafe ρ R strict (Prog.flush st)) :
    LedgerSafe ρ R strict (flushAll sts) := by
  induction sts with
  | nil => exact ledgerSafe_ret hM ()
  | cons st sts ih =>
    exact (h st List.mem_cons_self).bind hM fun _ =>
      ih fun st' hst' => h st' (List.mem_cons_of_mem st hst')

theorem ledgerSafe_insertNewCharge (hM : LedgerMode ρ R strict) (n : NewCharge) :
    LedgerSafe ρ R strict (Prog.flush (insertCharge n.charge)) :=
  ledgerSafe_flush_of hM fun _ _ _ h hc => h.insertCharge hc n.positive n.nothingPaid n.unpaid

theorem ledgerSafe_flushClosing (hM : LedgerMode ρ R strict) (c : Closing) :
    LedgerSafe ρ R strict (flushClosing c) := by
  refine ledgerSafe_flushAll hM fun st hst => ?_
  rcases List.mem_cons.1 hst with rfl | hst
  · exact ledgerSafe_flush hM (ledgerSame_updateSession _ _)
  · obtain ⟨n, _, rfl⟩ := List.mem_map.1 hst
    exact ledgerSafe_insertNewCharge hM n

/-! ## Violations -/

theorem ledgerSafe_updateViolation (hM : LedgerMode ρ R strict) (id : ℕ) (status : String)
    (user : Option ℕ) (now : ℤ) :
    LedgerSafe ρ R strict (Prog.flush (updateViolation id status user now)) :=
  ledgerSafe_flush hM fun _ => ⟨rfl, rfl, rfl, rfl, rfl⟩

theorem ledgerSafe_chargeViolation (hM : LedgerMode ρ R strict) (v : Violation) :
    LedgerSafe ρ R strict (chargeViolation v) := by
  refine (ledgerSafe_select hM _).bind hM fun existing => ?_
  split
  · rename_i hnew
    simp only [Bool.and_eq_true, decide_eq_true_eq] at hnew
    refine (ledgerSafe_newId hM).bind hM fun id => (ledgerSafe_getTime hM).bind hM fun t => ?_
    exact ledgerSafe_flush_of hM fun _ _ _ h hc => h.insertCharge hc hnew.2 rfl rfl
  · exact ledgerSafe_ret hM ()

/-- A voided charge keeps what was paid on it. -/
theorem ledgerSafe_voidUnpaidCharge (hM : LedgerMode ρ R strict) (violationId : ℕ) :
    LedgerSafe ρ R strict (voidUnpaidCharge violationId) := by
  intro pend b H s hs h
  cases b with
  | true => exact safe_select_broken hM hs
  | false =>
    refine (h rfl).safe_select hM fun s₁ h₁ _ _ => ?_
    have hret {pend : Store → Store} {H : Held Lock} {s : Store} (r : Bool)
        (h : Settled strict pend H s) : KeepsBooks ρ R strict (.ret r : Handler Bool) pend H s :=
      ledgerSafe_ret hM r _ _ _ _ h.books fun _ => h
    cases hfound : chargeOfViolation violationId (pend s₁) with
    | none => exact hret false h₁
    | some c =>
      dsimp only
      split
      · refine h₁.safe_flush hM fun s₂ h₂ _ ha hsame₂ _ => ?_
        have hmem : c ∈ (pend s₂).charges :=
          hM.mem_charges (fun hst => hsame₂ hst ▸ List.mem_of_find?_eq_some hfound) ha
        have hrow := (h₂.charge c.id).row c (mem_rowsAt.2 ⟨hmem, rfl⟩)
        have hrewrites : c.Rewrites { c with status := .voided } := rfl
        have hvoid := h₂.updateCharge none (fun _ _ => Iff.rfl) hmem hrewrites
          ⟨hrow.nonneg, hrow.le, fun _ hv => absurd rfl hv⟩
        have hzero : bump (fun _ => (0 : ℤ)) c.id (c.paidAmount - c.paidAmount) = fun _ => 0 := by
          funext j
          simp [bump]
        rw [hzero] at hvoid
        exact hret true hvoid
      · exact hret false h₁

theorem ledgerSafe_confirmViolation (hM : LedgerMode ρ R strict) (violationId : ℕ)
    (user : Option ℕ) : LedgerSafe ρ R strict (confirmViolation violationId user) := by
  refine (ledgerSafe_select hM _).bind hM fun found => ?_
  cases found with
  | none => exact ledgerSafe_throw hM _
  | some v =>
    dsimp only
    split
    · exact ledgerSafe_ret hM _
    · split
      · exact ledgerSafe_throw hM _
      · exact (ledgerSafe_getTime hM).bind hM fun _ =>
          (ledgerSafe_updateViolation hM _ _ _ _).bind hM fun _ =>
            (ledgerSafe_chargeViolation hM v).bind hM fun _ =>
              (ledgerSafe_commit hM).bind hM fun _ => ledgerSafe_ret hM _

theorem ledgerSafe_paidCharge (hM : LedgerMode ρ R strict) (violationId : ℕ) (voided : Bool) :
    LedgerSafe ρ R strict (paidCharge violationId voided) := by
  unfold paidCharge
  split
  · exact ledgerSafe_ret hM _
  · exact (ledgerSafe_select hM _).bind hM fun _ => ledgerSafe_ret hM _

theorem ledgerSafe_cancelViolation (hM : LedgerMode ρ R strict) (violationId : ℕ)
    (user : Option ℕ) : LedgerSafe ρ R strict (cancelViolation violationId user) := by
  refine (ledgerSafe_select hM _).bind hM fun found => ?_
  cases found with
  | none => exact ledgerSafe_throw hM _
  | some v =>
    dsimp only
    split
    · exact ledgerSafe_ret hM _
    · split
      · exact ledgerSafe_throw hM _
      · exact (ledgerSafe_getTime hM).bind hM fun _ =>
          (ledgerSafe_updateViolation hM _ _ _ _).bind hM fun _ =>
            (ledgerSafe_voidUnpaidCharge hM _).bind hM fun _ =>
              (ledgerSafe_paidCharge hM _ _).bind hM fun _ =>
                (ledgerSafe_commit hM).bind hM fun _ => ledgerSafe_ret hM _

theorem ledgerSafe_acceptAppeal (hM : LedgerMode ρ R strict) (violationId : ℕ)
    (user : Option ℕ) : LedgerSafe ρ R strict (acceptAppeal violationId user) := by
  refine (ledgerSafe_select hM _).bind hM fun found => ?_
  cases found with
  | none => exact ledgerSafe_ret hM _
  | some v =>
    dsimp only
    split
    · exact (ledgerSafe_getTime hM).bind hM fun _ =>
        (ledgerSafe_updateViolation hM _ _ _ _).bind hM fun _ =>
          ledgerSafe_voidUnpaidCharge hM _
    · exact ledgerSafe_ret hM _

theorem ledgerSafe_reviewAppeal (hM : LedgerMode ρ R strict) (appealId : ℕ) (result : String)
    (note : Option String) (user : Option ℕ) :
    LedgerSafe ρ R strict (reviewAppeal appealId result note user) := by
  refine (ledgerSafe_select hM _).bind hM fun found => ?_
  cases found with
  | none => exact ledgerSafe_throw hM _
  | some appeal =>
    dsimp only
    split
    · exact ledgerSafe_throw hM _
    · split
      · exact ledgerSafe_throw hM _
      · refine (ledgerSafe_getTime hM).bind hM fun _ => LedgerSafe.bind hM ?_ fun _ => ?_
        · exact ledgerSafe_flush hM fun _ => ⟨rfl, rfl, rfl, rfl, rfl⟩
        · split
          · exact (ledgerSafe_acceptAppeal hM _ _).bind hM fun _ =>
              (ledgerSafe_commit hM).bind hM fun _ => ledgerSafe_ret hM _
          · exact (ledgerSafe_commit hM).bind hM fun _ => ledgerSafe_ret hM _

end

end ParkingSystem
