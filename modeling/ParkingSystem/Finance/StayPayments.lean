import ParkingSystem.Finance.StayStatus

/-!
# Payments and Approvals Beside a Stay

What `create_payment` and `approve_adjustment` leave of the two copies: both are as they were,
unless the charge of a stay is paid in full.
-/

namespace ParkingSystem

open Table Transaction

/-! ## Payments -/

/-- A charge that an amount pays in full when it is poured over a list of debts. -/
def PaidInFull (amount : ℤ) (debts : List Charge) (c : Charge) : Prop :=
  ∃ before after, debts = before ++ c :: after ∧ 0 < chargeOutstanding c ∧
    (before.map chargeOutstanding).sum + chargeOutstanding c ≤ amount

/-- A payment request pays the charge of a stay in full: its row is accepted, and its amount
comes to such a charge and covers it. -/
def PaymentCreate.PaysStay (cfg : Config) (clk : ℕ → ℤ) (body : PaymentCreate) (user : Option ℕ)
    (w : Session Store) : Prop :=
  (insertPayment (body.cleaned.rowOn cfg clk user (.fresh w.committed w.nextId w.tick))).check
      w.committed = none ∧
    ∃ c, c.parkingSessionId ≠ none ∧
      PaidInFull body.amount (allocationQuery (body.cleaned.plate cfg) w.committed) c

section

variable {n : ℕ} {s : Store}

/-- What a charge is given that is paid in full. -/
theorem paidInFull_of_mem {debts : List Charge} {amount a : ℤ} {c : Charge}
    (h : (c, a) ∈ (allocatePaymentAmounts debts amount).1) (hpaid : chargeOutstanding c ≤ a) :
    PaidInFull amount debts c := by
  induction debts generalizing amount with
  | nil => simp [allocatePaymentAmounts] at h
  | cons d ds ih =>
    simp only [allocatePaymentAmounts] at h
    split at h
    · simp at h
    · split at h
      · -- nothing is outstanding on the first debt
        rename_i hd
        obtain ⟨before, after, rfl, hpos, hle⟩ := ih h
        have hnonneg := chargeOutstanding_nonneg d
        refine ⟨d :: before, after, rfl, hpos, ?_⟩
        rw [List.map_cons, List.sum_cons]
        omega
      · rcases List.mem_cons.1 h with heq | hrest
        · cases heq
          refine ⟨[], ds, rfl, by omega, ?_⟩
          rw [List.map_nil, List.sum_nil]
          omega
        · obtain ⟨before, after, rfl, hpos, hle⟩ := ih hrest
          have hbefore : 0 ≤ (before.map chargeOutstanding).sum := List.sum_nonneg fun x hx => by
            obtain ⟨b, -, rfl⟩ := List.mem_map.1 hx
            exact chargeOutstanding_nonneg b
          refine ⟨d :: before, after, rfl, hpos, ?_⟩
          rw [List.map_cons, List.sum_cons]
          omega

/-- A charge whose status an allocation changes is paid in full. -/
theorem outstanding_le_of_paidBy {c : Charge} {a : ℤ} (ha : 0 < a)
    (h : (c.paidBy a).status ≠ c.status) : chargeOutstanding c ≤ a := by
  by_contra hless
  refine h ?_
  rw [Charge.paidBy, Charge.settle, if_neg]
  unfold chargeOutstanding at hless ⊢
  dsimp only
  omega

/-- The charges of a payment, sent one after the other. -/
theorem StaysKept.same_payCharges (h : StaysKept n s) {allocs : List (Charge × ℤ)}
    (hkeys : ∀ x ∈ allocs, x.1.key ∈ s.chargeKeys)
    (hstatus : ∀ x ∈ allocs, x.1.parkingSessionId ≠ none → (x.1.paidBy x.2).status = x.1.status) :
    SameStays s (applyAll (allocs.map fun x => updateCharge x.1 (x.1.paidBy x.2)) s) := by
  induction allocs generalizing s with
  | nil => exact .refl s
  | cons x allocs ih =>
    have hsame : SameStays s ((updateCharge x.1 (x.1.paidBy x.2)).apply s) :=
      h.same_chargeWritten (hkeys x List.mem_cons_self) (hstatus x List.mem_cons_self) rfl rfl rfl
    refine hsame.trans (ih (h.congr hsame) (fun y hy => ?_)
      fun y hy => hstatus y (List.mem_cons_of_mem x hy))
    rw [hsame.keys]
    exact hkeys y (List.mem_cons_of_mem x hy)

theorem sameStays_insertAllocations (rows : List PaymentAllocation) (s : Store) :
    SameStays s (applyAll (rows.map insertAllocation) s) := by
  induction rows generalizing s with
  | nil => exact .refl s
  | cons a rows ih =>
    have hsame : SameStays s ((insertAllocation a).apply s) := .of_tables rfl rfl rfl
    exact hsame.trans (ih _)

/-- **A payment** that pays no stay in full keeps the two copies in step. -/
theorem staysKept_createPayment (cfg : Config) (clk : ℕ → ℤ) (body : PaymentCreate)
    (user : Option ℕ) {w : Session Store} (h : StaysKept w.nextId w.committed)
    (hstay : ¬ body.PaysStay cfg clk user w) :
    StaysKept ((createPayment cfg body user).after clk w).nextId
      ((createPayment cfg body user).after clk w).committed := by
  refine StaysKept.mono ?_ (Prog.after_nextId_le clk _ w)
  obtain ⟨hrefused, haccepted⟩ := exec_createPayment cfg clk body user w.committed w.nextId w.tick
  show StaysKept w.nextId ((createPayment cfg body user).exec clk
    (.fresh w.committed w.nextId w.tick)).2.committed
  by_cases hcheck : (insertPayment (body.cleaned.rowOn cfg clk user
      (.fresh w.committed w.nextId w.tick))).check w.committed = none
  · obtain ⟨paymentId, rows, -, hpaid⟩ := haccepted hcheck
    have hinsert : SameStays w.committed ((insertPayment (body.cleaned.rowOn cfg clk user
        (.fresh w.committed w.nextId w.tick))).apply w.committed) := .of_tables rfl rfl rfl
    rw [hpaid, paidStore_eq]
    refine h.congr (hinsert.trans (((h.congr hinsert).same_payCharges (fun x hx => ?_)
      fun x hx hlink => ?_).trans (sameStays_insertAllocations _ _)))
    · have hmem := (mem_allocationQuery.1 (allocate_bounds hx).1).1
      exact List.mem_map.2 ⟨x.1, hmem, rfl⟩
    · -- an allocation that changes the status pays the charge in full
      by_contra hchanged
      exact hstay ⟨hcheck, x.1, hlink, paidInFull_of_mem hx
        (outstanding_le_of_paidBy (allocate_bounds hx).2.1 hchanged)⟩
  · rw [hrefused hcheck]
    exact h

end

/-! ## Adjustments -/

/-- The approval of an adjustment settles the charge of a stay: it goes through, and its credit
covers what was not paid on such a charge. -/
def ApprovesStay (cfg : Config) (adjustmentId : ℕ) (user : Option ℕ) (s : Store) : Prop :=
  ∃ a ∈ adjustmentById adjustmentId s, a.status = .pending ∧
    (selfApprovalDecision (selfApprovalPolicyOn cfg s) a.requestedBy user).1 = true ∧
    a.entityType = "CHARGE" ∧
    ∃ c ∈ chargeById a.entityId s, c.status = .unpaid ∧ c.parkingSessionId ≠ none ∧
      c.amount ≤ c.paidAmount + a.amount

section

variable {cfg : Config} {clk : ℕ → ℤ}

/-- Asking for an adjustment changes nothing but the adjustments. -/
theorem staysKept_createAdjustment (body : AdjustmentCreate) (user : Option ℕ) {w : Session Store}
    (h : StaysKept w.nextId w.committed) :
    StaysKept ((createAdjustment body user).after clk w).nextId
      ((createAdjustment body user).after clk w).committed := by
  refine StaysKept.mono ?_ (Prog.after_nextId_le clk _ w)
  have hwrites : (createAdjustment body user).AllWrites fun st =>
      ∀ s, SameStays s (st.apply s) := by
    unfold createAdjustment
    cases body.amount.toInt with
    | none => trivial
    | some amount =>
      refine Prog.AllWrites.bind Prog.writesOnly_newId.allWrites fun id => ?_
      refine Prog.AllWrites.bind (Prog.writesOnly_flush fun s => ?_).allWrites fun _ => ?_
      · exact .of_tables rfl rfl rfl
      · exact Prog.allWrites_commitTx.bind fun _ => trivial
  exact (hwrites.exec_keeps (fun st hst s hs => StaysKept.congr hs (hst s)) clk
    (w := .fresh w.committed w.nextId w.tick) h h).1

/-- The credit of an adjustment that does not cover the charge of a stay leaves its status. -/
theorem adjustedBy_status {c : Charge} {a : ℤ} (h : c.paidAmount + a < c.amount) :
    (c.adjustedBy a).status = c.status := by
  rw [Charge.adjustedBy, Charge.settle, if_neg]
  unfold chargeOutstanding
  dsimp only
  omega

/-- The credit of an adjustment that is being approved, where it settles no stay. -/
theorem wp_applyAdjustment {s : Store} {a : FinancialAdjustment} {w : Session Store}
    (hunsettled : ∀ c ∈ chargeById a.entityId s, a.entityType = "CHARGE" → c.status = .unpaid →
      c.parkingSessionId ≠ none → c.paidAmount + a.amount < c.amount)
    (hcharges : w.view.charges = s.charges) (hstored : Prog.Stored (fun s n => StaysKept n s) w) :
    (applyAdjustment a).wp clk (Prog.held (Prog.Stored fun s n => StaysKept n s) fun _ _ => True)
      w := by
  unfold applyAdjustment
  split
  · rename_i htype
    refine Prog.wp_held_select hstored ?_
    have hfind : chargeById a.entityId w.view = chargeById a.entityId s := by
      rw [chargeById, hcharges, chargeById]
    rw [hfind]
    cases hfound : chargeById a.entityId s with
    | none => exact Prog.wp_held_ret hstored trivial
    | some c =>
      dsimp only
      split
      · rename_i hunpaid
        refine Prog.wp_stored_flush_last hstored fun _ => ⟨hstored.view.congr ?_, trivial⟩
        have hmem : c ∈ w.view.charges := hcharges ▸ List.mem_of_find?_eq_some hfound
        exact hstored.view.same_chargeWritten (List.mem_map.2 ⟨c, hmem, rfl⟩)
          (fun hlink => adjustedBy_status (hunsettled c hfound htype hunpaid hlink)) rfl rfl rfl
      · exact Prog.wp_held_ret hstored trivial
  · exact Prog.wp_held_ret hstored trivial

/-- **An approval** that settles no stay keeps the two copies in step. -/
theorem staysKept_approveAdjustment (adjustmentId : ℕ) (user : Option ℕ) {w : Session Store}
    (h : StaysKept w.nextId w.committed)
    (hstay : ¬ ApprovesStay cfg adjustmentId user w.committed) :
    StaysKept ((approveAdjustment cfg adjustmentId user).after clk w).nextId
      ((approveAdjustment cfg adjustmentId user).after clk w).committed := by
  have hstored : Prog.Stored (fun s n => StaysKept n s) (.fresh w.committed w.nextId w.tick) :=
    Prog.stored_fresh h
  refine Prog.wp.after_stored (I := fun s n => StaysKept n s) (R := fun _ _ => True)
    (Prog.wp_held_select hstored ?_)
  rw [Session.fresh_view]
  cases hfound : adjustmentById adjustmentId w.committed with
  | none => exact Prog.wp_held_raise hstored
  | some a =>
    dsimp only
    split
    · exact Prog.wp_held_raise hstored
    · rename_i hpending
      have hpolicy : (resolveSelfApprovalPolicy cfg).exec clk (.fresh w.committed w.nextId w.tick) =
          (.ok (selfApprovalPolicyOn cfg w.committed), .fresh w.committed w.nextId w.tick) :=
        reads_resolveSelfApprovalPolicy cfg clk _ rfl
      refine Prog.wp_bind (Prog.wp_of_exec hpolicy ?_)
      simp only [Prog.goesOn]
      split
      · exact Prog.wp_held_raise hstored
      · rename_i hallowed
        refine Prog.wp_getTime (Prog.wp_stored_flush hstored.ticked fun _ => ?_)
        have happroved : StaysKept w.nextId ((approveStmt a user (clk w.tick)).apply w.committed) :=
          h.congr (.of_tables rfl rfl rfl)
        refine Prog.wp_held_bind (R := fun _ _ => True) ?_ fun _ w' hw' _ =>
          Prog.wp_held_commit hw' (Prog.wp_held_ret ⟨hw'.view, hw'.view⟩ trivial)
        refine wp_applyAdjustment (s := w.committed) (fun c hc htype hunpaid hlink => ?_) rfl
          ⟨h, happroved⟩
        -- else the approval would settle the stay
        by_contra hcovered
        exact hstay ⟨a, hfound, not_not.1 hpending, by simpa using hallowed, htype, c, hc, hunpaid,
          hlink, not_lt.1 hcovered⟩

end

end ParkingSystem
