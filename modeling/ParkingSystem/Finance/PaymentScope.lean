import ParkingSystem.Finance.KeepsBooks

/-!
# Whose Debts a Payment Settles

`create_payment` restricts the debts it settles to one plate when it can read the plate it was
given. A plate it cannot read, and a vehicle named without a plate, leave the query without a
restriction: the oldest unpaid charges of the whole yard are settled, whoever owes them.
-/

namespace ParkingSystem

open Plate Table Transaction

/-! ## A payment run alone -/

/-- The vehicle of a payment, on a store. -/
def payerVehicleOn (body : PaymentCreate) (plate : Option String) (s : Store) : Option ℕ :=
  match body.plateRaw, body.vehicleId with
  | some _, none => (s.vehicles.find? fun v => some v.plateNormalized == plate).map Vehicle.id
  | _, vehicleId => vehicleId

theorem reads_payerVehicle (body : PaymentCreate) (plate : Option String) :
    (payerVehicle body plate).Reads (payerVehicleOn body plate) := by
  intro clk w hw
  rcases hplate : body.plateRaw with _ | raw <;> rcases hvehicle : body.vehicleId with _ | id <;>
    simp [payerVehicle, payerVehicleOn, hplate, hvehicle, hw]

/-- The payment a request makes when it is run on a session. -/
def PaymentCreate.rowOn (cfg : Config) (clk : ℕ → ℤ) (body : PaymentCreate) (user : Option ℕ)
    (w : Session Store) : Payment :=
  let vehicleId := payerVehicleOn body (body.plate cfg) w.view
  match body.referenceNumber with
  | some reference => body.row cfg user vehicleId reference w.nextId (clk w.tick)
  | none => body.row cfg user vehicleId (referenceText (clk w.tick) w.nextId) (w.nextId + 1)
      (clk (w.tick + 1))

theorem exec_newAllocations (clk : ℕ → ℤ) (paymentId : ℕ) (l : List (Charge × ℤ))
    (w : Session Store) :
    ∃ rows, RowsFor paymentId l rows ∧ (newAllocations paymentId l).exec clk w =
      (.ok rows, { w with nextId := w.nextId + l.length }) := by
  induction l generalizing w with
  | nil => exact ⟨[], ⟨rfl, by simp⟩, rfl⟩
  | cons x l ih =>
    obtain ⟨rows, hrows, hexec⟩ := ih { w with nextId := w.nextId + 1 }
    let row : PaymentAllocation :=
      { id := w.nextId, paymentId, chargeId := x.1.id, amount := x.2 }
    refine ⟨row :: rows, ⟨?_, fun a ha => ?_⟩, ?_⟩
    · simp only [rowAmounts, List.map_cons, row]
      exact congrArg _ hrows.amounts
    · rcases List.mem_cons.1 ha with rfl | ha
      · rfl
      · exact hrows.payment a ha
    · rw [newAllocations, Prog.bind_eq, Prog.exec_bind_of_ok (Prog.exec_newId clk w),
        Prog.bind_eq, Prog.exec_bind_of_ok hexec]
      simp only [Prog.pure_eq, Prog.exec_ret, List.length_cons, Prod.mk.injEq, true_and, row]
      congr 1
      omega

theorem applyAll_updateCharges (l : List (Charge × ℤ)) (s : Store) :
    (applyAll (l.map fun x => updateCharge x.1 (x.1.paidBy x.2)) s).allocations =
      s.allocations := by
  induction l generalizing s with
  | nil => rfl
  | cons x l ih => exact (ih _).trans rfl

theorem applyAll_insertAllocations (rows : List PaymentAllocation) (s : Store) :
    (applyAll (rows.map insertAllocation) s).allocations = s.allocations ++ rows := by
  induction rows generalizing s with
  | nil => simp
  | cons a rows ih =>
    refine (ih _).trans ?_
    simp [insertAllocation]

/-- The store once a payment, its allocations and what they pay were sent. -/
def paidStore (payment : Payment) (allocs : List (Charge × ℤ)) (rows : List PaymentAllocation)
    (s : Store) : Store :=
  applyAll (allocs.map (fun x => updateCharge x.1 (x.1.paidBy x.2)) ++ rows.map insertAllocation)
    ((insertPayment payment).apply s)

theorem paidStore_eq (payment : Payment) (allocs : List (Charge × ℤ))
    (rows : List PaymentAllocation) (s : Store) : paidStore payment allocs rows s =
      applyAll (rows.map insertAllocation) (applyAll
        (allocs.map fun x => updateCharge x.1 (x.1.paidBy x.2)) ((insertPayment payment).apply s)) :=
  List.foldl_append ..

theorem paidStore_allocations (payment : Payment) (allocs : List (Charge × ℤ))
    (rows : List PaymentAllocation) (s : Store) :
    (paidStore payment allocs rows s).allocations = s.allocations ++ rows := by
  rw [paidStore_eq, applyAll_insertAllocations, applyAll_updateCharges]
  rfl

/-- Where a payment ends. -/
theorem exec_allocatePayment (clk : ℕ → ℤ) {payment : Payment} {w : Session Store}
    (hw : w.broken = false) (hc : (insertPayment payment).check w.view = none) :
    ∃ r w' rows, (allocatePayment payment).exec clk w = (.ok r, w') ∧
      RowsFor payment.id (allocatePaymentAmounts
        (allocationQuery payment.plateNormalized w.view) payment.amount).1 rows ∧
      w'.committed = paidStore payment (allocatePaymentAmounts
        (allocationQuery payment.plateNormalized w.view) payment.amount).1 rows w.view := by
  let w₁ : Session Store := { w with view := (insertPayment payment).apply w.view }
  let l := (allocatePaymentAmounts (allocationQuery payment.plateNormalized w₁.view)
    payment.amount).1
  obtain ⟨rows, hrows, hnew⟩ := exec_newAllocations clk payment.id l w₁
  let sts := l.map (fun x => updateCharge x.1 (x.1.paidBy x.2)) ++ rows.map insertAllocation
  have hsts : ∀ st ∈ sts, ∀ s, st.check s = none := by
    intro st hst s
    rcases List.mem_append.1 hst with hst | hst
    · obtain ⟨x, _, rfl⟩ := List.mem_map.1 hst
      rfl
    · obtain ⟨a, _, rfl⟩ := List.mem_map.1 hst
      rfl
  let w₂ : Session Store := { w₁ with nextId := w₁.nextId + l.length }
  let w₃ : Session Store := { w₂ with view := applyAll sts w₂.view }
  have hinsert : (Prog.flush (insertPayment payment) : Handler Unit).exec clk w = (.ok (), w₁) :=
    Prog.exec_flush_done clk _ hw hc
  have hselect : (Prog.select (allocationQuery payment.plateNormalized) : Handler _).exec clk w₁ =
      (.ok (allocationQuery payment.plateNormalized w₁.view), w₁) :=
    Prog.exec_select clk _ hw
  have hflush : (flushAll sts).exec clk w₂ = (.ok (), w₃) := exec_flushAll clk hsts hw
  have hcommit : (Prog.commitTx : Handler Unit).exec clk w₃ =
      (.ok (), { w₃ with committed := w₃.view }) := Prog.exec_commitTx clk hw
  have hexec : (allocatePayment payment).exec clk w =
      (.ok (newPaymentResponse payment l (allocatePaymentAmounts
        (allocationQuery payment.plateNormalized w₁.view) payment.amount).2),
        { w₃ with committed := w₃.view }) :=
    (Prog.exec_bind_of_ok hinsert).trans <| (Prog.exec_bind_of_ok hselect).trans <|
      (Prog.exec_bind_of_ok hnew).trans <| (Prog.exec_bind_of_ok hflush).trans <|
        Prog.exec_bind_of_ok hcommit
  exact ⟨_, _, rows, hexec, hrows, rfl⟩

/-- A conflict commits nothing. -/
theorem committed_paymentConflict (clk : ℕ → ℤ) (reference : String) (w : Session Store) :
    ((paymentConflict reference).exec clk w).2.committed = w.committed := by
  let w₁ : Session Store := { w with view := w.committed, broken := false }
  have hselect : (Prog.select (paymentByReference reference) : Handler _).exec clk w₁ =
      (.ok (paymentByReference reference w₁.view), w₁) := Prog.exec_select clk _ rfl
  rw [paymentConflict, Prog.bind_eq, Prog.exec_bind_of_ok (Prog.exec_rollbackTx clk w),
    Prog.bind_eq, Prog.exec_bind_of_ok hselect]
  cases paymentByReference reference w₁.view <;> rfl

/-- A payment whose row is refused commits nothing. -/
theorem committed_createNewPayment (cfg : Config) (clk : ℕ → ℤ) (body : PaymentCreate)
    (user : Option ℕ) (reference : String) {w : Session Store} (hw : w.broken = false)
    (hc : (insertPayment (body.row cfg user (payerVehicleOn body (body.plate cfg) w.view)
      reference w.nextId (clk w.tick))).check w.view ≠ none) :
    ((createNewPayment cfg body user reference).exec clk w).2.committed = w.committed := by
  obtain ⟨r, hr⟩ := Option.ne_none_iff_exists'.1 hc
  let w₁ : Session Store := { w with nextId := w.nextId + 1, tick := w.tick + 1 }
  have hexec : (createNewPayment cfg body user reference).exec clk w =
      (Prog.onIntegrity (allocatePayment (body.row cfg user
        (payerVehicleOn body (body.plate cfg) w.view) reference w.nextId (clk w.tick)))
        (paymentConflict reference)).exec clk w₁ :=
    (Prog.exec_bind_of_ok (reads_payerVehicle body (body.plate cfg) clk w hw)).trans <|
      (Prog.exec_bind_of_ok (Prog.exec_newId clk w)).trans <|
        Prog.exec_bind_of_ok (Prog.exec_getTime clk _)
  have hreject : (allocatePayment (body.row cfg user
      (payerVehicleOn body (body.plate cfg) w.view) reference w.nextId (clk w.tick))).exec clk w₁ =
      (.error (.rejected r), { w₁ with broken := true }) :=
    Prog.exec_bind_of_error (Prog.exec_flush_rejected clk _ (w := w₁) hw hr)
  rw [hexec]
  cases r with
  | integrity =>
    rw [Prog.exec_onIntegrity_rejected hreject]
    exact committed_paymentConflict clk reference _
  | data => rw [Prog.exec_onIntegrity_error hreject (by simp)]

/-- Where a payment ends whose row is accepted. -/
theorem exec_createNewPayment (cfg : Config) (clk : ℕ → ℤ) (body : PaymentCreate)
    (user : Option ℕ) (reference : String) {w : Session Store} (hw : w.broken = false)
    (hc : (insertPayment (body.row cfg user (payerVehicleOn body (body.plate cfg) w.view)
      reference w.nextId (clk w.tick))).check w.view = none) :
    ∃ r w' rows, (createNewPayment cfg body user reference).exec clk w = (.ok r, w') ∧
      RowsFor w.nextId (allocatePaymentAmounts
        (allocationQuery (body.plate cfg) w.view) body.amount).1 rows ∧
      w'.committed = paidStore (body.row cfg user (payerVehicleOn body (body.plate cfg) w.view)
        reference w.nextId (clk w.tick)) (allocatePaymentAmounts
        (allocationQuery (body.plate cfg) w.view) body.amount).1 rows w.view := by
  let w₁ : Session Store := { w with nextId := w.nextId + 1, tick := w.tick + 1 }
  obtain ⟨r, w', rows, hexec, hrows, halloc⟩ := exec_allocatePayment clk (w := w₁) hw hc
  refine ⟨r, w', rows, ?_, hrows, halloc⟩
  exact (Prog.exec_bind_of_ok (reads_payerVehicle body (body.plate cfg) clk w hw)).trans <|
    (Prog.exec_bind_of_ok (Prog.exec_newId clk w)).trans <|
      (Prog.exec_bind_of_ok (Prog.exec_getTime clk _)).trans (Prog.exec_onIntegrity_ok hexec)

/-- An accepted payment has a new reference. -/
theorem insertPayment_reference {p : Payment} {s : Store}
    (hc : (insertPayment p).check s = none) : paymentByReference p.referenceNumber s = none := by
  refine List.find?_eq_none.2 fun q hq he => ?_
  simp only [insertPayment] at hc
  split at hc
  · cases hc
  · split at hc
    · cases hc
    · rename_i hany
      exact hany (List.any_eq_true.2 ⟨q, hq, by simp [beq_iff_eq.1 he]⟩)

/-- What a payment request run alone allocates. -/
theorem exec_createPayment (cfg : Config) (clk : ℕ → ℤ) (body : PaymentCreate)
    (user : Option ℕ) (s : Store) (nextId tick : ℕ) :
    let w := Session.fresh s nextId tick
    let s' := ((createPayment cfg body user).exec clk w).2.committed
    ((insertPayment (body.cleaned.rowOn cfg clk user w)).check s ≠ none → s' = s) ∧
      ((insertPayment (body.cleaned.rowOn cfg clk user w)).check s = none →
        ∃ paymentId rows, RowsFor paymentId (allocatePaymentAmounts
          (allocationQuery (body.cleaned.plate cfg) s) body.amount).1 rows ∧
          s' = paidStore (body.cleaned.rowOn cfg clk user w) (allocatePaymentAmounts
            (allocationQuery (body.cleaned.plate cfg) s) body.amount).1 rows s) := by
  intro w s'
  have hamount : body.cleaned.amount = body.amount := rfl
  cases href : body.cleaned.referenceNumber with
  | some reference =>
    have hselect : (Prog.select (paymentByReference reference) : Handler _).exec clk w =
        (.ok (paymentByReference reference s), w) := Prog.exec_select clk _ rfl
    have hrow : body.cleaned.rowOn cfg clk user w = body.cleaned.row cfg user
        (payerVehicleOn body.cleaned (body.cleaned.plate cfg) s) reference nextId (clk tick) := by
      rw [PaymentCreate.rowOn, href]
      rfl
    have hexec (hnew : paymentByReference reference s = none) :
        (createPayment cfg body user).exec clk w =
          (createNewPayment cfg body.cleaned user reference).exec clk w := by
      rw [createPayment, createCleanPayment, href]
      refine (Prog.exec_bind_of_ok hselect).trans ?_
      rw [hnew]
    rw [hrow]
    constructor
    · intro hc
      cases hdup : paymentByReference reference s with
      | some p =>
        simp only [s', createPayment, createCleanPayment, href]
        rw [Prog.bind_eq, Prog.exec_bind_of_ok hselect, hdup]
        rfl
      | none =>
        simp only [s', hexec hdup]
        exact committed_createNewPayment cfg clk body.cleaned user reference rfl hc
    · intro hc
      obtain ⟨r, w', rows, hdone, hrows, halloc⟩ :=
        exec_createNewPayment cfg clk body.cleaned user reference (w := w) rfl hc
      refine ⟨_, rows, hrows, ?_⟩
      simp only [s', hexec (insertPayment_reference hc), hdone]
      exact halloc
  | none =>
    let w₁ : Session Store := Session.fresh s (nextId + 1) (tick + 1)
    have hexec : (createPayment cfg body user).exec clk w =
        (createNewPayment cfg body.cleaned user (referenceText (clk tick) nextId)).exec clk w₁ := by
      rw [createPayment, createCleanPayment, href]
      exact Prog.exec_bind_of_ok rfl
    have hrow : body.cleaned.rowOn cfg clk user w = body.cleaned.row cfg user
        (payerVehicleOn body.cleaned (body.cleaned.plate cfg) s)
        (referenceText (clk tick) nextId) (nextId + 1) (clk (tick + 1)) := by
      rw [PaymentCreate.rowOn, href]
      rfl
    rw [hrow]
    constructor
    · intro hc
      simp only [s', hexec]
      exact committed_createNewPayment cfg clk body.cleaned user _ (w := w₁) rfl hc
    · intro hc
      obtain ⟨r, w', rows, hdone, hrows, halloc⟩ :=
        exec_createNewPayment cfg clk body.cleaned user (referenceText (clk tick) nextId)
          (w := w₁) rfl hc
      refine ⟨_, rows, hrows, ?_⟩
      simp only [s', hexec, hdone]
      exact halloc

/-! ## The payer's own debts -/

/-- A charge is a debt of the payer a request names: of the plate it gives, where that can be
read, or of the plate of the vehicle it gives. -/
def DebtOfPayer (cfg : Config) (body : PaymentCreate) (s : Store) (c : Charge) : Prop :=
  (∃ plate ∈ body.plate cfg, chargeOfPlate plate s c = true) ∨
    ∃ v ∈ s.vehicles, body.vehicleId = some v.id ∧ chargeOfPlate v.plateNormalized s c = true

instance (cfg : Config) (body : PaymentCreate) (s : Store) (c : Charge) :
    Decidable (DebtOfPayer cfg body s c) := inferInstanceAs (Decidable (_ ∨ _))

/-- Everything allocated between two stores goes to debts of the payer. -/
def PaysOwnDebts (cfg : Config) (body : PaymentCreate) (s s' : Store) : Prop :=
  ∀ a ∈ s'.allocations.drop s.allocations.length, ∀ c ∈ s.charges, c.id = a.chargeId →
    DebtOfPayer cfg body s c

instance (cfg : Config) (body : PaymentCreate) (s s' : Store) :
    Decidable (PaysOwnDebts cfg body s s') :=
  inferInstanceAs (Decidable (∀ a ∈ s'.allocations.drop s.allocations.length, ∀ c ∈ s.charges,
    c.id = a.chargeId → DebtOfPayer cfg body s c))

/-- The oldest unpaid charges of the whole yard, as far as an amount goes. -/
def OldestDebt (amount : ℤ) (s : Store) (c : Charge) : Prop :=
  ∃ before after, allocationQuery none s = before ++ c :: after ∧ 0 < chargeOutstanding c ∧
    (before.map chargeOutstanding).sum < amount

/-- The store after a payment request that was run alone. -/
def afterPayment (cfg : Config) (clk : ℕ → ℤ) (body : PaymentCreate) (user : Option ℕ)
    (s : Store) (nextId tick : ℕ) : Store :=
  ((createPayment cfg body user).exec clk (Session.fresh s nextId tick)).2.committed

theorem RowsFor.mem {paymentId : ℕ} {l : List (Charge × ℤ)} {rows : List PaymentAllocation}
    (h : RowsFor paymentId l rows) (id : ℕ) :
    (∃ a ∈ rows, a.chargeId = id) ↔ ∃ c ∈ l.map Prod.fst, c.id = id := by
  have hids : rows.map PaymentAllocation.chargeId = (l.map Prod.fst).map Charge.id := by
    have hamounts := congrArg (List.map Prod.fst) h.amounts
    simp only [rowAmounts, List.map_map] at hamounts ⊢
    exact hamounts
  have hmem := congrArg (id ∈ ·) hids
  simpa only [List.mem_map, eq_iff_iff] using hmem

/-- **Payment scope**: a request pays its payer's own debts only, exactly when its row is
refused, or its plate can be read, or the oldest debts of the whole yard are the payer's as
far as the amount goes. -/
theorem paysOwnDebts_iff (cfg : Config) (clk : ℕ → ℤ) (body : PaymentCreate) (user : Option ℕ)
    (s : Store) (nextId tick : ℕ) (hkeys : (s.charges.map Charge.id).Nodup) :
    PaysOwnDebts cfg body.cleaned s (afterPayment cfg clk body user s nextId tick) ↔
      (insertPayment (body.cleaned.rowOn cfg clk user (Session.fresh s nextId tick))).check s ≠
          none ∨
        (∃ plate, body.cleaned.plate cfg = some plate) ∨
        ∀ c, OldestDebt body.amount s c → DebtOfPayer cfg body.cleaned s c := by
  obtain ⟨hrefused, haccepted⟩ := exec_createPayment cfg clk body user s nextId tick
  by_cases hc : (insertPayment (body.cleaned.rowOn cfg clk user
      (Session.fresh s nextId tick))).check s = none
  · obtain ⟨paymentId, rows, hrows, halloc⟩ := haccepted hc
    have hdrop : (afterPayment cfg clk body user s nextId tick).allocations.drop
        s.allocations.length = rows := by
      rw [afterPayment, halloc, paidStore_allocations, List.drop_left]
    -- the charges that get an allocation, as rows of the table
    have hpays : PaysOwnDebts cfg body.cleaned s (afterPayment cfg clk body user s nextId tick) ↔
        ∀ c ∈ (allocatePaymentAmounts (allocationQuery (body.cleaned.plate cfg) s)
          body.amount).1.map Prod.fst, DebtOfPayer cfg body.cleaned s c := by
      rw [PaysOwnDebts, hdrop]
      have hcharge {c : Charge} (hcm : c ∈ (allocatePaymentAmounts
          (allocationQuery (body.cleaned.plate cfg) s) body.amount).1.map Prod.fst) :
          c ∈ s.charges :=
        (mem_allocationQuery.1 ((allocate_sublist _ _).subset hcm)).1
      constructor
      · intro h c hcm
        obtain ⟨a, ha, hid⟩ := (hrows.mem c.id).2 ⟨c, hcm, rfl⟩
        exact h a ha c (hcharge hcm) hid.symm
      · intro h a ha c hcs hid
        obtain ⟨c', hcm, hid'⟩ := (hrows.mem a.chargeId).1 ⟨a, ha, rfl⟩
        obtain rfl := List.inj_on_of_nodup_map hkeys hcs (hcharge hcm) (hid.trans hid'.symm)
        exact h c hcm
    rw [hpays]
    cases hplate : body.cleaned.plate cfg with
    | some plate =>
      refine iff_of_true (fun c hcm => Or.inl ⟨plate, hplate, ?_⟩) (Or.inr (Or.inl ⟨plate, rfl⟩))
      exact (mem_allocationQuery.1 ((allocate_sublist _ _).subset hcm)).2.2 plate rfl
    | none => simp only [mem_allocate_iff, OldestDebt, hc, ne_eq, not_true_eq_false, reduceCtorEq,
        exists_false, false_or]
  · refine iff_of_true ?_ (Or.inl hc)
    have hsame : afterPayment cfg clk body user s nextId tick = s := hrefused hc
    intro a ha
    simp [hsame] at ha

/-! ### A debt of one plate, and a payer nobody can read -/

/-- A violation of one plate and its charge of 100. -/
def debtStore : Store :=
  { violations := [{ id := 1, plateNormalized := some "12B345IR67", penaltyAmount := 100 }]
    charges := [{ id := 5, violationId := some 1, chargeType := .violation, amount := 100
                  createdAt := 0 }] }

/-- A payment of 40 by a plate. -/
def debtPayment (plate : String) : PaymentCreate :=
  { plateRaw := some plate, amount := 40, referenceNumber := some "R1", positive := by decide }

/-- The plate of the debt pays its own. -/
theorem paysOwnDebts_debtStore :
    PaysOwnDebts {} (debtPayment "12ب34567").cleaned debtStore
      (afterPayment {} (fun _ => 0) (debtPayment "12ب34567") none debtStore 10 0) :=
  (paysOwnDebts_iff {} (fun _ => 0) (debtPayment "12ب34567") none debtStore 10 0 (by decide)).2
    (Or.inr (Or.inl ⟨"12B345IR67", by decide⟩))

/-- **A plate that cannot be read** pays the debt of another. -/
theorem payment_settles_another_plate :
    ¬ ∀ (cfg : Config) (clk : ℕ → ℤ) (body : PaymentCreate) (user : Option ℕ) (s : Store)
      (nextId tick : ℕ), (∃ raw, body.cleaned.plateRaw = some raw) ∨ body.vehicleId ≠ none →
      PaysOwnDebts cfg body.cleaned s (afterPayment cfg clk body user s nextId tick) := by
  intro h
  have hpays := h {} (fun _ => 0) (debtPayment "?") none debtStore 10 0 (Or.inl ⟨"?", by decide⟩)
  revert hpays
  decide

end ParkingSystem
