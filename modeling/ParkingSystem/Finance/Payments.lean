import ParkingSystem.Finance.Closing
import ParkingSystem.Plate

/-!
# Payments and Adjustments

The endpoints `create_payment`, `create_adjustment` and `approve_adjustment`. The audit rows
they add are not modelled: nothing reads them.
-/

namespace ParkingSystem

open Plate PyValue Table Transaction

/-! ## Payments -/

/-- The body of `POST /payments`; the schema asks for a positive amount. -/
structure PaymentCreate where
  plateRaw : Option String := none
  vehicleId : Option ℕ := none
  amount : ℤ
  paymentMethod : String := "CASH"
  referenceNumber : Option String := none
  notes : Option String := none
  positive : 0 < amount

/-- What `create_payment` answers. -/
structure PaymentResponse where
  id : ℕ
  referenceNumber : String
  amount : ℤ
  allocations : List (ℕ × ℤ)
  remainingCredit : Option ℤ
  duplicate : Bool
  warnings : List String
  deriving DecidableEq, Repr

/-- The answer that refers to a payment made before. -/
def duplicatePayment (p : Payment) (warnings : List String) : PaymentResponse :=
  { id := p.id, referenceNumber := p.referenceNumber, amount := p.amount, allocations := []
    remainingCredit := none, duplicate := true, warnings }

/-- INSERT of a payment; its reference is unique. -/
def insertPayment (p : Payment) : Stmt where
  label := .insertPayment
  locks := [.paymentReference p.referenceNumber]
  check s :=
    if !(fitsBigInt p.amount && fitsChar 64 p.referenceNumber && fitsChar 16 p.paymentMethod &&
        fitsChar? 32 p.plateNormalized) then some .data
    else if s.payments.any fun q => q.referenceNumber == p.referenceNumber || q.id == p.id then
      some .integrity
    else none
  apply s := { s with payments := s.payments ++ [p] }

/-- The payment with a reference. -/
def paymentByReference (reference : String) (s : Store) : Option Payment :=
  s.payments.find? fun p => p.referenceNumber == reference

/-- Whether a charge belongs to a session or a violation of a plate. -/
def chargeOfPlate (plate : String) (s : Store) (c : Charge) : Bool :=
  (s.sessions.any fun r => r.plateNormalized == plate && c.parkingSessionId == some r.id) ||
    (s.violations.any fun v => v.plateNormalized == some plate && c.violationId == some v.id)

/-- PARKING first. -/
def typePriority (c : Charge) : ℤ := if c.chargeType = .parking then 0 else 1

/-- `_build_allocation_query`: a plate restricts the debts to its own; no plate is every debt. -/
def allocationQuery (plate : Option String) (s : Store) : List Charge :=
  match plate with
  | some plate => orderBy typePriority (orderBy Charge.createdAt
      (s.charges.filter fun c => c.status == .unpaid && chargeOfPlate plate s c))
  | none => orderBy Charge.createdAt (s.charges.filter fun c => c.status == .unpaid)

@[simp] theorem mem_allocationQuery {plate : Option String} {s : Store} {c : Charge} :
    c ∈ allocationQuery plate s ↔ c ∈ s.charges ∧ c.status = .unpaid ∧
      ∀ p ∈ plate, chargeOfPlate p s c = true := by
  cases plate <;> simp [allocationQuery]

/-- The query lists no charge twice. -/
theorem allocationQuery_nodup {s : Store} (h : (s.charges.map Charge.id).Nodup)
    (plate : Option String) : ((allocationQuery plate s).map Charge.id).Nodup := by
  have hfilter (p : Charge → Bool) : ((s.charges.filter p).map Charge.id).Nodup :=
    h.sublist (List.filter_sublist.map _)
  cases plate with
  | none => exact ((perm_orderBy _ _).map _).nodup_iff.2 (hfilter _)
  | some p =>
    refine ((perm_orderBy _ _).map _).nodup_iff.2 ?_
    exact ((perm_orderBy _ _).map _).nodup_iff.2 (hfilter _)

/-- A charge after an allocation. -/
def Charge.paidBy (c : Charge) (amount : ℤ) : Charge :=
  Charge.settle { c with paidAmount := c.paidAmount + amount }

/-- The allocation rows, with their identifiers. -/
def newAllocations (paymentId : ℕ) : List (Charge × ℤ) → Handler (List PaymentAllocation)
  | [] => return []
  | (c, amount) :: rest => do
    let id ← Prog.newId
    let others ← newAllocations paymentId rest
    return { id, paymentId, chargeId := c.id, amount } :: others

/-- The answer to a new payment. -/
def newPaymentResponse (payment : Payment) (allocs : List (Charge × ℤ)) (remaining : ℤ) :
    PaymentResponse :=
  { id := payment.id, referenceNumber := payment.referenceNumber, amount := payment.amount
    allocations := allocs.map fun (c, a) => (c.id, a)
    remainingCredit := some remaining
    duplicate := false
    warnings := if payment.plateNormalized = none ∧ payment.vehicleId = none then
      ["NO_PLATE_GLOBAL_ALLOCATION"] else [] }

/-- The body of the `try`: insert the payment, allocate it, commit. -/
def allocatePayment (payment : Payment) : Handler PaymentResponse := do
  Prog.flush (insertPayment payment)
  let unpaid ← .select (allocationQuery payment.plateNormalized)
  let (allocs, remaining) := allocatePaymentAmounts unpaid payment.amount
  let rows ← newAllocations payment.id allocs
  flushAll (allocs.map (fun (c, a) => updateCharge c (c.paidBy a)) ++ rows.map insertAllocation)
  Prog.commitTx
  return newPaymentResponse payment allocs remaining

/-- The `except IntegrityError`: another payment took the reference. -/
def paymentConflict (reference : String) : Handler PaymentResponse := do
  Prog.rollbackTx
  let dup ← .select (paymentByReference reference)
  match dup with
  | some p => return duplicatePayment p ["CONCURRENT_CONFLICT"]
  | none => .throw (.rejected .integrity)

/-- The vehicle a payment is for: the one named, else the plate's. -/
def payerVehicle (body : PaymentCreate) (plate : Option String) : Handler (Option ℕ) :=
  match body.plateRaw, body.vehicleId with
  | some _, none => .select fun s =>
      (s.vehicles.find? fun v => some v.plateNormalized == plate).map Vehicle.id
  | _, vehicleId => return vehicleId

/-- The text of a generated reference. -/
def referenceText (now : ℤ) (n : ℕ) : String :=
  "PAY-" ++ toString (now / 1000) ++ "-" ++ toString n

/-- The reference of a payment that came without one. -/
def generatedReference : Handler String := do
  let now ← Prog.getTime
  let n ← Prog.newId
  return referenceText now n

/-- An empty plate or reference counts as missing. -/
def PaymentCreate.cleaned (body : PaymentCreate) : PaymentCreate :=
  { body with
    plateRaw := body.plateRaw.filter (· != "")
    referenceNumber := body.referenceNumber.filter (· != "") }

/-- The plate a payment is for, where its text can be read. -/
def PaymentCreate.plate (cfg : Config) (body : PaymentCreate) : Option String :=
  body.plateRaw.bind (normalizePlate cfg.plateLetterMapping)

/-- The row of a new payment. -/
def PaymentCreate.row (cfg : Config) (body : PaymentCreate) (user vehicleId : Option ℕ)
    (reference : String) (id : ℕ) (paidAt : ℤ) : Payment :=
  { id, referenceNumber := reference, vehicleId, plateNormalized := body.plate cfg
    amount := body.amount, paymentMethod := body.paymentMethod, paidAt
    operatorId := user, notes := body.notes }

/-- The part of `create_payment` after the reference lookup. -/
def createNewPayment (cfg : Config) (body : PaymentCreate) (user : Option ℕ)
    (reference : String) : Handler PaymentResponse := do
  let vehicleId ← payerVehicle body (body.plate cfg)
  let id ← Prog.newId
  let paidAt ← Prog.getTime
  Prog.onIntegrity (allocatePayment (body.row cfg user vehicleId reference id paidAt))
    (paymentConflict reference)

/-- `create_payment`, on a request without empty texts. -/
def createCleanPayment (cfg : Config) (body : PaymentCreate) (user : Option ℕ) :
    Handler PaymentResponse :=
  match body.referenceNumber with
  | some reference => do
    let existing ← .select (paymentByReference reference)
    match existing with
    | some p => return duplicatePayment p []
    | none => createNewPayment cfg body user reference
  | none => do
    let reference ← generatedReference
    createNewPayment cfg body user reference

/-- `create_payment`. -/
def createPayment (cfg : Config) (body : PaymentCreate) (user : Option ℕ) :
    Handler PaymentResponse := createCleanPayment cfg body.cleaned user

/-! ## Adjustments -/

/-- The body of `POST /financial-adjustments`. -/
structure AdjustmentCreate where
  entityType : Option String := none
  entityId : ℕ
  adjustmentType : Option String := none
  amount : Json
  reason : Option String := none

/-- INSERT of an adjustment. -/
def insertAdjustment (a : FinancialAdjustment) : Stmt where
  label := .insertAdjustment a.amount
  locks := [.adjustmentRow a.id]
  check s :=
    if !(fitsBigInt a.amount && fitsChar 32 a.entityType && fitsChar 16 a.adjustmentType) then
      some .data
    else if s.adjustments.any fun r => r.id == a.id then some .integrity
    else none
  apply s := { s with adjustments := s.adjustments ++ [a] }

/-- `create_adjustment`. -/
def createAdjustment (body : AdjustmentCreate) (user : Option ℕ) : Handler ℕ :=
  match body.amount.toInt with
  | none => Prog.raise .typeError
  | some amount => do
    let id ← Prog.newId
    Prog.flush (insertAdjustment
      { id, entityType := body.entityType.getD "CHARGE", entityId := body.entityId
        adjustmentType := body.adjustmentType.getD "WAIVER", amount, reason := body.reason
        requestedBy := user })
    Prog.commitTx
    return id

/-- An adjustment once approved. -/
def FinancialAdjustment.approve (user : Option ℕ) (now : ℤ) (a : FinancialAdjustment) :
    FinancialAdjustment :=
  { a with status := .approved, approvedBy := user, approvedAt := some now }

@[simp] theorem FinancialAdjustment.approve_id (user : Option ℕ) (now : ℤ)
    (a : FinancialAdjustment) : (a.approve user now).id = a.id := rfl

@[simp] theorem FinancialAdjustment.approve_amount (user : Option ℕ) (now : ℤ)
    (a : FinancialAdjustment) : (a.approve user now).amount = a.amount := rfl

/-- UPDATE of an adjustment that is being approved. -/
def approveStmt (loaded : FinancialAdjustment) (user : Option ℕ) (now : ℤ) : Stmt where
  label := .updateAdjustment loaded
  locks := [.adjustmentRow loaded.id]
  check _ := none
  apply s := { s with
    adjustments := updateWhere (fun r => r.id == loaded.id)
      (FinancialAdjustment.approve user now) s.adjustments }

/-- A charge after an approved adjustment. -/
def Charge.adjustedBy (c : Charge) (amount : ℤ) : Charge :=
  Charge.settle { c with paidAmount := min c.amount (c.paidAmount + amount) }

/-- UPDATE of a charge by an adjustment; the credit it gives is noted. -/
def creditCharge (adjustmentId : ℕ) (loaded new : Charge) : Stmt where
  label := .updateCharge loaded
  locks := [.chargeRow loaded.id]
  check _ := none
  apply s := { s with
    charges := updateWhere (fun r => r.id == loaded.id) (loaded.written new) s.charges
    grants := s.grants ++ [{ adjustmentId, chargeId := loaded.id
                             amount := new.paidAmount - loaded.paidAmount }] }

/-- `self_approval_decision`: whether the approval may go on, and whether it is the
requester's own. -/
def selfApprovalDecision (policy : String) (requestedBy user : Option ℕ) : Bool × Bool :=
  let isSelf := requestedBy.isSome && requestedBy == user
  if isSelf && policy == "BLOCK" then (false, true) else (true, isSelf)

/-- `db.get(Charge, id)`. -/
def chargeById (id : ℕ) (s : Store) : Option Charge := s.charges.find? fun c => c.id == id

/-- `db.get(FinancialAdjustment, id)`. -/
def adjustmentById (id : ℕ) (s : Store) : Option FinancialAdjustment :=
  s.adjustments.find? fun a => a.id == id

/-- The credit of an approved adjustment on a charge. -/
def applyAdjustment (a : FinancialAdjustment) : Handler Unit :=
  if a.entityType = "CHARGE" then do
    let charge ← .select (chargeById a.entityId)
    match charge with
    | some c =>
      if c.status = .unpaid then Prog.flush (creditCharge a.id c (c.adjustedBy a.amount))
      else return ()
    | none => return ()
  else return ()

/-- `approve_adjustment`. -/
def approveAdjustment (cfg : Config) (adjustmentId : ℕ) (user : Option ℕ) : Handler Bool := do
  let found ← .select (adjustmentById adjustmentId)
  match found with
  | none => Prog.raise .notFound
  | some a =>
    if a.status ≠ .pending then Prog.raise .conflict
    else do
      let policy ← resolveSelfApprovalPolicy cfg
      let (allowed, selfApproval) := selfApprovalDecision policy a.requestedBy user
      if !allowed then Prog.raise .conflict
      else do
        let now ← Prog.getTime
        Prog.flush (approveStmt a user now)
        applyAdjustment a
        Prog.commitTx
        return selfApproval

end ParkingSystem
