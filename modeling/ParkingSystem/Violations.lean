import ParkingSystem.Finance.Payments

/-!
# Violations

The state machine of a violation and the endpoints that move it: confirming makes a charge,
cancelling and an accepted appeal void the charge while it is unpaid.
-/

namespace ParkingSystem

open PyText Table Transaction

/-- `VIOLATION_TRANSITIONS`. -/
def violationTransitions : List (String × List String) :=
  [("REGISTERED", ["CONFIRMED", "CANCELLED"]), ("CONFIRMED", ["CANCELLED"]), ("CANCELLED", [])]

/-- `can_transition`. -/
def canTransition (current target : String) : Bool :=
  ((violationTransitions.lookup (upperString current)).getD []).contains target

/-- `voidable_charge_status`. -/
def voidableChargeStatus (status : ChargeStatus) : Bool := status == .unpaid

/-- UPDATE of a violation. -/
def updateViolation (id : ℕ) (status : String) (user : Option ℕ) (now : ℤ) : Stmt where
  label := .updateViolation
  locks := [.violationRow id]
  check _ := none
  apply s := { s with
    violations := updateWhere (fun v => v.id == id)
      (fun v => { v with status, reviewedBy := user, reviewedAt := some now }) s.violations }

/-- UPDATE of an appeal. -/
def updateAppeal (id : ℕ) (status : String) (note : Option String) (user : Option ℕ) (now : ℤ) :
    Stmt where
  label := .updateAppeal
  locks := [.appealRow id]
  check _ := none
  apply s := { s with
    appeals := updateWhere (fun a => a.id == id)
      (fun a => { a with status, reviewResult := note, reviewedBy := user, reviewedAt := some now })
      s.appeals }

/-- `db.get(Violation, id)`. -/
def violationById (id : ℕ) (s : Store) : Option Violation := s.violations.find? fun v => v.id == id

/-- The charge of a violation. -/
def chargeOfViolation (id : ℕ) (s : Store) : Option Charge :=
  s.charges.find? fun c => c.violationId == some id

/-- `_void_unpaid_charge`. -/
def voidUnpaidCharge (violationId : ℕ) : Handler Bool := do
  let charge ← .select (chargeOfViolation violationId)
  match charge with
  | none => return false
  | some c =>
    if voidableChargeStatus c.status then do
      Prog.flush (updateCharge c { c with status := .voided })
      return true
    else return false

/-- The answer of the endpoints: the new status, whether the request repeats an earlier one,
whether the charge was voided, whether a paid charge is left to be refunded. -/
structure ViolationResponse where
  status : String
  duplicate : Bool := false
  chargeVoided : Bool := false
  paidChargeNeedsRefund : Bool := false
  deriving DecidableEq, Repr

/-- The charge a confirmed violation gets, unless it has one or costs nothing. -/
def chargeViolation (v : Violation) : Handler Unit := do
  let existing ← .select (chargeOfViolation v.id)
  if existing.isNone && decide (0 < v.penaltyAmount) then do
    let id ← Prog.newId
    let createdAt ← Prog.getTime
    Prog.flush (insertCharge
      { id, violationId := some v.id, chargeType := .violation, amount := v.penaltyAmount
        createdAt })
  else return ()

/-- `confirm_violation`. -/
def confirmViolation (violationId : ℕ) (user : Option ℕ) : Handler ViolationResponse := do
  let found ← .select (violationById violationId)
  match found with
  | none => Prog.raise .notFound
  | some v =>
    if v.status = "CONFIRMED" then return { status := v.status, duplicate := true }
    else if !canTransition v.status "CONFIRMED" then Prog.raise .conflict
    else do
      let now ← Prog.getTime
      Prog.flush (updateViolation v.id "CONFIRMED" user now)
      chargeViolation v
      Prog.commitTx
      return { status := "CONFIRMED" }

/-- Whether a violation whose charge was not voided has a paid one. -/
def paidCharge (violationId : ℕ) (voided : Bool) : Handler Bool :=
  if voided then return false
  else do
    let charge ← .select (chargeOfViolation violationId)
    return charge.any fun c => c.status == .paid

/-- `cancel_violation`. -/
def cancelViolation (violationId : ℕ) (user : Option ℕ) : Handler ViolationResponse := do
  let found ← .select (violationById violationId)
  match found with
  | none => Prog.raise .notFound
  | some v =>
    if v.status = "CANCELLED" then return { status := v.status, duplicate := true }
    else if !canTransition v.status "CANCELLED" then Prog.raise .conflict
    else do
      let now ← Prog.getTime
      Prog.flush (updateViolation v.id "CANCELLED" user now)
      let voided ← voidUnpaidCharge v.id
      let chargedPaid ← paidCharge v.id voided
      Prog.commitTx
      return { status := "CANCELLED", chargeVoided := voided
               paidChargeNeedsRefund := chargedPaid }

/-- An accepted appeal cancels the violation, if it still can be. -/
def acceptAppeal (violationId : ℕ) (user : Option ℕ) : Handler Bool := do
  let found ← .select (violationById violationId)
  match found with
  | none => return false
  | some v =>
    if v.status = "REGISTERED" ∨ v.status = "CONFIRMED" then do
      let now ← Prog.getTime
      Prog.flush (updateViolation v.id "CANCELLED" user now)
      voidUnpaidCharge v.id
    else return false

/-- `review_appeal`. -/
def reviewAppeal (appealId : ℕ) (result : String) (note : Option String) (user : Option ℕ) :
    Handler ViolationResponse := do
  let found ← .select fun s : Store => s.appeals.find? fun a => a.id == appealId
  match found with
  | none => Prog.raise .notFound
  | some appeal =>
    if appeal.status ≠ "SUBMITTED" then Prog.raise .conflict
    else
      let result := upperString result
      if !(["ACCEPTED", "REJECTED"].contains result) then
        Prog.raise (.unprocessable "INVALID_APPEAL_RESULT")
      else do
        let now ← Prog.getTime
        Prog.flush (updateAppeal appeal.id result note user now)
        let voided ← if result = "ACCEPTED" then acceptAppeal appeal.violationId user
          else pure false
        Prog.commitTx
        return { status := result, chargeVoided := voided }

end ParkingSystem
