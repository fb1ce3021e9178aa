import ParkingSystem.Finance.Closing
import ParkingSystem.RulesEngine

/-!
# The Decision of the Gate

The first of the three layers of `process_plate_event`: the decision by vehicle, restriction,
permit and session. An exit closes, prices and settles the session here already, and a counted
entry uses up one of its permit's entries here already, before the rules and the review lock
have had their say.
-/

namespace ParkingSystem

open PyValue Table Transaction

/-- `closed_session_info`. -/
structure ClosedSession where
  id : ℕ
  durationSeconds : Option ℤ
  baseAmount : ℤ
  finalAmount : ℤ
  paymentStatus : PaymentStatus
  previewOnly : Bool := false
  deriving DecidableEq, Repr

/-- What the first layer leaves in the local variables. -/
structure BaseDecision where
  decision : Decision
  reason : String
  permit : Option AccessPermit := none
  createNewSession : Bool := true
  warnings : List Warning := []
  session : Option ClosedSession := none

/-! ## Exit -/

/-- The open session of a plate that was entered last. -/
def latestOpenSession (plate : String) (s : Store) : Option ParkingSession :=
  (orderByDesc ParkingSession.entryAt (openSessions plate s)).head?

theorem latestOpenSession_mem {plate : String} {s : Store} {r : ParkingSession}
    (h : latestOpenSession plate s = some r) :
    r ∈ s.sessions ∧ r.plateNormalized = plate ∧ r.status = .opened := by
  have hr := List.mem_of_mem_head? h
  simpa [mem_orderByDesc] using hr

theorem latestOpenSession_eq_none {plate : String} {s : Store} :
    latestOpenSession plate s = none ↔ openSessions plate s = [] := by
  rw [latestOpenSession, List.head?_eq_none_iff, ← List.length_eq_zero_iff,
    (perm_orderByDesc _ _).length_eq, List.length_eq_zero_iff]

/-- What the exit would cost now, where the policy refuses unpaid exits and it would cost
anything. -/
def exitPreview (cfg : Config) (policy : String) (session : ParkingSession)
    (duration now : ℤ) : Handler (Option Amounts) :=
  if policy = "DENY" then do
    let tariff ← getActiveTariff now
    let tariffPolicy ← resolveTariffPolicy cfg
    let amounts := calculateAmounts cfg.tehran tariff duration (some session.entryAt) tariffPolicy
    return if 0 < amounts.final then some amounts else none
  else return none

/-- The refusal of an unpaid exit. -/
def blockedExit (session : ParkingSession) (duration : ℤ) (preview : Amounts) : BaseDecision :=
  { decision := .deny, reason := "EXIT_UNPAID_BLOCKED"
    warnings := [.text "UNPAID_EXIT_BLOCKED_BY_POLICY"]
    session := some { id := session.id, durationSeconds := some duration
                      baseAmount := preview.base, finalAmount := preview.final
                      paymentStatus := .unpaid, previewOnly := true } }

/-- The closed session, before it is settled. -/
def Closing.closed (c : Closing) : Closing :=
  { c with session := { c.session with
      status := .closed
      paymentStatus := if c.session.finalAmount = 0 then .free else .unpaid } }

/-- Send the closed session; the query that does it swallows every failure. Then settle an
unpaid exit with prepaid credit. The result is the payment status and the warnings. -/
def settleExit (cfg : Config) (c : Closing) (now : ℤ) : Handler (PaymentStatus × List Warning) := do
  let _ ← (flushClosing c).attempt
  if c.session.paymentStatus = .unpaid then do
    let grace ← exitGrace cfg
    let settlement ← (settleExitWithPrepaidCredit c.session now grace).attempt
    return match settlement with
      | .ok (some s) =>
        if s.settled then (.paid, [.text "EXIT_SETTLED_WITHIN_GRACE"])
        else (.unpaid, [.text "PREPAID_CREDIT_PARTIALLY_APPLIED"])
      | .ok none => (.unpaid, [])
      | .error _ => (.unpaid, [.text "GRACE_SETTLEMENT_ERROR"])
  else return (c.session.paymentStatus, [])

/-- The answer to an exit that closed its session. -/
def closedExit (policy : String) (c : Closing) (paymentStatus : PaymentStatus)
    (warnings : List Warning) : BaseDecision :=
  { decision := .allow, reason := "EXIT_SESSION_CLOSED"
    warnings := c.amounts.warnings.map .text ++ warnings ++
      if 0 < c.session.finalAmount ∧ paymentStatus = .unpaid ∧ policy ≠ "ALLOW" then
        [.text "UNPAID_EXIT"] else []
    session := some { id := c.session.id, durationSeconds := c.session.durationSeconds
                      baseAmount := c.session.baseAmount, finalAmount := c.session.finalAmount
                      paymentStatus } }

/-- Close the session, price it and settle it. -/
def closeExit (cfg : Config) (policy : String) (session : ParkingSession) (duration now : ℤ) :
    Handler BaseDecision := do
  let closing ← closeSessionAmounts cfg session
    { session with exitAt := some now, durationSeconds := some duration }
  let (paymentStatus, warnings) ← settleExit cfg closing.closed now
  return closedExit policy closing.closed paymentStatus warnings

/-- An exit with an open session. -/
def exitSession (cfg : Config) (session : ParkingSession) (now : ℤ) : Handler BaseDecision := do
  let policy ← resolveExitPolicy cfg
  let duration := secondsBetween session.entryAt now
  let preview ← exitPreview cfg policy session duration now
  match preview with
  | some amounts => return blockedExit session duration amounts
  | none => closeExit cfg policy session duration now

/-- The exit branch. -/
def exitDecision (cfg : Config) (plate : String) (now : ℤ) : Handler BaseDecision := do
  let session ← .select (latestOpenSession plate)
  match session with
  | some session => exitSession cfg session now
  | none => return { decision := .allowWithWarning, reason := "NO_OPEN_SESSION_FOR_EXIT"
                     warnings := [.text "NO_OPEN_SESSION_FOR_EXIT"] }

/-! ## Entry -/

/-- A permit with one more entry used. -/
def AccessPermit.use (p : AccessPermit) : AccessPermit := { p with usedEntries := p.usedEntries + 1 }

/-- UPDATE of a permit's counter, with the value computed from the row as loaded. -/
def updatePermit (p : AccessPermit) : Stmt where
  label := .updatePermit p
  locks := [.permitRow p.id]
  check _ := none
  apply s := { s with
    permits := updateWhere (fun r => r.id == p.id)
      (fun r => { r with usedEntries := p.use.usedEntries }) s.permits }

/-- The answers of the entry branch that change nothing. -/
def noPermit (reason : String) : BaseDecision :=
  if reason = "PERMIT_NOT_FOUND" then { decision := .unknownPlate, reason := "NO_ACTIVE_PERMIT" }
  else { decision := .requireOperatorApproval, reason }

def alreadyOpen (p : AccessPermit) : BaseDecision :=
  { decision := .allowWithWarning, reason := "DUPLICATE_ENTRY_SESSION_OPEN", permit := some p
    createNewSession := false, warnings := [.text "SESSION_ALREADY_OPEN"] }

def yardIsFull (p : AccessPermit) (reason : String) : BaseDecision :=
  { decision := .requireOperatorApproval, reason, permit := some p, warnings := [.text reason] }

def countedEntry (p : AccessPermit) : BaseDecision :=
  { decision := .allow, reason := "VALID_PERMIT", permit := some p.use }

/-- The entry branch; every direction but OUT is an entry here. -/
def entryDecision (cfg : Config) (plate gateId : String) (now : ℤ) : Handler BaseDecision := do
  let permit ← findActivePermit plate gateId now
  match permit with
  | .error reason => return noPermit reason
  | .ok p => do
    let sessions ← .select (openSessions plate)
    if !sessions.isEmpty then return alreadyOpen p
    else do
      let full ← checkYardCapacity cfg
      match full with
      | some reason => return yardIsFull p reason
      | none => do
        Prog.flush (updatePermit p)
        return countedEntry p

/-! ## The first layer -/

def unreadable : BaseDecision := { decision := .unknownPlate, reason := "PLATE_NOT_READABLE" }

def unregistered : BaseDecision :=
  { decision := .unknownPlate, reason := "VEHICLE_NOT_REGISTERED" }

def inactive : BaseDecision := { decision := .deny, reason := "VEHICLE_INACTIVE" }

def restricted : BaseDecision := { decision := .deny, reason := "PLATE_RESTRICTED" }

/-- The decision before the rules and the review lock. -/
def baseDecision (cfg : Config) (direction gateId : String) (normalized : Option String)
    (vehicle : Option Vehicle) (now : ℤ) : Handler BaseDecision :=
  match normalized, vehicle with
  | none, _ => return unreadable
  | some _, none => return unregistered
  | some plate, some v =>
    if !v.isActive then return inactive
    else do
      let restriction ← hasActiveRestriction plate now
      if restriction.isSome then return restricted
      else if direction = "OUT" then exitDecision cfg plate now
      else entryDecision cfg plate gateId now

end ParkingSystem
