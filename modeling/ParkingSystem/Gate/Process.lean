import ParkingSystem.Gate.Decision

/-!
# Processing a Plate Event

`process_plate_event`: look the event up by its key, store the recognition, decide, store the
access event with the session and the occupancy that go with it, commit, answer. A conflict on
a unique index rolls everything back and is answered from what is in the store then.

Broadcasts are not modelled: their failures are swallowed and nothing reads them.
-/

namespace ParkingSystem

open Plate PyValue Table Transaction

/-! ## Requests and answers -/

/-- The arguments of `process_plate_event`. -/
structure PlateEvent where
  gateCode : String
  direction : String := "IN"
  plateRaw : String
  sourceEventId : String
  deviceId : Option String := none
  capturedAt : Option ℤ := none
  confidence : Option ℚ := none
  rawPayload : Option Json := none
  isManual : Bool := false
  operatorId : Option ℕ := none
  offlineCreated : Bool := false
  idempotencyKey : Option String := none
  clientDecision : Option String := none
  dryRun : Bool := false
  driverRequest : Option String := none
  captureQuality : CaptureQuality := {}
  processingMs : Option ℤ := none

/-- `idempotency_key or f"{gate.code}:{source_event_id}"`. -/
def PlateEvent.key (e : PlateEvent) : String :=
  match e.idempotencyKey with
  | some key => if key = "" then e.gateCode ++ ":" ++ e.sourceEventId else key
  | none => e.gateCode ++ ":" ++ e.sourceEventId

inductive BarrierAction where
  | opened
  | keepClosed
  deriving DecidableEq, Repr

/-- `barrier_action_for`. -/
def barrierActionFor : Decision → BarrierAction
  | .allow | .allowWithWarning | .offlineAllow => .opened
  | _ => .keepClosed

structure VehicleInfo where
  id : ℕ
  type : String
  color : Option String
  deriving DecidableEq, Repr

structure ParkingInfo where
  id : ℕ
  code : String
  zone : Option String
  deriving DecidableEq, Repr

/-- `plate_review` of an answer. -/
structure PlateReview where
  status : ReviewStatus
  recognitionId : Option ℕ
  envelopeOk : Bool
  envelopeViolations : List EnvelopeViolation

/-- An answer; the parts only some paths have are optional. -/
structure GateResponse where
  accessEventId : Option ℕ
  decision : Decision
  decisionReason : Json
  plateRaw : Option String
  plateNormalized : Option String
  confidence : Option ℚ := none
  vehicle : Option VehicleInfo := none
  unit : Option (Option String × String) := none
  parking : Option ParkingInfo := none
  warnings : List Warning
  barrierAction : BarrierAction
  gate : Gate
  duplicate : Bool := false
  eventType : Option EventType := none
  plateReview : Option PlateReview := none
  ruleTrace : Option RuleTrace := none
  message : Option Json := none
  requireDriverSelection : Bool := false
  notifyFieldOp : Bool := false
  issueReceipt : Bool := false
  session : Option ClosedSession := none
  conflictingSession : Option ℕ := none
  needsReview : Bool := false

/-! ## Lookups -/

/-- The gate with a code; the code is unique. -/
def gateByCode (code : String) (s : Store) : Option Gate := s.gates.find? fun g => g.code == code

/-- The access event with a key; the key is unique. -/
def eventByKey (key : String) (s : Store) : Option AccessEvent :=
  s.events.find? fun ev => ev.idempotencyKey == key

theorem eventByKey_mem {key : String} {s : Store} {ev : AccessEvent}
    (h : eventByKey key s = some ev) : ev ∈ s.events ∧ ev.idempotencyKey = key :=
  ⟨List.mem_of_find?_eq_some h, by simpa using List.find?_some h⟩

theorem eventByKey_eq_none {key : String} {s : Store} :
    eventByKey key s = none ↔ ∀ ev ∈ s.events, ev.idempotencyKey ≠ key := by
  simp [eventByKey]

/-- `db.get(ParkingSpace, id)`. -/
def spaceById (id : ℕ) (s : Store) : Option ParkingSpace := s.spaces.find? fun sp => sp.id == id

/-- The occupancy of a vehicle that was entered last. -/
def latestOccupancy (vehicleId : ℕ) (s : Store) : Option ParkingOccupancy :=
  (orderByDesc ParkingOccupancy.occupiedAt (s.occupancies.filter fun o =>
    o.vehicleId == some vehicleId && o.status == .occupied)).head?

theorem latestOccupancy_mem {vehicleId : ℕ} {s : Store} {o : ParkingOccupancy}
    (h : latestOccupancy vehicleId s = some o) :
    o ∈ s.occupancies ∧ o.vehicleId = some vehicleId ∧ o.status = .occupied := by
  have ho := List.mem_of_mem_head? h
  simpa [mem_orderByDesc] using ho

/-! ## Statements -/

/-- INSERT of a recognition: a device sends a source event once. -/
def insertRecognition (p : PlateRecognitionEvent) : Stmt where
  label := .insertRecognition p
  locks := match p.deviceId with
    | some device => [.deviceSource device p.sourceEventId]
    | none => []
  check s :=
    if !(fitsChar 8 p.direction && fitsChar 64 p.plateRaw && fitsChar? 32 p.plateNormalized &&
        fitsChar? 36 p.deviceId && fitsChar 64 p.sourceEventId &&
        p.processingMs.all fitsInt) then some .data
    else if p.deviceId.isSome && s.recognitions.any fun q =>
        q.deviceId == p.deviceId && q.sourceEventId == p.sourceEventId then some .integrity
    else none
  apply s := { s with recognitions := s.recognitions ++ [p] }

/-- Whether a reason fits its column: a text of at most 64 characters, or NULL. -/
def fitsReason : Json → Bool
  | .null => true
  | .str s => fitsChar 64 s
  | _ => false

/-- INSERT of an access event; its key is unique. -/
def insertEvent (ev : AccessEvent) : Stmt where
  label := .insertEvent ev
  locks := [.eventKey ev.idempotencyKey]
  check s :=
    if !(fitsChar? 32 ev.plateNormalized && fitsReason ev.decisionReason &&
        fitsChar 128 ev.idempotencyKey) then some .data
    else if s.events.any fun other => other.idempotencyKey == ev.idempotencyKey then
      some .integrity
    else none
  apply s := { s with events := s.events ++ [ev] }

/-- A session about to be inserted; its plate may still be missing. -/
structure NewSession where
  id : ℕ
  vehicleId : Option ℕ
  plate : Option String
  entryEventId : ℕ
  entryAt : ℤ

/-- The row of a new session, given its plate. -/
def NewSession.row (n : NewSession) (plate : String) : ParkingSession :=
  { id := n.id, vehicleId := n.vehicleId, plateNormalized := plate
    entryEventId := some n.entryEventId, entryAt := n.entryAt }

/-- INSERT of a session: the plate is NOT NULL, and a plate has at most one OPEN session. -/
def insertSession (n : NewSession) : Stmt where
  label := .insertSession n.plate
  locks := n.plate.toList.map .openPlate
  check s :=
    match n.plate with
    | none => some .integrity
    | some plate =>
      if !fitsChar 32 plate then some .data
      else if !(openSessions plate s).isEmpty then some .integrity
      else none
  apply s := { s with sessions := s.sessions ++ n.plate.toList.map n.row }

/-- INSERT of an occupancy. -/
def insertOccupancy (o : ParkingOccupancy) : Stmt where
  label := .insertOccupancy
  locks := []
  check _ := none
  apply s := { s with occupancies := s.occupancies ++ [o] }

/-- SELECT ... FOR UPDATE of a space. -/
def lockSpace (id : ℕ) : Stmt where
  label := .lockSpace
  locks := [.spaceRow id]
  check _ := none
  apply s := s

/-- UPDATE of the status of a space. -/
def updateSpace (id : ℕ) (status : String) : Stmt where
  label := .updateSpace
  locks := [.spaceRow id]
  check _ := none
  apply s := { s with
    spaces := updateWhere (fun r => r.id == id) (fun r => { r with status }) s.spaces }

/-- UPDATE of an occupancy that is vacated. -/
def vacate (id : ℕ) (now : ℤ) : Stmt where
  label := .updateOccupancy
  locks := [.occupancyRow id]
  check _ := none
  apply s := { s with
    occupancies := updateWhere (fun r => r.id == id)
      (fun r => { r with vacatedAt := some now, status := .vacated }) s.occupancies }

/-! ## Reading the plate -/

/-- What is known when the decision is made. -/
structure Reading where
  now : ℤ
  gate : Gate
  normalized : Option String
  envelope : EnvelopeResult
  review : ReviewStatus
  recognitionId : Option ℕ
  vehicle : Option Vehicle

/-- Store the recognition, unless the run is dry. -/
def storeRecognition (e : PlateEvent) (gate : Gate) (normalized : Option String) (now : ℤ)
    (envelope : EnvelopeResult) (review : ReviewStatus) : Handler (Option ℕ) :=
  if e.dryRun then return none
  else do
    let id ← Prog.newId
    Prog.flush (insertRecognition
      { id, gateId := gate.id, deviceId := e.deviceId, direction := e.direction
        plateRaw := e.plateRaw, plateNormalized := normalized, confidence := e.confidence
        capturedAt := e.capturedAt.getD now, receivedAt := now
        sourceEventId := e.sourceEventId, rawPayload := e.rawPayload, reviewStatus := review
        captureQuality := e.captureQuality, envelopeOk := envelope.ok
        processingMs := e.processingMs })
    return some id

/-- The vehicle of a readable plate. -/
def vehicleByPlate : Option String → Handler (Option Vehicle)
  | some plate => getByPlate plate
  | none => return none

/-- The part of the handler before the decision. -/
def readPlate (cfg : Config) (e : PlateEvent) (gate : Gate) (now : ℤ) : Handler Reading := do
  let normalized := normalizePlate cfg.plateLetterMapping e.plateRaw
  let envelope ← evaluateCapture cfg e.captureQuality e.confidence normalized
  let review := reviewStatusFor cfg e.confidence envelope
  let recognitionId ← storeRecognition e gate normalized now envelope review
  let vehicle ← vehicleByPlate normalized
  return { now, gate, normalized, envelope, review, recognitionId, vehicle }

/-! ## The decision in three layers -/

/-- The decision and everything that goes with it. -/
structure Verdict where
  decision : Decision
  reason : Json
  permit : Option AccessPermit
  createNewSession : Bool
  warnings : List Warning
  session : Option ClosedSession
  overrides : Overrides
  trace : Option RuleTrace

/-- The second layer: the rules over the base decision. `none` is an engine that failed. -/
def Verdict.ofRules (base : BaseDecision) : Option (Overrides × Option RuleTrace) → Verdict
  | none =>
    { decision := base.decision, reason := .str base.reason, permit := base.permit
      createNewSession := base.createNewSession
      warnings := base.warnings ++ [.text "RULES_ENGINE_ERROR"], session := base.session
      overrides := {}, trace := none }
  | some (o, trace) =>
    { decision := o.decision.getD base.decision
      reason := if o.decision.isSome then o.reason.getD (.str base.reason) else .str base.reason
      permit := base.permit, createNewSession := base.createNewSession
      warnings := base.warnings ++ o.warnings, session := base.session, overrides := o, trace }

/-- The third layer: a reading that needs review never opens the barrier. -/
def Verdict.locked (review : ReviewStatus) (v : Verdict) : Verdict :=
  if review = .needsReview ∧ v.decision.allowed then
    { v with
      decision := .requireOperatorApproval, reason := .str "ENVELOPE_REVIEW_REQUIRED"
      warnings := v.warnings ++ [.text "ENVELOPE_REVIEW_REQUIRED"] }
  else v

/-- What the rules are asked about. -/
def ruleSubject (e : PlateEvent) (r : Reading) (base : BaseDecision) : RuleSubject :=
  { direction := e.direction, gate := r.gate, normalized := r.normalized, vehicle := r.vehicle
    permit := base.permit, decision := base.decision, reason := base.reason
    driverRequest := e.driverRequest }

/-- The rules and the review lock, over a base decision. -/
def laterLayers (cfg : Config) (e : PlateEvent) (r : Reading) (base : BaseDecision) :
    Handler Verdict := do
  let now ← Prog.getTime
  let rules ← (applyRulesForEvent cfg (ruleSubject e r base) now).attempt
  return (Verdict.ofRules base rules.toOption).locked r.review

/-- The three layers. -/
def decideEvent (cfg : Config) (e : PlateEvent) (r : Reading) : Handler Verdict := do
  let base ← baseDecision cfg e.direction r.gate.id r.normalized r.vehicle r.now
  laterLayers cfg e r base

/-! ## Recording -/

/-- The type of an event; only the literal IN is an entry. -/
def eventTypeFor (direction : String) (isManual : Bool) (decision : Decision) : EventType :=
  if decision = .deny ∨ decision = .unknownPlate then
    if direction = "IN" then .deniedEntry else .deniedExit
  else if isManual then
    if direction = "IN" then .manualEntry else .manualExit
  else
    if direction = "IN" then .entry else .exit

/-- The row of the access event. -/
def eventRow (e : PlateEvent) (r : Reading) (v : Verdict) (id : ℕ) : AccessEvent :=
  { id, plateRecognitionEventId := r.recognitionId, gateId := r.gate.id
    vehicleId := r.vehicle.map Vehicle.id, plateNormalized := r.normalized
    eventType := eventTypeFor e.direction e.isManual v.decision
    eventTime := e.capturedAt.getD r.now, permitId := v.permit.map AccessPermit.id
    decision := v.decision, decisionReason := v.reason, operatorId := e.operatorId
    isManual := e.isManual, offlineCreated := e.offlineCreated, idempotencyKey := e.key
    syncedAt := if e.offlineCreated then some r.now else none }

def ParkingSpace.info (sp : ParkingSpace) : ParkingInfo :=
  { id := sp.id, code := sp.code, zone := sp.zone }

/-- Take the space assigned to a vehicle; the row keeps the columns it was first loaded with. -/
def takeSpace (space : ParkingSpace) : Handler (Option ParkingInfo × List Warning) := do
  Prog.flush (lockSpace space.id)
  let row ← .select (spaceById space.id)
  if row.isNone then Prog.raise .noResultFound
  else if (if space.status = "" then "FREE" else space.status) ≠ "FREE" then
    return (some space.info, [.text "ASSIGNED_SPACE_NOT_FREE"])
  else do
    Prog.flush (updateSpace space.id "OCCUPIED")
    return (some space.info, [])

/-- Open the occupancy of an entry and take the assigned space. -/
def occupySpace (e : PlateEvent) (r : Reading) (eventId : ℕ) :
    Handler (Option ParkingInfo × List Warning) := do
  let space ← findAssignedSpace r.vehicle
  let occupancyId ← Prog.newId
  Prog.flush (insertOccupancy
    { id := occupancyId, parkingSpaceId := space.map ParkingSpace.id
      vehicleId := r.vehicle.map Vehicle.id, accessEventId := some eventId
      occupiedAt := e.capturedAt.getD r.now
      source := if e.offlineCreated then "OFFLINE_SYNC" else "GATE" })
  match space with
  | some space => takeSpace space
  | none => return (none, [])

/-- The session of an entry. -/
def entrySession (e : PlateEvent) (r : Reading) (eventId sessionId : ℕ) : NewSession :=
  { id := sessionId, vehicleId := r.vehicle.map Vehicle.id, plate := r.normalized
    entryEventId := eventId, entryAt := e.capturedAt.getD r.now }

/-- Open the session and the occupancy of an entry. -/
def openSession (e : PlateEvent) (r : Reading) (eventId : ℕ) :
    Handler (Option ParkingInfo × List Warning) := do
  let sessionId ← Prog.newId
  Prog.flush (insertSession (entrySession e r eventId sessionId))
  occupySpace e r eventId

/-- Free the space of a vacated occupancy. -/
def freeSpace : Option ℕ → Handler Unit
  | none => return ()
  | some id => do
    let space ← .select (spaceById id)
    if space.isSome then Prog.flush (updateSpace id "FREE") else return ()

/-- Release the occupancy of a vehicle that leaves. -/
def releaseOccupancy (vehicle : Vehicle) (now : ℤ) : Handler Unit := do
  let occupancy ← .select (latestOccupancy vehicle.id)
  match occupancy with
  | none => return ()
  | some o => do
    Prog.flush (vacate o.id now)
    freeSpace o.parkingSpaceId

/-- The session bookkeeping of an entry, where there is any. -/
def recordEntry (e : PlateEvent) (r : Reading) (v : Verdict) (eventId : ℕ) :
    Handler (Option ParkingInfo × List Warning) :=
  if e.direction = "IN" ∧ v.decision.allowed ∧ v.createNewSession then openSession e r eventId
  else return (none, [])

/-- The occupancy bookkeeping of an exit, where there is any. -/
def recordExit (e : PlateEvent) (r : Reading) (v : Verdict) : Handler Unit :=
  if e.direction = "OUT" ∧ v.decision.allowed then
    match r.vehicle with
    | some vehicle => releaseOccupancy vehicle r.now
    | none => return ()
  else return ()

/-- What was recorded. -/
structure Recorded where
  event : AccessEvent
  parking : Option ParkingInfo
  warnings : List Warning

/-- The body of the `try`: the event, the bookkeeping, the commit. -/
def recordEvent (e : PlateEvent) (r : Reading) (v : Verdict) : Handler Recorded := do
  let id ← Prog.newId
  Prog.flush (insertEvent (eventRow e r v id))
  let (parking, warnings) ← recordEntry e r v id
  recordExit e r v
  Prog.commitTx
  return { event := eventRow e r v id, parking, warnings }

/-! ## Answering -/

/-- `build_response`, for an event that is stored. -/
def buildResponse (event : AccessEvent) (gate : Gate) (vehicle : Option Vehicle)
    (unit : Option (Option String × String)) (warnings : List Warning) : GateResponse :=
  { accessEventId := some event.id, decision := event.decision
    decisionReason := event.decisionReason, plateRaw := none
    plateNormalized := event.plateNormalized
    vehicle := vehicle.map fun v => { id := v.id, type := v.vehicleType, color := v.color }
    unit, warnings, barrierAction := barrierActionFor event.decision, gate }

/-- The vehicle of a stored event. -/
def eventVehicle (event : AccessEvent) : Handler (Option Vehicle) :=
  match event.vehicleId with
  | some id => .select (vehicleById id)
  | none => return none

/-- `vehicle_unit_info(db, vehicle) if vehicle else None`. -/
def unitInfo : Option Vehicle → Handler (Option (Option String × String))
  | some v => vehicleUnitInfo v
  | none => return none

/-- `duplicate_response`. -/
def duplicateResponse (event : AccessEvent) (gate : Gate) (extra : List Warning) :
    Handler GateResponse := do
  let vehicle ← eventVehicle event
  let unit ← unitInfo vehicle
  return { buildResponse event gate vehicle unit (.text "DUPLICATE_EVENT" :: extra) with
    duplicate := true }

/-- The answer to an entry whose session was opened by somebody else. -/
def sessionConflict (e : PlateEvent) (r : Reading) (session : ParkingSession) : GateResponse :=
  { accessEventId := none, decision := .allowWithWarning
    decisionReason := .str "SESSION_ALREADY_OPEN", plateRaw := some e.plateRaw
    plateNormalized := r.normalized
    warnings := [.text "DUPLICATE_EVENT", .text "CONCURRENT_SESSION_CONFLICT"]
    barrierAction := .opened, gate := r.gate, conflictingSession := some session.id }

/-- The open session a conflict may be about. -/
def conflictSession (e : PlateEvent) (r : Reading) : Handler (Option ParkingSession) :=
  match r.normalized with
  | some plate =>
    if e.direction = "IN" then .select (latestOpenSession plate) else return none
  | none => return none

/-- `except IntegrityError`. -/
def recoverConflict (e : PlateEvent) (r : Reading) : Handler GateResponse := do
  Prog.rollbackTx
  let dup ← .select (eventByKey e.key)
  match dup with
  | some event => duplicateResponse event r.gate [.text "CONCURRENT_CONFLICT"]
  | none => do
    let session ← conflictSession e r
    match session with
    | some session => return sessionConflict e r session
    | none => .throw (.rejected .integrity)

/-- The space shown to an entry that did not take one. -/
def shownSpace (e : PlateEvent) (r : Reading) (parking : Option ParkingInfo) :
    Handler (Option ParkingInfo) :=
  if parking.isNone && e.direction == "IN" then do
    let space ← findAssignedSpace r.vehicle
    return space.map ParkingSpace.info
  else return parking

/-- The answer to an event that is stored, or would be. -/
def answer (e : PlateEvent) (r : Reading) (v : Verdict) (event : AccessEvent) (id : Option ℕ)
    (parking : Option ParkingInfo) (warnings : List Warning)
    (unit : Option (Option String × String)) : GateResponse :=
  let mismatch := e.clientDecision.any fun d => d != "" && d != v.decision.text
  { buildResponse event r.gate r.vehicle unit
      (r.envelope.violations.map .envelope ++ v.warnings ++ warnings ++
        if mismatch then [.text "OFFLINE_DECISION_MISMATCH"] else []) with
    accessEventId := id
    plateRaw := some e.plateRaw
    confidence := e.confidence
    parking
    eventType := some (eventTypeFor e.direction e.isManual v.decision)
    plateReview := some { status := r.review, recognitionId := r.recognitionId
                          envelopeOk := r.envelope.ok
                          envelopeViolations := r.envelope.violations }
    ruleTrace := v.trace
    message := v.overrides.message
    requireDriverSelection := v.overrides.requireDriverSelection
    notifyFieldOp := v.overrides.notifyFieldOp
    issueReceipt := v.overrides.issueReceipt
    session := v.session
    needsReview := mismatch }

/-- The answer, with what it still looks up. -/
def respond (e : PlateEvent) (r : Reading) (v : Verdict) (event : AccessEvent) (id : Option ℕ)
    (parking : Option ParkingInfo) (warnings : List Warning) : Handler GateResponse := do
  let unit ← unitInfo r.vehicle
  let shown ← shownSpace e r parking
  return answer e r v event id shown warnings unit

/-! ## The handler -/

/-- Record the verdict and answer. -/
def finishEvent (e : PlateEvent) (r : Reading) (v : Verdict) : Handler GateResponse :=
  if e.dryRun then respond e r v (eventRow e r v 0) none none []
  else do
    let recorded ← (recordEvent e r v).attempt
    match recorded with
    | .ok rec => respond e r v rec.event (some rec.event.id) rec.parking rec.warnings
    | .error (.rejected .integrity) => recoverConflict e r
    | .error exc => .throw exc

/-- `process_plate_event`. -/
def processPlateEvent (cfg : Config) (e : PlateEvent) : Handler GateResponse := do
  let now ← Prog.getTime
  let gate ← .select (gateByCode e.gateCode)
  match gate with
  | none => Prog.raise (.gateNotFound e.gateCode)
  | some gate => do
    let existing ← .select (eventByKey e.key)
    match existing with
    | some event => duplicateResponse event gate []
    | none => do
      let r ← readPlate cfg e gate now
      let v ← decideEvent cfg e r
      finishEvent e r v

end ParkingSystem
