import Mathlib.Data.List.Sort
import ParkingSystem.Library.PyValue
import ParkingSystem.Library.Table
import ParkingSystem.Library.Transaction

/-!
# The Store

The tables the gate, the finance module and the violations module read and write, and the
statements they send.

- Identifiers are drawn by `uuid`; they are numbers here, except a gate's, which is compared
  with the texts of a JSON column.
- An instant is a number of microseconds since the epoch, UTC.
- Amounts are integers, checked against BIGINT where a row is inserted.
- A text column that holds a closed set of words is an inductive type; the others are strings.
-/

namespace ParkingSystem

open PyValue Table Transaction

/-! ## Words -/

inductive Decision where
  | allow
  | allowWithWarning
  | deny
  | unknownPlate
  | requireOperatorApproval
  | offlineAllow
  | offlineRequireReview
  deriving DecidableEq, Repr

/-- The text of a decision. -/
def Decision.text : Decision → String
  | .allow => "ALLOW"
  | .allowWithWarning => "ALLOW_WITH_WARNING"
  | .deny => "DENY"
  | .unknownPlate => "UNKNOWN_PLATE"
  | .requireOperatorApproval => "REQUIRE_OPERATOR_APPROVAL"
  | .offlineAllow => "OFFLINE_ALLOW"
  | .offlineRequireReview => "OFFLINE_REQUIRE_REVIEW"

/-- `decision in ("ALLOW", "ALLOW_WITH_WARNING")`. -/
def Decision.allowed (d : Decision) : Bool := d == .allow || d == .allowWithWarning

inductive EventType where
  | entry
  | exit
  | manualEntry
  | manualExit
  | deniedEntry
  | deniedExit
  | barrierOpen
  deriving DecidableEq, Repr

inductive ReviewStatus where
  | autoOk
  | needsReview
  | confirmed
  | corrected
  | rejected
  deriving DecidableEq, Repr

inductive SessionStatus where
  | opened
  | closed
  | cancelled
  deriving DecidableEq, Repr

inductive PaymentStatus where
  | free
  | unpaid
  | paid
  deriving DecidableEq, Repr

inductive ChargeStatus where
  | unpaid
  | paid
  | voided
  deriving DecidableEq, Repr

inductive ChargeType where
  | parking
  | violation
  deriving DecidableEq, Repr

inductive OccupancyStatus where
  | occupied
  | vacated
  deriving DecidableEq, Repr

inductive AdjustmentStatus where
  | pending
  | approved
  deriving DecidableEq, Repr

/-! ## Rows -/

structure Gate where
  id : String
  code : String
  name : String
  direction : String := "IN"
  deriving DecidableEq, Repr

structure Tower where
  id : ℕ
  name : String
  code : String := ""
  deriving DecidableEq, Repr

structure ResidentialUnit where
  id : ℕ
  towerId : ℕ
  unitNumber : String
  deriving DecidableEq, Repr

structure Person where
  id : ℕ
  deriving DecidableEq, Repr

/-- Who lives in or owns a unit. -/
structure UnitOccupancy where
  id : ℕ
  unitId : ℕ
  personId : ℕ
  deriving DecidableEq, Repr

/-- The provinces and cities of the plate codes, with the letters each has. -/
structure PlateRegion where
  plateCode : String
  province : String
  city : String
  letters : Option String := none
  deriving DecidableEq, Repr

structure Vehicle where
  id : ℕ
  ownerPersonId : Option ℕ := none
  unitId : Option ℕ := none
  plateRaw : String := ""
  plateNormalized : String
  plateLetter : Option String := none
  plateProvinceCode : Option String := none
  plateProvince : Option String := none
  plateCity : Option String := none
  plateType : String := "PERSONAL"
  vehicleType : String := "CAR"
  brand : Option String := none
  model : Option String := none
  color : Option String := none
  year : Option ℤ := none
  isActive : Bool := true
  notes : Option String := none
  createdAt : ℤ
  deriving DecidableEq, Repr

/-- `allowed_days` and `allowed_gate_ids` are JSON texts; `none` is NULL or the empty text. -/
structure AccessPermit where
  id : ℕ
  vehicleId : Option ℕ := none
  plateNormalized : String
  hostUnitId : Option ℕ := none
  permitType : String := "PERMANENT"
  validFrom : Option ℤ := none
  validUntil : Option ℤ := none
  allowedDays : Option JsonText := none
  allowedFromTime : Option String := none
  allowedUntilTime : Option String := none
  maxEntries : Option ℤ := none
  usedEntries : ℤ := 0
  allowedGateIds : Option JsonText := none
  status : String := "ACTIVE"
  issuedBy : Option ℕ := none
  reason : Option String := none
  createdAt : ℤ

structure VehicleRestriction where
  id : ℕ
  vehicleId : Option ℕ := none
  plateNormalized : String
  restrictionType : String := "BANNED"
  startsAt : Option ℤ := none
  endsAt : Option ℤ := none
  reason : Option String := none
  status : String := "ACTIVE"
  createdBy : Option ℕ := none
  deriving DecidableEq, Repr

/-- The key of a vehicle in the system a sheet comes from. -/
structure VehicleExternalRef where
  id : ℕ
  vehicleId : ℕ
  sourceSystem : String := "OPS"
  externalVehicleId : String
  externalUpdatedAt : Option ℤ := none
  deriving DecidableEq, Repr

structure VehicleSyncRun where
  id : ℕ
  trigger : String := "MANUAL"
  status : String := "RUNNING"
  startedAt : ℤ
  finishedAt : Option ℤ := none
  rowsTotal : ℤ := 0
  rowsValid : ℤ := 0
  rowsCreated : ℤ := 0
  rowsUpdated : ℤ := 0
  rowsSkipped : ℤ := 0
  conflictsCount : ℤ := 0
  deriving DecidableEq, Repr

/-- The value of a cell of a sheet: UNFORMATTED_VALUE is a text, a number or a truth value. -/
inductive Cell where
  | null
  | bool (b : Bool)
  | int (n : ℤ)
  | float (q : ℚ)
  | str (s : String)
  deriving DecidableEq, Repr

/-- A row of a sheet, by column. -/
abbrev SheetRecord := List (String × Cell)

structure VehicleSyncConflict where
  id : ℕ
  runId : Option ℕ
  rowNumber : Option ℕ
  externalVehicleId : Option String := none
  sourceSystem : Option String := none
  conflictType : String
  message : String
  incoming : SheetRecord
  status : String := "PENDING"
  resolvedBy : Option ℕ := none
  resolvedAt : Option ℤ := none
  resolutionNote : Option String := none
  deriving DecidableEq, Repr

/-- A row of `entry_exit_rules`; conditions and actions are lists of JSON objects. -/
structure EntryExitRule where
  id : ℕ
  name : String
  description : Option String := none
  direction : String := "ANY"
  priority : ℤ := 100
  enabled : Bool := true
  conditionMode : String := "ALL"
  conditions : List Dict
  actions : List Dict
  status : String := "DRAFT"
  effectiveFrom : Option ℤ := none
  approvedBy : Option ℕ := none
  approvedAt : Option ℤ := none

/-- What a rule does where it is in force. -/
structure RuleContent where
  direction : String
  priority : ℤ
  enabled : Bool
  conditionMode : String
  conditions : List Dict
  actions : List Dict
  deriving DecidableEq

def EntryExitRule.content (r : EntryExitRule) : RuleContent :=
  { direction := r.direction, priority := r.priority, enabled := r.enabled
    conditionMode := r.conditionMode, conditions := r.conditions, actions := r.actions }

/-- The SET clause of an UPDATE of a rule: the columns it writes. -/
structure RuleUpdate where
  name : Option String := none
  description : Option (Option String) := none
  direction : Option String := none
  priority : Option ℤ := none
  enabled : Option Bool := none
  conditionMode : Option String := none
  conditions : Option (List Dict) := none
  actions : Option (List Dict) := none
  status : Option String := none
  effectiveFrom : Option (Option ℤ) := none
  approvedBy : Option (Option ℕ) := none
  approvedAt : Option (Option ℤ) := none

/-- The row once the columns are written. -/
def RuleUpdate.on (u : RuleUpdate) (r : EntryExitRule) : EntryExitRule :=
  { r with
    name := u.name.getD r.name, description := u.description.getD r.description
    direction := u.direction.getD r.direction, priority := u.priority.getD r.priority
    enabled := u.enabled.getD r.enabled, conditionMode := u.conditionMode.getD r.conditionMode
    conditions := u.conditions.getD r.conditions, actions := u.actions.getD r.actions
    status := u.status.getD r.status, effectiveFrom := u.effectiveFrom.getD r.effectiveFrom
    approvedBy := u.approvedBy.getD r.approvedBy, approvedAt := u.approvedAt.getD r.approvedAt }

/-- What a publication read of the rule it made ACTIVE. This is not a table, and no modelled
code reads it. -/
structure Publication where
  ruleId : ℕ
  content : RuleContent

structure AppSetting where
  key : String
  value : Json

/-- The capture measurements of a reading, and how the envelope judged them. -/
structure CaptureQuality where
  angleDeg : Option ℚ := none
  lux : Option ℚ := none
  speedKmh : Option ℚ := none

structure PlateRecognitionEvent where
  id : ℕ
  gateId : String
  deviceId : Option String
  direction : String
  plateRaw : String
  plateNormalized : Option String
  confidence : Option ℚ
  capturedAt : ℤ
  receivedAt : ℤ
  sourceEventId : String
  rawPayload : Option Json
  reviewStatus : ReviewStatus
  captureQuality : CaptureQuality
  envelopeOk : Bool
  processingMs : Option ℤ
  plateCorrected : Option String := none
  plateCorrectedNormalized : Option String := none
  correctedBy : Option ℕ := none
  correctedAt : Option ℤ := none
  correctionNote : Option String := none

/-- A row of `audit_logs` that a plate review writes. -/
structure PlateReviewAudit where
  id : ℕ
  userId : ℕ
  action : String
  entityId : ℕ
  oldPlateRaw : String
  oldReviewStatus : ReviewStatus
  newPlateCorrected : Option String
  newReviewStatus : ReviewStatus
  note : Option String
  deriving DecidableEq, Repr

/-- `decision_reason` comes from a rule's JSON parameters in part, so it is a JSON value until
it is stored. -/
structure AccessEvent where
  id : ℕ
  plateRecognitionEventId : Option ℕ
  gateId : String
  vehicleId : Option ℕ
  plateNormalized : Option String
  eventType : EventType
  eventTime : ℤ
  permitId : Option ℕ
  decision : Decision
  decisionReason : Json
  operatorId : Option ℕ
  isManual : Bool
  offlineCreated : Bool
  idempotencyKey : String
  syncedAt : Option ℤ

structure ParkingSession where
  id : ℕ
  vehicleId : Option ℕ
  plateNormalized : String
  entryEventId : Option ℕ
  entryAt : ℤ
  exitAt : Option ℤ := none
  durationSeconds : Option ℤ := none
  status : SessionStatus := .opened
  tariffId : Option ℕ := none
  baseAmount : ℤ := 0
  discountAmount : ℤ := 0
  penaltyAmount : ℤ := 0
  finalAmount : ℤ := 0
  paymentStatus : PaymentStatus := .unpaid
  deriving DecidableEq, Repr

structure ParkingSpace where
  id : ℕ
  code : String
  floor : ℤ := 0
  zone : Option String := none
  parkingType : String := "PRIVATE"
  status : String := "FREE"
  isActive : Bool := true
  towerId : Option ℕ := none
  deriving DecidableEq, Repr

structure ParkingAssignment where
  id : ℕ
  parkingSpaceId : ℕ
  unitId : Option ℕ := none
  vehicleId : Option ℕ
  assignmentType : String := "PERMANENT"
  status : String := "ACTIVE"
  deriving DecidableEq, Repr

structure ParkingOccupancy where
  id : ℕ
  parkingSpaceId : Option ℕ
  vehicleId : Option ℕ
  accessEventId : Option ℕ
  occupiedAt : ℤ
  vacatedAt : Option ℤ := none
  source : String := "GATE"
  status : OccupancyStatus := .occupied
  deriving DecidableEq, Repr

structure Tariff where
  id : ℕ
  title : String
  freeMinutes : ℤ := 0
  hourlyAmount : ℤ := 0
  dailyMaxAmount : Option ℤ := none
  nightAmount : Option ℤ := none
  validFrom : Option ℤ := none
  validUntil : Option ℤ := none
  priority : ℤ := 0
  status : String := "ACTIVE"
  createdAt : ℤ
  approvedBy : Option ℕ := none
  approvedAt : Option ℤ := none
  deriving DecidableEq, Repr

/-- The columns of a tariff that an activation writes. -/
structure TariffUpdate where
  status : Option String := none
  approvedBy : Option (Option ℕ) := none
  approvedAt : Option (Option ℤ) := none
  deriving DecidableEq, Repr

def TariffUpdate.on (u : TariffUpdate) (t : Tariff) : Tariff :=
  { t with status := u.status.getD t.status, approvedBy := u.approvedBy.getD t.approvedBy
           approvedAt := u.approvedAt.getD t.approvedAt }

structure Charge where
  id : ℕ
  parkingSessionId : Option ℕ := none
  violationId : Option ℕ := none
  chargeType : ChargeType := .parking
  amount : ℤ
  paidAmount : ℤ := 0
  status : ChargeStatus := .unpaid
  createdAt : ℤ
  deriving DecidableEq, Repr

structure Payment where
  id : ℕ
  referenceNumber : String
  vehicleId : Option ℕ
  plateNormalized : Option String
  amount : ℤ
  paymentMethod : String := "CASH"
  paymentStatus : String := "COMPLETED"
  paidAt : ℤ
  operatorId : Option ℕ
  notes : Option String
  deriving DecidableEq, Repr

structure PaymentAllocation where
  id : ℕ
  paymentId : ℕ
  chargeId : ℕ
  amount : ℤ
  deriving DecidableEq, Repr

structure FinancialAdjustment where
  id : ℕ
  entityType : String
  entityId : ℕ
  adjustmentType : String
  amount : ℤ
  reason : Option String
  requestedBy : Option ℕ
  approvedBy : Option ℕ := none
  approvedAt : Option ℤ := none
  status : AdjustmentStatus := .pending
  deriving DecidableEq, Repr

/-- The credit an approval put on a charge. This is not a table: the code adds the credit to
`paid_amount` and keeps no record of it. It is what the ledger's invariant speaks of, and no
modelled code reads it. -/
structure Grant where
  adjustmentId : ℕ
  chargeId : ℕ
  amount : ℤ
  deriving DecidableEq, Repr

structure ViolationType where
  id : ℕ
  code : String
  title : String
  defaultPenaltyAmount : ℤ := 0
  requiresImage : Bool := false
  deriving DecidableEq, Repr

structure Violation where
  id : ℕ
  vehicleId : Option ℕ := none
  plateNormalized : Option String
  violationTypeId : ℕ := 0
  parkingSpaceId : Option String := none
  occurredAt : ℤ := 0
  description : Option String := none
  penaltyAmount : ℤ
  registeredBy : Option ℕ := none
  status : String := "REGISTERED"
  reviewedBy : Option ℕ := none
  reviewedAt : Option ℤ := none
  clientRef : Option String := none
  imageFileId : Option String := none
  deriving DecidableEq, Repr

structure ViolationAppeal where
  id : ℕ
  violationId : ℕ
  status : String := "SUBMITTED"
  reviewResult : Option String := none
  reviewedBy : Option ℕ := none
  reviewedAt : Option ℤ := none
  deriving DecidableEq, Repr

structure User where
  id : ℕ
  username : String
  passwordHash : String
  isActive : Bool := true
  isLocked : Bool := false
  failedLoginCount : ℤ := 0
  lastLoginAt : Option ℤ := none
  fullName : String := ""
  mobile : Option String := none
  deriving DecidableEq, Repr

/-- The SET clause of an UPDATE of a user: the columns it writes. -/
structure UserUpdate where
  passwordHash : Option String := none
  isActive : Option Bool := none
  isLocked : Option Bool := none
  failedLoginCount : Option ℤ := none
  lastLoginAt : Option (Option ℤ) := none
  deriving DecidableEq, Repr

/-- The row once the columns are written. -/
def UserUpdate.on (u : UserUpdate) (user : User) : User :=
  { user with
    passwordHash := u.passwordHash.getD user.passwordHash
    isActive := u.isActive.getD user.isActive, isLocked := u.isLocked.getD user.isLocked
    failedLoginCount := u.failedLoginCount.getD user.failedLoginCount
    lastLoginAt := u.lastLoginAt.getD user.lastLoginAt }

structure RefreshToken where
  id : ℕ
  userId : ℕ
  tokenJti : ℕ
  deviceInfo : Option String := none
  ipAddress : Option String := none
  expiresAt : ℤ
  revokedAt : Option ℤ := none
  deriving DecidableEq, Repr

structure Role where
  id : ℕ
  code : String
  title : String
  description : Option String := none
  deriving DecidableEq, Repr

structure Permission where
  id : ℕ
  code : String
  deriving DecidableEq, Repr

structure UserRole where
  userId : ℕ
  roleId : ℕ
  deriving DecidableEq, Repr

structure RolePermission where
  roleId : ℕ
  permissionId : ℕ
  deriving DecidableEq, Repr

/-- A notification for one user, or for all of them where it has no recipient. -/
structure Notification where
  id : ℕ
  recipientUserId : Option ℕ := none
  channel : String := "IN_APP"
  title : String
  message : Option String := none
  payload : Option Json := none
  status : String := "PENDING"
  readAt : Option ℤ := none
  createdAt : ℤ

structure FileRecord where
  id : ℕ
  bucket : String
  objectKey : String
  originalName : Option String := none
  contentType : Option String := none
  size : ℤ := 0
  checksum : Option String := none
  clientRef : Option String := none
  deriving DecidableEq, Repr

/-- What a token was exchanged for. This is not a table: the code keeps no record of it, and no
modelled code reads it. -/
structure Rotation where
  token : ℕ
  issued : ℕ
  deriving DecidableEq, Repr

/-- All tables. `activations` is not one: the tariffs in the order they were activated, which no
modelled code reads; nor are `rotations` and `revocations`, the users whose tokens were revoked
together. -/
structure Store where
  gates : List Gate := []
  towers : List Tower := []
  units : List ResidentialUnit := []
  plateRegions : List PlateRegion := []
  vehicles : List Vehicle := []
  permits : List AccessPermit := []
  restrictions : List VehicleRestriction := []
  rules : List EntryExitRule := []
  publications : List Publication := []
  appSettings : List AppSetting := []
  recognitions : List PlateRecognitionEvent := []
  events : List AccessEvent := []
  sessions : List ParkingSession := []
  spaces : List ParkingSpace := []
  assignments : List ParkingAssignment := []
  occupancies : List ParkingOccupancy := []
  tariffs : List Tariff := []
  activations : List ℕ := []
  charges : List Charge := []
  payments : List Payment := []
  allocations : List PaymentAllocation := []
  adjustments : List FinancialAdjustment := []
  grants : List Grant := []
  violationTypes : List ViolationType := []
  violations : List Violation := []
  appeals : List ViolationAppeal := []
  externalRefs : List VehicleExternalRef := []
  syncRuns : List VehicleSyncRun := []
  syncConflicts : List VehicleSyncConflict := []
  plateReviewAudits : List PlateReviewAudit := []
  users : List User := []
  refreshTokens : List RefreshToken := []
  rotations : List Rotation := []
  revocations : List ℕ := []
  persons : List Person := []
  unitOccupancies : List UnitOccupancy := []
  roles : List Role := []
  permissions : List Permission := []
  userRoles : List UserRole := []
  rolePermissions : List RolePermission := []
  notifications : List Notification := []
  files : List FileRecord := []

/-- The identifiers of the rows that handlers insert. -/
def Store.ids (s : Store) : List ℕ :=
  s.recognitions.map PlateRecognitionEvent.id ++ s.events.map AccessEvent.id ++
    s.sessions.map ParkingSession.id ++ s.occupancies.map ParkingOccupancy.id ++
    s.charges.map Charge.id ++ s.payments.map Payment.id ++
    s.allocations.map PaymentAllocation.id ++ s.adjustments.map FinancialAdjustment.id

/-! ## Locks and labels -/

/-- What a statement locks until its transaction ends: the keys of unique indexes, rows, and
identifiers drawn but not yet stored. -/
inductive Lock where
  | eventKey (key : String)
  | deviceSource (deviceId sourceEventId : String)
  | openPlate (plate : String)
  | paymentReference (reference : String)
  | sessionRow (id : ℕ)
  | chargeRow (id : ℕ)
  | adjustmentRow (id : ℕ)
  | permitRow (id : ℕ)
  | spaceRow (id : ℕ)
  | occupancyRow (id : ℕ)
  | assignmentRow (id : ℕ)
  | ruleRow (id : ℕ)
  | tariffRow (id : ℕ)
  | violationRow (id : ℕ)
  | violationClientRef (ref : String)
  | violationTypeCode (code : String)
  | appealRow (id : ℕ)
  | recognitionRow (id : ℕ)
  | syncConflictRow (id : ℕ)
  | userRow (id : ℕ)
  | tokenRow (id : ℕ)
  | drawn (id : ℕ)
  | towerRow (id : ℕ)
  | unitRow (id : ℕ)
  | personRow (id : ℕ)
  | vehicleRow (id : ℕ)
  | username (name : String)
  | roleRow (id : ℕ)
  | roleCode (code : String)
  | userRole (userId roleId : ℕ)
  | rolePermission (roleId permissionId : ℕ)
  | notificationRow (id : ℕ)
  | fileObjectKey (key : String)
  | fileClientRef (ref : String)
  deriving DecidableEq, Repr

/-- What a statement on the registry is: no condition on runs speaks of them. -/
inductive RegistryLabel where
  | insertVehicle
  | updateVehicle
  | insertPermit
  | insertRestriction
  | insertExternalRef
  | updateExternalRef
  | insertSyncRun
  | updateSyncRun
  | insertSyncConflict
  | updateSyncConflict
  | updateRecognition
  | insertPlateReviewAudit
  | insertViolationType
  | insertViolation
  | insertAppeal
  | refusedQuery
  | deleteTower
  | deleteUnit
  | deletePerson
  | deleteVehicle
  | updateNotification
  | insertFile
  deriving DecidableEq, Repr

/-- What a statement on users and their tokens is. -/
inductive IdentityLabel where
  | updateUser
  | insertToken
  | exchangeToken (loaded : RefreshToken)
  | revokeTokens (userId : ℕ) (tokens : List ℕ)
  | insertUser
  | updateProfile
  | insertRole
  | updateRole
  | deleteRole
  | insertUserRole
  | deleteUserRoles
  | insertRolePermission
  | deleteRolePermissions

/-- What a statement is, for conditions on runs. An insert may carry its row, an update the
row as it was loaded. -/
inductive Label where
  | insertRecognition (row : PlateRecognitionEvent)
  | insertEvent (row : AccessEvent)
  | insertSession (plate : Option String)
  | updateSession
  | insertCharge
  | updateCharge (loaded : Charge)
  | insertPayment
  | insertAllocation
  | insertAdjustment (amount : ℤ)
  | updateAdjustment (loaded : FinancialAdjustment)
  | updatePermit (loaded : AccessPermit)
  | insertOccupancy
  | updateOccupancy
  | lockSpace
  | updateSpace
  | insertAssignment
  | updateAssignment
  | insertRule
  | updateRule (loaded : EntryExitRule) (update : RuleUpdate)
  | insertTariff (row : Tariff)
  | updateTariff (loaded : Tariff) (update : TariffUpdate)
  | updateViolation
  | updateAppeal
  | registry (label : RegistryLabel)
  | identity (label : IdentityLabel)

/-- Exceptions of the application. -/
inductive AppError where
  | gateNotFound (code : String)
  | notFound
  | conflict
  | badRequest (code : String)
  | unprocessable (detail : String)
  | unauthorized (message : String)
  | forbidden (message : String)
  | typeError
  | noResultFound
  | overflow
  | zeroDivision
  | storageFailed
  deriving DecidableEq, Repr

/-- A request handler. -/
abbrev Handler (α : Type) := Prog Store Lock Label AppError α

abbrev Stmt := Statement Store Lock Label

/-! ## Column limits -/

/-- Whether an amount fits BIGINT. -/
def fitsBigInt (n : ℤ) : Bool := decide (-(2 ^ 63) ≤ n ∧ n < 2 ^ 63)

/-- Whether a number fits INTEGER. -/
def fitsInt (n : ℤ) : Bool := decide (-(2 ^ 31) ≤ n ∧ n < 2 ^ 31)

/-- Whether a text fits VARCHAR(n). -/
def fitsChar (n : ℕ) (s : String) : Bool := decide (s.length ≤ n)

/-- Whether an optional text fits VARCHAR(n). -/
def fitsChar? (n : ℕ) (s : Option String) : Bool := s.all (fitsChar n)

end ParkingSystem
