import ParkingSystem.Finance.Closing

/-!
# Administration of the Tariffs

The endpoints that create, preview and activate a tariff. A preview prices a stay with the
default policy and without an entry time.
-/

namespace ParkingSystem

open Table Transaction

/-! ## Requests -/

/-- `TariffCreate`. -/
structure TariffCreate where
  title : String
  freeMinutes : ℤ := 0
  hourlyAmount : ℤ := 0
  dailyMaxAmount : Option ℤ := none
  nightAmount : Option ℤ := none
  validFrom : Option ℤ := none
  validUntil : Option ℤ := none
  priority : ℤ := 0
  deriving DecidableEq, Repr

/-- The bounds the schema checks. -/
def TariffCreate.valid (body : TariffCreate) : Bool :=
  decide (0 ≤ body.freeMinutes) && decide (0 ≤ body.hourlyAmount) &&
    body.dailyMaxAmount.all (fun a => decide (0 < a)) && body.nightAmount.all fun a => decide (0 < a)

/-- `Tariff(**body.model_dump())`. -/
def TariffCreate.row (body : TariffCreate) (id : ℕ) (status : String) (createdAt : ℤ) : Tariff :=
  { id, title := body.title, freeMinutes := body.freeMinutes, hourlyAmount := body.hourlyAmount
    dailyMaxAmount := body.dailyMaxAmount, nightAmount := body.nightAmount
    validFrom := body.validFrom, validUntil := body.validUntil, priority := body.priority
    status, createdAt }

/-- `TariffPreviewRequest`. -/
structure TariffPreview where
  durationSeconds : ℤ
  tariff : Option TariffCreate := none
  tariffId : Option ℕ := none
  deriving DecidableEq, Repr

def TariffPreview.valid (body : TariffPreview) : Bool :=
  decide (0 ≤ body.durationSeconds) && body.tariff.all TariffCreate.valid

/-! ## Preview -/

/-- The policy `calculate_amounts` takes where its caller gives none. -/
def defaultPolicy : TariffPolicy :=
  { rounding := "HOUR_UP", dayDefinition := "24H", nightEnabled := false, nightStartHour := 22
    nightEndHour := 6, minChargeAmount := 0 }

/-- `db.get(Tariff, id)`. -/
def tariffById (id : ℕ) (s : Store) : Option Tariff := s.tariffs.find? fun t => t.id == id

/-- The tariff a preview is about: a stored one, one that is never stored, or none. -/
def previewedTariff (body : TariffPreview) : Handler (Option Tariff) :=
  match body.tariffId with
  | some id => do
    let tariff ← .select (tariffById id)
    if tariff.isNone then Prog.raise .notFound else return tariff
  | none => return body.tariff.map fun t => t.row 0 "" 0

/-- `preview_tariff`. -/
def previewTariff (cfg : Config) (body : TariffPreview) : Handler Amounts :=
  if body.valid then do
    let tariff ← previewedTariff body
    return calculateAmounts cfg.tehran tariff body.durationSeconds none defaultPolicy
  else Prog.raise (.unprocessable "body")

/-! ## Creation and activation -/

/-- `initial_tariff_status`. -/
def initialTariffStatus (requireApproval : Bool) : String :=
  if requireApproval then "DRAFT" else "ACTIVE"

/-- What an activation leaves behind. -/
def activationOf (id : ℕ) (activates : Bool) : List ℕ := if activates then [id] else []

/-- INSERT of a tariff. -/
def insertTariff (t : Tariff) : Stmt where
  label := .insertTariff t
  locks := []
  check _ :=
    if !(fitsChar 128 t.title && fitsInt t.freeMinutes && fitsBigInt t.hourlyAmount &&
        t.dailyMaxAmount.all fitsBigInt && t.nightAmount.all fitsBigInt && fitsInt t.priority) then
      some .data
    else none
  apply s := { s with
    tariffs := s.tariffs ++ [t]
    activations := s.activations ++ activationOf t.id (t.status == "ACTIVE") }

/-- Whether an update is an activation: only these write the approval. -/
def TariffUpdate.activates (u : TariffUpdate) : Bool := u.approvedAt.isSome

/-- UPDATE of a tariff. -/
def updateTariff (loaded : Tariff) (u : TariffUpdate) : Stmt where
  label := .updateTariff loaded u
  locks := [.tariffRow loaded.id]
  check _ := none
  apply s := { s with
    tariffs := updateWhere (fun t => t.id == loaded.id) u.on s.tariffs
    activations := s.activations ++ activationOf loaded.id u.activates }

/-- `create_tariff`. -/
def createTariff (cfg : Config) (body : TariffCreate) : Handler Tariff :=
  if body.valid then do
    let id ← Prog.newId
    let createdAt ← Prog.getTime
    let row := body.row id (initialTariffStatus cfg.tariffRequireApproval) createdAt
    Prog.flush (insertTariff row)
    Prog.commitTx
    return row
  else Prog.raise (.unprocessable "body")

/-- Send the tariffs that were ACTIVE as INACTIVE, the one that is activated apart. -/
def deactivateOthers (id : ℕ) : List Tariff → Handler Unit
  | [] => return ()
  | t :: rest =>
    if t.id = id then deactivateOthers id rest
    else do
      Prog.flush (updateTariff t { status := some "INACTIVE" })
      deactivateOthers id rest

/-- The columns of an activation: the status where it was another one, and the approval. -/
def activation (t : Tariff) (user : Option ℕ) (now : ℤ) : TariffUpdate :=
  { status := if t.status = "ACTIVE" then none else some "ACTIVE"
    approvedBy := if t.approvedBy = user then none else some user, approvedAt := some (some now) }

/-- The ACTIVE tariffs. -/
def tariffsInForce (s : Store) : List Tariff := s.tariffs.filter fun t => t.status == "ACTIVE"

/-- `activate_tariff`. -/
def activateTariff (tariffId : ℕ) (user : Option ℕ) : Handler ℕ := do
  let obj ← .select (tariffById tariffId)
  match obj with
  | none => Prog.raise .notFound
  | some obj => do
    let others ← .select tariffsInForce
    let now ← Prog.getTime
    deactivateOthers obj.id others
    Prog.flush (updateTariff obj (activation obj user now))
    Prog.commitTx
    return others.length

end ParkingSystem
