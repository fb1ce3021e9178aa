import ParkingSystem.Parking
import ParkingSystem.Vehicles

/-!
# Administration of the Registry

The endpoints that register vehicles and change them, and that issue permits and restrictions.
The gate finds all of these by plate; permits and restrictions also carry the identifier of a
vehicle, and each endpoint writes the two columns in its own way.
-/

namespace ParkingSystem

open PyText PyValue Plate Table Transaction

/-! ## Plate regions -/

/-- `_norm_code`. -/
def normCode (code : Option String) : Option String :=
  code.bind fun c => if c = "" then none else
    some (String.ofList (strip (c.toList.map digitTrans)))

/-- `_norm_letter`: without the tatweel, with the Persian forms. -/
def normLetter (s : String) : String :=
  if s = "" then s
  else String.ofList (strip ((s.toList.filter fun c => c.toNat != 0x640).map arabicLetterTrans))

/-- The letter and the code of a request, where they are given. -/
def letterOf (letter : Option String) : Option String :=
  if normLetter (letter.getD "") = "" then none else some (normLetter (letter.getD ""))

/-- `resolve_region` on a store: province and city. -/
def regionOf (letter code : Option String) (s : Store) : Option (String × String) :=
  match letter, code with
  | some letter, some code =>
    if letter = "" ∨ code = "" then none
    else
      let rows := s.plateRegions.filter fun r => normCode (some code) == some r.plateCode
      (rows.find? fun r => ((words (r.letters.getD "").toList).map fun w =>
        normLetter (String.ofList w)).contains (normLetter letter)).map fun r => (r.province, r.city)
  | _, _ => none

/-! ## Statements -/

/-- Whether the columns of a vehicle fit. -/
def Vehicle.fits (v : Vehicle) : Bool :=
  fitsChar 64 v.plateRaw && fitsChar 32 v.plateNormalized && fitsChar? 4 v.plateLetter &&
    fitsChar? 4 v.plateProvinceCode && fitsChar? 64 v.plateProvince && fitsChar? 64 v.plateCity &&
    fitsChar 16 v.plateType && fitsChar 16 v.vehicleType && fitsChar? 64 v.brand &&
    fitsChar? 64 v.model && fitsChar? 32 v.color && v.year.all fitsInt

/-- INSERT of a vehicle. -/
def insertVehicle (v : Vehicle) : Stmt where
  label := .registry .insertVehicle
  locks := []
  check s :=
    if !v.fits then some .data
    else if !refersTo Store.units ResidentialUnit.id v.unitId s then some .integrity
    else none
  apply s := { s with vehicles := s.vehicles ++ [v] }

/-- UPDATE of a vehicle, as its session has it. -/
def updateVehicle (v : Vehicle) : Stmt where
  label := .registry .updateVehicle
  locks := []
  check s :=
    if !v.fits then some .data
    else if !refersTo Store.units ResidentialUnit.id v.unitId s then some .integrity
    else none
  apply s := { s with vehicles := updateWhere (fun u => u.id == v.id) (fun _ => v) s.vehicles }

/-- INSERT of a permit. -/
def insertPermit (p : AccessPermit) : Stmt where
  label := .registry .insertPermit
  locks := []
  check s :=
    if !(fitsChar 32 p.plateNormalized && fitsChar 24 p.permitType &&
        fitsChar? 8 p.allowedFromTime && fitsChar? 8 p.allowedUntilTime &&
        p.maxEntries.all fitsInt) then some .data
    else if !(refersTo Store.vehicles Vehicle.id p.vehicleId s &&
        refersTo Store.units ResidentialUnit.id p.hostUnitId s) then some .integrity
    else none
  apply s := { s with permits := s.permits ++ [p] }

/-- INSERT of a restriction. -/
def insertRestriction (r : VehicleRestriction) : Stmt where
  label := .registry .insertRestriction
  locks := []
  check s :=
    if !(fitsChar 32 r.plateNormalized && fitsChar 24 r.restrictionType) then some .data
    else if !refersTo Store.vehicles Vehicle.id r.vehicleId s then some .integrity
    else none
  apply s := { s with restrictions := s.restrictions ++ [r] }

/-! ## Vehicles -/

/-- `VehicleCreate`. -/
structure VehicleCreate where
  ownerPersonId : Option ℕ := none
  unitId : Option ℕ := none
  plateRaw : String
  plateLetter : Option String := none
  plateProvinceCode : Option String := none
  plateType : String := "PERSONAL"
  vehicleType : String := "CAR"
  brand : Option String := none
  model : Option String := none
  color : Option String := none
  year : Option ℤ := none
  notes : Option String := none

/-- The bounds on the text of a plate. -/
def plateTextValid (raw : String) : Bool := decide (2 ≤ raw.length) && decide (raw.length ≤ 64)

/-- The key of a plate: the text itself where it cannot be read. -/
def plateKey (cfg : Config) (raw : String) : String :=
  (normalizePlate cfg.plateLetterMapping raw).getD raw

/-- `VehicleService.get_by_plate` on a store. -/
def vehicleByText (cfg : Config) (raw : String) (s : Store) : Option Vehicle :=
  (normalizePlate cfg.plateLetterMapping raw).bind fun plate => vehicleOf plate s

/-- The row of a registration. -/
def VehicleCreate.row (cfg : Config) (body : VehicleCreate) (region : Option (String × String))
    (id : ℕ) (createdAt : ℤ) : Vehicle :=
  { id, ownerPersonId := body.ownerPersonId, unitId := body.unitId, plateRaw := body.plateRaw
    plateNormalized := plateKey cfg body.plateRaw, plateLetter := letterOf body.plateLetter
    plateProvinceCode := normCode body.plateProvinceCode, plateProvince := region.map Prod.fst
    plateCity := region.map Prod.snd, plateType := body.plateType
    vehicleType := body.vehicleType, brand := body.brand, model := body.model, color := body.color
    year := body.year, notes := body.notes, createdAt }

/-- `create_vehicle`. -/
def createVehicle (cfg : Config) (body : VehicleCreate) : Handler Vehicle :=
  if plateTextValid body.plateRaw then do
    let existing ← .select (vehicleByText cfg body.plateRaw)
    if existing.isSome then Prog.raise .conflict
    else do
      let region ← .select (regionOf (letterOf body.plateLetter) (normCode body.plateProvinceCode))
      let id ← Prog.newId
      let createdAt ← Prog.getTime
      let row := body.row cfg region id createdAt
      Prog.flush (insertVehicle row)
      Prog.commitTx
      return row
  else Prog.raise (.unprocessable "plate_raw")

/-- `VehicleUpdate`: the fields the request sets. A null in a column that has none is refused. -/
structure VehicleUpdate where
  ownerPersonId : Option (Option ℕ) := none
  unitId : Option (Option ℕ) := none
  plateRaw : Option String := none
  plateLetter : Option String := none
  plateProvinceCode : Option String := none
  vehicleType : Option (Option String) := none
  brand : Option (Option String) := none
  model : Option (Option String) := none
  color : Option (Option String) := none
  year : Option (Option ℤ) := none
  isActive : Option (Option Bool) := none
  notes : Option (Option String) := none

/-- Whether the request sets a column to null that has to have a value. -/
def VehicleUpdate.hasNull (body : VehicleUpdate) : Bool :=
  body.vehicleType == some none || body.isActive == some none

/-- The plate of a request. -/
def VehicleUpdate.replate (cfg : Config) (body : VehicleUpdate) (v : Vehicle) : Vehicle :=
  match body.plateRaw with
  | some raw => { v with plateRaw := raw, plateNormalized := plateKey cfg raw }
  | none => v

/-- The other columns of a request; the letter and the code count together only. -/
def VehicleUpdate.on (body : VehicleUpdate) (region : Option (String × String)) (v : Vehicle) :
    Vehicle :=
  let v := if (letterOf body.plateLetter).isSome && (normCode body.plateProvinceCode).any (· != "")
    then { v with plateLetter := letterOf body.plateLetter
                  plateProvinceCode := normCode body.plateProvinceCode
                  plateProvince := region.map Prod.fst, plateCity := region.map Prod.snd }
    else v
  { v with ownerPersonId := body.ownerPersonId.getD v.ownerPersonId
           unitId := body.unitId.getD v.unitId
           vehicleType := (body.vehicleType.getD none).getD v.vehicleType
           brand := body.brand.getD v.brand, model := body.model.getD v.model
           color := body.color.getD v.color, year := body.year.getD v.year
           isActive := (body.isActive.getD none).getD v.isActive, notes := body.notes.getD v.notes }

/-- Whether another vehicle has the plate that a request gives this one. -/
def plateTaken (v v' : Vehicle) (s : Store) : Bool :=
  v'.plateNormalized != v.plateNormalized &&
    (s.vehicles.find? fun u => u.plateNormalized == v'.plateNormalized).any fun u => u.id != v.id

/-- `update_vehicle`. -/
def modifyVehicle (cfg : Config) (vehicleId : ℕ) (body : VehicleUpdate) : Handler Vehicle :=
  if body.plateRaw.all plateTextValid then do
    let found ← .select (vehicleById vehicleId)
    match found with
    | none => Prog.raise .notFound
    | some v => do
      let taken ← .select (plateTaken v (body.replate cfg v))
      if taken then Prog.raise .conflict
      else do
        let region ← .select
          (regionOf (letterOf body.plateLetter) (normCode body.plateProvinceCode))
        let row := body.on region (body.replate cfg v)
        if body.hasNull then .throw (.rejected .integrity)
        else do
          Prog.flush (updateVehicle row)
          Prog.commitTx
          return row
  else Prog.raise (.unprocessable "plate_raw")

/-! ## Permits and restrictions -/

/-- `PermitCreate`. -/
structure PermitCreate where
  vehicleId : Option ℕ := none
  plateRaw : Option String := none
  hostUnitId : Option ℕ := none
  permitType : String := "PERMANENT"
  validFrom : Option ℤ := none
  validUntil : Option ℤ := none
  allowedDays : Option (List ℤ) := none
  allowedFromTime : Option String := none
  allowedUntilTime : Option String := none
  maxEntries : Option ℤ := none
  reason : Option String := none

/-- The plate of a permit on a store: the one that is given, else the vehicle's. -/
def PermitCreate.plate (cfg : Config) (body : PermitCreate) (s : Store) : Option String :=
  if body.plateRaw.any (· != "") then body.plateRaw.bind (normalizePlate cfg.plateLetterMapping)
  else (body.vehicleId.bind fun id => vehicleById id s).map Vehicle.plateNormalized

/-- The row of a permit. -/
def PermitCreate.row (body : PermitCreate) (plate : String) (user : Option ℕ) (id : ℕ)
    (createdAt : ℤ) : AccessPermit :=
  { id, vehicleId := body.vehicleId, plateNormalized := plate, hostUnitId := body.hostUnitId
    permitType := body.permitType, validFrom := body.validFrom, validUntil := body.validUntil
    allowedDays := body.allowedDays.map fun days => .parsed (.arr (days.map .int))
    allowedFromTime := body.allowedFromTime, allowedUntilTime := body.allowedUntilTime
    maxEntries := body.maxEntries, issuedBy := user, reason := body.reason, createdAt }

/-- `create_permit`. -/
def createPermit (cfg : Config) (body : PermitCreate) (user : Option ℕ) : Handler AccessPermit := do
  let plate ← .select (body.plate cfg)
  if (plate.getD "") = "" then Prog.raise (.badRequest "PLATE_REQUIRED")
  else do
    let id ← Prog.newId
    let createdAt ← Prog.getTime
    let row := body.row (plate.getD "") user id createdAt
    Prog.flush (insertPermit row)
    Prog.commitTx
    return row

/-- `RestrictionCreate`. -/
structure RestrictionCreate where
  plateRaw : String
  restrictionType : String := "BANNED"
  reason : Option String := none

/-- `create_restriction`. -/
def createRestriction (cfg : Config) (body : RestrictionCreate) (user : Option ℕ) :
    Handler VehicleRestriction := do
  let vehicle ← .select (vehicleByText cfg body.plateRaw)
  let id ← Prog.newId
  let row : VehicleRestriction :=
    { id, vehicleId := vehicle.map Vehicle.id, plateNormalized := plateKey cfg body.plateRaw
      restrictionType := body.restrictionType, reason := body.reason, createdBy := user }
  Prog.flush (insertRestriction row)
  Prog.commitTx
  return row

end ParkingSystem
