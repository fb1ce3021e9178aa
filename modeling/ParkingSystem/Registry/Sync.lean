import ParkingSystem.Registry.Admin
import ParkingSystem.Registry.Sheet

/-!
# Synchronising the Vehicle Sheet

`VehicleSyncService.run`: every row of the sheet creates a vehicle, updates the one its key is
known for, or is put aside as a conflict for a human to settle. A row that raises ends the run
as FAILED, with what the rows before it wrote.

The session flushes what it holds before each query, so a statement is sent here where its row is
added or changed.
-/

namespace ParkingSystem

open PyText Plate Table Transaction

/-! ## Statements -/

/-- INSERT of the key of a vehicle; it is unique. -/
def insertExternalRef (ref : VehicleExternalRef) : Stmt where
  label := .registry .insertExternalRef
  locks := []
  check s :=
    if !(fitsChar 64 ref.sourceSystem && fitsChar 128 ref.externalVehicleId) then some .data
    else if s.externalRefs.any fun r =>
        r.sourceSystem == ref.sourceSystem && r.externalVehicleId == ref.externalVehicleId then
      some .integrity
    else none
  apply s := { s with externalRefs := s.externalRefs ++ [ref] }

/-- UPDATE of the date of a key. -/
def updateExternalRef (id : ℕ) (externalUpdatedAt : Option ℤ) : Stmt where
  label := .registry .updateExternalRef
  locks := []
  check _ := none
  apply s := { s with
    externalRefs := updateWhere (fun r => r.id == id) (fun r => { r with externalUpdatedAt })
      s.externalRefs }

/-- INSERT of a run. -/
def insertSyncRun (run : VehicleSyncRun) : Stmt where
  label := .registry .insertSyncRun
  locks := []
  check _ := if !fitsChar 16 run.trigger then some .data else none
  apply s := { s with syncRuns := s.syncRuns ++ [run] }

/-- UPDATE of a run, as its session has it. -/
def updateSyncRun (run : VehicleSyncRun) : Stmt where
  label := .registry .updateSyncRun
  locks := []
  check _ := none
  apply s := { s with syncRuns := updateWhere (fun r => r.id == run.id) (fun _ => run) s.syncRuns }

/-- INSERT of a conflict. -/
def insertSyncConflict (c : VehicleSyncConflict) : Stmt where
  label := .registry .insertSyncConflict
  locks := []
  check _ :=
    if !(fitsChar? 64 c.sourceSystem && fitsChar? 128 c.externalVehicleId) then some .data else none
  apply s := { s with syncConflicts := s.syncConflicts ++ [c] }

/-- A value of a type its column does not take: the store refuses it. -/
def refusedQuery : Stmt where
  label := .registry .refusedQuery
  locks := []
  check _ := some .data
  apply s := s

/-! ## Lookups -/

/-- The key of a vehicle in the system a sheet comes from. -/
def refByKey (key : String × String) (s : Store) : Option VehicleExternalRef :=
  s.externalRefs.find? fun r => r.sourceSystem == key.1 && r.externalVehicleId == key.2

/-- A vehicle that has a plate. -/
def vehicleWithPlate (plate : Option String) (s : Store) : Option Vehicle :=
  plate.bind fun p => s.vehicles.find? fun v => v.plateNormalized == p

/-- The ACTIVE permits of a vehicle. -/
def permitsOfVehicle (vehicleId : ℕ) (s : Store) : List AccessPermit :=
  s.permits.filter fun p => p.vehicleId == some vehicleId && p.status == "ACTIVE"

/-! ## What the run counts -/

structure SyncStats where
  rowsTotal : ℤ := 0
  rowsValid : ℤ := 0
  rowsCreated : ℤ := 0
  rowsUpdated : ℤ := 0
  rowsSkipped : ℤ := 0
  conflicts : ℤ := 0
  invalidPlates : ℤ := 0
  invalidDates : ℤ := 0
  deriving DecidableEq, Repr

/-- What a row that passed the checks ended as. -/
inductive RowResult where
  | created
  | updated
  | skipped
  deriving DecidableEq, Repr

/-- `stats[f"rows_{result}"] += 1`. -/
def SyncStats.count (st : SyncStats) : RowResult → SyncStats
  | .created => { st with rowsCreated := st.rowsCreated + 1 }
  | .updated => { st with rowsUpdated := st.rowsUpdated + 1 }
  | .skipped => { st with rowsSkipped := st.rowsSkipped + 1 }

/-- The counts of a row that did not pass them. -/
def SyncStats.reject (st : SyncStats) (errs : List String) : SyncStats :=
  { st with
    conflicts := st.conflicts + 1
    invalidPlates := st.invalidPlates + (errs.filter ("INVALID_PLATE".isPrefixOf ·)).length
    invalidDates := st.invalidDates + (errs.filter ("INVALID_DATE".isPrefixOf ·)).length }

/-- What a row is processed under. -/
structure SyncRow where
  runId : Option ℕ
  rowNumber : Option ℕ
  key : String × String
  record : SheetRecord
  dryRun : Bool

/-! ## Conflicts -/

/-- `_add_conflict`. -/
def addConflict (row : SyncRow) (conflictType message : String) : Handler Unit :=
  if row.dryRun then return ()
  else do
    let id ← Prog.newId
    Prog.flush (insertSyncConflict
      { id, runId := row.runId, rowNumber := row.rowNumber
        externalVehicleId := some row.key.2, sourceSystem := some row.key.1
        conflictType, message, incoming := row.record })

/-! ## Permits of the sheet -/

/-- A computed value, or the exception of computing it. -/
def valueOf {α : Type} : Option α → Handler α
  | some a => return a
  | none => Prog.raise .typeError

/-- `parse_any_date`, whose ValueError is not caught. -/
def parsedDate (cfg : Config) (value : Cell) : Handler ParsedDate := valueOf (parseAnyDate cfg value)

/-- The type of the permit of a row; a number has no `upper`. -/
def permitTypeOf (record : SheetRecord) : Option String := upperColumn "" (record.cell "permit_type")

/-- The conflict of a row whose vehicle has a permit already. -/
def permitConflict (row : SyncRow) (id : ℕ) : VehicleSyncConflict :=
  { id, runId := row.runId, rowNumber := none, conflictType := "PERMIT_CHANGE"
    message := "ردیف شیت حاوی مجوز است اما خودرو مجوز فعال داخلی دارد — مجوز داخلی دست نخورد"
    incoming := row.record }

/-- The permit of a row. -/
def insertSheetPermit (cfg : Config) (v : Vehicle) (row : SyncRow) (permitType : String) :
    Handler Unit := do
  let validFrom ← parsedDate cfg (row.record.cell "permit_valid_from")
  let validUntil ← parsedDate cfg (row.record.cell "permit_valid_until")
  let id ← Prog.newId
  let createdAt ← Prog.getTime
  Prog.flush (insertPermit
    { id, vehicleId := some v.id, plateNormalized := v.plateNormalized, permitType
      validFrom := validFrom.value?, validUntil := validUntil.value?
      reason := some "ایجادشده توسط همگام‌سازی Google Sheets", createdAt })

/-- `_maybe_permit`: a permit that is there is not touched. -/
def maybePermit (cfg : Config) (v : Vehicle) (row : SyncRow) : Handler Unit :=
  match permitTypeOf row.record with
  | none => Prog.raise .typeError
  | some permitType =>
    if permitType = "" then return ()
    else do
      let existing ← .select (permitsOfVehicle v.id)
      if row.dryRun then return ()
      else if existing.isEmpty then insertSheetPermit cfg v row permitType
      else do
        let id ← Prog.newId
        Prog.flush (insertSyncConflict (permitConflict row id))

/-! ## Vehicles of the sheet -/

/-- `f"[SYNC:{source_system}:{ext_id}] {rec.get('notes') or ''}".strip()`. -/
def syncNotes (cfg : Config) (key : String × String) (record : SheetRecord) : String :=
  let notes := record.cell "notes"
  String.ofList (strip ("[SYNC:" ++ key.1 ++ ":" ++ key.2 ++ "] " ++
    if notes.truthy then notes.text cfg else "").toList)

/-- The row of a new vehicle; `none` where a value does not fit its column. -/
def sheetVehicle (cfg : Config) (key : String × String) (record : SheetRecord)
    (plate : Option String) (year : Option ℤ) (vehicleType plateType : String) (id : ℕ)
    (createdAt : ℤ) : Option Vehicle := do
  let plateRaw ← ← textColumn (record.cell "plate_raw")
  let plateNormalized ← plate
  let brand ← textColumn (record.cell "brand")
  let model ← textColumn (record.cell "model")
  let color ← textColumn (record.cell "color")
  return { id, plateRaw, plateNormalized, brand, model, color, year, vehicleType, plateType
           isActive := parseBool cfg (record.cell "is_active") true
           notes := some (syncNotes cfg key record), createdAt }

/-- The vehicle of a row has the identifier that was drawn, and the plate of the row. -/
theorem sheetVehicle_some {cfg : Config} {key : String × String} {record : SheetRecord}
    {plate : Option String} {year : Option ℤ} {vehicleType plateType : String} {id : ℕ}
    {createdAt : ℤ} {v : Vehicle}
    (h : sheetVehicle cfg key record plate year vehicleType plateType id createdAt = some v) :
    v.id = id ∧ plate = some v.plateNormalized := by
  simp only [sheetVehicle, Option.bind_eq_bind, Option.bind_eq_some_iff, Option.pure_def,
    Option.some.injEq] at h
  obtain ⟨_, -, _, -, _, hplate, _, -, _, -, _, -, rfl⟩ := h
  exact ⟨rfl, hplate⟩

/-- Store the key of a vehicle; a date that cannot be read does not fit its column. -/
def insertSheetRef (cfg : Config) (key : String × String) (record : SheetRecord) (vehicleId : ℕ) :
    Handler Unit := do
  let date ← parsedDate cfg (record.cell "external_updated_at")
  let id ← Prog.newId
  match date with
  | .malformed _ => Prog.flush refusedQuery
  | _ => Prog.flush (insertExternalRef
      { id, vehicleId, sourceSystem := key.1, externalVehicleId := key.2
        externalUpdatedAt := date.value? })

/-- The vehicle of a key that is not known. -/
def createFromSheet (cfg : Config) (row : SyncRow) (plate : Option String) : Handler RowResult := do
  let year ← valueOf (yearOf cfg (row.record.cell "year"))
  let vehicleType ← valueOf (upperColumn "CAR" (row.record.cell "vehicle_type"))
  let plateType ← valueOf (upperColumn "PERSONAL" (row.record.cell "plate_type"))
  let id ← Prog.newId
  let createdAt ← Prog.getTime
  match sheetVehicle cfg row.key row.record plate year vehicleType plateType id createdAt with
  | none => do
    Prog.flush refusedQuery
    return .created
  | some v => do
    Prog.flush (insertVehicle v)
    insertSheetRef cfg row.key row.record v.id
    maybePermit cfg v row
    return .created

/-- A column that the sheet changes where it gives another value. -/
def overText (value : Option String) (old : Option String) : Option String :=
  if value.isSome then value else old

/-- Flush a vehicle, where it changed. -/
def flushVehicle (old new : Vehicle) : Handler Unit :=
  if old = new then return () else Prog.flush (updateVehicle new)

/-- The text columns of a known vehicle; `none` where a value is no text. -/
def refreshTexts (record : SheetRecord) (v : Vehicle) : Option Vehicle := do
  let brand ← textColumn (record.cell "brand")
  let model ← textColumn (record.cell "model")
  let color ← textColumn (record.cell "color")
  return { v with brand := overText brand v.brand, model := overText model v.model
                  color := overText color v.color }

/-- The columns of the sheet leave the identifier and the plate of a vehicle alone. -/
theorem refreshTexts_some {record : SheetRecord} {v v' : Vehicle}
    (h : refreshTexts record v = some v') :
    v'.id = v.id ∧ v'.plateNormalized = v.plateNormalized := by
  simp only [refreshTexts, Option.bind_eq_bind, Option.bind_eq_some_iff, Option.pure_def,
    Option.some.injEq] at h
  obtain ⟨_, -, _, -, _, -, rfl⟩ := h
  exact ⟨rfl, rfl⟩

/-- The date of a key is written where something of the vehicle changed. -/
def refreshRef (cfg : Config) (record : SheetRecord) (refId : ℕ) (changed : Bool) : Handler Unit :=
  if changed then do
    let date ← parsedDate cfg (record.cell "external_updated_at")
    match date with
    | .malformed _ => Prog.flush refusedQuery
    | _ => Prog.flush (updateExternalRef refId date.value?)
  else return ()

/-- The vehicle of a key that is known. -/
def refreshFromSheet (cfg : Config) (row : SyncRow) (refId : ℕ) (v : Vehicle) :
    Handler RowResult :=
  match refreshTexts row.record v with
  | none => do
    Prog.flush refusedQuery
    return .updated
  | some withTexts => do
    flushVehicle v withTexts
    let year ← valueOf (yearOf cfg (row.record.cell "year"))
    let refreshed := { withTexts with
      year := if year.isSome then year else v.year
      isActive := parseBool cfg (row.record.cell "is_active") v.isActive }
    flushVehicle withTexts refreshed
    refreshRef cfg row.record refId (v != refreshed)
    maybePermit cfg refreshed row
    return .updated

/-- `_upsert_vehicle` of a key that is not known. -/
def upsertNew (cfg : Config) (row : SyncRow) : Handler RowResult :=
  match row.record.plate cfg with
  | none => do
    Prog.flush refusedQuery
    return .skipped
  | some plate => do
    let existing ← .select (vehicleWithPlate plate)
    if existing.isSome then do
      addConflict row "PLATE_MISMATCH"
        "این پلاک در سامانه با شناسهٔ دیگری ثبت شده — ادغام نیازمند تأیید انسانی است"
      return .skipped
    else if row.dryRun then return .created
    else createFromSheet cfg row plate

/-- `_upsert_vehicle` of a key that is known. -/
def upsertKnown (cfg : Config) (row : SyncRow) (ref : VehicleExternalRef) : Handler RowResult := do
  let vehicle ← .select (vehicleById ref.vehicleId)
  match vehicle with
  | none => do
    addConflict row "ROW_ERROR" "ارجاع خارجی به خودروی حذف‌شده"
    return .skipped
  | some v =>
    if row.record.plate cfg ≠ some (some v.plateNormalized) then do
      addConflict row "PLATE_MISMATCH" "پلاک مبدأ با پلاک سامانه متفاوت است"
      return .skipped
    else if row.dryRun then return .updated
    else refreshFromSheet cfg row ref.id v

/-- `_upsert_vehicle`. -/
def upsertVehicle (cfg : Config) (row : SyncRow) : Handler RowResult := do
  let ref ← .select (refByKey row.key)
  match ref with
  | none => upsertNew cfg row
  | some ref => upsertKnown cfg row ref

/-! ## The run -/

/-- What the loop carries from row to row. -/
structure SyncLoop where
  stats : SyncStats := {}
  seen : List (String × String) := []

/-- The body of the loop. -/
def syncRow (cfg : Config) (n : ℕ) (row : SyncRow) (l : SyncLoop) : Handler SyncLoop :=
  let stats := { l.stats with rowsTotal := n - 1 }
  match validateRow cfg row.record with
  | none => Prog.raise .typeError
  | some [] =>
    if l.seen.contains row.key || row.key.2 == "" then do
      addConflict row "DUPLICATE_KEY" "کلید تکراری در شیت"
      return { l with stats := stats.reject [] }
    else do
      let result ← upsertVehicle cfg row
      return { stats := stats.count result, seen := row.key :: l.seen }
  | some errs => do
    addConflict row
      (if errs.any ("INVALID_PLATE".isPrefixOf ·) then "INVALID_PLATE" else "ROW_ERROR")
      (String.intercalate "؛ " errs)
    return { l with stats := stats.reject errs }

/-- A record of the sheet with its number. -/
def sheetRow (cfg : Config) (runId : Option ℕ) (dryRun : Bool) (n : ℕ) (record : SheetRecord) :
    SyncRow :=
  { runId, rowNumber := some n, key := record.key cfg, record, dryRun }

/-- The loop over the records; the first one is row 2 of the sheet. -/
def syncRows (cfg : Config) (runId : Option ℕ) (dryRun : Bool) :
    ℕ → List SheetRecord → SyncLoop → Handler SyncLoop
  | _, [], l => return l
  | n, record :: rest, l =>
    if cfg.vehicleSyncMaxRows < n - 1 then return l
    else do
      let l ← syncRow cfg n (sheetRow cfg runId dryRun n record) l
      syncRows cfg runId dryRun (n + 1) rest l

/-- What a run returns. -/
structure SyncRunResult where
  runId : Option ℕ
  status : String
  stats : Option SyncStats := none
  deriving DecidableEq, Repr

/-- The row of a run with its counts. -/
def VehicleSyncRun.counted (run : VehicleSyncRun) (stats : SyncStats) (finishedAt : ℤ) :
    VehicleSyncRun :=
  { run with
    rowsTotal := stats.rowsTotal, rowsValid := stats.rowsValid, rowsCreated := stats.rowsCreated
    rowsUpdated := stats.rowsUpdated, rowsSkipped := stats.rowsSkipped
    conflictsCount := stats.conflicts
    status := if stats.conflicts = 0 then "SUCCESS" else "PARTIAL"
    finishedAt := some finishedAt }

/-- Write the row of a run and commit, unless the run is dry. -/
def closeSyncRun (run : VehicleSyncRun) (dryRun : Bool) : Handler Unit :=
  if dryRun then return ()
  else do
    Prog.flush (updateSyncRun run)
    Prog.commitTx

/-- The body of the `try`; a fetch that raised has no sheet. -/
def syncBody (cfg : Config) (sheet : Option Sheet) (run : VehicleSyncRun) (runId : Option ℕ)
    (dryRun : Bool) : Handler SyncRunResult := do
  let sheet ← valueOf sheet
  let l ← syncRows cfg runId dryRun 2 sheet.records {}
  let finishedAt ← Prog.getTime
  let counted := run.counted l.stats finishedAt
  closeSyncRun counted dryRun
  return { runId, status := counted.status, stats := some l.stats }

/-- Open the run, unless it is dry. -/
def openSyncRun (trigger : String) (startedAt : ℤ) (dryRun : Bool) :
    Handler (VehicleSyncRun × Option ℕ) :=
  if dryRun then return ({ id := 0, trigger, startedAt }, none)
  else do
    let id ← Prog.newId
    Prog.flush (insertSyncRun { id, trigger, startedAt })
    return ({ id, trigger, startedAt }, some id)

/-- `VehicleSyncService.run`. -/
def syncRun (cfg : Config) (sheet : Option Sheet) (trigger : String) (dryRun : Bool) :
    Handler SyncRunResult := do
  let startedAt ← Prog.getTime
  let run ← openSyncRun trigger startedAt dryRun
  let done ← (syncBody cfg sheet run.1 run.2 dryRun).attempt
  match done with
  | .ok outcome => return outcome
  | .error _ => do
    let finishedAt ← Prog.getTime
    closeSyncRun { run.1 with status := "FAILED", finishedAt := some finishedAt } dryRun
    return { runId := run.2, status := "FAILED" }

end ParkingSystem
