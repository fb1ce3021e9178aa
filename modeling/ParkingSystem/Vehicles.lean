import ParkingSystem.Plate
import ParkingSystem.Store

/-!
# Vehicles, Permits and Restrictions

The lookups of `VehicleService` and the tests a permit has to pass. All of them are pure on
rows; the handlers send one query and apply them.
-/

namespace ParkingSystem

open PyText PyValue Table Transaction

/-! ## Instants -/

/-- Microseconds in a day. -/
def dayMicros : ℤ := 86400000000

/-- `now.weekday()`: Monday is 0; the epoch was a Thursday. -/
def weekday (now : ℤ) : ℤ := (now / dayMicros + 3) % 7

/-- `now.time()`: microseconds since midnight. -/
def timeOfDay (now : ℤ) : ℤ := now % dayMicros

/-- Hours and minutes as microseconds since midnight, if they name a time. -/
def clockTime (hour minute : ℤ) : Option ℤ :=
  if 0 ≤ hour ∧ hour < 24 ∧ 0 ≤ minute ∧ minute < 60 then
    some ((hour * 60 + minute) * 60000000)
  else none

/-- `_parse_hhmm`. -/
def parseHhmm (value : Option String) : Option ℤ :=
  match value.map fun s => split ':' s.toList with
  | some (hour :: minute :: _) => do clockTime (← pyInt hour) (← pyInt minute)
  | _ => none

/-- Whether a time of day lies in a window, which may run over midnight. -/
def inWindow (fromT toT cur : ℤ) : Bool :=
  if fromT ≤ toT then fromT ≤ cur && cur ≤ toT else fromT ≤ cur || cur ≤ toT

/-! ## What a permit allows -/

/-- `set(json.loads(text))`, as far as membership of a number goes; `none` where it raises. -/
def dayIn (day : ℤ) : JsonText → Option Bool
  | .parsed (.arr items) =>
    if items.all Json.hashable then some (items.any (Scalar.int day).eq) else none
  | .parsed (.str _) | .parsed (.obj _) => some false
  | _ => none

/-- `permit_time_valid`, without the name of the failed test. -/
def permitTimeValid (p : AccessPermit) (now : ℤ) : Bool :=
  if p.validFrom.any fun t => now < t then false
  else if p.validUntil.any fun t => t < now then false
  else if (p.allowedDays.bind (dayIn (weekday now))) = some false then false
  else match parseHhmm p.allowedFromTime, parseHhmm p.allowedUntilTime with
    | some fromT, some toT => inWindow fromT toT (timeOfDay now)
    | _, _ => true

/-- `gate_id in ids`, where a failure counts as allowed. -/
def gateIn (gateId : String) : JsonText → Bool
  | .malformed => true
  | .parsed ids => ((Scalar.str gateId).isIn ids).getD true

/-- `permit_gate_allowed`. -/
def permitGateAllowed (p : AccessPermit) (gateId : String) : Bool :=
  if gateId = "" then true else p.allowedGateIds.all (gateIn gateId)

/-- `permit_entries_available`. -/
def permitEntriesAvailable (p : AccessPermit) : Bool :=
  p.maxEntries.all fun m => p.usedEntries < m

/-- All three tests. -/
def permitValid (gateId : String) (now : ℤ) (p : AccessPermit) : Bool :=
  permitTimeValid p now && permitGateAllowed p gateId && permitEntriesAvailable p

/-! ## Lookups -/

/-- The vehicle of a plate: the one registered first. -/
def vehicleOf (plate : String) (s : Store) : Option Vehicle :=
  (orderBy Vehicle.createdAt (s.vehicles.filter fun v => v.plateNormalized == plate)).head?

theorem vehicleOf_mem {plate : String} {s : Store} {v : Vehicle}
    (h : vehicleOf plate s = some v) : v ∈ s.vehicles ∧ v.plateNormalized = plate := by
  have hv := List.mem_of_mem_head? h
  simpa [mem_orderBy] using hv

/-- `db.get(Vehicle, id)`. -/
def vehicleById (id : ℕ) (s : Store) : Option Vehicle := s.vehicles.find? fun v => v.id == id

/-- `VehicleService.get_by_plate`, given a plate that normalises. -/
def getByPlate (plate : String) : Handler (Option Vehicle) := .select (vehicleOf plate)

/-- The plate's active permits, latest first. -/
def activePermits (plate : String) (s : Store) : List AccessPermit :=
  orderByDesc AccessPermit.createdAt
    (s.permits.filter fun p => p.plateNormalized == plate && p.status == "ACTIVE")

/-- The permit an entry would use, or why there is none. -/
def activePermit (plate gateId : String) (now : ℤ) (s : Store) : Except String AccessPermit :=
  match (activePermits plate s).find? (permitValid gateId now) with
  | some p => .ok p
  | none => .error (if (activePermits plate s).isEmpty then "PERMIT_NOT_FOUND"
    else "PERMIT_INVALID_NOW")

theorem activePermit_ok {plate gateId : String} {now : ℤ} {s : Store} {p : AccessPermit}
    (h : activePermit plate gateId now s = .ok p) :
    p ∈ s.permits ∧ permitValid gateId now p = true := by
  unfold activePermit at h
  split at h
  · cases h
    have hp := List.mem_of_find?_eq_some ‹_›
    simp only [activePermits, mem_orderByDesc, List.mem_filter] at hp
    exact ⟨hp.1, List.find?_some (by assumption)⟩
  · cases h

/-- `VehicleService.find_active_permit`. -/
def findActivePermit (plate gateId : String) (now : ℤ) : Handler (Except String AccessPermit) :=
  .select (activePermit plate gateId now)

/-- Whether a restriction's window contains an instant. -/
def VehicleRestriction.inForce (r : VehicleRestriction) (now : ℤ) : Bool :=
  !(r.startsAt.any fun t => now < t) && !(r.endsAt.any fun t => t < now)

/-- The first restriction in force. -/
def activeRestriction (plate : String) (now : ℤ) (s : Store) : Option VehicleRestriction :=
  (s.restrictions.filter fun r => r.plateNormalized == plate && r.status == "ACTIVE").find?
    fun r => r.inForce now

/-- A plate is restricted exactly when one of its ACTIVE restrictions is in force. -/
theorem activeRestriction_isSome_iff {plate : String} {now : ℤ} {s : Store} :
    (activeRestriction plate now s).isSome = true ↔
      ∃ r ∈ s.restrictions, r.plateNormalized = plate ∧ r.status = "ACTIVE" ∧
        r.inForce now = true := by
  simp [activeRestriction, List.find?_isSome, and_assoc]

/-- `VehicleService.has_active_restriction`. -/
def hasActiveRestriction (plate : String) (now : ℤ) : Handler (Option VehicleRestriction) :=
  .select (activeRestriction plate now)

/-! ## Other lookups by vehicle -/

/-- `vehicle_unit_info`: tower name and unit number. -/
def vehicleUnitInfo (v : Vehicle) : Handler (Option (Option String × String)) := do
  match v.unitId with
  | none => return none
  | some unitId =>
    let unit ← .select fun s : Store => s.units.find? fun u => u.id == unitId
    match unit with
    | none => return none
    | some u =>
      let tower ← .select fun s : Store => s.towers.find? fun t => t.id == u.towerId
      return some (tower.map Tower.name, u.unitNumber)

/-- The space assigned to a vehicle. -/
def assignedSpace (v : Vehicle) (s : Store) : Option ParkingSpace :=
  (s.assignments.filter fun a => a.vehicleId == some v.id && a.status == "ACTIVE").findSome?
    fun a => s.spaces.find? fun sp => sp.id == a.parkingSpaceId

/-- `find_assigned_space`. -/
def findAssignedSpace : Option Vehicle → Handler (Option ParkingSpace)
  | none => return none
  | some v => .select (assignedSpace v)

theorem readOnly_vehicleUnitInfo (v : Vehicle) : (vehicleUnitInfo v).ReadOnly := by
  unfold vehicleUnitInfo
  cases v.unitId with
  | none => trivial
  | some unitId =>
    refine (Prog.writesOnly_select _).bind fun unit => ?_
    cases unit with
    | none => trivial
    | some u => exact (Prog.writesOnly_select _).bind fun _ => trivial

theorem readOnly_findAssignedSpace (v : Option Vehicle) : (findAssignedSpace v).ReadOnly := by
  cases v with
  | none => trivial
  | some v => exact Prog.writesOnly_select _

end ParkingSystem
