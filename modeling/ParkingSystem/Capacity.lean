import ParkingSystem.Settings

/-!
# Yard Capacity

The declared capacity comes from the `yard_capacity` setting, then from the environment, and
is unlimited otherwise; it is compared with the number of OCCUPIED occupancies.
-/

namespace ParkingSystem

open PyValue Transaction

/-- `yard_capacity_decision`: `none` when there is room, else the reason. -/
def yardCapacityDecision (declared : Option ℤ) (confirmed : ℤ) : Option String :=
  match declared with
  | none => none
  | some d => if d ≤ 0 then none else if d ≤ confirmed then some "YARD_CAPACITY_FULL" else none

/-- The total of the `yard_capacity` setting, where it is a positive `int`. -/
def storedCapacity (s : Store) : Option ℤ :=
  match (s.appSettings.find? fun row => row.key == "yard_capacity").map AppSetting.value with
  | some (.obj d) => match Dict.get d "total" with
    | some (.int n) => if 0 < n then some n else none
    | some (.bool true) => some 1
    | _ => none
  | _ => none

/-- The environment's capacity, where it is positive. -/
def Config.capacity (cfg : Config) : Option ℤ := cfg.yardCapacityTotal.filter fun n => 0 < n

/-- `get_declared_yard_capacity`, without the name of the source. -/
def getDeclaredYardCapacity (cfg : Config) : Handler (Option ℤ) := do
  let row ← (Prog.select storedCapacity).attempt
  return match row with
    | .ok (some n) => some n
    | _ => cfg.capacity

/-- The number of OCCUPIED occupancies. -/
def confirmedOccupancy (s : Store) : ℤ :=
  (s.occupancies.filter fun o => o.status == .occupied).length

/-- `count_confirmed_occupancy`. -/
def countConfirmedOccupancy : Handler ℤ := .select confirmedOccupancy

/-- The decision, once the capacity is known; an unlimited yard is not counted. -/
def checkDeclared : Option ℤ → Handler (Option String)
  | none => return none
  | some d => do
    let confirmed ← countConfirmedOccupancy
    return yardCapacityDecision (some d) confirmed

/-- `check_yard_capacity`: `none` when there is room, else the reason. -/
def checkYardCapacity (cfg : Config) : Handler (Option String) := do
  let declared ← getDeclaredYardCapacity cfg
  checkDeclared declared

/-- The declared capacity on a store. -/
def declaredCapacity (cfg : Config) (s : Store) : Option ℤ :=
  (storedCapacity s).or cfg.capacity

/-- Whether the yard is full, on a store. -/
def yardFull (cfg : Config) (s : Store) : Option String :=
  yardCapacityDecision (declaredCapacity cfg s) (confirmedOccupancy s)

theorem reads_checkYardCapacity (cfg : Config) :
    (checkYardCapacity cfg).Reads (yardFull cfg) := by
  intro clk w hw
  have hd : (getDeclaredYardCapacity cfg).exec clk w =
      (.ok (declaredCapacity cfg w.view), w) := by
    have h := (Prog.reads_select (κ := Lock) (τ := Label) (ε := AppError)
      storedCapacity).attempt clk w hw
    rw [getDeclaredYardCapacity, Prog.bind_eq, Prog.exec_bind_of_ok h]
    cases hs : storedCapacity w.view <;> simp [declaredCapacity, hs]
  rw [checkYardCapacity, Prog.bind_eq, Prog.exec_bind_of_ok hd, yardFull]
  cases declaredCapacity cfg w.view with
  | none => rfl
  | some d => exact ((Prog.reads_select _).bind fun _ => Prog.reads_ret _) clk w hw

theorem readOnly_getDeclaredYardCapacity (cfg : Config) :
    (getDeclaredYardCapacity cfg).ReadOnly :=
  (Prog.writesOnly_select _).attempt.bind fun _ => trivial

theorem readOnly_checkYardCapacity (cfg : Config) : (checkYardCapacity cfg).ReadOnly := by
  refine (readOnly_getDeclaredYardCapacity cfg).bind fun d => ?_
  cases d with
  | none => trivial
  | some d => exact (Prog.writesOnly_select _).bind fun _ => trivial

end ParkingSystem
