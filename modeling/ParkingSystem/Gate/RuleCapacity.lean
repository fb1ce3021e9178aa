import ParkingSystem.Gate.RuleIsolation

/-!
# Capacity before the Rules

The gate and the status report ask the stored setting for the capacity of the yard before they
ask the environment. The context of the rules asks the environment only, and its number of free
places stops at zero. Here the three are compared, over every setting, environment and
occupancy.
-/

namespace ParkingSystem

open Table Transaction

/-! ## The status report -/

/-- `get_declared_yard_capacity`, with the name of the source. -/
def declaredWithSource (cfg : Config) : Handler (Option ℤ × String) := do
  let row ← (Prog.select storedCapacity).attempt
  return match row with
    | .ok (some n) => (some n, "setting")
    | _ => match cfg.capacity with
      | some n => (some n, "env")
      | none => (none, "unlimited")

/-- The active spaces of the yard. -/
def yardSpaces (s : Store) : ℤ :=
  (s.spaces.filter fun sp => sp.parkingType == "YARD" && sp.isActive).length

/-- `count_yard_spaces`. -/
def countYardSpaces : Handler ℤ := .select yardSpaces

structure CapacityStatus where
  declaredCapacity : Option ℤ
  capacitySource : String
  registeredYardCount : ℤ
  confirmedPresence : ℤ
  available : Option ℤ
  accepting : Bool
  reason : String
  deriving DecidableEq, Repr

/-- The report, from what was read. -/
def CapacityStatus.of (declared : Option ℤ) (source : String) (confirmed yardCount : ℤ) :
    CapacityStatus :=
  { declaredCapacity := declared, capacitySource := source, registeredYardCount := yardCount
    confirmedPresence := confirmed
    available := declared.bind fun d => if 0 < d then some (d - confirmed) else none
    accepting := (yardCapacityDecision declared confirmed).isNone
    reason := (yardCapacityDecision declared confirmed).getD "OK" }

/-- `capacity_status`. -/
def capacityStatus (cfg : Config) : Handler CapacityStatus := do
  let declared ← declaredWithSource cfg
  let confirmed ← countConfirmedOccupancy
  let yardCount ← countYardSpaces
  return .of declared.1 declared.2 confirmed yardCount

/-- The name of the source on a store. -/
def capacitySource (cfg : Config) (s : Store) : String :=
  if (storedCapacity s).isSome then "setting"
  else if cfg.capacity.isSome then "env"
  else "unlimited"

theorem reads_declaredWithSource (cfg : Config) :
    (declaredWithSource cfg).Reads fun s => (declaredCapacity cfg s, capacitySource cfg s) := by
  intro clk w hw
  have h := (Prog.reads_select (κ := Lock) (τ := Label) (ε := AppError) storedCapacity).attempt
    clk w hw
  rw [declaredWithSource, Prog.bind_eq, Prog.exec_bind_of_ok h]
  cases hstored : storedCapacity w.view with
  | some n => simp [declaredCapacity, capacitySource, hstored]
  | none => cases hcfg : cfg.capacity <;> simp [declaredCapacity, capacitySource, hstored, hcfg]

theorem reads_capacityStatus (cfg : Config) : (capacityStatus cfg).Reads fun s =>
    .of (declaredCapacity cfg s) (capacitySource cfg s) (confirmedOccupancy s) (yardSpaces s) :=
  (reads_declaredWithSource cfg).bind fun _ => (Prog.reads_select _).bind fun _ =>
    (Prog.reads_select _).bind fun _ => Prog.reads_ret _

/-! ## The context -/

/-- `yard_free` of the context. -/
def contextYardFree (cfg : Config) : Handler (Option ℤ) :=
  match cfg.capacity with
  | some declared => do
    let confirmed ← countConfirmedOccupancy
    return some (max 0 (declared - confirmed))
  | none => return none

theorem reads_contextYardFree (cfg : Config) : (contextYardFree cfg).Reads fun s =>
    cfg.capacity.map fun e => max 0 (e - confirmedOccupancy s) := by
  unfold contextYardFree
  cases cfg.capacity with
  | none => exact Prog.reads_ret none
  | some e => exact (Prog.reads_select _).bind fun _ => Prog.reads_ret _

/-! ## Capacities are positive -/

theorem Config.capacity_pos {cfg : Config} {e : ℤ} (h : cfg.capacity = some e) : 0 < e := by
  simpa using (Option.filter_eq_some_iff.1 h).2

theorem storedCapacity_pos {s : Store} {n : ℤ} (h : storedCapacity s = some n) : 0 < n := by
  unfold storedCapacity at h
  split at h
  · split at h
    · split at h
      · cases h
        assumption
      · cases h
    · cases h
      exact Int.one_pos
    · cases h
  · cases h

theorem declaredCapacity_pos {cfg : Config} {s : Store} {d : ℤ}
    (h : declaredCapacity cfg s = some d) : 0 < d := by
  unfold declaredCapacity at h
  cases hstored : storedCapacity s with
  | some n =>
    rw [hstored] at h
    cases h
    exact storedCapacity_pos hstored
  | none =>
    rw [hstored] at h
    exact Config.capacity_pos h

/-- A positive capacity is used up once as many are present. -/
theorem isSome_yardCapacityDecision {d : ℤ} (h : 0 < d) (confirmed : ℤ) :
    (yardCapacityDecision (some d) confirmed).isSome = true ↔ d ≤ confirmed := by
  unfold yardCapacityDecision
  dsimp only
  rw [if_neg (not_le.2 h)]
  by_cases hfull : d ≤ confirmed
  · simp [hfull]
  · simp [hfull]

/-! ## Agreement -/

/-- The context refuses where the gate does, and where a capacity is declared it has as many free
places as the report. -/
def CapacityAgrees (cfg : Config) (subject : RuleSubject) (clk : ℕ → ℤ) (w : Session Store) :
    Prop :=
  ∃ ctx free verdict status, (buildContext cfg subject).exec clk w = (.ok ctx, w) ∧
    (contextYardFree cfg).exec clk w = (.ok free, w) ∧
    (checkYardCapacity cfg).exec clk w = (.ok verdict, w) ∧
    (capacityStatus cfg).exec clk w = (.ok status, w) ∧
    (ctx.yardFull = true ↔ verdict.isSome = true) ∧
    (status.declaredCapacity.isSome = true → free = status.available)

/-- Where a capacity is declared, so is one in the environment: the same, with no more vehicles
than places, or another, where exactly the declared places are taken and no more than that would
fit the environment's. -/
def EnvironmentCounts (cfg : Config) (s : Store) : Prop :=
  ∀ d, declaredCapacity cfg s = some d → ∃ e, cfg.capacity = some e ∧
    (e = d ∧ confirmedOccupancy s ≤ d ∨ confirmedOccupancy s = d ∧ e ≤ d)

section

variable {cfg : Config} {s : Store}

/-- Without a declared capacity the environment has none. -/
theorem capacity_of_undeclared (h : declaredCapacity cfg s = none) : cfg.capacity = none := by
  unfold declaredCapacity at h
  exact (Option.or_eq_none_iff.1 h).2

/-- The places of the context and those of the report, for `c` vehicles. -/
theorem free_eq_available_iff (d e c : ℤ) :
    max 0 (e - c) = d - c ↔ e = d ∧ c ≤ d ∨ c = d ∧ e ≤ d := by
  omega

/-- On a store: full together, and as many places free. -/
theorem environmentCounts_iff :
    ((cfg.capacity.any fun e =>
        (yardCapacityDecision (some e) (confirmedOccupancy s)).isSome) = true ↔
          (yardFull cfg s).isSome = true) ∧
      (∀ d, declaredCapacity cfg s = some d →
        (cfg.capacity.map fun e => max 0 (e - confirmedOccupancy s)) =
          some (d - confirmedOccupancy s)) ↔
      EnvironmentCounts cfg s := by
  unfold yardFull EnvironmentCounts
  constructor
  · rintro ⟨-, hfree⟩ d hd
    obtain ⟨e, he, hsame⟩ := Option.map_eq_some_iff.1 (hfree d hd)
    exact ⟨e, he, (free_eq_available_iff d e _).1 hsame⟩
  · intro hcounts
    cases hd : declaredCapacity cfg s with
    | none =>
      rw [capacity_of_undeclared hd]
      exact ⟨by simp [yardCapacityDecision], by simp⟩
    | some d =>
      obtain ⟨e, he, hsame⟩ := hcounts d hd
      have hpos := declaredCapacity_pos hd
      rw [he, Option.any_some, isSome_yardCapacityDecision (Config.capacity_pos he),
        isSome_yardCapacityDecision hpos]
      refine ⟨by omega, fun d' hd' => ?_⟩
      cases hd'
      exact congrArg some ((free_eq_available_iff d e _).2 hsame)

end

/-- **The rules, the gate and the report agree on the capacity** exactly where the environment
counts as the declared capacity does. -/
theorem capacityAgrees_iff (cfg : Config) (subject : RuleSubject) (clk : ℕ → ℤ)
    (w : Session Store) (hw : w.broken = false) :
    CapacityAgrees cfg subject clk w ↔ EnvironmentCounts cfg w.view := by
  have hcontext := reads_buildContext cfg subject clk w hw
  have hfree := reads_contextYardFree cfg clk w hw
  have hverdict := reads_checkYardCapacity cfg clk w hw
  have hstatus := reads_capacityStatus cfg clk w hw
  have havailable (d : ℤ) (hd : declaredCapacity cfg w.view = some d) :
      (CapacityStatus.of (declaredCapacity cfg w.view) (capacitySource cfg w.view)
        (confirmedOccupancy w.view) (yardSpaces w.view)).available =
          some (d - confirmedOccupancy w.view) := by
    simp [CapacityStatus.of, hd, declaredCapacity_pos hd]
  rw [← environmentCounts_iff]
  constructor
  · rintro ⟨ctx, free, verdict, status, hctx, hfree', hverdict', hstatus', hfull, hplaces⟩
    cases hcontext.symm.trans hctx
    cases hfree.symm.trans hfree'
    cases hverdict.symm.trans hverdict'
    cases hstatus.symm.trans hstatus'
    refine ⟨hfull, fun d hd => (hplaces ?_).trans (havailable d hd)⟩
    show (declaredCapacity cfg w.view).isSome = true
    rw [hd]
    rfl
  · rintro ⟨hfull, hplaces⟩
    refine ⟨_, _, _, _, hcontext, hfree, hverdict, hstatus, hfull, fun hdeclared => ?_⟩
    obtain ⟨d, hd⟩ := Option.isSome_iff_exists.1 hdeclared
    exact (hplaces d hd).trans (havailable d hd).symm

/-- What is asked about an unreadable plate. -/
def unreadableSubject : RuleSubject :=
  { direction := "ENTRY", gate := { id := "g1", code := "G1", name := "North" }
    normalized := none, vehicle := none, permit := none, decision := .unknownPlate
    reason := "PLATE_UNREADABLE", driverRequest := none }

/-- A yard of a stored capacity, with one vehicle in it. -/
def storedYard (total : ℤ) : Store :=
  { appSettings := [{ key := "yard_capacity", value := .obj [("total", .int total)] }]
    occupancies := [{ id := 1, parkingSpaceId := none, vehicleId := none, accessEventId := none
                      occupiedAt := 0 }] }

/-- An environment that repeats the setting is enough. -/
theorem capacityAgrees_iff_repeated : CapacityAgrees { yardCapacityTotal := some 10 }
    unreadableSubject (fun n => n) (.fresh (storedYard 10) 9 0) :=
  (capacityAgrees_iff { yardCapacityTotal := some 10 } unreadableSubject (fun n => n)
    (.fresh (storedYard 10) 9 0) rfl).2 fun _ hd =>
      ⟨10, by decide, Or.inl ⟨Option.some.inj hd, by cases hd; decide⟩⟩

/-- A yard that is full by the setting is not full for the rules. -/
theorem stored_capacity_unseen :
    ¬ ∀ (cfg : Config) (subject : RuleSubject) (clk : ℕ → ℤ) (w : Session Store),
      w.broken = false → CapacityAgrees cfg subject clk w := by
  intro hagree
  obtain ⟨ctx, -, verdict, -, hctx, -, hverdict, -, hfull, -⟩ :=
    hagree {} unreadableSubject (fun n => n) (.fresh (storedYard 1) 9 0) rfl
  have hrefused : ((checkYardCapacity {}).exec (fun n => n)
      (.fresh (storedYard 1) 9 0)).1.toOption.map Option.isSome = some true := by decide +kernel
  have hempty : ((buildContext {} unreadableSubject).exec (fun n => n)
      (.fresh (storedYard 1) 9 0)).1.toOption.map RuleContext.yardFull = some false := by
    decide +kernel
  rw [hverdict] at hrefused
  rw [hctx] at hempty
  have hseen : ctx.yardFull = true := hfull.2 (Option.some.inj hrefused)
  have hnot : ctx.yardFull = false := Option.some.inj hempty
  rw [hseen] at hnot
  cases hnot

end ParkingSystem
