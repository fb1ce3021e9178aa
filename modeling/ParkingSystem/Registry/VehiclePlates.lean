import ParkingSystem.Registry.Requests

/-!
# One Plate, One Vehicle

The gate finds a vehicle by its normalised plate. No index keeps that column unique, nor in step
with the text it is read from: each of the writers normalises and looks up on its own.

## What goes wrong

- The lookup of `create_vehicle` finds nothing for a text that cannot be read, so that one such
  text can be registered any number of times.
- The sheet may bring a normalised plate beside the text, and nobody compares the two.
-/

namespace ParkingSystem

open PyText Plate Table Transaction

/-! ## Plates in order -/

/-- Every vehicle has the key of its plate, and no two vehicles have one key. -/
structure PlatesOk (cfg : Config) (s : Store) : Prop where
  normalized : ∀ v ∈ s.vehicles, v.plateNormalized = plateKey cfg v.plateRaw
  distinct : (s.vehicles.map Vehicle.plateNormalized).Nodup

variable {cfg : Config} {clk : ℕ → ℤ} {s s' s₀ : Store} {n : ℕ} {w : Session Store}

theorem PlatesOk.insertVehicle (h : PlatesOk cfg s) {v : Vehicle}
    (hkey : v.plateNormalized = plateKey cfg v.plateRaw)
    (hfree : ∀ u ∈ s.vehicles, u.plateNormalized ≠ v.plateNormalized) :
    PlatesOk cfg ((insertVehicle v).apply s) where
  normalized u hu := by
    rcases List.mem_append.1 hu with hu | hu
    · exact h.normalized u hu
    · rw [List.mem_singleton.1 hu]
      exact hkey
  distinct := by
    show ((s.vehicles ++ [v]).map Vehicle.plateNormalized).Nodup
    rw [List.map_append, List.nodup_append]
    refine ⟨h.distinct, List.nodup_singleton _, fun p hp q hq => ?_⟩
    obtain ⟨u, hu, rfl⟩ := List.mem_map.1 hp
    rw [List.mem_singleton.1 hq]
    exact hfree u hu

/-- A vehicle is written with a plate that no other vehicle has. -/
theorem PlatesOk.updateVehicle (h : PlatesOk cfg s) (hids : (s.vehicles.map Vehicle.id).Nodup)
    {v' : Vehicle} (hkey : v'.plateNormalized = plateKey cfg v'.plateRaw)
    (hfree : ∀ u ∈ s.vehicles, u.id ≠ v'.id → u.plateNormalized ≠ v'.plateNormalized) :
    PlatesOk cfg ((updateVehicle v').apply s) where
  normalized u hu := by
    rcases mem_updateWhere.1 hu with ⟨_, _, _, rfl⟩ | ⟨hu, _⟩
    · exact hkey
    · exact h.normalized u hu
  distinct := nodup_map_updateWhere_key hids h.distinct hfree

/-- Vehicles with one plate are one. -/
theorem PlatesOk.others (h : PlatesOk cfg s) {v u : Vehicle} (hv : v ∈ s.vehicles)
    (hu : u ∈ s.vehicles) (hid : u.id ≠ v.id) : u.plateNormalized ≠ v.plateNormalized :=
  fun hsame => hid (congrArg Vehicle.id (List.inj_on_of_nodup_map h.distinct hu hv hsame))

theorem vehicleWithPlate_eq_none {plate : String} :
    vehicleWithPlate (some plate) s = none ↔ ∀ u ∈ s.vehicles, u.plateNormalized ≠ plate := by
  simp [vehicleWithPlate]

/-! ## The sheet -/

/-- A record that would be a new vehicle of the database brings the plate of its text. -/
def SheetRecord.OwnPlate (cfg : Config) (record : SheetRecord) (key : String × String)
    (s : Store) : Prop :=
  refByKey key s = none → ∀ plate, record.plate cfg = some (some plate) →
    vehicleWithPlate (some plate) s = none → SheetRecord.plate.rawPlate cfg record = some (some plate)

/-- The plate of a text is its key. -/
theorem rawPlate_key {record : SheetRecord} {plate raw : String}
    (h : SheetRecord.plate.rawPlate cfg record = some (some plate))
    (hraw : textColumn (record.cell "plate_raw") = some (some raw)) : plate = plateKey cfg raw := by
  unfold SheetRecord.plate.rawPlate at h
  cases hcell : record.cell "plate_raw" with
  | str text =>
    rw [hcell] at h hraw
    have hread : normalizePlate cfg.plateLetterMapping text = some plate := Option.some.inj h
    have htext : text = raw := by
      unfold textColumn at hraw
      split at hraw
      · split at hraw <;> simp_all
      · simp_all
    rw [plateKey, ← htext, hread, Option.getD_some]
  | _ =>
    rw [hcell] at h
    dsimp only at h
    split at h <;> cases h

theorem sheetVehicle_plateRaw {key : String × String} {record : SheetRecord}
    {plate : Option String} {year : Option ℤ} {vehicleType plateType : String} {id : ℕ}
    {createdAt : ℤ} {v : Vehicle}
    (h : sheetVehicle cfg key record plate year vehicleType plateType id createdAt = some v) :
    textColumn (record.cell "plate_raw") = some (some v.plateRaw) := by
  simp only [sheetVehicle, Option.bind_eq_bind, Option.bind_eq_some_iff, Option.pure_def,
    Option.some.injEq] at h
  obtain ⟨_, hraw, _, rfl, _, -, _, -, _, -, _, -, rfl⟩ := h
  exact hraw

/-- The invariant of a run: identifiers are drawn once, and the plates are in order. -/
structure Plated (cfg : Config) (s : Store) (n : ℕ) : Prop where
  ids : DrawnOnce (s.vehicles.map Vehicle.id) n
  plates : PlatesOk cfg s

/-- What the sheet keeps, from the database `s₀` on: the plates, and what was known stays known. -/
structure PlatesKept (cfg : Config) (s₀ s : Store) (n : ℕ) : Prop extends Plated cfg s n where
  keys : ∀ key, refByKey key s = none → refByKey key s₀ = none
  known : ∀ plate, vehicleWithPlate (some plate) s = none → vehicleWithPlate (some plate) s₀ = none

theorem PlatesKept.drew (h : PlatesKept cfg s₀ s n) : PlatesKept cfg s₀ s (n + 1) :=
  ⟨⟨h.ids.mono (Nat.le_succ n), h.plates⟩, h.keys, h.known⟩

theorem Plated.congr (h : Plated cfg s n) (hvehicles : s'.vehicles = s.vehicles) :
    Plated cfg s' n where
  ids := hvehicles ▸ h.ids
  plates := ⟨hvehicles ▸ h.plates.normalized, hvehicles ▸ h.plates.distinct⟩

/-- The vehicles are left alone, and no key goes. -/
theorem PlatesKept.congr (h : PlatesKept cfg s₀ s n) (hvehicles : s'.vehicles = s.vehicles)
    (hkeys : ∀ key, refByKey key s' = none → refByKey key s = none) : PlatesKept cfg s₀ s' n where
  toPlated := h.toPlated.congr hvehicles
  keys key hkey := h.keys key (hkeys key hkey)
  known plate hplate := h.known plate <| vehicleWithPlate_eq_none.2 fun u hu =>
    vehicleWithPlate_eq_none.1 hplate u (hvehicles ▸ hu)

theorem Plated.insertVehicle (h : Plated cfg s n) {v : Vehicle} (hid : v.id = n)
    (hkey : v.plateNormalized = plateKey cfg v.plateRaw)
    (hfree : ∀ u ∈ s.vehicles, u.plateNormalized ≠ v.plateNormalized) :
    Plated cfg ((insertVehicle v).apply s) (n + 1) where
  ids := by
    show DrawnOnce ((s.vehicles ++ [v]).map Vehicle.id) (n + 1)
    rw [List.map_append, List.map_singleton, hid]
    exact h.ids.push
  plates := h.plates.insertVehicle hkey hfree

theorem Plated.updateVehicle (h : Plated cfg s n) {v' : Vehicle}
    (hkey : v'.plateNormalized = plateKey cfg v'.plateRaw)
    (hfree : ∀ u ∈ s.vehicles, u.id ≠ v'.id → u.plateNormalized ≠ v'.plateNormalized) :
    Plated cfg ((updateVehicle v').apply s) n where
  ids := by
    have hids : (updateWhere (fun u => u.id == v'.id) (fun _ => v') s.vehicles).map Vehicle.id =
        s.vehicles.map Vehicle.id :=
      map_updateWhere_of_mem fun u _ hu => (beq_iff_eq.1 hu).symm
    have hkept := h.ids
    rw [← hids] at hkept
    exact hkept
  plates := h.plates.updateVehicle h.ids.distinct hkey hfree

/-- A vehicle that a row brings. -/
theorem PlatesKept.arrival (h : PlatesKept cfg s₀ s n) {row : SyncRow} {v : Vehicle}
    (hown : row.record.OwnPlate cfg row.key s₀) (harrival : Arrival cfg row s n v) :
    PlatesKept cfg s₀ ((ParkingSystem.insertVehicle v).apply s) (n + 1) := by
  obtain ⟨_, _, _, _, -, hrow⟩ := harrival.built
  have hraw := hown (h.keys _ harrival.unkeyed) v.plateNormalized harrival.read
    (h.known _ harrival.free)
  have hplated := h.toPlated.insertVehicle harrival.id_eq
    (rawPlate_key hraw (sheetVehicle_plateRaw hrow)) (vehicleWithPlate_eq_none.1 harrival.free)
  refine ⟨hplated, h.keys, fun plate hplate => h.known plate ?_⟩
  exact vehicleWithPlate_eq_none.2 fun u hu =>
    vehicleWithPlate_eq_none.1 hplate u (List.mem_append_left _ hu)

/-- A vehicle that is written with the plate it has. -/
theorem PlatesKept.updateVehicle (h : PlatesKept cfg s₀ s n) {v v' : Vehicle}
    (hv : v ∈ s.vehicles) (hid : v'.id = v.id) (hraw : v'.plateRaw = v.plateRaw)
    (hplate : v'.plateNormalized = v.plateNormalized) :
    PlatesKept cfg s₀ ((updateVehicle v').apply s) n where
  toPlated := h.toPlated.updateVehicle (by rw [hplate, hraw]; exact h.plates.normalized v hv)
    fun u hu hne => by
      rw [hplate]
      exact h.plates.others hv hu (hid ▸ hne)
  keys := h.keys
  known plate hfree := h.known plate <| vehicleWithPlate_eq_none.2 fun u hu hsame => by
    by_cases hsameId : u.id = v'.id
    · have huv : u = v := List.inj_on_of_nodup_map h.ids.distinct hu hv (hsameId.trans hid)
      refine vehicleWithPlate_eq_none.1 hfree v'
        (mem_updateWhere.2 (Or.inl ⟨u, hu, by simp [hsameId], rfl⟩)) ?_
      rw [hplate, ← huv, hsame]
    · exact vehicleWithPlate_eq_none.1 hfree u
        (mem_updateWhere.2 (Or.inr ⟨hu, by simpa using hsameId⟩)) hsame

/-- **The sheet** keeps the plates in order, as long as new vehicles bring the plates of their
texts. -/
theorem sheetInvariant_platesKept (s₀ : Store) : SheetInvariant cfg
    (fun key record => record.OwnPlate cfg key s₀) (PlatesKept cfg s₀) where
  drew _ _ h := h.drew
  conflict _ _ _ h _ _ := h.drew.congr rfl fun _ => id
  vehicle _ _ _ _ h hown harrival := h.arrival hown harrival
  key s n row v date h hown harrival :=
    (h.arrival hown harrival).drew.congr rfl fun key hkey => List.find?_eq_none.2 fun r hr =>
      List.find?_eq_none.1 hkey r (List.mem_append_left _ hr)
  refreshed _ _ _ _ _ h _ hv hid hraw hplate := h.updateVehicle hv.mem hid hraw hplate
  dated s n refId date h := by
    refine h.congr rfl fun key hkey => List.find?_eq_none.2 fun r hr => ?_
    -- the keys are the same once a date is written
    have hkept := List.find?_eq_none.1 hkey
    by_cases hid : r.id = refId
    · exact hkept { r with externalUpdatedAt := date }
        (mem_updateWhere.2 (Or.inl ⟨r, hr, by simp [hid], rfl⟩))
    · exact hkept r (mem_updateWhere.2 (Or.inr ⟨hr, by simpa using hid⟩))
  permit _ _ _ _ _ _ _ _ h _ _ := h.drew.congr rfl fun _ => id
  opened _ _ _ h _ := h.drew.congr rfl fun _ => id
  closed _ _ _ h := h.congr rfl fun _ => id

/-! ## The endpoints -/

/-- A registration finds the vehicles that have the key of its plate, unless it cannot be read. -/
theorem vehicleByText_eq_none {raw : String} (h : vehicleByText cfg raw s = none)
    (hunread : normalizePlate cfg.plateLetterMapping raw = none →
      ∀ u ∈ s.vehicles, u.plateNormalized ≠ raw) :
    ∀ u ∈ s.vehicles, u.plateNormalized ≠ plateKey cfg raw := by
  unfold plateKey
  cases hread : normalizePlate cfg.plateLetterMapping raw with
  | none => exact hunread hread
  | some plate =>
    intro u hu hsame
    rw [vehicleByText, hread, Option.bind_some, vehicleOf, List.head?_eq_none_iff] at h
    have hfound : u ∈ orderBy Vehicle.createdAt (s.vehicles.filter fun v => v.plateNormalized == plate) := by
      rw [mem_orderBy]
      exact List.mem_filter.2 ⟨hu, by simpa using hsame⟩
    rw [h] at hfound
    cases hfound

/-- What a change of a vehicle writes: a plate with its key, and nobody else's. -/
theorem applied_plates {body : VehicleUpdate} {vehicleId : ℕ} {change : Vehicle × Vehicle}
    (hids : (s.vehicles.map Vehicle.id).Nodup) (hplates : PlatesOk cfg s)
    (h : change ∈ body.applied cfg vehicleId s) :
    change.2.plateNormalized = plateKey cfg change.2.plateRaw ∧
      ∀ u ∈ s.vehicles, u.id ≠ change.2.id → u.plateNormalized ≠ change.2.plateNormalized := by
  obtain ⟨hmem, hid⟩ := VehicleUpdate.applied_some h
  unfold VehicleUpdate.applied at h
  split at h
  swap
  · cases h
  obtain ⟨v, -, hsome⟩ := Option.bind_eq_some_iff.1 h
  dsimp only at hsome
  split at hsome
  · cases hsome
  rename_i hrefused
  cases hsome
  have hplate (region : Option (String × String)) : (body.on region (body.replate cfg v)).plateRaw =
      (body.replate cfg v).plateRaw ∧ (body.on region (body.replate cfg v)).plateNormalized =
        (body.replate cfg v).plateNormalized := by
    unfold VehicleUpdate.on
    dsimp only
    split <;> exact ⟨rfl, rfl⟩
  dsimp only at hmem hid ⊢
  rw [(hplate _).1, (hplate _).2, hid]
  refine ⟨?_, fun u hu hne hsame => ?_⟩
  · unfold VehicleUpdate.replate
    split
    · rfl
    · exact hplates.normalized v hmem
  · have htaken : plateTaken v (body.replate cfg v) s = false := by
      simp only [Bool.or_eq_true, not_or, Bool.not_eq_true] at hrefused
      exact hrefused.1.1
    unfold plateTaken at htaken
    by_cases hkept : (body.replate cfg v).plateNormalized = v.plateNormalized
    · exact hplates.others hmem hu hne (hsame.trans hkept)
    · rw [bne_iff_ne.2 hkept, Bool.true_and] at htaken
      cases hfound : s.vehicles.find? fun u => u.plateNormalized ==
          (body.replate cfg v).plateNormalized with
      | none => exact absurd hsame (by simpa using List.find?_eq_none.1 hfound u hu)
      | some t =>
        rw [hfound] at htaken
        have hid : t.id = v.id := by simpa using htaken
        have htv := List.inj_on_of_nodup_map hids (List.mem_of_find?_eq_some hfound) hmem hid
        have hplate : t.plateNormalized = (body.replate cfg v).plateNormalized := by
          simpa using List.find?_some hfound
        exact hkept (hplate.symm.trans (congrArg Vehicle.plateNormalized htv))

/-! ## Runs -/

/-- The condition on a request: a plate that cannot be read is no vehicle's already, and where the
sheet brings a new vehicle it brings the plate of its text. -/
def RegistryRequest.OwnPlates (cfg : Config) : RegistryRequest → Session Store → Prop
  | .createVehicle body, w => normalizePlate cfg.plateLetterMapping body.plateRaw = none →
      ∀ u ∈ w.committed.vehicles, u.plateNormalized ≠ body.plateRaw
  | .syncRun (some sheet) _ false, w => ∀ record ∈ sheet.records,
      validateRow cfg record = some [] → record.OwnPlate cfg (record.key cfg) w.committed
  | .resolveConflict r, w => ∀ c ∈ conflictById r.conflictId w.committed, r.carriedOut = true →
      r.applies cfg c = true → c.incoming.OwnPlate cfg c.row.key w.committed
  | _, _ => True

theorem Plated.kept (h : Plated cfg s n) : PlatesKept cfg s s n := ⟨h, fun _ => id, fun _ => id⟩

theorem Plated.mono {m : ℕ} (h : Plated cfg s n) (hnm : n ≤ m) : Plated cfg s m :=
  ⟨h.ids.mono hnm, h.plates⟩

/-- **Step**: a request under its condition keeps the plates in order. -/
theorem RegistryRequest.plated (clk : ℕ → ℤ) (req : RegistryRequest) (hreq : req.OwnPlates cfg w)
    (h : Plated cfg w.committed w.nextId) :
    Plated cfg ((req.handler cfg).after clk w).committed ((req.handler cfg).after clk w).nextId := by
  have hdrew : ∀ s n, Plated cfg s n → Plated cfg s (n + 1) :=
    fun _ n h => h.mono (Nat.le_succ n)
  have hstored : Prog.Stored (Plated cfg) (.fresh w.committed w.nextId w.tick) :=
    Prog.stored_fresh h
  have hkept : Prog.Stored (PlatesKept cfg w.committed) (.fresh w.committed w.nextId w.tick) :=
    Prog.stored_fresh h.kept
  cases req with
  | createVehicle body =>
    refine (keepsRow_createVehicle hdrew body (fun region t _ hfree => ?_)
      hstored).discard.after_stored
    exact h.insertVehicle rfl rfl (vehicleByText_eq_none hfree hreq)
  | modifyVehicle vehicleId body =>
    refine (keepsRow_modifyVehicle vehicleId body (fun change hchange => ?_)
      hstored).discard.after_stored
    obtain ⟨hkey, hfree⟩ := applied_plates h.ids.distinct h.plates hchange
    exact h.updateVehicle hkey hfree
  | createPermit body user =>
    refine (keepsRow_createPermit hdrew body user (fun p _ _ => ?_) hstored).discard.after_stored
    exact (h.mono (Nat.le_succ _)).congr rfl
  | syncRun sheet trigger dryRun =>
    cases dryRun with
    | true =>
      -- nothing is written
      have hsame : ((RegistryRequest.handler cfg (.syncRun sheet trigger true)).after clk w).committed =
          w.committed := by
        rw [RegistryRequest.handler, Prog.after_bind_ret]
        exact (syncRun_dry sheet trigger (.fresh w.committed w.nextId w.tick)).1
      rw [hsame]
      exact h.mono (Prog.after_nextId_le clk _ w)
    | false =>
      have hrows : KeepsRow clk _ _ _ := keepsRow_syncRun (sheetInvariant_platesKept w.committed) sheet trigger false
        (fun given hgiven record hrecord hvalid => by
          cases hgiven
          exact hreq record hrecord hvalid) hkept
      exact hrows.discard.after_stored.toPlated
  | resolveConflict r =>
    have hresolved : KeepsRow clk _ _ _ := keepsRow_resolveConflict (sheetInvariant_platesKept w.committed)
      (fun _ _ _ _ h => h.congr rfl fun _ => id) (fun c hc => hreq c hc) hkept
    exact hresolved.discard.after_stored.toPlated

/-- **One plate, one vehicle**: from an empty vehicle table, along every sequence of requests under
their conditions, every vehicle has the key of its plate and no two vehicles have one key. -/
theorem vehiclePlates_run (cfg : Config) (clk : ℕ → ℤ) (reqs : List RegistryRequest)
    (w : Session Store) (hempty : w.committed.vehicles = [])
    (hreqs : Prog.EachMeets clk (RegistryRequest.handler cfg) (RegistryRequest.OwnPlates cfg) reqs
      w) : PlatesOk cfg (Prog.afterEach clk (RegistryRequest.handler cfg) reqs w).committed := by
  have hstart : Plated cfg w.committed w.nextId := by
    refine ⟨?_, ?_, ?_⟩ <;> rw [hempty]
    · exact drawnOnce_nil _
    · exact fun _ hv => absurd hv List.not_mem_nil
    · exact List.nodup_nil
  exact (hreqs.invariant (I := fun w => Plated cfg w.committed w.nextId)
    (fun req _ hreq h => req.plated clk hreq h) hstart).plates

/-! ### A plate that cannot be read -/

/-- A registration of a text that is no plate. -/
def registerUnread : RegistryRequest := .createVehicle { plateRaw := "ABC" }

/-- A registration of a plate. -/
def registerRead : RegistryRequest := .createVehicle { plateRaw := "12ب345-67" }

theorem registerRead_ownPlates (w : Session Store) : registerRead.OwnPlates {} w := by
  intro hunread
  have hread : (normalizePlate (Config.plateLetterMapping {}) "12ب345-67").isNone = false := by
    decide +kernel
  rw [show normalizePlate (Config.plateLetterMapping {}) "12ب345-67" = none from hunread] at hread
  cases hread

theorem vehiclePlates_run_registered : PlatesOk {} (Prog.afterEach (fun _ => 0)
    (RegistryRequest.handler {}) [registerRead, registerRead] (.fresh {} 0 0)).committed :=
  vehiclePlates_run {} (fun _ => 0) [registerRead, registerRead] (.fresh {} 0 0) rfl
    ⟨registerRead_ownPlates _, registerRead_ownPlates _, trivial⟩

/-- **The text is registered twice**: its lookup finds nothing. -/
theorem unread_registered_twice : ¬ ∀ (cfg : Config) (clk : ℕ → ℤ) (reqs : List RegistryRequest)
    (w : Session Store), w.committed.vehicles = [] →
    PlatesOk cfg (Prog.afterEach clk (RegistryRequest.handler cfg) reqs w).committed := by
  intro hall
  have hdistinct := (hall {} (fun _ => 0) [registerUnread, registerUnread] (.fresh {} 0 0)
    rfl).distinct
  revert hdistinct
  decide +kernel

end ParkingSystem
