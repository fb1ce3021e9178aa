import ParkingSystem.Registry.Conflicts
import ParkingSystem.Registry.Linked
import ParkingSystem.Registry.SyncAccounting

/-!
# Requests on the Registry

What writes vehicles, their keys, their permits and the conflicts of the sheet: the endpoints, the
synchronisation, and the resolution of conflicts. Every one of them keeps the identifiers of these
tables in order (`RegistryOk`), however it ends.
-/

namespace ParkingSystem

open PyText Plate Table Transaction

/-- What writes the registry. -/
inductive RegistryRequest where
  | createVehicle (body : VehicleCreate)
  | modifyVehicle (vehicleId : ℕ) (body : VehicleUpdate)
  | createPermit (body : PermitCreate) (user : Option ℕ)
  | syncRun (sheet : Option Sheet) (trigger : String) (dryRun : Bool)
  | resolveConflict (r : ConflictRequest)

/-- The handler of a request, without its answer. -/
def RegistryRequest.handler (cfg : Config) : RegistryRequest → Handler Unit
  | createVehicle body => (ParkingSystem.createVehicle cfg body).bind fun _ => .ret ()
  | modifyVehicle vehicleId body =>
    (ParkingSystem.modifyVehicle cfg vehicleId body).bind fun _ => .ret ()
  | createPermit body user => (ParkingSystem.createPermit cfg body user).bind fun _ => .ret ()
  | syncRun sheet trigger dryRun =>
    (ParkingSystem.syncRun cfg sheet trigger dryRun).bind fun _ => .ret ()
  | resolveConflict r => (ParkingSystem.resolveConflict cfg r).bind fun _ => .ret ()

variable {cfg : Config} {clk : ℕ → ℤ} {I : Store → ℕ → Prop} {w : Session Store}

/-! ## The endpoints -/

theorem keepsRow_createVehicle (hdrew : ∀ s n, I s n → I s (n + 1)) (body : VehicleCreate)
    (hnew : ∀ region createdAt, plateTextValid body.plateRaw = true →
      vehicleByText cfg body.plateRaw w.view = none →
      I ((insertVehicle (body.row cfg region w.nextId createdAt)).apply w.view) (w.nextId + 1))
    (h : Prog.Stored I w) : KeepsRow clk I (createVehicle cfg body) w := by
  unfold createVehicle
  split
  · rename_i hvalid
    refine Prog.wp_held_select h ?_
    cases hfree : vehicleByText cfg body.plateRaw w.view with
    | some v => exact Prog.wp_held_raise h
    | none =>
      refine Prog.wp_held_select h (Prog.wp_newId (Prog.wp_getTime ?_))
      refine Prog.wp_stored_flush (h.drew hdrew).ticked fun _ => ?_
      have hsent := hnew (regionOf (letterOf body.plateLetter) (normCode body.plateProvinceCode)
        w.view) (clk w.tick) hvalid hfree
      refine KeepsRow.bind (Prog.wp_stored_commit_last ?_ trivial) fun _ _ h' => keepsRow_ret h' _
      exact ⟨hdrew _ _ h.committed, hsent⟩
  · exact Prog.wp_held_raise h

theorem keepsRow_modifyVehicle (vehicleId : ℕ) (body : VehicleUpdate)
    (hchange : ∀ change ∈ body.applied cfg vehicleId w.view,
      I ((updateVehicle change.2).apply w.view) w.nextId) (h : Prog.Stored I w) :
    KeepsRow clk I (modifyVehicle cfg vehicleId body) w := by
  unfold modifyVehicle
  split
  · rename_i hvalid
    refine Prog.wp_held_select h ?_
    cases hvehicle : vehicleById vehicleId w.view with
    | none => exact Prog.wp_held_raise h
    | some v =>
      refine Prog.wp_held_select h ?_
      split
      · exact Prog.wp_held_raise h
      · rename_i htaken
        refine Prog.wp_held_select h ?_
        split
        · exact Prog.wp_throw ⟨h, trivial⟩
        · rename_i hnull
          refine Prog.wp_stored_flush h fun hcheck => ?_
          have happlied : (v, body.on (regionOf (letterOf body.plateLetter)
              (normCode body.plateProvinceCode) w.view) (body.replate cfg v)) ∈
              body.applied cfg vehicleId w.view := by
            simp [VehicleUpdate.applied, hvalid, hvehicle, htaken, hnull, hcheck]
          refine KeepsRow.bind (Prog.wp_stored_commit_last ?_ trivial) fun _ _ h' => keepsRow_ret h' _
          exact ⟨h.committed, hchange _ happlied⟩
  · exact Prog.wp_held_raise h

theorem keepsRow_createPermit (hdrew : ∀ s n, I s n → I s (n + 1)) (body : PermitCreate)
    (user : Option ℕ) (hnew : ∀ p, p.id = w.nextId → (insertPermit p).check w.view = none →
      I ((insertPermit p).apply w.view) (w.nextId + 1)) (h : Prog.Stored I w) :
    KeepsRow clk I (createPermit cfg body user) w := by
  refine Prog.wp_held_select h ?_
  split
  · exact Prog.wp_held_raise h
  · refine Prog.wp_newId (Prog.wp_getTime ?_)
    refine Prog.wp_stored_flush (h.drew hdrew).ticked fun hcheck => ?_
    have hsent := hnew (body.row ((body.plate cfg w.view).getD "") user w.nextId (clk w.tick)) rfl
      hcheck
    refine KeepsRow.bind (Prog.wp_stored_commit_last ?_ trivial) fun _ _ h' => keepsRow_ret h' _
    exact ⟨hdrew _ _ h.committed, hsent⟩

/-! ## Identifiers in order -/

/-- The identifiers of the registry: drawn once, and a vehicle has one key at most. -/
structure RegistryOk (s : Store) (n : ℕ) : Prop where
  drawn : Drawn s n
  vehicles : DrawnOnce (s.vehicles.map Vehicle.id) n
  keys : DrawnOnce (s.externalRefs.map VehicleExternalRef.vehicleId) n
  conflicts : DrawnOnce (s.syncConflicts.map VehicleSyncConflict.id) n

theorem drawnOnce_nil (n : ℕ) : DrawnOnce [] n := ⟨List.nodup_nil, nofun⟩

theorem registryOk_empty : RegistryOk {} 0 where
  drawn := ⟨fun _ h => absurd h List.not_mem_nil, fun _ h => absurd h List.not_mem_nil⟩
  vehicles := drawnOnce_nil 0
  keys := drawnOnce_nil 0
  conflicts := drawnOnce_nil 0

theorem RegistryOk.mono {s : Store} {n m : ℕ} (h : RegistryOk s n) (hnm : n ≤ m) :
    RegistryOk s m where
  drawn := h.drawn.mono hnm
  vehicles := h.vehicles.mono hnm
  keys := h.keys.mono hnm
  conflicts := h.conflicts.mono hnm

theorem RegistryOk.insertVehicle {s : Store} {n : ℕ} (h : RegistryOk s n) {v : Vehicle}
    (hv : v.id = n) : RegistryOk ((insertVehicle v).apply s) (n + 1) where
  drawn := (h.drawn.mono (Nat.le_succ n)).insertVehicle (hv ▸ Nat.lt_succ_self n)
  vehicles := by
    show DrawnOnce ((s.vehicles ++ [v]).map Vehicle.id) (n + 1)
    rw [List.map_append, List.map_singleton, hv]
    exact h.vehicles.push
  keys := h.keys.mono (Nat.le_succ n)
  conflicts := h.conflicts.mono (Nat.le_succ n)

theorem RegistryOk.updateVehicle {s : Store} {n : ℕ} (h : RegistryOk s n) {v v' : Vehicle}
    (hv : v ∈ s.vehicles) (hid : v'.id = v.id) : RegistryOk ((updateVehicle v').apply s) n where
  drawn := h.drawn.updateVehicle (hid ▸ h.drawn.vehicles v hv)
  vehicles := by
    show DrawnOnce ((updateWhere (fun u => u.id == v'.id) (fun _ => v') s.vehicles).map Vehicle.id) n
    have hids : (updateWhere (fun u => u.id == v'.id) (fun _ => v') s.vehicles).map Vehicle.id =
        s.vehicles.map Vehicle.id :=
      map_updateWhere_of_mem fun u _ hu => (beq_iff_eq.1 hu).symm
    rw [hids]
    exact h.vehicles
  keys := h.keys
  conflicts := h.conflicts

theorem RegistryOk.insertPermit {s : Store} {n : ℕ} (h : RegistryOk s n) {p : AccessPermit}
    (hp : ∀ id, p.vehicleId = some id → id < n) :
    RegistryOk ((insertPermit p).apply s) (n + 1) where
  drawn := (h.drawn.insertPermit hp).mono (Nat.le_succ n)
  vehicles := h.vehicles.mono (Nat.le_succ n)
  keys := h.keys.mono (Nat.le_succ n)
  conflicts := h.conflicts.mono (Nat.le_succ n)

theorem RegistryOk.insertSyncConflict {s : Store} {n : ℕ} (h : RegistryOk s n)
    {c : VehicleSyncConflict} (hc : c.id = n) :
    RegistryOk ((insertSyncConflict c).apply s) (n + 1) where
  drawn := (h.drawn.mono (Nat.le_succ n)).congr rfl rfl
  vehicles := h.vehicles.mono (Nat.le_succ n)
  keys := h.keys.mono (Nat.le_succ n)
  conflicts := by
    show DrawnOnce ((s.syncConflicts ++ [c]).map VehicleSyncConflict.id) (n + 1)
    rw [List.map_append, List.map_singleton, hc]
    exact h.conflicts.push

/-- The key of the vehicle that was drawn last. -/
theorem RegistryOk.insertExternalRef {s : Store} {n : ℕ} (h : RegistryOk s n) {v : Vehicle}
    (hv : v.id = n) (row : SyncRow) (date : Option ℤ) :
    RegistryOk ((insertExternalRef (row.ref n date)).apply ((ParkingSystem.insertVehicle v).apply s))
      (n + 2) where
  drawn := (h.insertVehicle hv).drawn.mono (Nat.le_succ _) |>.congr rfl rfl
  vehicles := (h.insertVehicle hv).vehicles.mono (Nat.le_succ _)
  keys := by
    show DrawnOnce ((s.externalRefs ++ [row.ref n date]).map VehicleExternalRef.vehicleId) (n + 2)
    rw [List.map_append, List.map_singleton]
    exact h.keys.push.mono (Nat.le_succ _)
  conflicts := h.conflicts.mono (Nat.le_add_right n 2)

/-- **The sheet** keeps the identifiers in order. -/
theorem sheetInvariant_registryOk : SheetInvariant cfg (fun _ _ => True) RegistryOk where
  drew s n h := h.mono (Nat.le_succ n)
  conflict s n c h hc _ := h.insertSyncConflict hc
  vehicle s n row v h _ harrival := h.insertVehicle harrival.id_eq
  key s n row v date h _ harrival := h.insertExternalRef harrival.id_eq row date
  refreshed s n row v v' h _ hv hid _ _ := h.updateVehicle hv.mem hid
  dated s n id date h :=
    { drawn := h.drawn.congr rfl rfl
      vehicles := h.vehicles
      keys := by
        have hkeys := map_updateWhere (g := VehicleExternalRef.vehicleId) (p := fun r => r.id == id)
          (f := fun r => { r with externalUpdatedAt := date }) (fun _ => rfl) s.externalRefs
        have hkept := h.keys
        rw [← hkeys] at hkept
        exact hkept
      conflicts := h.conflicts }
  permit s n row v permitType validFrom validUntil createdAt h _ hv := h.insertPermit fun id hid => by
    cases hid
    exact h.drawn.vehicles v hv.mem
  opened s n run h _ :=
    { drawn := (h.drawn.mono (Nat.le_succ n)).congr rfl rfl
      vehicles := h.vehicles.mono (Nat.le_succ n)
      keys := h.keys.mono (Nat.le_succ n)
      conflicts := h.conflicts.mono (Nat.le_succ n) }
  closed s n run h := ⟨h.drawn.congr rfl rfl, h.vehicles, h.keys, h.conflicts⟩

theorem RegistryOk.updateSyncConflict {s : Store} {n : ℕ} (h : RegistryOk s n) (id : ℕ)
    (u : Resolution) : RegistryOk ((updateSyncConflict id u).apply s) n where
  drawn := h.drawn.congr rfl rfl
  vehicles := h.vehicles
  keys := h.keys
  conflicts := by
    have hids := map_updateWhere (g := VehicleSyncConflict.id) (p := fun c => c.id == id) (f := u.on)
      (fun _ => rfl) s.syncConflicts
    have hkept := h.conflicts
    rw [← hids] at hkept
    exact hkept

/-- What a change writes is the vehicle it found. -/
theorem VehicleUpdate.applied_some {body : VehicleUpdate} {vehicleId : ℕ} {s : Store}
    {change : Vehicle × Vehicle} (h : change ∈ body.applied cfg vehicleId s) :
    change.1 ∈ s.vehicles ∧ change.2.id = change.1.id := by
  unfold VehicleUpdate.applied at h
  split at h
  · obtain ⟨v, hv, hsome⟩ := Option.bind_eq_some_iff.1 h
    dsimp only at hsome
    split at hsome
    · cases hsome
    · cases hsome
      exact ⟨List.mem_of_find?_eq_some hv, VehicleUpdate.on_id cfg body _ v⟩
  · cases h

/-- A handler without its answer. -/
theorem KeepsRow.discard {α : Type} {p : Handler α} (h : KeepsRow clk I p w) :
    KeepsRow clk I (p.bind fun _ => (.ret () : Handler Unit)) w :=
  h.bind fun _ _ h' => keepsRow_ret h' ()

/-- **Step**: a request keeps the identifiers in order. -/
theorem RegistryRequest.registryOk (cfg : Config) (clk : ℕ → ℤ) (req : RegistryRequest)
    (w : Session Store) (h : RegistryOk w.committed w.nextId) :
    RegistryOk ((req.handler cfg).after clk w).committed ((req.handler cfg).after clk w).nextId := by
  have hdrew : ∀ s n, RegistryOk s n → RegistryOk s (n + 1) := fun s n h => h.mono (Nat.le_succ n)
  have hstored : Prog.Stored RegistryOk (.fresh w.committed w.nextId w.tick) := Prog.stored_fresh h
  cases req with
  | createVehicle body =>
    have hmade : KeepsRow clk RegistryOk (ParkingSystem.createVehicle cfg body)
        (.fresh w.committed w.nextId w.tick) :=
      keepsRow_createVehicle hdrew body (fun _ _ _ _ => RegistryOk.insertVehicle h rfl) hstored
    exact hmade.discard.after_stored
  | modifyVehicle vehicleId body =>
    refine (keepsRow_modifyVehicle vehicleId body (fun change hchange => ?_)
      hstored).discard.after_stored
    obtain ⟨hv, hid⟩ := VehicleUpdate.applied_some hchange
    exact RegistryOk.updateVehicle h hv hid
  | createPermit body user =>
    refine (keepsRow_createPermit hdrew body user (fun p _ hcheck => ?_)
      hstored).discard.after_stored
    refine RegistryOk.insertPermit h fun id hid => ?_
    obtain ⟨v, hv, rfl⟩ := insertPermit_vehicle hcheck hid
    exact h.drawn.vehicles v hv
  | syncRun sheet trigger dryRun =>
    exact (keepsRow_syncRun sheetInvariant_registryOk sheet trigger dryRun
      (fun _ _ _ _ _ => trivial) hstored).discard.after_stored
  | resolveConflict r =>
    exact (keepsRow_resolveConflict sheetInvariant_registryOk
      (fun _ _ id u hI => hI.updateSyncConflict id u) (fun _ _ _ _ => trivial)
      hstored).discard.after_stored

end ParkingSystem
