import ParkingSystem.Library.Hoare
import ParkingSystem.Store

/-!
# Guarded Deletions

`delete_tower`, `delete_unit`, `delete_person` and the script that clears duplicate vehicles away.
Each looks for rows that refer to the object before it deletes it, in tables that it lists by hand.
The foreign keys are declared beside the tables, and the store enforces them when a DELETE is
flushed.

An `IntegrityError` is answered with an internal error: only the exceptions of the application have
a handler.
-/

namespace ParkingSystem

open Table Transaction

/-! ## The declared foreign keys -/

/-- A foreign key, as the identifiers that its column holds. -/
abbrev ForeignKey := Store → List ℕ

/-- What some foreign keys refer to. -/
def references (keys : List ForeignKey) (s : Store) : List ℕ := keys.flatMap fun key => key s

/-- What is deleted behind a guard: `counted` are the foreign keys whose rows the guard counts, and
`missed` the others that lead there. -/
structure DeletionGuard where
  label : RegistryLabel
  lock : ℕ → Lock
  ids : Store → List ℕ
  remove : ℕ → Store → Store
  counted : List ForeignKey
  missed : List ForeignKey

/-- Whatever refers to such an object. -/
def DeletionGuard.refs (g : DeletionGuard) (s : Store) : List ℕ :=
  references (g.counted ++ g.missed) s

/-- Towers: units and parking spaces refer to them. -/
def towerGuard : DeletionGuard where
  label := .deleteTower
  lock := .towerRow
  ids s := s.towers.map Tower.id
  remove id s := { s with towers := s.towers.filter fun t => t.id != id }
  counted := [fun s => s.units.map ResidentialUnit.towerId]
  missed := [fun s => s.spaces.filterMap ParkingSpace.towerId]

/-- Units: a permit refers to the unit of its host, too. -/
def unitGuard : DeletionGuard where
  label := .deleteUnit
  lock := .unitRow
  ids s := s.units.map ResidentialUnit.id
  remove id s := { s with units := s.units.filter fun u => u.id != id }
  counted := [fun s => s.unitOccupancies.map UnitOccupancy.unitId,
    fun s => s.vehicles.filterMap Vehicle.unitId,
    fun s => s.assignments.filterMap ParkingAssignment.unitId]
  missed := [fun s => s.permits.filterMap AccessPermit.hostUnitId]

/-- Persons. -/
def personGuard : DeletionGuard where
  label := .deletePerson
  lock := .personRow
  ids s := s.persons.map Person.id
  remove id s := { s with persons := s.persons.filter fun p => p.id != id }
  counted := [fun s => s.unitOccupancies.map UnitOccupancy.personId,
    fun s => s.vehicles.filterMap Vehicle.ownerPersonId]
  missed := []

/-- Vehicles. The script looks at occupancies as well, whose `vehicle_id` is no foreign key. -/
def vehicleGuard : DeletionGuard where
  label := .deleteVehicle
  lock := .vehicleRow
  ids s := s.vehicles.map Vehicle.id
  remove id s := { s with vehicles := s.vehicles.filter fun v => v.id != id }
  counted := [fun s => s.permits.filterMap AccessPermit.vehicleId,
    fun s => s.events.filterMap AccessEvent.vehicleId,
    fun s => s.assignments.filterMap ParkingAssignment.vehicleId,
    fun s => s.sessions.filterMap ParkingSession.vehicleId]
  missed := [fun s => s.restrictions.filterMap VehicleRestriction.vehicleId,
    fun s => s.violations.filterMap Violation.vehicleId,
    fun s => s.externalRefs.map VehicleExternalRef.vehicleId]

/-- The foreign keys that lead to these objects hold. -/
structure ForeignKeysHold (s : Store) : Prop where
  towers : towerGuard.refs s ⊆ towerGuard.ids s
  units : unitGuard.refs s ⊆ unitGuard.ids s
  persons : personGuard.refs s ⊆ personGuard.ids s
  vehicles : vehicleGuard.refs s ⊆ vehicleGuard.ids s

/-- DELETE of an object. -/
def deleteRow (g : DeletionGuard) (id : ℕ) : Stmt where
  label := .registry g.label
  locks := [g.lock id]
  check s := if (g.refs s).contains id then some .integrity else none
  apply := g.remove id

/-! ## Endpoints -/

/-- One query for each foreign key that the guard counts. -/
def countReferences (id : ℕ) : List ForeignKey → Handler (List ℕ)
  | [] => return []
  | key :: keys => do
    let n ← .select fun s => (key s).count id
    let rest ← countReferences id keys
    return n :: rest

/-- A deletion behind a guard. -/
def guardedDelete (g : DeletionGuard) (id : ℕ) : Handler Unit := do
  let found ← .select fun s => (g.ids s).contains id
  if found then do
    let counts ← countReferences id g.counted
    if counts.any (0 < ·) then Prog.raise .conflict
    else do
      Prog.flush (deleteRow g id)
      Prog.commitTx
  else Prog.raise .notFound

/-- `delete_tower`. -/
def deleteTower (towerId : ℕ) : Handler Unit := guardedDelete towerGuard towerId

/-- `delete_unit`. -/
def deleteUnit (unitId : ℕ) : Handler Unit := guardedDelete unitGuard unitId

/-- `delete_person`. -/
def deletePerson (personId : ℕ) : Handler Unit := guardedDelete personGuard personId

/-! ## The script -/

/-- What the script reports: the duplicates it removed, and those it kept. -/
structure DedupeReport where
  removed : ℕ := 0
  keptDupes : ℕ := 0
  deriving DecidableEq, Repr

/-- What `main` loads of a duplicate; all it asks is whether there is any. -/
def dedupeKeys : List ForeignKey :=
  [fun s => s.permits.filterMap AccessPermit.vehicleId,
    fun s => s.events.filterMap AccessEvent.vehicleId,
    fun s => s.occupancies.filterMap ParkingOccupancy.vehicleId,
    fun s => s.assignments.filterMap ParkingAssignment.vehicleId,
    fun s => s.sessions.filterMap ParkingSession.vehicleId]

/-- The loop, with the plates seen so far. A DELETE is sent with the next query or at the commit. -/
def dedupeLoop : List Vehicle → List String → DedupeReport → Handler DedupeReport
  | [], _, report => return report
  | v :: rest, seen, report =>
    if seen.contains v.plateNormalized then do
      let counts ← countReferences v.id dedupeKeys
      if counts.any (0 < ·) then
        dedupeLoop rest seen { report with keptDupes := report.keptDupes + 1 }
      else do
        Prog.flush (deleteRow vehicleGuard v.id)
        dedupeLoop rest seen { report with removed := report.removed + 1 }
    else dedupeLoop rest (v.plateNormalized :: seen) report

/-- `main` of `dedupe_vehicles`. -/
def dedupeVehicles : Handler DedupeReport := do
  let rows ← .select fun s : Store => orderBy Vehicle.createdAt s.vehicles
  let report ← dedupeLoop rows [] {}
  Prog.commitTx
  return report

/-! ## Requests -/

/-- What deletes. -/
inductive Deletion where
  | tower (towerId : ℕ)
  | unit (unitId : ℕ)
  | person (personId : ℕ)
  | duplicates
  deriving DecidableEq, Repr

/-- What a deletion runs; the figures of the script's report do not matter here. -/
def Deletion.handler : Deletion → Handler Unit
  | tower towerId => deleteTower towerId
  | unit unitId => deleteUnit unitId
  | person personId => deletePerson personId
  | duplicates => dedupeVehicles.bind fun _ => .ret ()

/-! ## What a guarded deletion does -/

/-- An object that nothing refers to is deleted; one that something refers to is kept and the
request answers with a conflict. -/
structure DeletesUnreferenced (g : DeletionGuard) (id : ℕ) (s : Store)
    (r : Except (Exc AppError) Unit) (s' : Store) : Prop where
  absent : id ∉ g.ids s → r = .error (.app .notFound) ∧ s' = s
  kept : id ∈ g.ids s → id ∈ g.refs s → r = .error (.app .conflict) ∧ s' = s
  deleted : id ∈ g.ids s → id ∉ g.refs s → r = .ok () ∧ s' = g.remove id s

/-- What the guard makes of it: a reference that it does not count is found by the store. -/
structure EndsGuarded (g : DeletionGuard) (id : ℕ) (s : Store)
    (r : Except (Exc AppError) Unit) (s' : Store) : Prop where
  absent : id ∉ g.ids s → r = .error (.app .notFound) ∧ s' = s
  counted : id ∈ g.ids s → id ∈ references g.counted s → r = .error (.app .conflict) ∧ s' = s
  rejected : id ∈ g.ids s → id ∉ references g.counted s → id ∈ g.refs s →
    r = .error (.rejected .integrity) ∧ s' = s
  deleted : id ∈ g.ids s → id ∉ g.refs s → r = .ok () ∧ s' = g.remove id s

section

variable {clk : ℕ → ℤ} {s : Store} {n k : ℕ} {g : DeletionGuard} {id : ℕ}

theorem mem_references {keys : List ForeignKey} :
    id ∈ references keys s ↔ ∃ key ∈ keys, id ∈ key s := List.mem_flatMap

theorem mem_refs : id ∈ g.refs s ↔ id ∈ references g.counted s ∨ id ∈ references g.missed s := by
  rw [DeletionGuard.refs, references, List.flatMap_append, List.mem_append]
  rfl

theorem countReferences_reads (id : ℕ) (keys : List ForeignKey) :
    (countReferences id keys).Reads fun s => keys.map fun key => (key s).count id := by
  induction keys with
  | nil => exact Prog.reads_ret []
  | cons key keys ih => exact (Prog.reads_select _).bind fun _ => ih.bind fun _ => Prog.reads_ret _

/-- How the guard decides. -/
theorem countsAny_iff (id : ℕ) (keys : List ForeignKey) (s : Store) :
    (keys.map fun key => (key s).count id).any (0 < ·) = true ↔ id ∈ references keys s := by
  rw [mem_references, List.any_map, List.any_eq_true]
  simp [List.count_pos_iff]

/-- How a guarded deletion ends. -/
theorem guardedDelete_wp (g : DeletionGuard) (id : ℕ) :
    (guardedDelete g id).wp clk (fun r w' => EndsGuarded g id s r w'.committed)
      (Session.fresh s n k) := by
  refine Prog.wp_select (fun h => absurd h Bool.false_ne_true) fun _ => ?_
  split
  · rename_i hfound
    have hids : id ∈ g.ids s := List.contains_iff_mem.1 hfound
    have hreads := countReferences_reads id g.counted clk (.fresh s n k) rfl
    refine Prog.wp_bind (Prog.wp_of_exec hreads ?_)
    dsimp only [Prog.goesOn]
    split
    · rename_i hany
      have hcounted : id ∈ references g.counted s := (countsAny_iff id g.counted s).1 hany
      exact Prog.wp_raise ⟨fun h => absurd hids h, fun _ _ => ⟨rfl, rfl⟩,
        fun _ h => absurd hcounted h, fun _ h => absurd (mem_refs.2 (Or.inl hcounted)) h⟩
    · rename_i hany
      have hcounted : id ∉ references g.counted s := fun h => hany ((countsAny_iff id g.counted s).2 h)
      refine Prog.wp_flush (fun h => absurd h Bool.false_ne_true) (fun _ r hr => ?_) fun _ hc => ?_
      · simp only [deleteRow, Session.fresh_view, List.contains_iff_mem] at hr
        split at hr
        · rename_i href
          cases hr
          exact ⟨fun h => absurd hids h, fun _ h => absurd h hcounted, fun _ _ _ => ⟨rfl, rfl⟩,
            fun _ h => absurd href h⟩
        · cases hr
      · simp only [deleteRow, Session.fresh_view, List.contains_iff_mem] at hc
        split at hc
        · cases hc
        · rename_i href
          exact Prog.wp_commit_last (fun h => absurd h Bool.false_ne_true) fun _ =>
            ⟨fun h => absurd hids h, fun _ h => absurd h hcounted, fun _ _ h => absurd h href,
              fun _ _ => ⟨rfl, rfl⟩⟩
  · rename_i hfound
    have hids : id ∉ g.ids s := fun h => hfound (List.contains_iff_mem.2 h)
    exact Prog.wp_raise ⟨fun _ => ⟨rfl, rfl⟩, fun h => absurd h hids, fun h => absurd h hids,
      fun h => absurd h hids⟩

/-- A guarded deletion is as it should be where the guard counts a reference of every object that
has one. -/
theorem EndsGuarded.iff {r : Except (Exc AppError) Unit} {s' : Store}
    (h : EndsGuarded g id s r s') (hrefs : g.refs s ⊆ g.ids s) :
    DeletesUnreferenced g id s r s' ↔
      (id ∈ references g.missed s → id ∈ references g.counted s) := by
  constructor
  · intro hexact hmissed
    have href : id ∈ g.refs s := mem_refs.2 (Or.inr hmissed)
    by_contra hnot
    -- the guard lets the deletion through, and the store rejects it
    have hend := h.rejected (hrefs href) hnot href
    rw [hend.1] at hexact
    cases (hexact.kept (hrefs href) href).1
  · intro hguard
    refine ⟨h.absent, fun hids href => h.counted hids ?_, h.deleted⟩
    exact (mem_refs.1 href).elim (fun h => h) hguard

/-! ## What the script does -/

/-- The vehicles the loop deletes, where the store lets it. -/
def discarded (s : Store) : List Vehicle → List String → List Vehicle
  | [], _ => []
  | v :: rest, seen =>
    if seen.contains v.plateNormalized then
      if v.id ∈ references dedupeKeys s then discarded s rest seen else v :: discarded s rest seen
    else discarded s rest (v.plateNormalized :: seen)

/-- A store without some vehicles. -/
def Store.withoutVehicles (s : Store) (ids : List ℕ) : Store :=
  { s with vehicles := s.vehicles.filter fun v => !ids.contains v.id }

/-- How the loop ends: it deletes what it means to, or stops at the first vehicle that something
refers to. -/
structure EndsLoop (s : Store) (rows : List Vehicle) (w : Session Store)
    (r : Except (Exc AppError) DedupeReport) (w' : Session Store) : Prop where
  committed : w'.committed = w.committed
  deleted : (∀ v ∈ rows, v.id ∉ vehicleGuard.refs s) → (∃ report, r = .ok report) ∧
    w'.broken = false ∧ w'.view = w.view.withoutVehicles (rows.map Vehicle.id)
  rejected : ∀ v ∈ rows, v.id ∈ vehicleGuard.refs s → r = .error (.rejected .integrity)

theorem withoutVehicles_nil (s : Store) : s.withoutVehicles [] = s := by
  simp [Store.withoutVehicles]

theorem withoutVehicles_cons (s : Store) (id : ℕ) (ids : List ℕ) :
    (vehicleGuard.remove id s).withoutVehicles ids = s.withoutVehicles (id :: ids) := by
  unfold Store.withoutVehicles vehicleGuard
  dsimp only
  rw [List.filter_filter]
  congr 1
  refine List.filter_congr fun v _ => ?_
  rw [List.contains_cons, Bool.not_or, bne, Bool.and_comm]

theorem dedupeLoop_wp (rows : List Vehicle) (seen : List String) (report : DedupeReport)
    {w : Session Store} (hlive : w.broken = false)
    (hkeys : references dedupeKeys w.view = references dedupeKeys s)
    (hrefs : vehicleGuard.refs w.view = vehicleGuard.refs s) :
    (dedupeLoop rows seen report).wp clk (EndsLoop s (discarded s rows seen) w) w := by
  induction rows generalizing seen report w with
  | nil =>
    exact Prog.wp_ret ⟨rfl, fun _ => ⟨⟨report, rfl⟩, hlive, (withoutVehicles_nil _).symm⟩,
      fun _ hv => absurd hv List.not_mem_nil⟩
  | cons v rest ih =>
    unfold dedupeLoop discarded
    split
    · refine Prog.wp_bind (Prog.wp_of_exec (countReferences_reads v.id dedupeKeys clk w hlive) ?_)
      dsimp only [Prog.goesOn]
      have hcounted := countsAny_iff v.id dedupeKeys w.view
      rw [hkeys] at hcounted
      by_cases hused : v.id ∈ references dedupeKeys s
      · rw [if_pos hused, if_pos (hcounted.2 hused)]
        exact ih _ _ hlive hkeys hrefs
      · rw [if_neg hused, if_neg fun h => hused (hcounted.1 h)]
        refine Prog.wp_flush (fun h => absurd (h.symm.trans hlive) Bool.noConfusion)
          (fun _ r hr => ?_) fun _ hc => ?_
        · -- the store rejects the first one that something refers to
          simp only [deleteRow, hrefs, List.contains_iff_mem] at hr
          split at hr
          · rename_i href
            cases hr
            exact ⟨rfl, fun hall => absurd href (hall v List.mem_cons_self), fun _ _ _ => rfl⟩
          · cases hr
        · simp only [deleteRow, hrefs, List.contains_iff_mem] at hc
          split at hc
          · cases hc
          · rename_i href
            refine (ih seen _ (w := { w with view := vehicleGuard.remove v.id w.view }) hlive hkeys
              hrefs).mono fun r w' hend => ⟨hend.committed, fun hall => ?_, fun u hu hin => ?_⟩
            · have hrest := hend.deleted fun u hu => hall u (List.mem_cons_of_mem _ hu)
              rw [List.map_cons, ← withoutVehicles_cons]
              exact hrest
            · rcases List.mem_cons.1 hu with rfl | hu
              · exact absurd hin href
              · exact hend.rejected u hu hin
    · exact ih _ _ hlive hkeys hrefs

/-- The vehicle of a plate that is kept: the earliest one. -/
def Store.keptVehicle (s : Store) (plate : String) : Option Vehicle :=
  (orderBy Vehicle.createdAt s.vehicles).find? fun v => v.plateNormalized == plate

/-- A vehicle with a plate that an earlier one is kept for. -/
def Store.duplicate (s : Store) (v : Vehicle) : Prop := s.keptVehicle v.plateNormalized ≠ some v

instance (s : Store) (v : Vehicle) : Decidable (s.duplicate v) :=
  inferInstanceAs (Decidable (_ ≠ _))

theorem mem_discarded {rows : List Vehicle} {seen : List String} (hrows : rows.Nodup) {v : Vehicle} :
    v ∈ discarded s rows seen ↔ v ∈ rows ∧ v.id ∉ references dedupeKeys s ∧
      (v.plateNormalized ∈ seen ∨
        rows.find? (fun u => u.plateNormalized == v.plateNormalized) ≠ some v) := by
  induction rows generalizing seen with
  | nil => simp [discarded]
  | cons u rest ih =>
    rw [List.nodup_cons] at hrows
    have ih' (seen : List String) := @ih seen hrows.2
    unfold discarded
    by_cases hplate : u.plateNormalized = v.plateNormalized
    · -- the head takes the plate, so that a later vehicle of it is a duplicate
      have hfind : (u :: rest).find? (fun x => x.plateNormalized == v.plateNormalized) = some u :=
        List.find?_cons_of_pos (by simp [hplate])
      rw [hfind]
      rcases eq_or_ne v u with rfl | hne
      · by_cases hseen : v.plateNormalized ∈ seen
        · by_cases hused : v.id ∈ references dedupeKeys s
          · simp [hseen, hused, ih', hrows.1]
          · simp [hseen, hused]
        · simp [hseen, ih', hrows.1]
      · have hother : (some u : Option Vehicle) ≠ some v := fun h => hne (Option.some.inj h).symm
        by_cases hseen : v.plateNormalized ∈ seen
        · by_cases hused : u.id ∈ references dedupeKeys s
          · simp [hplate, hseen, hused, ih', hne, hother]
          · simp [hplate, hseen, hused, ih', hne, hother]
        · simp [hplate, hseen, ih', hne, hother]
    · have hfind : (u :: rest).find? (fun x => x.plateNormalized == v.plateNormalized) =
          rest.find? fun x => x.plateNormalized == v.plateNormalized :=
        List.find?_cons_of_neg (by simp [hplate])
      have hne : v ≠ u := fun h => hplate (by rw [h])
      have hplate' : v.plateNormalized ≠ u.plateNormalized := fun h => hplate h.symm
      rw [hfind]
      by_cases hseen : u.plateNormalized ∈ seen
      · by_cases hused : u.id ∈ references dedupeKeys s
        · simp [hseen, hused, ih', hne]
        · simp [hseen, hused, ih', hne]
      · simp [hseen, ih', hne, hplate']

/-- The vehicles of the table have identifiers of their own. -/
def VehicleKeys (s : Store) : Prop := (s.vehicles.map Vehicle.id).Nodup

theorem VehicleKeys.eq_of_id (h : VehicleKeys s) {u v : Vehicle} (hu : u ∈ s.vehicles)
    (hv : v ∈ s.vehicles) (hid : u.id = v.id) : u = v := List.inj_on_of_nodup_map h hu hv hid

/-- The rows the script means to delete. -/
def Store.dedupeRows (s : Store) : List Vehicle :=
  discarded s (orderBy Vehicle.createdAt s.vehicles) []

theorem mem_dedupeRows (hkeys : VehicleKeys s) {v : Vehicle} :
    v ∈ s.dedupeRows ↔ v ∈ s.vehicles ∧ s.duplicate v ∧ v.id ∉ references dedupeKeys s := by
  have hnodup : (orderBy Vehicle.createdAt s.vehicles).Nodup :=
    (perm_orderBy _ _).nodup_iff.2 (List.Nodup.of_map _ hkeys)
  rw [Store.dedupeRows, mem_discarded hnodup, mem_orderBy]
  simp only [List.not_mem_nil, false_or]
  exact and_congr_right fun _ => and_comm

/-- What the script asks: the foreign keys that the guard counts, and occupancies. -/
theorem mem_dedupeKeys : id ∈ references dedupeKeys s ↔
    id ∈ references vehicleGuard.counted s ∨
      id ∈ s.occupancies.filterMap ParkingOccupancy.vehicleId := by
  simp only [mem_references, dedupeKeys, vehicleGuard, List.exists_mem_cons_iff, List.not_mem_nil,
    false_and, exists_false, or_false]
  tauto

/-- How the script ends. -/
theorem dedupeVehicles_wp :
    (Deletion.duplicates.handler).wp clk (fun r w' =>
      ((∀ v ∈ s.dedupeRows, v.id ∉ vehicleGuard.refs s) →
        r = .ok () ∧ w'.committed = s.withoutVehicles (s.dedupeRows.map Vehicle.id)) ∧
      ∀ v ∈ s.dedupeRows, v.id ∈ vehicleGuard.refs s →
        r = .error (.rejected .integrity) ∧ w'.committed = s) (Session.fresh s n k) := by
  refine Prog.wp_bind (Prog.wp_select (fun h => absurd h Bool.false_ne_true) fun _ => ?_)
  refine Prog.wp_bind ((dedupeLoop_wp (s := s) _ [] {} rfl rfl rfl).mono fun r w' hend => ?_)
  by_cases hall : ∀ v ∈ s.dedupeRows, v.id ∉ vehicleGuard.refs s
  · obtain ⟨⟨report, rfl⟩, hlive, hview⟩ := hend.deleted hall
    refine Prog.wp_commit (fun h => absurd (h.symm.trans hlive) Bool.noConfusion) fun _ => ?_
    refine Prog.wp_ret (Prog.wp_ret ⟨fun _ => ⟨rfl, ?_⟩, fun v hv hin => absurd hin (hall v hv)⟩)
    exact hview
  · push Not at hall
    obtain ⟨v, hv, hin⟩ := hall
    have hr := hend.rejected v hv hin
    subst hr
    exact ⟨fun hnone => absurd hin (hnone v hv), fun _ _ _ => ⟨rfl, hend.committed⟩⟩

/-- A store without the duplicates that nothing refers to. -/
def Store.deduplicated (s : Store) : Store :=
  { s with
    vehicles := s.vehicles.filter fun v => !decide (s.duplicate v ∧ v.id ∉ vehicleGuard.refs s) }

/-- The script deletes what it should exactly where, among the duplicates without a counted
reference, occupancies mention those that the missed foreign keys lead to. -/
theorem dedupe_iff (hkeys : VehicleKeys s) {r : Except (Exc AppError) Unit} {w' : Session Store}
    (hexec : (Deletion.duplicates.handler).exec clk (.fresh s n k) = (r, w')) :
    (r = .ok () ∧ w'.committed = s.deduplicated) ↔
      ∀ v ∈ s.vehicles, s.duplicate v → v.id ∉ references vehicleGuard.counted s →
        (v.id ∈ s.occupancies.filterMap ParkingOccupancy.vehicleId ↔
          v.id ∈ references vehicleGuard.missed s) := by
  obtain ⟨hdeleted, hrejected⟩ := (dedupeVehicles_wp (s := s)).of_exec hexec
  -- a vehicle is among the deleted rows by its identifier
  have hids {v : Vehicle} (hv : v ∈ s.vehicles) :
      v.id ∈ s.dedupeRows.map Vehicle.id ↔ v ∈ s.dedupeRows := by
    refine ⟨fun h => ?_, List.mem_map_of_mem⟩
    obtain ⟨u, hu, hid⟩ := List.mem_map.1 h
    exact hkeys.eq_of_id ((mem_dedupeRows hkeys).1 hu).1 hv hid ▸ hu
  constructor
  · rintro ⟨hok, hs⟩ v hv hdup hcounted
    have hall : ∀ u ∈ s.dedupeRows, u.id ∉ vehicleGuard.refs s := fun u hu hin => by
      have hr := (hrejected u hu hin).1
      rw [hok] at hr
      cases hr
    -- `v` is deleted by the script exactly when it should be
    have hsame := (hdeleted hall).2.symm.trans hs
    have hrow := congrArg (fun s' : Store => v ∈ s'.vehicles) hsame
    simp only [Store.withoutVehicles, Store.deduplicated, List.mem_filter, hv, true_and, Bool.not_eq_true',
      decide_eq_false_iff_not, List.contains_eq_mem, hids hv, mem_dedupeRows hkeys, hdup,
      mem_dedupeKeys, mem_refs, hcounted, false_or, eq_iff_iff, not_iff_not] at hrow
    exact hrow
  · intro hguard
    -- where the guard is complete, the rows that are meant are the rows that should go
    have hrows {v : Vehicle} (hv : v ∈ s.vehicles) :
        v ∈ s.dedupeRows ↔ s.duplicate v ∧ v.id ∉ vehicleGuard.refs s := by
      rw [mem_dedupeRows hkeys, mem_dedupeKeys, mem_refs]
      refine ⟨fun ⟨_, hdup, hnot⟩ => ⟨hdup, fun h => hnot ?_⟩, fun ⟨hdup, hnot⟩ =>
        ⟨hv, hdup, fun h => hnot ?_⟩⟩
      · by_cases hcounted : v.id ∈ references vehicleGuard.counted s
        · exact Or.inl hcounted
        · exact Or.inr ((hguard v hv hdup hcounted).2 (h.resolve_left hcounted))
      · by_cases hcounted : v.id ∈ references vehicleGuard.counted s
        · exact Or.inl hcounted
        · exact Or.inr ((hguard v hv hdup hcounted).1 (h.resolve_left hcounted))
    obtain ⟨hok, hs⟩ := hdeleted fun v hv => ((hrows ((mem_dedupeRows hkeys).1 hv).1).1 hv).2
    refine ⟨hok, hs.trans ?_⟩
    unfold Store.withoutVehicles Store.deduplicated
    congr 1
    refine List.filter_congr fun v hv => ?_
    rw [List.contains_eq_mem, decide_eq_decide.2 ((hids hv).trans (hrows hv))]

/-! ## Nothing dangles -/

/-- What refers to the objects shrinks with the rows. -/
theorem refs_mono {s' : Store} (h : ∀ key ∈ g.counted ++ g.missed, key s' ⊆ key s) :
    g.refs s' ⊆ g.refs s := by
  intro id hid
  obtain ⟨key, hkey, hin⟩ := mem_references.1 hid
  exact mem_references.2 ⟨key, hkey, h key hkey hin⟩

/-- Whoever is referred to is not filtered out. -/
theorem subset_map_filter {α : Type} {key : α → ℕ} {rows : List α} {refs : List ℕ} {p : α → Bool}
    (hrefs : refs ⊆ rows.map key) (hp : ∀ a ∈ rows, p a = false → key a ∉ refs) :
    refs ⊆ (rows.filter p).map key := by
  intro id hid
  obtain ⟨a, ha, rfl⟩ := List.mem_map.1 (hrefs hid)
  refine List.mem_map_of_mem (List.mem_filter.2 ⟨ha, ?_⟩)
  by_contra hnot
  exact hp a ha (Bool.eq_false_iff.2 hnot) hid

theorem ForeignKeysHold.without_tower (h : ForeignKeysHold s) (hid : id ∉ towerGuard.refs s) :
    ForeignKeysHold (towerGuard.remove id s) where
  towers := subset_map_filter h.towers fun t _ ht => by
    rw [show t.id = id by simpa using ht]
    exact hid
  units := h.units
  persons := h.persons
  vehicles := h.vehicles

theorem ForeignKeysHold.without_unit (h : ForeignKeysHold s) (hid : id ∉ unitGuard.refs s) :
    ForeignKeysHold (unitGuard.remove id s) where
  towers := by
    refine List.Subset.trans (refs_mono ?_) h.towers
    simp only [towerGuard, List.cons_append, List.nil_append, List.forall_mem_cons]
    exact ⟨(List.filter_sublist.map _).subset, List.Subset.refl _, nofun⟩
  units := subset_map_filter h.units fun u _ hu => by
    rw [show u.id = id by simpa using hu]
    exact hid
  persons := h.persons
  vehicles := h.vehicles

theorem ForeignKeysHold.without_person (h : ForeignKeysHold s) (hid : id ∉ personGuard.refs s) :
    ForeignKeysHold (personGuard.remove id s) where
  towers := h.towers
  units := h.units
  persons := subset_map_filter h.persons fun p _ hp => by
    rw [show p.id = id by simpa using hp]
    exact hid
  vehicles := h.vehicles

theorem ForeignKeysHold.without_vehicles (h : ForeignKeysHold s) {ids : List ℕ}
    (hids : ∀ id ∈ ids, id ∉ vehicleGuard.refs s) : ForeignKeysHold (s.withoutVehicles ids) where
  towers := h.towers
  units := by
    refine List.Subset.trans (refs_mono ?_) h.units
    simp only [unitGuard, List.cons_append, List.nil_append, List.forall_mem_cons]
    exact ⟨List.Subset.refl _, (List.filter_sublist.filterMap _).subset, List.Subset.refl _,
      List.Subset.refl _, nofun⟩
  persons := by
    refine List.Subset.trans (refs_mono ?_) h.persons
    simp only [personGuard, List.append_nil, List.forall_mem_cons]
    exact ⟨List.Subset.refl _, (List.filter_sublist.filterMap _).subset, nofun⟩
  vehicles := subset_map_filter h.vehicles fun v _ hv => hids v.id (by simpa using hv)

/-! ## Every deletion -/

/-- What a deletion should do. -/
def Deletion.Exact (s : Store) (r : Except (Exc AppError) Unit) (s' : Store) : Deletion → Prop
  | tower towerId => DeletesUnreferenced towerGuard towerId s r s'
  | unit unitId => DeletesUnreferenced unitGuard unitId s r s'
  | person personId => DeletesUnreferenced personGuard personId s r s'
  | duplicates => r = .ok () ∧ s' = s.deduplicated

/-- **The condition.** Whatever a missed foreign key refers to has a counted reference as well; the
script, which also counts occupancies, asks them of its duplicates. -/
def Deletion.GuardCovers (s : Store) : Deletion → Prop
  | tower towerId => towerId ∈ references towerGuard.missed s →
      towerId ∈ references towerGuard.counted s
  | unit unitId => unitId ∈ references unitGuard.missed s → unitId ∈ references unitGuard.counted s
  | person _ => True
  | duplicates => ∀ v ∈ s.vehicles, s.duplicate v → v.id ∉ references vehicleGuard.counted s →
      (v.id ∈ s.occupancies.filterMap ParkingOccupancy.vehicleId ↔
        v.id ∈ references vehicleGuard.missed s)

/-- A guarded deletion leaves no reference behind. -/
theorem EndsGuarded.foreignKeys {r : Except (Exc AppError) Unit} {s' : Store}
    (h : EndsGuarded g id s r s') (hfk : ForeignKeysHold s)
    (hremove : id ∉ g.refs s → ForeignKeysHold (g.remove id s)) : ForeignKeysHold s' := by
  by_cases hids : id ∈ g.ids s
  · by_cases href : id ∈ g.refs s
    · by_cases hcounted : id ∈ references g.counted s
      · exact (h.counted hids hcounted).2 ▸ hfk
      · exact (h.rejected hids hcounted href).2 ▸ hfk
    · exact (h.deleted hids href).2 ▸ hremove href
  · exact (h.absent hids).2 ▸ hfk

/-- No deletion leaves a reference behind: what the guard lets through, the store rejects. -/
theorem Deletion.foreignKeys (d : Deletion) (hfk : ForeignKeysHold s) :
    ForeignKeysHold (d.handler.exec clk (.fresh s n k)).2.committed := by
  cases d with
  | tower towerId =>
    exact (guardedDelete_wp (s := s) towerGuard towerId).ends.foreignKeys hfk hfk.without_tower
  | unit unitId =>
    exact (guardedDelete_wp (s := s) unitGuard unitId).ends.foreignKeys hfk hfk.without_unit
  | person personId =>
    exact (guardedDelete_wp (s := s) personGuard personId).ends.foreignKeys hfk hfk.without_person
  | duplicates =>
    obtain ⟨hdeleted, hrejected⟩ := (@dedupeVehicles_wp clk s n k).ends
    by_cases hall : ∀ v ∈ s.dedupeRows, v.id ∉ vehicleGuard.refs s
    · rw [(hdeleted hall).2]
      refine hfk.without_vehicles fun id hid => ?_
      obtain ⟨v, hv, rfl⟩ := List.mem_map.1 hid
      exact hall v hv
    · push Not at hall
      obtain ⟨v, hv, href⟩ := hall
      rw [(hrejected v hv href).2]
      exact hfk

/-- **Guarded deletions.** A deletion leaves no reference behind, and does what it should exactly
where its guard covers the foreign keys. -/
theorem deletion_exact_iff (clk : ℕ → ℤ) (d : Deletion) (s : Store) (hfk : ForeignKeysHold s)
    (hkeys : VehicleKeys s) (n k : ℕ) :
    ForeignKeysHold (d.handler.exec clk (.fresh s n k)).2.committed ∧
      (d.Exact s (d.handler.exec clk (.fresh s n k)).1
          (d.handler.exec clk (.fresh s n k)).2.committed ↔ d.GuardCovers s) := by
  refine ⟨d.foreignKeys hfk, ?_⟩
  cases d with
  | tower towerId => exact (guardedDelete_wp (s := s) towerGuard towerId).ends.iff hfk.towers
  | unit unitId => exact (guardedDelete_wp (s := s) unitGuard unitId).ends.iff hfk.units
  | person personId =>
    refine ((guardedDelete_wp (s := s) personGuard personId).ends.iff hfk.persons).trans ?_
    exact iff_true_intro fun h => absurd h List.not_mem_nil
  | duplicates => exact dedupe_iff hkeys rfl

end

/-! ### A guest's permit -/

/-- A unit that hosts a guest. -/
def hostStore : Store :=
  { towers := [{ id := 1, name := "A" }], units := [{ id := 2, towerId := 1, unitNumber := "1" }]
    permits := [{ id := 3, plateNormalized := "12B34567", hostUnitId := some 2, createdAt := 0 }] }

/-- A unit of a tower where somebody lives. -/
def livedStore : Store :=
  { towers := [{ id := 1, name := "A" }], units := [{ id := 2, towerId := 1, unitNumber := "1" }]
    persons := [{ id := 4 }], unitOccupancies := [{ id := 5, unitId := 2, personId := 4 }] }

theorem deletion_exact_iff_lived :
    (Deletion.unit 2).Exact livedStore
      ((Deletion.unit 2).handler.exec (fun _ => 7) (.fresh livedStore 9 0)).1
      ((Deletion.unit 2).handler.exec (fun _ => 7) (.fresh livedStore 9 0)).2.committed := by
  have hfk : ForeignKeysHold livedStore := ⟨by decide, by decide, by decide, by decide⟩
  have hcovers : (Deletion.unit 2).GuardCovers livedStore := fun h => absurd h (by decide)
  exact (deletion_exact_iff (fun _ => 7) (.unit 2) livedStore hfk List.nodup_nil 9 0).2.2 hcovers

/-- The unit of a host passes the guard, and the request ends with an error of the store. -/
theorem host_unit_rejected :
    ¬ ∀ (clk : ℕ → ℤ) (d : Deletion) (s : Store), ForeignKeysHold s → VehicleKeys s → ∀ n k,
      d.Exact s (d.handler.exec clk (.fresh s n k)).1
        (d.handler.exec clk (.fresh s n k)).2.committed := by
  intro h
  have hfk : ForeignKeysHold hostStore := ⟨by decide, by decide, by decide, by decide⟩
  have hexact : DeletesUnreferenced unitGuard 2 hostStore _ _ :=
    h (fun _ => 7) (.unit 2) hostStore hfk List.nodup_nil 9 0
  have hanswer := (hexact.kept (by decide) (by decide)).1
  cases hanswer

end ParkingSystem
