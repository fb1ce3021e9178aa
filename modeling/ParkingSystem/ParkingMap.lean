import ParkingSystem.Library.PyDict
import ParkingSystem.Vehicles

/-!
# The Map of the Spaces

`GET /parking/map`: the active spaces under their towers, floor by floor, and those of no tower in
a section of their own.

The section is kept under the number -1 and looked for under the text "-1".
-/

namespace ParkingSystem

open PyText Table Transaction PyDict

/-! ## The answer -/

/-- What the map shows of a space. -/
structure SpaceDto where
  id : ℕ
  code : String
  floor : ℤ
  zone : Option String
  parkingType : String
  status : String
  plate : Option String
  occupiedAt : Option ℤ
  deriving DecidableEq, Repr

/-- A tower while the map is built; its floors are a dictionary. -/
structure MapEntry where
  towerId : Option ℕ
  code : String
  name : String
  floors : List (ℤ × List SpaceDto) := []

structure MapFloor where
  floor : ℤ
  spaces : List SpaceDto
  deriving DecidableEq, Repr

/-- A tower in the answer. -/
structure MapSection where
  towerId : Option ℕ
  code : String
  name : String
  floors : List MapFloor
  total : ℕ
  occupied : ℕ
  deriving DecidableEq, Repr

structure ParkingMap where
  towers : List MapSection
  buried : Option MapSection
  deriving DecidableEq, Repr

/-! ## The handler -/

/-- `occ_by_space`: the occupancy of a space that comes first. -/
def occBySpace (occs : List ParkingOccupancy) : List (ℕ × ParkingOccupancy) :=
  occs.foldl (fun d o => match o.parkingSpaceId with
    | some id => alter id (fun old => old.getD o) d
    | none => d) []

/-- `vehicle_ids`. -/
def presentVehicles (occs : List ParkingOccupancy) : List ℕ :=
  ((occBySpace occs).filterMap fun entry => entry.2.vehicleId).dedup

/-- `space_dto`. -/
def spaceDto (occs : List ParkingOccupancy) (vehicles : List Vehicle) (s : ParkingSpace) :
    SpaceDto :=
  let occ := (occBySpace occs).lookup s.id
  let vehicle := (occ.bind ParkingOccupancy.vehicleId).bind fun id =>
    vehicles.find? fun v => v.id == id
  { id := s.id, code := s.code, floor := s.floor, zone := s.zone, parkingType := s.parkingType
    status := s.status, plate := vehicle.map Vehicle.plateNormalized
    occupiedAt := occ.map ParkingOccupancy.occupiedAt }

/-- A key of the dictionary of the spaces under ground. -/
inductive BuriedKey where
  | int (n : ℤ)
  | str (s : String)
  deriving DecidableEq

/-- `tower_out` and `buried`. -/
structure MapState where
  towerOut : List (ℕ × MapEntry) := []
  buried : List (BuriedKey × MapEntry) := []

/-- `tower_by_id[s.tower_id]`, where there is one. -/
def towerOf (towers : List Tower) (s : ParkingSpace) : Option Tower :=
  s.towerId.bind fun id => towers.reverse.find? fun t => t.id == id

/-- `entry["floors"].setdefault(s.floor, []).append(dto)`. -/
def MapEntry.add (dto : SpaceDto) (e : MapEntry) : MapEntry :=
  { e with floors := alter dto.floor (fun spaces => spaces.getD [] ++ [dto]) e.floors }

def Tower.entry (t : Tower) : MapEntry := { towerId := some t.id, code := t.code, name := t.name }

def buriedEntry : MapEntry := { towerId := none, code := "BURIED", name := "پارکینگ دفنی" }

/-- One space of the loop. -/
def placeSpace (towers : List Tower) (dto : ParkingSpace → SpaceDto) (m : MapState)
    (s : ParkingSpace) : MapState :=
  match towerOf towers s with
  | some t => { m with towerOut := alter t.id (fun e => (e.getD t.entry).add (dto s)) m.towerOut }
  | none =>
    { m with buried := alter (.int (-1)) (fun e => (e.getD buriedEntry).add (dto s)) m.buried }

/-- `sorted(spaces, key=lambda x: x["code"])`. -/
def sortByCode (spaces : List SpaceDto) : List SpaceDto :=
  spaces.insertionSort fun a b => le a.code.toList b.code.toList

/-- `finalize`. -/
def MapEntry.finalize (e : MapEntry) : MapSection :=
  let floors := (orderByDesc Prod.fst e.floors).map fun f =>
    { floor := f.1, spaces := sortByCode f.2 : MapFloor }
  { towerId := e.towerId, code := e.code, name := e.name, floors
    total := (floors.map fun f => f.spaces.length).sum
    occupied := (floors.map fun f => f.spaces.countP fun s => s.status == "OCCUPIED").sum }

/-- The answer, from the rows that were read. -/
def parkingMapOf (spaces : List ParkingSpace) (occs : List ParkingOccupancy)
    (vehicles : List Vehicle) (towers : List Tower) : ParkingMap :=
  let m := spaces.foldl (placeSpace towers (spaceDto occs vehicles)) {}
  { towers := m.towerOut.map fun entry => entry.2.finalize
    buried := (m.buried.lookup (.str "-1")).map MapEntry.finalize }

/-- The active spaces. -/
def activeSpaces (s : Store) : List ParkingSpace := s.spaces.filter ParkingSpace.isActive

/-- The occupancies that are not over, the latest first. -/
def presentOccupancies (s : Store) : List ParkingOccupancy :=
  orderByDesc ParkingOccupancy.occupiedAt (s.occupancies.filter fun o => o.status == .occupied)

/-- The vehicles of a list of identifiers. -/
def getVehicles : List ℕ → Handler (List Vehicle)
  | [] => return []
  | id :: ids => do
    let v ← .select (vehicleById id)
    let vs ← getVehicles ids
    return v.toList ++ vs

/-- `parking_map`. -/
def parkingMap : Handler ParkingMap := do
  let spaces ← .select activeSpaces
  let occs ← .select presentOccupancies
  let vehicles ← getVehicles (presentVehicles occs)
  let towers ← .select Store.towers
  return parkingMapOf spaces occs vehicles towers

/-- The answer on a store. -/
def parkingMapOn (s : Store) : ParkingMap :=
  parkingMapOf (activeSpaces s) (presentOccupancies s)
    ((presentVehicles (presentOccupancies s)).filterMap fun id => vehicleById id s) s.towers

theorem reads_getVehicles (ids : List ℕ) :
    (getVehicles ids).Reads fun s => ids.filterMap fun id => vehicleById id s := by
  induction ids with
  | nil => exact Prog.reads_ret _
  | cons id ids ih =>
    have hreads := (Prog.reads_select (vehicleById id)).bind fun v => ih.bind fun vs =>
      Prog.reads_ret (v.toList ++ vs)
    have hsame : (fun s => (vehicleById id s).toList ++ ids.filterMap fun id => vehicleById id s) =
        fun s => (id :: ids).filterMap fun id => vehicleById id s := by
      funext s
      rw [List.filterMap_cons]
      cases vehicleById id s <;> rfl
    rw [← hsame]
    exact hreads

/-- The handler answers what is on its store. -/
theorem reads_parkingMap : parkingMap.Reads parkingMapOn :=
  (Prog.reads_select _).bind fun spaces => (Prog.reads_select _).bind fun occs =>
    (reads_getVehicles (presentVehicles occs)).bind fun vehicles =>
      (Prog.reads_select _).bind fun towers =>
        Prog.reads_ret (parkingMapOf spaces occs vehicles towers)

/-! ## What a map should show -/

/-- The spaces of an entry. -/
def MapEntry.dtos (e : MapEntry) : List SpaceDto := e.floors.flatMap Prod.snd

/-- The spaces of a section of the answer. -/
def MapSection.dtos (sec : MapSection) : List SpaceDto := sec.floors.flatMap MapFloor.spaces

/-- The sections of an answer. -/
def ParkingMap.sections (m : ParkingMap) : List MapSection := m.towers ++ m.buried.toList

/-- A space has a tower that is known. -/
def HasTower (towers : List Tower) (s : ParkingSpace) : Prop :=
  ∃ t ∈ towers, s.towerId = some t.id

instance (towers : List Tower) (s : ParkingSpace) : Decidable (HasTower towers s) :=
  inferInstanceAs (Decidable (∃ t ∈ towers, s.towerId = some t.id))

/-- The map of the spaces, as `dto` shows them: each is there once, under its tower or in the
section of those that have none, and the numbers of a section are those of its spaces. -/
structure MapLaw (spaces : List ParkingSpace) (towers : List Tower)
    (dto : ParkingSpace → SpaceDto) (m : ParkingMap) : Prop where
  complete : (m.sections.flatMap MapSection.dtos).Perm (spaces.map dto)
  underTower : ∀ sec ∈ m.towers, ∃ t ∈ towers, sec.towerId = some t.id ∧
    sec.dtos.Perm ((spaces.filter fun s => s.towerId = some t.id).map dto)
  underGround : (m.buried.toList.flatMap MapSection.dtos).Perm
    ((spaces.filter fun s => ¬ HasTower towers s).map dto)
  counted : ∀ sec ∈ m.sections, sec.total = sec.dtos.length ∧
    sec.occupied = sec.dtos.countP fun s => s.status == "OCCUPIED"

/-! ## Entries -/

theorem MapEntry.perm_add (dto : SpaceDto) (e : MapEntry) :
    (e.add dto).dtos.Perm (e.dtos ++ [dto]) := by
  have hnew (dto : SpaceDto) : (id ((none : Option (List SpaceDto)).getD [] ++ [dto])).Perm
      [id dto] := .refl _
  exact perm_groupInto SpaceDto.floor (fun dto spaces => spaces.getD [] ++ [dto]) hnew
    (fun _ _ => .refl _) e.floors [dto]

/-- Sorting the floors and the spaces loses nothing. -/
theorem MapEntry.perm_finalize (e : MapEntry) : e.finalize.dtos.Perm e.dtos := by
  have hfloors : e.finalize.dtos =
      (orderByDesc Prod.fst e.floors).flatMap fun f => sortByCode f.2 := by
    simp [MapSection.dtos, MapEntry.finalize, List.flatMap_map]
  rw [hfloors]
  refine (List.Perm.flatMap_left _ fun f _ => ?_).trans
    ((perm_orderByDesc Prod.fst e.floors).flatMap_right Prod.snd)
  exact List.perm_insertionSort _ f.2

theorem MapEntry.counted_finalize (e : MapEntry) :
    e.finalize.total = e.finalize.dtos.length ∧
      e.finalize.occupied = e.finalize.dtos.countP fun s => s.status == "OCCUPIED" :=
  ⟨(List.length_flatMap ..).symm, (List.countP_flatMap ..).symm⟩

/-! ## The loop -/

/-- The spaces with their towers. -/
def placed (towers : List Tower) (spaces : List ParkingSpace) : List (ParkingSpace × Tower) :=
  spaces.filterMap fun s => (towerOf towers s).map fun t => (s, t)

section

variable {towers : List Tower} {dto : ParkingSpace → SpaceDto} {spaces : List ParkingSpace}

theorem towerOf_eq_some {s : ParkingSpace} {t : Tower} (h : towerOf towers s = some t) :
    t ∈ towers ∧ s.towerId = some t.id := by
  obtain ⟨id, hid, hfind⟩ := Option.bind_eq_some_iff.1 h
  have heq : t.id = id := by simpa using List.find?_some hfind
  exact ⟨List.mem_reverse.1 (List.mem_of_find?_eq_some hfind), by rw [hid, heq]⟩

theorem towerOf_eq_none {s : ParkingSpace} : towerOf towers s = none ↔ ¬ HasTower towers s := by
  constructor
  · rintro hnone ⟨t, ht, hid⟩
    rw [towerOf, hid, Option.bind_some, List.find?_eq_none] at hnone
    exact hnone t (List.mem_reverse.2 ht) (by simp)
  · intro hno
    cases htower : towerOf towers s with
    | none => rfl
    | some t => exact absurd ⟨t, towerOf_eq_some htower⟩ hno

/-- **The loop** groups the spaces that have a tower by it, and puts the others under one key. -/
theorem foldl_placeSpace (m : MapState) :
    spaces.foldl (placeSpace towers dto) m =
      { towerOut := groupInto (fun r => r.2.id) (fun r e => (e.getD r.2.entry).add (dto r.1))
          m.towerOut (placed towers spaces)
        buried := groupInto (fun _ => .int (-1)) (fun s e => (e.getD buriedEntry).add (dto s))
          m.buried (spaces.filter fun s => (towerOf towers s).isNone) } := by
  induction spaces generalizing m with
  | nil => rfl
  | cons s spaces ih =>
    rw [List.foldl_cons, ih]
    cases htower : towerOf towers s with
    | some t => simp [placeSpace, htower, groupInto, placed]
    | none => simp [placeSpace, htower, groupInto, placed]

/-- The spaces of a tower are those that name it. -/
theorem placed_filter {t : Tower} (ht : t ∈ towers) :
    ((placed towers spaces).filter fun r => r.2.id = t.id).map Prod.fst =
      spaces.filter fun s => s.towerId = some t.id := by
  induction spaces with
  | nil => rfl
  | cons s spaces ih =>
    rw [placed] at ih ⊢
    cases htower : towerOf towers s with
    | some t' =>
      have hid := (towerOf_eq_some htower).2
      by_cases hsame : t'.id = t.id
      · simp [htower, hid, hsame, ih]
      · simp [htower, hid, hsame, ih]
    | none =>
      have hother : s.towerId ≠ some t.id := fun hid => towerOf_eq_none.1 htower ⟨t, ht, hid⟩
      simp [htower, hother, ih]

/-- Nothing is kept under the text. -/
theorem parkingMapOf_buried (spaces : List ParkingSpace) (occs : List ParkingOccupancy)
    (vehicles : List Vehicle) (towers : List Tower) :
    (parkingMapOf spaces occs vehicles towers).buried = none := by
  have hother : (BuriedKey.int (-1) = .str "-1") ↔ False := by simp
  simp [parkingMapOf, foldl_placeSpace, lookup_groupInto, hother]

/-- The towers of the answer are those of the spaces that have one. -/
theorem parkingMapOf_towers (spaces : List ParkingSpace) (occs : List ParkingOccupancy)
    (vehicles : List Vehicle) (towers : List Tower) :
    (parkingMapOf spaces occs vehicles towers).towers =
      (groupInto (fun r => r.2.id)
        (fun r e => (e.getD r.2.entry).add (spaceDto occs vehicles r.1)) []
        (placed towers spaces)).map fun entry => entry.2.finalize := by
  rw [parkingMapOf, foldl_placeSpace]

/-- **A section under a tower** shows the spaces that name it. -/
theorem towerSection_dtos {entry : ℕ × MapEntry} (h : entry ∈ groupInto (fun r => r.2.id)
    (fun r e => (e.getD r.2.entry).add (dto r.1)) [] (placed towers spaces)) :
    ∃ t ∈ towers, entry.2.towerId = some t.id ∧
      entry.2.dtos.Perm ((spaces.filter fun s => s.towerId = some t.id).map dto) := by
  obtain ⟨k, e⟩ := entry
  have hkeys : (([] : List (ℕ × MapEntry)).map Prod.fst).Nodup := List.nodup_nil
  rw [mem_iff_lookup (nodup_groupInto _ hkeys)] at h
  have hentry := entry_induction
    (P := fun rows e => (∃ t ∈ towers, t.id = k) ∧ e.towerId = some k ∧
      e.dtos.Perm (rows.map fun r => dto r.1)) ?_ ?_ h
  · obtain ⟨⟨t, ht, rfl⟩, htower, hperm⟩ := hentry
    refine ⟨t, ht, htower, ?_⟩
    rw [← placed_filter ht, List.map_map]
    exact hperm
  · rintro ⟨s, t⟩ hrow rfl
    obtain ⟨s', hs', htower⟩ := List.mem_filterMap.1 hrow
    obtain ⟨t', ht', heq⟩ := Option.map_eq_some_iff.1 htower
    obtain ⟨rfl, rfl⟩ := Prod.mk.inj heq
    exact ⟨⟨t', (towerOf_eq_some ht').1, rfl⟩, rfl, MapEntry.perm_add _ _⟩
  · rintro before ⟨s, t⟩ v - - ⟨hknown, htower, hperm⟩
    refine ⟨hknown, htower, (MapEntry.perm_add _ _).trans ?_⟩
    rw [List.map_append]
    exact hperm.append_right _

/-- **What the map lists** are the spaces that have a tower. -/
theorem parkingMapOf_listed (spaces : List ParkingSpace) (occs : List ParkingOccupancy)
    (vehicles : List Vehicle) (towers : List Tower) :
    ((parkingMapOf spaces occs vehicles towers).sections.flatMap MapSection.dtos).Perm
      ((placed towers spaces).map fun r => spaceDto occs vehicles r.1) := by
  rw [ParkingMap.sections, parkingMapOf_buried, Option.toList_none, List.append_nil,
    parkingMapOf_towers, List.flatMap_map]
  refine (List.Perm.flatMap_left _ fun entry _ => entry.2.perm_finalize).trans ?_
  exact perm_groupInto (fun r : ParkingSpace × Tower => r.2.id)
    (fun r e => (e.getD r.2.entry).add (spaceDto occs vehicles r.1))
    (fun r => MapEntry.perm_add (spaceDto occs vehicles r.1) r.2.entry)
    (fun r e => MapEntry.perm_add (spaceDto occs vehicles r.1) e) [] (placed towers spaces)

end

/-- **The map of the spaces** is right exactly where every active space has a tower that is known. -/
theorem mapLaw_iff (spaces : List ParkingSpace) (occs : List ParkingOccupancy)
    (vehicles : List Vehicle) (towers : List Tower) :
    MapLaw spaces towers (spaceDto occs vehicles) (parkingMapOf spaces occs vehicles towers) ↔
      ∀ s ∈ spaces, HasTower towers s := by
  have hlisted := parkingMapOf_listed spaces occs vehicles towers
  constructor
  · intro hlaw s hs
    -- a space that is not listed would be missing in the count
    have hlength := (hlisted.symm.trans hlaw.complete).length_eq
    rw [List.length_map, List.length_map, placed, List.length_filterMap_eq_countP,
      List.countP_eq_length] at hlength
    have hsome := hlength s hs
    by_contra hno
    rw [← towerOf_eq_none] at hno
    simp [hno] at hsome
  · intro hall
    have hplaced : (placed towers spaces).map Prod.fst = spaces := by
      rw [placed, List.map_filterMap]
      refine (List.filterMap_congr fun s hs => ?_).trans List.filterMap_some
      have htower : towerOf towers s ≠ none := fun hnone => towerOf_eq_none.1 hnone (hall s hs)
      obtain ⟨t, ht⟩ := Option.ne_none_iff_exists'.1 htower
      simp [ht]
    refine ⟨?_, fun sec hsec => ?_, ?_, fun sec hsec => ?_⟩
    · have hdtos := congrArg (List.map (spaceDto occs vehicles)) hplaced
      rw [List.map_map] at hdtos
      rw [← hdtos]
      exact hlisted
    · rw [parkingMapOf_towers] at hsec
      obtain ⟨entry, hentry, rfl⟩ := List.mem_map.1 hsec
      obtain ⟨t, ht, htower, hperm⟩ := towerSection_dtos hentry
      exact ⟨t, ht, htower, entry.2.perm_finalize.trans hperm⟩
    · have hnone : (spaces.filter fun s => ¬ HasTower towers s) = [] := by
        rw [List.filter_eq_nil_iff]
        exact fun s hs => by simpa using hall s hs
      rw [parkingMapOf_buried, hnone]
      rfl
    · rw [ParkingMap.sections, parkingMapOf_buried, Option.toList_none, List.append_nil,
        parkingMapOf_towers] at hsec
      obtain ⟨entry, -, rfl⟩ := List.mem_map.1 hsec
      exact entry.2.counted_finalize

/-- **A space under ground is on no map** -/
theorem buried_space_lost :
    ¬ ∀ (spaces : List ParkingSpace) (occs : List ParkingOccupancy) (vehicles : List Vehicle)
      (towers : List Tower), MapLaw spaces towers (spaceDto occs vehicles)
        (parkingMapOf spaces occs vehicles towers) := by
  intro h
  have hlength := (h [{ id := 1, code := "B-01", zone := some "B" }] [] [] []).complete.length_eq
  exact absurd hlength (by decide)

end ParkingSystem
