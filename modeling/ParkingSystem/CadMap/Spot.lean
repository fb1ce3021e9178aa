import ParkingSystem.Camera.ConfigStore

/-!
# Spots of the Map

The spots that are drawn from a DXF file: a row for each code, and what an item of an import gives
for the columns of its row. A value that an item does not give is `null`, as is an empty cell.

What the columns accept is up to the database and its driver. `Storage` has it as a parameter: a
table is rows that fit, with distinct codes and identifiers, and a commit is refused as a whole.
-/

namespace ParkingSystem.CadMap

open PyText PyValue

/-! ## Values -/

/-- Whether a value is not `None`. -/
def given : Json → Bool
  | .null => false
  | _ => true

theorem not_given {j : Json} (h : given j = false) : j = .null := by
  cases j with
  | null => rfl
  | _ => cases h

/-- `a or b`. -/
def pyOr (a b : Json) : Json := if a.truthy then a else b

/-- `spot.get(name)`. -/
def field (spot : Dict) (name : String) : Json := (Dict.get spot name).getD .null

/-- `len(value)`; `none` is a TypeError. -/
def pyLen : Json → Option ℕ
  | .str s => some s.length
  | .arr items => some items.length
  | .obj fields => some (fields.map Prod.fst).dedup.length
  | _ => none

/-- `sum(p[axis] for p in poly)`; `none` is an exception. -/
def sumAxis (axis : String) : List Json → Option ℚ
  | [] => some 0
  | .obj p :: rest => do
    let value ← (Dict.get p axis).bind Json.number?
    let sum ← sumAxis axis rest
    return value + sum
  | _ :: _ => none

/-! ## Columns -/

/-- The columns that an import writes, other than the code. -/
inductive Column where
  | displayName
  | sourceDrawing
  | sourceLayer
  | sourceEntityHandle
  | polygonJson
  | centerX
  | centerY
  | area
  | rotation
  | status
  | parkingType
  | confidence
  | notes
  deriving DecidableEq, Repr

namespace Column

def all : List Column :=
  [displayName, sourceDrawing, sourceLayer, sourceEntityHandle, polygonJson, centerX, centerY, area,
    rotation, status, parkingType, confidence, notes]

theorem mem_all (c : Column) : c ∈ all := by cases c <;> decide

end Column

abbrev Values := Column → Json

/-- `CadParkingSpot`. -/
structure Spot where
  id : ℕ
  code : List Char
  cells : Values

/-! ## What an item gives -/

/-- `VALID_STATUS`. -/
def VALID_STATUS : List String :=
  ["free", "occupied", "reserved", "disabled", "maintenance", "context"]

/-- `str(spot.get("parking_id") or spot.get("parking_code") or "").strip()`. -/
def spotCode (cfg : Config) (spot : Dict) : List Char :=
  strip (jsonText cfg (pyOr (pyOr (field spot "parking_id") (field spot "parking_code"))
    (.str ""))).toList

/-- The polygon of an item. -/
def polygon (spot : Dict) : Json := pyOr (field spot "polygon") (.arr [])

/-- The centre of an item: the one it has, or the mean of its polygon; `none` is an exception. -/
def spotCenter (spot : Dict) : Option (Json × Json) :=
  match pyOr (field spot "center") (.obj []) with
  | .obj center =>
    let cx := field center "x"
    let cy := field center "y"
    if given cx && given cy then some (cx, cy)
    else match pyLen (polygon spot) with
      | none => none
      | some n =>
        if n < 3 then some (cx, cy)
        else match polygon spot with
          | .arr points =>
            match sumAxis "x" points, sumAxis "y" points with
            | some sx, some sy => some (.float (sx / n), .float (sy / n))
            | _, _ => some (.null, .null)
          | _ => some (.null, .null)
  -- only an object has `get`
  | _ => none

/-- `values`; a status that is not valid is not handed over. -/
def spotValues (cfg : Config) (spot : Dict) (code : List Char) (handle : Json)
    (center : Json × Json) : Values
  | .displayName => pyOr (field spot "display_name") (.str ("پارکینگ " ++ String.ofList code))
  | .sourceDrawing => field spot "source_drawing"
  | .sourceLayer => field spot "source_layer"
  | .sourceEntityHandle => handle
  | .polygonJson => polygon spot
  | .centerX => center.1
  | .centerY => center.2
  | .area => pyOr (field spot "area_dxf_unit2") (field spot "area")
  | .rotation => pyOr (field spot "rotation_degree") (.int 0)
  | .status => match field spot "status" with
    | .str s => if VALID_STATUS.contains s then .str s else .null
    | _ => .null
  | .parkingType => field spot "parking_type"
  | .confidence => field spot "confidence"
  | .notes => .str (String.ofList
      ((jsonText cfg (pyOr (field spot "notes") (.str ""))).toList.take 250))

/-- A new row; a spot is free when no status is given. -/
def newSpot (id : ℕ) (code : List Char) (values : Values) : Spot where
  id := id
  code := code
  cells := fun c => if c = .status ∧ given (values c) = false then .str "free" else values c

/-- `setattr` for each value that is not `None`. -/
def Spot.assign (row : Spot) (values : Values) : Spot :=
  { row with cells := fun c => if given (values c) then values c else row.cells c }

/-- Of two values that are given, the later one stays. -/
theorem Spot.assign_assign (row : Spot) (v w : Values) :
    (row.assign v).assign w = row.assign fun c => if given (w c) then w c else v c := by
  unfold Spot.assign
  congr 1
  funext c
  dsimp only
  by_cases hw : given (w c) = true
  · simp only [if_pos hw]
  · simp only [if_neg hw]

/-! ## The table -/

/-- What the columns accept. -/
structure Storage where
  code : List Char → Bool
  cell : Column → Json → Bool
  free : cell .status (.str "free") = true

variable (storage : Storage)

/-- Whether a row can be stored; any cell may be empty. -/
def Storage.fits (row : Spot) : Bool :=
  storage.code row.code && Column.all.all fun c => !given (row.cells c) || storage.cell c (row.cells c)

/-- The table of spots: rows that fit, with distinct codes and identifiers. -/
structure SpotTable where
  rows : List Spot
  codes : (rows.map Spot.code).Nodup
  ids : (rows.map Spot.id).Nodup
  fits : ∀ row ∈ rows, storage.fits row = true

/-- A commit stores all rows, or none. -/
def commit (rows : List Spot) : Option (SpotTable storage) :=
  if h : (rows.map Spot.code).Nodup ∧ (rows.map Spot.id).Nodup ∧ rows.all storage.fits = true then
    some ⟨rows, h.1, h.2.1, List.all_eq_true.1 h.2.2⟩
  else none

/-- An identifier that no row has. -/
def freshId (rows : List Spot) : ℕ := (rows.map Spot.id).foldr max 0 + 1

variable {storage}

theorem fits_iff {row : Spot} : storage.fits row = true ↔ storage.code row.code = true ∧
    ∀ c, given (row.cells c) = true → storage.cell c (row.cells c) = true := by
  rw [Storage.fits, Bool.and_eq_true, List.all_eq_true]
  refine and_congr_right fun _ => ?_
  constructor
  · intro h c hc
    simpa [hc] using h c (Column.mem_all c)
  · intro h c _
    rw [Bool.or_eq_true, Bool.not_eq_true']
    cases hc : given (row.cells c) with
    | false => exact Or.inl rfl
    | true => exact Or.inr (h c hc)

theorem commit_eq_some {rows : List Spot} (hcodes : (rows.map Spot.code).Nodup)
    (hids : (rows.map Spot.id).Nodup) (hfits : ∀ row ∈ rows, storage.fits row = true) :
    commit storage rows = some ⟨rows, hcodes, hids, hfits⟩ :=
  dif_pos ⟨hcodes, hids, List.all_eq_true.2 hfits⟩

theorem commit_spec {rows : List Spot} {table : SpotTable storage}
    (h : commit storage rows = some table) : table.rows = rows := by
  unfold commit at h
  split at h
  · rw [← Option.some.inj h]
  · cases h

theorem id_lt_freshId {rows : List Spot} {row : Spot} (h : row ∈ rows) : row.id < freshId rows := by
  unfold freshId
  induction rows with
  | nil => cases h
  | cons first rows ih =>
    rw [List.map_cons, List.foldr_cons]
    rcases List.mem_cons.1 h with rfl | h
    · omega
    · have hrest := ih h
      omega

end ParkingSystem.CadMap
