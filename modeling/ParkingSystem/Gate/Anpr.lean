import ParkingSystem.Library.JsonSearch
import ParkingSystem.Library.PyLines

/-!
# Plates from Cameras

A camera that reads plates itself posts its event to the gate, in a form of its maker's:
`_dig_plate` looks for the plate in the parsed body, whatever is nested around it.

- `digPlate` is the function, with its early returns;
- `digPlate_eq_find` says that it is a search from the outside in for an object with a plate.
-/

namespace ParkingSystem

open PyText PyValue

/-- `_ANPR_PLATE_KEYS`. -/
def ANPR_PLATE_KEYS : List String :=
  ["plate", "platenumber", "plate_number", "plateno", "plate_no", "platestring", "licenseplate",
    "license_plate", "lpnumber", "carnumber", "platenos", "carnumber", "licencenumber",
    "licensenumber"]

/-- `str(k).lower() in keys`. No key has a letter that is the lower case of one outside ASCII. -/
def isPlateKey (k : String) : Bool :=
  ANPR_PLATE_KEYS.contains (String.ofList (k.toList.map Char.toLower))

/-- `str(v)` of a value with `isinstance(v, (str, int))`: a boolean is an `int`, a number with a
fraction is not. -/
def plateStr : Json → Option String
  | .str s => some s
  | .int n => some (toString n)
  | .bool b => some (if b then "True" else "False")
  | _ => none

/-- `str(v).strip()`. -/
def strippedText (s : String) : String := String.ofList (strip s.toList)

/-- The first loop of `_dig_plate`: the members of the object itself. -/
def ownPlate (fields : Dict) : Option String :=
  match fields with
  | [] => none
  | (k, v) :: rest =>
    match plateStr v with
    | some s =>
      if isPlateKey k && strippedText s != "" then some (strippedText s) else ownPlate rest
    | none => ownPlate rest

mutual

/-- `_dig_plate`. -/
def digPlate : Json → Option String
  | .obj fields =>
    match ownPlate fields with
    | some plate => some plate
    | none => digFields fields
  | .arr items => digItems items
  | _ => none

/-- Its loop over a list: `if r: return r` takes an empty text for none. -/
def digItems : List Json → Option String
  | [] => none
  | v :: rest =>
    match digPlate v with
    | some r => if r != "" then some r else digItems rest
    | none => digItems rest

/-- Its loop over the values of an object. -/
def digFields : List (String × Json) → Option String
  | [] => none
  | (_, v) :: rest =>
    match digPlate v with
    | some r => if r != "" then some r else digFields rest
    | none => digFields rest

end

/-! ## The members of one object -/

/-- What a camera's plate can be: an integer, a boolean, or a text that is not blank. -/
def hasPlateText : Json → Bool
  | .str s => s.toList.any fun c => !isSpace c
  | .int _ => true
  | .bool _ => true
  | _ => false

theorem strippedText_ne_empty {s : String} :
    (strippedText s != "") = s.toList.any fun c => !isSpace c := by
  rw [Bool.eq_iff_iff, bne_iff_ne, List.any_eq_true, strippedText, Ne, ← String.toList_inj,
    String.toList_ofList, String.toList_empty, strip_eq_nil]
  simp

/-- The digits of a number are not blank. -/
theorem toString_not_blank (n : ℤ) : ((toString n).toList.any fun c => !isSpace c) = true := by
  have hdigits (m : ℕ) : ∃ c ∈ m.repr.toList, isSpace c = false := by
    obtain ⟨c, hc⟩ := List.exists_mem_of_ne_nil _ (Nat.toDigits_ne_nil (n := m) (b := 10))
    rw [Nat.toList_repr]
    exact ⟨c, hc, isSpace_of_isDigit (Nat.isDigit_of_mem_toDigits (by omega) le_rfl hc)⟩
  rw [List.any_eq_true]
  cases n with
  | ofNat m =>
    obtain ⟨c, hc, hspace⟩ := hdigits m
    exact ⟨c, hc, by rw [hspace]; rfl⟩
  | negSucc m =>
    obtain ⟨c, hc, hspace⟩ := hdigits m.succ
    exact ⟨c, by simpa [toString, Int.repr] using Or.inr hc, by rw [hspace]; rfl⟩

/-- A value has a plate where its text, trimmed, is not empty. -/
theorem hasPlateText_iff {v : Json} :
    hasPlateText v = true ↔ ∃ s, plateStr v = some s ∧ (strippedText s != "") = true := by
  cases v with
  | str s => simp only [hasPlateText, plateStr, Option.some.injEq, exists_eq_left',
      strippedText_ne_empty]
  | int n => simp only [hasPlateText, plateStr, Option.some.injEq, exists_eq_left',
      strippedText_ne_empty, toString_not_blank]
  | bool b => cases b <;> simp [hasPlateText, plateStr] <;> decide
  | _ => simp [hasPlateText, plateStr]

/-- A member that the first loop stops at. -/
def PlateMember (f : String × Json) : Prop := isPlateKey f.1 = true ∧ hasPlateText f.2 = true

/-- The first loop finds a member, and what it returns is the member's text. -/
theorem ownPlate_some {fields : Dict} {plate : String} (h : ownPlate fields = some plate) :
    plate ≠ "" ∧ ∃ f ∈ fields, PlateMember f ∧ (plateStr f.2).map strippedText = some plate := by
  induction fields with
  | nil => cases h
  | cons f rest ih =>
    obtain ⟨k, v⟩ := f
    have hrest (h : ownPlate rest = some plate) : plate ≠ "" ∧ ∃ f ∈ (k, v) :: rest,
        PlateMember f ∧ (plateStr f.2).map strippedText = some plate := by
      obtain ⟨hne, f, hf, hmember⟩ := ih h
      exact ⟨hne, f, List.mem_cons_of_mem _ hf, hmember⟩
    rw [ownPlate] at h
    split at h
    next s hs =>
      split at h
      next hcond =>
        cases h
        rw [Bool.and_eq_true] at hcond
        exact ⟨bne_iff_ne.1 hcond.2, (k, v), List.mem_cons_self,
          ⟨hcond.1, hasPlateText_iff.2 ⟨s, hs, hcond.2⟩⟩, by rw [hs, Option.map_some]⟩
      next => exact hrest h
    next => exact hrest h

/-- The first loop goes through where no member has a plate, and only there. -/
theorem ownPlate_eq_none {fields : Dict} :
    ownPlate fields = none ↔ ∀ f ∈ fields, ¬ PlateMember f := by
  induction fields with
  | nil => simp [ownPlate]
  | cons f rest ih =>
    obtain ⟨k, v⟩ := f
    rw [ownPlate, List.forall_mem_cons, ← ih, PlateMember, hasPlateText_iff]
    cases hs : plateStr v with
    | none => simp
    | some s =>
      cases isPlateKey k <;> by_cases hne : strippedText s = "" <;> simp [hne]

/-! ## The whole value -/

/-- What is found is not empty. -/
theorem find_ne_empty {v : Json} {plate : String} (h : v.find ownPlate = some plate) :
    plate ≠ "" := by
  obtain ⟨_, _, _, hown, -⟩ := Json.exists_of_find h
  exact (ownPlate_some hown).1

mutual

/-- The early returns on empty results change nothing: no result is empty. -/
theorem digPlate_eq_find : ∀ v : Json, digPlate v = v.find ownPlate
  | .obj fields => by
    rw [digPlate, Json.find, digFields_eq_findFields fields]
    cases ownPlate fields <;> rfl
  | .arr items => digItems_eq_findItems items
  | .null | .bool _ | .int _ | .float _ | .str _ => rfl

theorem digItems_eq_findItems : ∀ items : List Json,
    digItems items = Json.findItems ownPlate items
  | [] => rfl
  | v :: rest => by
    rw [digItems, Json.findItems, digPlate_eq_find v, digItems_eq_findItems rest]
    cases h : v.find ownPlate with
    | none => rfl
    | some r => simp [find_ne_empty h]

theorem digFields_eq_findFields : ∀ fields : List (String × Json),
    digFields fields = Json.findFields ownPlate fields
  | [] => rfl
  | (k, v) :: rest => by
    rw [digFields, Json.findFields, digPlate_eq_find v, digFields_eq_findFields rest]
    cases h : v.find ownPlate with
    | none => rfl
    | some r => simp [find_ne_empty h]

end

/-- **A camera's plate is found** exactly where some object of its event, at any depth, has a
member under one of the plate keys that is an integer, a boolean or a text that is not blank; it
is the trimmed text of such a member, of an object with none such around it. -/
theorem digPlate_spec (v : Json) :
    ((∃ plate, digPlate v = some plate) ↔
      ∃ path fields, v.sub path = some (.obj fields) ∧ ∃ f ∈ fields, PlateMember f) ∧
    ∀ plate, digPlate v = some plate →
      ∃ path fields, v.sub path = some (.obj fields) ∧
        (∃ f ∈ fields, PlateMember f ∧ (plateStr f.2).map strippedText = some plate) ∧
        ∀ outer enclosing, outer <+: path → outer ≠ path →
          v.sub outer = some (.obj enclosing) → ∀ f ∈ enclosing, ¬ PlateMember f := by
  rw [digPlate_eq_find]
  constructor
  · rw [Json.find_isSome_iff]
    constructor
    · rintro ⟨path, fields, plate, hsub, hown⟩
      obtain ⟨-, f, hf, hmember, -⟩ := ownPlate_some hown
      exact ⟨path, fields, hsub, f, hf, hmember⟩
    · rintro ⟨path, fields, hsub, f, hf, hmember⟩
      cases hown : ownPlate fields with
      | some plate => exact ⟨path, fields, plate, hsub, hown⟩
      | none => exact absurd hmember (ownPlate_eq_none.1 hown f hf)
  · intro plate h
    obtain ⟨path, fields, hsub, hown, houter⟩ := Json.exists_of_find h
    refine ⟨path, fields, hsub, (ownPlate_some hown).2, ?_⟩
    intro outer enclosing hpre hne hv
    exact ownPlate_eq_none.1 (houter outer enclosing hpre hne hv)

/-- Lists inside objects, and the key of a maker that writes it its own way. -/
example : digPlate (.arr [.null, .obj [("PlateNo", .str "  "),
    ("Event", .obj [("LicensePlate", .str " 12 ")])]]) = some "12" := by
  decide

end ParkingSystem
