import ParkingSystem.Library.PyValue
import Mathlib.Data.List.Basic

/-!
# Searching a Parsed Value

A search through nested objects and lists for the first object that has what is looked for: an
object is asked before what is inside it, and members and items in their order.

- `Json.find` is the search, for any question `own` that an object answers by itself;
- `Json.sub` is the part of a value at a position;
- `find_eq_none_iff` is completeness, and `exists_of_find` says where what was found is.
-/

namespace PyValue.Json

/-! ## Positions -/

/-- The part of a list or of an object that has a number. -/
def child : Json → ℕ → Option Json
  | .arr items, i => items[i]?
  | .obj fields, i => (fields[i]?).map Prod.snd
  | _, _ => none

/-- The part at a position. -/
def sub : Json → List ℕ → Option Json
  | v, [] => some v
  | v, i :: path => (v.child i).bind fun w => w.sub path

@[simp] theorem sub_nil (v : Json) : v.sub [] = some v := rfl

theorem sub_cons {v w : Json} {i : ℕ} (h : v.child i = some w) (path : List ℕ) :
    v.sub (i :: path) = w.sub path := by
  rw [sub, h, Option.bind_some]

section Search

variable {β : Type*} (own : Dict → Option β)

/-! ## The search -/

mutual

/-- The first object that answers `own`, from the outside in. -/
def find : Json → Option β
  | .obj fields => (own fields).or (findFields fields)
  | .arr items => findItems items
  | _ => none

def findItems : List Json → Option β
  | [] => none
  | v :: rest => (find v).or (findItems rest)

def findFields : List (String × Json) → Option β
  | [] => none
  | (_, v) :: rest => (find v).or (findFields rest)

end

variable {own}

theorem findItems_eq_none {items : List Json} :
    findItems own items = none ↔ ∀ v ∈ items, find own v = none := by
  induction items with
  | nil => simp [findItems]
  | cons v rest ih => simp [findItems, Option.or_eq_none_iff, ih]

theorem findFields_eq_none {fields : List (String × Json)} :
    findFields own fields = none ↔ ∀ f ∈ fields, find own f.2 = none := by
  induction fields with
  | nil => simp [findFields]
  | cons f rest ih =>
    obtain ⟨key, v⟩ := f
    simp [findFields, Option.or_eq_none_iff, ih]

/-- Where nothing was found there is nothing in any part either. -/
theorem find_child {v w : Json} {i : ℕ} (h : find own v = none) (hw : v.child i = some w) :
    find own w = none := by
  cases v with
  | arr items => exact findItems_eq_none.1 h w (List.mem_of_getElem? hw)
  | obj fields =>
    rw [find, Option.or_eq_none_iff] at h
    obtain ⟨f, hf, rfl⟩ := Option.map_eq_some_iff.1 hw
    exact findFields_eq_none.1 h.2 f (List.mem_of_getElem? hf)
  | _ => cases hw

/-- Nothing found is nothing there, at any depth. -/
theorem own_of_find_eq_none {path : List ℕ} {v : Json} {fields : Dict}
    (h : find own v = none) (hsub : v.sub path = some (.obj fields)) : own fields = none := by
  induction path generalizing v with
  | nil =>
    cases hsub
    rw [find, Option.or_eq_none_iff] at h
    exact h.1
  | cons i path ih =>
    obtain ⟨w, hw, hsub⟩ := Option.bind_eq_some_iff.1 hsub
    exact ih (find_child h hw) hsub

/-- What was found in `v`: the answer of an object of `v`, none of whose enclosing objects has
an answer. -/
def FoundIn (own : Dict → Option β) (v : Json) (b : β) : Prop :=
  ∃ path fields, v.sub path = some (.obj fields) ∧ own fields = some b ∧
    ∀ outer enclosing, outer <+: path → outer ≠ path → v.sub outer = some (.obj enclosing) →
      own enclosing = none

/-- A part that has the answer, of a value that has none by itself. -/
theorem FoundIn.of_child {v w : Json} {i : ℕ} {b : β} (hchild : v.child i = some w)
    (hown : ∀ fields, v = .obj fields → own fields = none) (h : FoundIn own w b) :
    FoundIn own v b := by
  obtain ⟨path, fields, hsub, hb, houter⟩ := h
  refine ⟨i :: path, fields, by rwa [sub_cons hchild], hb, ?_⟩
  intro outer enclosing hpre hne hv
  cases outer with
  | nil =>
    -- the outermost position is `v` itself
    cases hv
    exact hown enclosing rfl
  | cons j outer =>
    obtain ⟨rfl, htail⟩ := List.cons_prefix_cons.1 hpre
    rw [sub_cons hchild] at hv
    exact houter outer enclosing htail (fun heq => hne (by rw [heq])) hv

mutual

/-- **What the search finds** is there, and nothing around it answers. -/
theorem exists_of_find : ∀ {v : Json} {b : β}, find own v = some b → FoundIn own v b
  | .obj fields, b, h => by
    rw [find] at h
    cases hown : own fields with
    | some b' =>
      rw [hown] at h
      cases h
      refine ⟨[], fields, rfl, hown, ?_⟩
      intro outer _ hpre hne
      exact absurd (List.prefix_nil.1 hpre) hne
    | none =>
      rw [hown, Option.none_or] at h
      obtain ⟨i, f, hf, hfound⟩ := exists_of_findFields h
      refine hfound.of_child (i := i) ?_ ?_
      · rw [child, hf, Option.map_some]
      · intro fields' heq
        cases heq
        exact hown
  | .arr items, b, h => by
    obtain ⟨i, w, hw, hfound⟩ := exists_of_findItems h
    exact hfound.of_child (i := i) hw fun _ heq => nomatch heq
  | .null, _, h | .bool _, _, h | .int _, _, h | .float _, _, h | .str _, _, h => nomatch h

theorem exists_of_findItems : ∀ {items : List Json} {b : β}, findItems own items = some b →
    ∃ (i : ℕ) (w : Json), items[i]? = some w ∧ FoundIn own w b
  | v :: rest, b, h => by
    rw [findItems, Option.or_eq_some_iff] at h
    rcases h with h | ⟨-, h⟩
    · exact ⟨0, v, rfl, exists_of_find h⟩
    · obtain ⟨i, w, hw, hfound⟩ := exists_of_findItems h
      exact ⟨i + 1, w, hw, hfound⟩

theorem exists_of_findFields : ∀ {fields : List (String × Json)} {b : β},
    findFields own fields = some b → ∃ (i : ℕ) (f : String × Json), fields[i]? = some f ∧ FoundIn own f.2 b
  | (key, v) :: rest, b, h => by
    rw [findFields, Option.or_eq_some_iff] at h
    rcases h with h | ⟨-, h⟩
    · exact ⟨0, (key, v), rfl, exists_of_find h⟩
    · obtain ⟨i, f, hf, hfound⟩ := exists_of_findFields h
      exact ⟨i + 1, f, hf, hfound⟩

end

/-- **Completeness**: the search finds something exactly when some object inside has it. -/
theorem find_isSome_iff {v : Json} :
    (∃ b, find own v = some b) ↔
      ∃ path fields b, v.sub path = some (.obj fields) ∧ own fields = some b := by
  constructor
  · rintro ⟨b, h⟩
    obtain ⟨path, fields, hsub, hown, -⟩ := exists_of_find h
    exact ⟨path, fields, b, hsub, hown⟩
  · rintro ⟨path, fields, b, hsub, hown⟩
    cases hfind : find own v with
    | some b' => exact ⟨b', rfl⟩
    | none =>
      rw [own_of_find_eq_none hfind hsub] at hown
      cases hown

end Search

end PyValue.Json
