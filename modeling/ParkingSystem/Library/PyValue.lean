import ParkingSystem.Library.PyText

/-!
# Python Values from JSON

The values a JSON column or a JSON body holds once parsed, and how Python's operators treat
them: truth, `==`, `in`, `>=`, `int()` and `float()`. An operator that raises gives `none`.
-/

namespace PyValue

open PyText

/-- A parsed JSON value. -/
inductive Json where
  | null
  | bool (b : Bool)
  | int (n : ℤ)
  | float (q : ℚ)
  | str (s : String)
  | arr (items : List Json)
  | obj (fields : List (String × Json))
  deriving Repr

/-- The members of a JSON object, in order. -/
abbrev Dict := List (String × Json)

/-- `d.get(key)`: a repeated key keeps its last value. -/
def Dict.get (d : Dict) (key : String) : Option Json := List.lookup key d.reverse

/-- A JSON value with no parts. -/
inductive Scalar where
  | null
  | bool (b : Bool)
  | int (n : ℤ)
  | str (s : String)
  deriving DecidableEq, Repr

namespace Json

/-- Truth value. -/
def truthy : Json → Bool
  | .null => false
  | .bool b => b
  | .int n => n != 0
  | .float q => q != 0
  | .str s => s != ""
  | .arr items => !items.isEmpty
  | .obj fields => !fields.isEmpty

/-- The number a value is, if any: a boolean counts as 0 or 1. -/
def number? : Json → Option ℚ
  | .bool b => some (if b then 1 else 0)
  | .int n => some n
  | .float q => some q
  | _ => none

/-- Whether `hash` accepts the value. -/
def hashable : Json → Bool
  | .arr _ | .obj _ => false
  | _ => true

/-- `int(value)`; `none` is a TypeError or a ValueError. -/
def toInt : Json → Option ℤ
  | .bool b => some (if b then 1 else 0)
  | .int n => some n
  | .float q => some (if 0 ≤ q then q.floor else -((-q).floor))
  | .str s => pyInt s.toList
  | _ => none

/-- `float(value)`; `none` is a TypeError or a ValueError. -/
def toFloat : Json → Option PyFloat
  | .bool b => some (.num (if b then 1 else 0))
  | .int n => some (.num n)
  | .float q => some (.num q)
  | .str s => pyFloat s.toList
  | _ => none

/-! ### Equality

Lists are equal item by item; objects where each has the other's keys, with equal values. -/

mutual

/-- `a == b`. -/
def pyEq : Json → Json → Bool
  | .null, .null => true
  | .str s, .str t => s == t
  | .arr xs, .arr ys => pyEqItems xs ys
  | .obj fields, .obj other =>
    pyEqFields fields other && other.all fun f => fields.any fun g => g.1 == f.1
  | a, b => match a.number?, b.number? with
    | some p, some q => p == q
    | _, _ => false

def pyEqItems : List Json → List Json → Bool
  | [], [] => true
  | a :: as, b :: bs => pyEq a b && pyEqItems as bs
  | _, _ => false

/-- Each member is equal to the other object's; one whose key comes again does not count. -/
def pyEqFields : List (String × Json) → Dict → Bool
  | [], _ => true
  | (key, a) :: rest, other =>
    (rest.any (fun g => g.1 == key) || (Dict.get other key).any fun b => pyEq a b) &&
      pyEqFields rest other

end

/-! ### Identity -/

mutual

/-- Whether two values are the same, part by part. -/
def same : Json → Json → Bool
  | .null, .null => true
  | .bool a, .bool b => a == b
  | .int m, .int n => m == n
  | .float p, .float q => p == q
  | .str s, .str t => s == t
  | .arr xs, .arr ys => sameItems xs ys
  | .obj fields, .obj other => sameFields fields other
  | _, _ => false

def sameItems : List Json → List Json → Bool
  | [], [] => true
  | a :: as, b :: bs => same a b && sameItems as bs
  | _, _ => false

def sameFields : List (String × Json) → List (String × Json) → Bool
  | [], [] => true
  | (key, a) :: rest, (key', b) :: rest' => key == key' && same a b && sameFields rest rest'
  | _, _ => false

end

mutual

theorem same_iff : ∀ a b : Json, same a b = true ↔ a = b
  | .null, b | .bool _, b | .int _, b | .float _, b | .str _, b => by cases b <;> simp [same]
  | .arr xs, b => by
    cases b with
    | arr ys => simp [same, sameItems_iff xs ys]
    | _ => simp [same]
  | .obj fields, b => by
    cases b with
    | obj other => simp [same, sameFields_iff fields other]
    | _ => simp [same]

theorem sameItems_iff : ∀ xs ys : List Json, sameItems xs ys = true ↔ xs = ys
  | [], ys => by cases ys <;> simp [sameItems]
  | a :: as, ys => by
    cases ys with
    | nil => simp [sameItems]
    | cons b bs => simp [sameItems, same_iff a b, sameItems_iff as bs]

theorem sameFields_iff : ∀ fields other : List (String × Json),
    sameFields fields other = true ↔ fields = other
  | [], other => by cases other <;> simp [sameFields]
  | (key, a) :: rest, other => by
    cases other with
    | nil => simp [sameFields]
    | cons f rest' =>
      obtain ⟨key', b⟩ := f
      simp [sameFields, same_iff a b, sameFields_iff rest rest', and_assoc]

end

instance : DecidableEq Json := fun a b => decidable_of_iff (same a b = true) (same_iff a b)

end Json

namespace Scalar

/-- Truth value. -/
def truthy : Scalar → Bool
  | .null => false
  | .bool b => b
  | .int n => n != 0
  | .str s => s != ""

/-- The number a scalar is, if any. -/
def number? : Scalar → Option ℚ
  | .bool b => some (if b then 1 else 0)
  | .int n => some n
  | _ => none

/-- `value == target`. -/
def eq (v : Scalar) (target : Json) : Bool :=
  match v, target with
  | .null, .null => true
  | .str s, .str t => s == t
  | v, t => match v.number?, t.number? with
    | some a, some b => a == b
    | _, _ => false

/-- `value in container`: an element of a list, a part of a string, a key of an object. -/
def isIn (v : Scalar) : Json → Option Bool
  | .arr items => some (items.any v.eq)
  | .obj fields => some (fields.any fun f => v.eq (.str f.1))
  | .str s => match v with
    | .str t => some (isInfix t.toList s.toList)
    | _ => none
  | _ => none

/-- `value >= target`. -/
def ge (v : Scalar) (target : Json) : Option Bool :=
  match v, target with
  | .str s, .str t => some (PyText.le t.toList s.toList)
  | v, t => match v.number?, t.number? with
    | some a, some b => some (decide (b ≤ a))
    | _, _ => none

/-- `value <= target`. -/
def le (v : Scalar) (target : Json) : Option Bool :=
  match v, target with
  | .str s, .str t => some (PyText.le s.toList t.toList)
  | v, t => match v.number?, t.number? with
    | some a, some b => some (decide (a ≤ b))
    | _, _ => none

end Scalar

/-- A text column that should hold JSON, as `json.loads` finds it. -/
inductive JsonText where
  | malformed
  | parsed (j : Json)
  deriving Repr

end PyValue
