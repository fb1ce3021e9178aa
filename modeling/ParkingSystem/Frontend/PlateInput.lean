import Mathlib
import ParkingSystem.Library.Words

/-!
# The Form of a Plate

`PlateInput.tsx` keeps a plate in four fields, and hands it on as one text: `compose` writes the
text, `parsePlateRaw` reads the fields back from it.

- `parsePlateRaw_compose` says which fields are read back from what was written;
- where no code of a province is given, the form writes the two leading digits in its place.

## What goes wrong

A letter is read back when it is one character. Two of the letters that the form offers are
written with more, and are lost.
-/

namespace ParkingSystem.Frontend

open PyText

/-- `PLATE_LETTERS`. -/
def PLATE_LETTERS : List (List Char) :=
  [['ا', 'ل', 'ف'], ['ب'], ['پ'], ['ت'], ['ث'], ['ج'], ['د'], ['ز'], ['س'], ['ص'], ['ط'], ['ع'],
    ['ف'], ['ق'], ['ک'], ['گ'], ['ل'], ['م'], ['ن'], ['و'], ['ه', 'ـ'], ['ی']]

/-- `Parts`. -/
structure Parts where
  two : List Char := []
  letterFa : List Char := []
  three : List Char := []
  province : List Char := []
  deriving DecidableEq, Repr

/-! ## Characters of the browser -/

/-- The class `\s` of the browser. -/
def jsSpace (c : Char) : Bool :=
  let n := c.toNat
  (9 ≤ n && n ≤ 13) || n == 32 || n == 0xA0 || n == 0x1680 || (0x2000 ≤ n && n ≤ 0x200A) ||
    n == 0x2028 || n == 0x2029 || n == 0x202F || n == 0x205F || n == 0x3000 || n == 0xFEFF

/-- `/[.\-_/,()]/`. -/
def jsMark (c : Char) : Bool := ['.', '-', '_', '/', ',', '(', ')'].contains c

/-- `fa2en`: a Persian digit by its last four bits. -/
def fa2en (c : Char) : Char :=
  if 0x6F0 ≤ c.toNat && c.toNat ≤ 0x6F9 then Char.ofNat (48 + c.toNat % 16) else c

/-- `/^\d{n}$/` of a text, once its Persian digits are converted. -/
def isDigits (n : ℕ) (s : List Char) : Bool := s.length == n && s.all fun c => (fa2en c).isDigit

/-- `/^[ء-ی]$/`. -/
def isLetter : List Char → Bool
  | [c] => 0x621 ≤ c.toNat && c.toNat ≤ 0x6CC
  | _ => false

/-- `/^(ایران|iran|ir)$/i`. -/
def isCountry (t : List Char) : Bool :=
  [['ا', 'ی', 'ر', 'ا', 'ن'], ['i', 'r', 'a', 'n'], ['i', 'r']].contains (t.map Char.toLower)

/-! ## Reading and writing -/

/-- One token of `parsePlateRaw`: the first test that it passes. -/
def readToken (p : Parts) (tk : List Char) : Parts :=
  if p.letterFa.isEmpty && isLetter tk then { p with letterFa := tk }
  else if p.two.isEmpty && isDigits 2 tk then { p with two := tk }
  else if p.three.isEmpty && isDigits 3 tk then { p with three := tk }
  else if isDigits 2 tk then { p with province := tk }
  else p

/-- The tokens of a plate. -/
def plateTokens (raw : List Char) : List (List Char) :=
  (wordsBy jsSpace (raw.map fun c => if jsMark c then ' ' else c)).filter fun t => !isCountry t

/-- `parsePlateRaw`. -/
def parsePlateRaw (raw : List Char) : Parts :=
  if raw.all jsSpace then {} else (plateTokens raw).foldl readToken {}

/-- `a || b` on texts. -/
def orElseText (a b : List Char) : List Char := if a.isEmpty then b else a

/-- `compose`. -/
def compose (v : Parts) : List Char :=
  if v.two.isEmpty && v.three.isEmpty then []
  else
    let parts := [v.two, orElseText v.letterFa ['ب'], v.three].filter fun s => !s.isEmpty
    let code := orElseText v.province v.two
    [' '].intercalate
      (parts ++ if code.isEmpty then [] else [['ا', 'ی', 'ر', 'ا', 'ن'], code])

/-! ## What is read back -/

/-- A state of the form with its digits and its letter filled in. -/
structure Filled (p : Parts) : Prop where
  two : isDigits 2 p.two = true
  letter : p.letterFa ∈ PLATE_LETTERS
  three : isDigits 3 p.three = true
  province : p.province = [] ∨ isDigits 2 p.province = true

/-- A token that no step of `plateTokens` changes or takes out. -/
def plainToken (t : List Char) : Bool :=
  !t.isEmpty && t.all (fun c => !jsSpace c && !jsMark c) && !isCountry t

theorem plainToken_iff {t : List Char} : plainToken t = true ↔
    t ≠ [] ∧ (∀ c ∈ t, jsSpace c = false ∧ jsMark c = false) ∧ isCountry t = false := by
  simp [plainToken, and_assoc]

/-- The digits of the form are ASCII or Persian ones. -/
theorem digit_range {c : Char} (h : (fa2en c).isDigit = true) :
    48 ≤ c.toNat ∧ c.toNat ≤ 57 ∨ 0x6F0 ≤ c.toNat ∧ c.toNat ≤ 0x6F9 := by
  unfold fa2en at h
  split at h
  next hpersian => exact Or.inr (by simpa using hpersian)
  next =>
    rw [Char.isDigit, Bool.and_eq_true, decide_eq_true_eq, decide_eq_true_eq] at h
    exact Or.inl ⟨UInt32.le_iff_toNat_le.1 h.1, UInt32.le_iff_toNat_le.1 h.2⟩

/-- Digits are a token of their own. -/
theorem plainToken_of_isDigits {n : ℕ} {t : List Char} (hn : 0 < n) (h : isDigits n t = true) :
    plainToken t = true := by
  rw [isDigits, Bool.and_eq_true, beq_iff_eq, List.all_eq_true] at h
  obtain ⟨hlength, hdigits⟩ := h
  rw [plainToken_iff]
  refine ⟨List.ne_nil_of_length_pos (by omega), fun c hc => ?_, ?_⟩
  · have hrange := digit_range (hdigits c hc)
    constructor
    · simp only [jsSpace, Bool.or_eq_false_iff, Bool.and_eq_false_iff, decide_eq_false_iff_not,
        beq_eq_false_iff_ne]
      omega
    · rw [← Bool.not_eq_true]
      intro hmark
      -- no mark is in the range of the digits
      simp only [jsMark, List.contains_eq_mem, decide_eq_true_eq, List.mem_cons,
        List.not_mem_nil, or_false] at hmark
      rcases hmark with rfl | rfl | rfl | rfl | rfl | rfl | rfl <;> revert hrange <;> decide
  · cases t with
    | nil =>
      rw [List.length_nil] at hlength
      omega
    | cons c t =>
      have hrange := digit_range (hdigits c List.mem_cons_self)
      have hlower : c.toLower = c := by
        apply Char.toLower_eq_of_not_isUpper
        intro hupper
        -- the capitals of ASCII are above the digits, and below the Persian ones
        simp only [Char.isUpper, decide_eq_true_eq] at hupper
        have hlow : 65 ≤ c.toNat := UInt32.le_iff_toNat_le.1 hupper.1
        have hhigh : c.toNat ≤ 90 := UInt32.le_iff_toNat_le.1 hupper.2
        omega
      rw [← Bool.not_eq_true]
      intro hcountry
      simp only [isCountry, List.map_cons, hlower, List.contains_eq_mem, decide_eq_true_eq,
        List.mem_cons, List.cons.injEq, List.not_mem_nil, or_false] at hcountry
      rcases hcountry with ⟨rfl, -⟩ | ⟨rfl, -⟩ | ⟨rfl, -⟩ <;> revert hrange <;> decide

/-- What the form offers as a letter: a token of its own, which is no digits, and which is taken
for a letter when it is one character. -/
theorem letter_token {l : List Char} (h : l ∈ PLATE_LETTERS) :
    plainToken l = true ∧ isDigits 2 l = false ∧ isDigits 3 l = false ∧
      isLetter l = (l.length == 1) := by
  have hall : (PLATE_LETTERS.all fun l => plainToken l && !isDigits 2 l && !isDigits 3 l &&
      isLetter l == (l.length == 1)) = true := by decide
  have hl := List.all_eq_true.1 hall l h
  simp only [Bool.and_eq_true, Bool.not_eq_true', beq_iff_eq] at hl
  exact ⟨hl.1.1.1, hl.1.1.2, hl.1.2, hl.2⟩

theorem map_of_plainToken {t : List Char} (h : plainToken t = true) :
    (t.map fun c => if jsMark c then ' ' else c) = t := by
  have hplain := (plainToken_iff.1 h).2.1
  conv_rhs => rw [← List.map_id t]
  refine List.map_congr_left fun c hc => ?_
  rw [(hplain c hc).2]
  rfl

/-- **Tokens are read back** as they were written, but for the country. -/
theorem plateTokens_intercalate {ws : List (List Char)}
    (h : ∀ w ∈ ws, plainToken w = true ∨ w = ['ا', 'ی', 'ر', 'ا', 'ن']) :
    plateTokens ([' '].intercalate ws) = ws.filter fun t => !isCountry t := by
  have hword : ∀ w ∈ ws, (w.map fun c => if jsMark c then ' ' else c) = w ∧ w ≠ [] ∧
      ∀ c ∈ w, jsSpace c = false := by
    intro w hw
    rcases h w hw with hplain | rfl
    · exact ⟨map_of_plainToken hplain, (plainToken_iff.1 hplain).1,
        fun c hc => ((plainToken_iff.1 hplain).2.1 c hc).1⟩
    · exact ⟨by decide, by decide, forall_mem_of_all (by decide)⟩
  rw [plateTokens, map_intercalate (by decide) fun w hw => (hword w hw).1,
    wordsBy_intercalate (by decide) fun w hw => (hword w hw).2]

/-- What the form writes for its fields. -/
theorem compose_eq {p : Parts} (h : Filled p) : compose p = [' '].intercalate
    [p.two, p.letterFa, p.three, ['ا', 'ی', 'ر', 'ا', 'ن'], orElseText p.province p.two] := by
  have hne {n : ℕ} {t : List Char} (hn : 0 < n) (ht : isDigits n t = true) :
      t.isEmpty = false := by
    simpa using (plainToken_iff.1 (plainToken_of_isDigits hn ht)).1
  have htwo := hne two_pos h.two
  have hthree := hne three_pos h.three
  have hletter : p.letterFa.isEmpty = false := by
    simpa using (plainToken_iff.1 (letter_token h.letter).1).1
  have hcode : (orElseText p.province p.two).isEmpty = false := by
    rcases h.province with hempty | hdigits
    · rw [orElseText, hempty]
      exact htwo
    · rw [orElseText, hne two_pos hdigits]
      exact hne two_pos hdigits
  unfold compose
  dsimp only
  rw [htwo, Bool.false_and, if_neg (by decide), hcode, if_neg (by decide)]
  simp [orElseText, hletter, htwo, hthree]

/-- The code that is written has two digits. -/
theorem code_isDigits {p : Parts} (h : Filled p) :
    isDigits 2 (orElseText p.province p.two) = true := by
  rcases h.province with hempty | hdigits
  · rw [orElseText, hempty]
    exact h.two
  · have hne := (plainToken_iff.1 (plainToken_of_isDigits two_pos hdigits)).1
    rw [orElseText, if_neg (by simpa using hne)]
    exact hdigits

theorem isLetter_of_isDigits {n : ℕ} {t : List Char} (hn : 1 < n) (h : isDigits n t = true) :
    isLetter t = false := by
  have hlength : t.length = n := by
    rw [isDigits, Bool.and_eq_true, beq_iff_eq] at h
    exact h.1
  match t, hlength with
  | [], _ => rfl
  | [c], hlength => exact absurd hlength (by simp; omega)
  | _ :: _ :: _, _ => rfl

/-- Two digits are not three. -/
theorem isDigits_ne {m n : ℕ} {t : List Char} (hmn : m ≠ n) (h : isDigits m t = true) :
    isDigits n t = false := by
  rw [isDigits, Bool.and_eq_true, beq_iff_eq] at h
  rw [isDigits, h.1, beq_false_of_ne hmn, Bool.false_and]

/-- **What is read back** of what the form wrote: the digits, the letter if it is one character,
and the two leading digits where no code was given. -/
theorem parsePlateRaw_compose {p : Parts} (h : Filled p) :
    parsePlateRaw (compose p) = { p with
      letterFa := if p.letterFa.length == 1 then p.letterFa else []
      province := orElseText p.province p.two } := by
  have hcode := code_isDigits h
  obtain ⟨hplain, hletter2, hletter3, hisLetter⟩ := letter_token h.letter
  have htwo := plainToken_of_isDigits two_pos h.two
  have hthree := plainToken_of_isDigits three_pos h.three
  have hplainCode := plainToken_of_isDigits two_pos hcode
  have htokens : plateTokens (compose p) =
      [p.two, p.letterFa, p.three, orElseText p.province p.two] := by
    rw [compose_eq h, plateTokens_intercalate]
    · have hcountry : isCountry ['ا', 'ی', 'ر', 'ا', 'ن'] = true := by decide
      simp [(plainToken_iff.1 htwo).2.2, (plainToken_iff.1 hplain).2.2,
        (plainToken_iff.1 hthree).2.2, (plainToken_iff.1 hplainCode).2.2, hcountry]
    · simp [htwo, hplain, hthree, hplainCode]
  obtain ⟨hnetwo, hspaces, -⟩ := plainToken_iff.1 htwo
  have hnethree := (plainToken_iff.1 hthree).1
  have hraw : (compose p).all jsSpace = false := by
    obtain ⟨c, hc⟩ := List.exists_mem_of_ne_nil _ hnetwo
    rw [compose_eq h, List.intercalate_cons_cons, List.append_assoc, List.all_append,
      List.all_eq_false.2 ⟨c, hc, by simp [(hspaces c hc).1]⟩, Bool.false_and]
  have hl2 := isLetter_of_isDigits (by decide) h.two
  have hl3 := isLetter_of_isDigits (by decide) h.three
  have hlc := isLetter_of_isDigits (by decide) hcode
  have h32 := isDigits_ne (n := 2) (by decide) h.three
  -- the four tokens, one after the other
  have hfirst : readToken {} p.two = { two := p.two } := by
    simp [readToken, hl2, h.two]
  have hsecond : readToken { two := p.two } p.letterFa =
      { two := p.two, letterFa := if p.letterFa.length == 1 then p.letterFa else [] } := by
    rw [readToken, hisLetter, hletter2, hletter3]
    cases p.letterFa.length == 1 <;> simp
  have hthird (l : List Char) : readToken { two := p.two, letterFa := l } p.three =
      { two := p.two, letterFa := l, three := p.three } := by
    simp [readToken, hl3, h32, h.three]
  have hfourth (l : List Char) : readToken { two := p.two, letterFa := l, three := p.three }
      (orElseText p.province p.two) =
      ⟨p.two, l, p.three, orElseText p.province p.two⟩ := by
    simp [readToken, hlc, hnetwo, hnethree, hcode]
  rw [parsePlateRaw, hraw, if_neg (by decide), htokens, List.foldl_cons, hfirst, List.foldl_cons,
    hsecond, List.foldl_cons, hthird, List.foldl_cons, hfourth, List.foldl_nil]

/-- **The form keeps a plate** whose letter is one character; where no code of a province is
given, it takes the two leading digits for it. -/
theorem form_keeps_plate {p : Parts} (h : Filled p) (hletter : p.letterFa.length = 1) :
    parsePlateRaw (compose p) = { p with province := orElseText p.province p.two } := by
  rw [parsePlateRaw_compose h, hletter]
  rfl

theorem form_keeps_plate_without_code :
    parsePlateRaw (compose ⟨['1', '2'], ['ب'], ['3', '4', '5'], []⟩) =
      ⟨['1', '2'], ['ب'], ['3', '4', '5'], ['1', '2']⟩ :=
  form_keeps_plate (p := ⟨['1', '2'], ['ب'], ['3', '4', '5'], []⟩)
    ⟨by decide, by decide, by decide, Or.inl rfl⟩ rfl

/-- An empty code is not read back as an empty one. -/
theorem form_invents_code :
    ¬ ∀ p : Parts, Filled p → parsePlateRaw (compose p) = p := by
  intro hall
  have h := hall ⟨['1', '2'], ['ب'], ['3', '4', '5'], []⟩
    ⟨by decide, by decide, by decide, Or.inl rfl⟩
  revert h
  decide

/-- A letter of more than one character is lost. -/
example : (parsePlateRaw (compose ⟨['1', '2'], ['ا', 'ل', 'ف'], ['3', '4', '5'], ['6', '7']⟩)) =
    ⟨['1', '2'], [], ['3', '4', '5'], ['6', '7']⟩ := by
  decide

end ParkingSystem.Frontend
