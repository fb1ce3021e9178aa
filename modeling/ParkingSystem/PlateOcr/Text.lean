import ParkingSystem.PlateFixpoint
import ParkingSystem.Library.PyDict

/-!
# Plate Texts of the Reader

What the plate reader does with a text before the rest of the system sees it: it keeps the
characters of a plate, checks the form, repairs what is nearly of the form, assembles the pieces
that were read, and hands over a text that `normalize_plate` reads again.

Confidences are rationals: the source multiplies floats, and what depends on their last bits is
which of two equal texts keeps its place.
-/

namespace ParkingSystem.PlateText

open Plate PyText PyDict

/-! ## Characters -/

/-- `OFFICIAL_LETTERS`, which is also `LETTERS`. -/
def officialLetters : List Char := "بجدسصطعقلمنوهی".toList

/-- `ch in LETTERS`. -/
def isLetter (c : Char) : Bool := officialLetters.contains c

/-- `_ARABIC_FIX`. -/
def arabicFix : Char → List Char
  | 'ك' => ['ک']
  | 'ي' => ['ی']
  | 'ى' => ['ی']
  | 'ھ' => ['ه']
  | 'ﻻ' => ['ل', 'ا']
  | c => [c]

/-- `ch.isdigit()`. -/
def isDigitChar (c : Char) : Bool := isDigit c || isOtherDigit c

/-- `text.isdigit()`. -/
def isDigitText (t : List Char) : Bool := !t.isEmpty && t.all isDigitChar

/-- `_vis_letters`: the letters that look like a digit. -/
def visLetters : Char → List Char
  | '0' => ['ه']
  | '1' => ['ل']
  | '2' => ['ب', 'م']
  | '3' => ['ع']
  | '4' => ['ه']
  | '5' => ['د']
  | '6' => ['ط']
  | '7' => ['ن']
  | '8' => ['ه']
  | '9' => ['ق', 'ع']
  | _ => []

/-- `_PRIOR_LETTERS`. -/
def priorLetters : List Char := "بسدلمهطقنوع".toList

/-! ## The form -/

/-- `normalize`. -/
def normalize (text : List Char) : List Char :=
  let t := text.flatMap fun c => arabicFix (digitTrans c)
  let t := replace country [' '] t
  let t := replace "IRAN".toList [' '] t
  let t := replace "Iran".toList [' '] t
  t.filter fun c => isDigit c || isLetter c

/-- `PLATE_RE.match(t)`. -/
def plateRe : List Char → Bool
  | a :: b :: c :: rest => isDigit a && isDigit b && isLetter c && (tailMatch rest).isSome
  | _ => false

/-- `validate`. -/
def validate (text : List Char) : List Char × Bool := (normalize text, plateRe (normalize text))

/-! ## The order of the groups -/

/-- The only character of a text that is no digit, with what stands before and after it. -/
def onlyLetter (t : List Char) : Option (List Char × Char × List Char) :=
  match t.dropWhile isDigitChar with
  | c :: post => if post.all isDigitChar then some (t.takeWhile isDigitChar, c, post) else none
  | [] => none

/-- `_canonical_order`: groups that were read from right to left are put in their places. -/
def canonicalOrder (t : List Char) : List Char :=
  if (t[2]?).any isLetter then t
  else match onlyLetter t with
    | some (pre, c, post) =>
      if t.length = 6 ∧ pre.length = 3 ∧ post.length = 2 then post ++ c :: pre
      else if t.length = 8 ∧ pre.length = 3 ∧ post.length = 4 then
        post.take 2 ++ c :: (pre ++ post.drop 2)
      else if t.length = 8 ∧ pre.length = 5 ∧ post.length = 2 then
        post ++ c :: (pre.drop 2 ++ pre.take 2)
      else t
    | none => t

/-- `to_system_normalized`. -/
def toSystemNormalized (mode : String) (plateFa : List Char) : Option String :=
  if plateFa.isEmpty then none
  else
    let t := canonicalOrder (normalize plateFa)
    let plain := t.take 2 ++ [' '] ++ (t.drop 2).take 1 ++ [' '] ++ (t.drop 3).take 3
    if t.length = 8 then
      normalizePlate mode (String.ofList (plain ++ [' '] ++ country ++ [' '] ++ t.drop 6))
    else if t.length = 6 then normalizePlate mode (String.ofList plain)
    else none

/-! ## Repairs -/

/-- What `repair_candidates` has seen, and what it has found so far. -/
structure Repairs where
  seen : List (List Char) := []
  out : List (List Char × ℚ) := []

/-- The positions of a text of seven characters, from the middle outwards. -/
def repairOrder : List ℕ := [3, 2, 4, 1, 5, 0, 6]

/-- Whether a text is three digits, a letter and two digits. -/
def isMirrored (s : List Char) : Bool :=
  isDigitText (s.take 3) && (s[3]?).any isLetter && isDigitText (s.drop 4)

/-- The groups of a mirrored text, in their places. -/
def swapGroups (s : List Char) : List Char := s.drop 4 ++ (s.drop 3).take 1 ++ s.take 3

/-- The letters that a digit in the place of the letter may have been. -/
def letterGuesses (c : Char) : List Char :=
  (visLetters c ++ priorLetters.filter fun l => !(visLetters c).contains l).take 4

/-- One deletion of `repair_candidates`. -/
def repairDeletion (t : List Char) (st : Repairs) (i : ℕ) : Repairs :=
  let s := t.eraseIdx i
  if s ∈ st.seen then st
  else
    let st := { st with seen := s :: st.seen }
    let (n, valid) := validate s
    if valid then { st with out := st.out ++ [(n, 17 / 20)] }
    else if s.length = 6 ∧ isDigitText (s.take 2) ∧ isDigitText ((s.drop 2).take 1) ∧
        isDigitText (s.drop 3) then
      { st with out := st.out ++ (letterGuesses (s.getD 2 ' ')).map fun l =>
          (s.take 2 ++ l :: s.drop 3, 3 / 5) }
    else if s.length = 6 ∧ isMirrored s then
      let swapped := swapGroups s
      if swapped ∈ st.seen then st
      else
        let st := { st with seen := swapped :: st.seen }
        let (n, valid) := validate swapped
        if valid then { st with out := st.out ++ [(n, 17 / 20)] } else st
    else st

/-- One insertion of `repair_candidates`. -/
def repairInsertion (t : List Char) (st : Repairs) (place : ℕ × Char) : Repairs :=
  let s := t.take place.1 ++ place.2 :: t.drop place.1
  if s ∈ st.seen then st
  else
    let st := { st with seen := s :: st.seen }
    let (n, valid) := validate s
    if valid then { st with out := st.out ++ [(n, 3 / 10)] } else st

/-- `DIGITS`. -/
def digitsText : List Char := "0123456789".toList

/-- What is found, before equal texts are merged. -/
def repairsFound (t : List Char) : List (List Char × ℚ) :=
  if t.length = 7 then (repairOrder.foldl (repairDeletion t) {}).out
  else if t.length = 6 then
    if isMirrored t then
      let (n, valid) := validate (swapGroups t)
      if valid then [(n, 17 / 20)] else []
    else []
  else if t.length = 5 ∧ isDigitText t then
    priorLetters.map fun l => (t.take 2 ++ l :: t.drop 2, 3 / 5)
  else if t.length = 5 ∧ t.any isLetter ∧ (t.filter isDigitChar).length = 4 then
    let places := (List.range 6).flatMap fun i => digitsText.map fun d => (i, d)
    (places.foldl (repairInsertion t) {}).out
  else []

/-- A table keeps the highest value of each text. -/
def keepHighest (table : List (List Char × ℚ)) (entry : List Char × ℚ) : List (List Char × ℚ) :=
  alter entry.1 (fun old => match old with
    | some v => if v < entry.2 then entry.2 else v
    | none => entry.2) table

/-- `sorted(table.items(), key=lambda kv: -kv[1])`. -/
def ranked (table : List (List Char × ℚ)) : List (List Char × ℚ) :=
  table.insertionSort fun a b => b.2 ≤ a.2

/-- `repair_candidates`. -/
def repairCandidates (text : List Char) : List (List Char × ℚ) :=
  ranked ((repairsFound (normalize text)).foldl keepHighest [])

/-! ## What normalisation keeps -/

/-- A digit, once translated, stays what it is. -/
theorem digitTrans_spec {c : Char} (h : isDigit c = true) :
    isDigit (digitTrans c) = true ∧ digitTrans (digitTrans c) = digitTrans c ∧
      arabicFix (digitTrans c) = [digitTrans c] ∧ CleanChar (digitTrans c) := by
  have hall : ∀ z ∈ digitZeros, ∀ k < 10,
      let d := digitTrans (Char.ofNat (z + k))
      isDigit d = true ∧ digitTrans d = d ∧ arabicFix d = [d] ∧ isSeparator d = false ∧
        plateTrans d = d ∧ upperChar d = [d] := by decide +kernel
  obtain ⟨z, hz, k, hk, rfl⟩ := isDigit_block h
  obtain ⟨hdigit, htrans, hfix, hkept, hplate, hupper⟩ := hall z hz k hk
  exact ⟨hdigit, htrans, hfix, hkept, hplate, hupper⟩

/-- A letter stays what it is. -/
theorem letter_spec {c : Char} (h : isLetter c = true) :
    isDigitChar c = false ∧ digitTrans c = c ∧ arabicFix c = [c] ∧ CleanChar c ∧
      c ∈ letterMap.map Prod.fst := by
  have hall : (officialLetters.all fun c => !isDigitChar c && digitTrans c == c &&
      arabicFix c == [c] && !isSeparator c && plateTrans c == c && upperChar c == [c] &&
        (letterMap.map Prod.fst).contains c) = true := by decide
  have hmem : c ∈ officialLetters := by simpa [isLetter] using h
  have hc := List.all_eq_true.1 hall c hmem
  simp only [Bool.and_eq_true, Bool.not_eq_true', beq_iff_eq, List.contains_iff_mem] at hc
  obtain ⟨⟨⟨⟨⟨⟨hdigit, htrans⟩, hfix⟩, hkept⟩, hplate⟩, hupper⟩, hknown⟩ := hc
  exact ⟨hdigit, htrans, hfix, ⟨hkept, hplate, hupper⟩, hknown⟩

theorem isDigit_of_isLetter {c : Char} (h : isLetter c = true) : isDigit c = false :=
  (Bool.or_eq_false_iff.1 (letter_spec h).1).1

/-- A character of a plate, in any script of digits. -/
def PlateChar (c : Char) : Prop := isDigit c = true ∨ isLetter c = true

theorem PlateChar.digitTrans {c : Char} (h : PlateChar c) : PlateChar (digitTrans c) ∧
    arabicFix (Plate.digitTrans c) = [Plate.digitTrans c] := by
  rcases h with hdigit | hletter
  · exact ⟨.inl (digitTrans_spec hdigit).1, (digitTrans_spec hdigit).2.2.1⟩
  · rw [(letter_spec hletter).2.1]
    exact ⟨.inr hletter, (letter_spec hletter).2.2.1⟩

/-- A character that no plate has. -/
theorem not_plateChar {c : Char} (h : (!isDigit c && !isLetter c) = true) : ¬ PlateChar c := by
  rw [Bool.and_eq_true, Bool.not_eq_true', Bool.not_eq_true'] at h
  rintro (hdigit | hletter)
  · rw [h.1] at hdigit
    cases hdigit
  · rw [h.2] at hletter
    cases hletter

/-- **The characters of a plate** are kept, with their digits translated. -/
theorem normalize_plateChars {t : List Char} (h : ∀ c ∈ t, PlateChar c) :
    normalize t = t.map digitTrans := by
  have htranslated : ∀ c ∈ t.map digitTrans, PlateChar c := by
    intro c hc
    obtain ⟨d, hd, rfl⟩ := List.mem_map.1 hc
    exact (h d hd).digitTrans.1
  have hfix : t.flatMap (fun c => arabicFix (digitTrans c)) = t.map digitTrans := by
    rw [List.flatMap_congr fun c hc => (h c hc).digitTrans.2, ← List.map_eq_flatMap]
  have hwords (pat : List Char) (p : Char) (hp : p ∈ pat) (hnot : ¬ PlateChar p) :
      replace pat [' '] (t.map digitTrans) = t.map digitTrans :=
    replace_of_not_infix (List.ne_nil_of_mem hp) _ fun hin => hnot (htranslated p (hin.subset hp))
  unfold normalize
  dsimp only
  rw [hfix, hwords country 'ا' (by decide) (not_plateChar (by decide)),
    hwords "IRAN".toList 'I' (by decide) (not_plateChar (by decide)),
    hwords "Iran".toList 'I' (by decide) (not_plateChar (by decide)), List.filter_eq_self]
  intro c hc
  rw [Bool.or_eq_true]
  exact htranslated c hc

theorem digitTrans_digitTrans (c : Char) : digitTrans (digitTrans c) = digitTrans c := by
  have hdigits : ∀ k < 10, isDigit (Char.ofNat (0x6F0 + k)) = true ∧
      isDigit (Char.ofNat (0x660 + k)) = true := by decide
  have hblock (z : ℕ) (h : z ≤ c.toNat ∧ c.toNat ≤ z + 9) : ∃ k < 10, c = Char.ofNat (z + k) :=
    ⟨c.toNat - z, by omega, by rw [Nat.add_sub_cancel' h.1, Char.ofNat_toNat]⟩
  by_cases hpersian : 0x6F0 ≤ c.toNat ∧ c.toNat ≤ 0x6F9
  · obtain ⟨k, hk, rfl⟩ := hblock 0x6F0 hpersian
    exact (digitTrans_spec (hdigits k hk).1).2.1
  · by_cases harabic : 0x660 ≤ c.toNat ∧ c.toNat ≤ 0x669
    · obtain ⟨k, hk, rfl⟩ := hblock 0x660 harabic
      exact (digitTrans_spec (hdigits k hk).2).2.1
    · have hsame : digitTrans c = c := by simp only [digitTrans, if_neg hpersian, if_neg harabic]
      rw [hsame, hsame]

/-- A text in normal form: the characters of a plate, with no digit to translate. -/
def Normal (t : List Char) : Prop := ∀ c ∈ t, PlateChar c ∧ digitTrans c = c

theorem normalize_of_normal {t : List Char} (h : Normal t) : normalize t = t := by
  rw [normalize_plateChars fun c hc => (h c hc).1]
  exact (List.map_congr_left fun c hc => (h c hc).2).trans (List.map_id t)

/-- The letters that replace a letter are no digits. -/
theorem arabicFix_spec {c d : Char} (h : c ∈ arabicFix d) :
    c = d ∨ isDigit c = false := by
  have hall (cs : List Char) (hcs : (cs.all fun c => !isDigit c) = true) (hc : c ∈ cs) :
      c = d ∨ isDigit c = false :=
    .inr (by simpa using List.all_eq_true.1 hcs c hc)
  unfold arabicFix at h
  split at h
  case h_6 => exact .inl (List.mem_singleton.1 h)
  all_goals exact hall _ (by decide) h

/-- **What is normalised** is in normal form. -/
theorem normal_normalize (text : List Char) : Normal (normalize text) := by
  intro c hc
  obtain ⟨hmem, hplate⟩ := List.mem_filter.1 hc
  rw [Bool.or_eq_true] at hplate
  refine ⟨hplate, ?_⟩
  rcases hplate with hdigit | hletter
  · have hspace (hmem : c ∈ [' ']) : False := by
      rw [List.mem_singleton.1 hmem] at hdigit
      exact absurd hdigit (by decide)
    have hmem := (mem_of_mem_replace (by decide) hmem).resolve_left hspace
    have hmem := (mem_of_mem_replace (by decide) hmem).resolve_left hspace
    have hmem := (mem_of_mem_replace (by decide) hmem).resolve_left hspace
    obtain ⟨d, -, hc⟩ := List.mem_flatMap.1 hmem
    rcases arabicFix_spec hc with rfl | hnot
    · exact digitTrans_digitTrans d
    · rw [hnot] at hdigit
      cases hdigit
  · exact (letter_spec hletter).2.1

theorem Normal.subset {t s : List Char} (h : Normal t) (hs : s ⊆ t) : Normal s :=
  fun c hc => h c (hs hc)

/-- An official letter in a text. -/
theorem normal_letter {c : Char} (h : isLetter c = true) : PlateChar c ∧ digitTrans c = c :=
  ⟨.inr h, (letter_spec h).2.1⟩

theorem isDigitChar_of_plateChar {c : Char} (h : PlateChar c) : isDigitChar c = isDigit c := by
  rcases h with hdigit | hletter
  · rw [isDigitChar, hdigit, Bool.true_or]
  · rw [(letter_spec hletter).1, isDigit_of_isLetter hletter]

end ParkingSystem.PlateText
