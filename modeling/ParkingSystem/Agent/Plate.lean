import ParkingSystem.Plate

/-!
# Plates at the Gate

The copy of `normalize_plate` that the agent carries, compared with the one of the server. The
two have the same tables and the same pattern; the copy does not translate the Arabic forms of
kaf and yeh. These are read as letters by the server and dropped by the agent, and the word for
the country is not found where it is written with one of them.
-/

namespace ParkingSystem

open PyText Plate

namespace Agent

/-- `_LETTERS`. -/
def letters : List (Char × String) :=
  [('ا', "A"), ('ب', "B"), ('پ', "P"), ('ت', "T"), ('ث', "S"), ('ج', "J"), ('چ', "C"),
    ('ح', "H"), ('خ', "X"), ('د', "D"), ('ذ', "Z"), ('ر', "R"), ('ز', "Z"), ('ژ', "Z"),
    ('س', "S"), ('ش', "S"), ('ص', "S"), ('ض', "Z"), ('ط', "T"), ('ظ', "Z"), ('ع', "A"),
    ('غ', "G"), ('ف', "F"), ('ق', "G"), ('ک', "K"), ('گ', "G"), ('ل', "L"), ('م', "M"),
    ('ن', "N"), ('و', "V"), ('ه', "H"), ('ی', "Y")]

/-- The text the agent matches `_REGEX` against; `_TRANS` has the digits of `DIGIT_TRANS`. -/
def cleanText (raw : List Char) : List Char :=
  let text := upper ((strip raw).map digitTrans)
  let text := text.filter fun c => !isSeparator c
  let text := replace "IRAN".toList "IR".toList text
  replace "ایران".toList "IR".toList text

/-- `normalize_plate` of `shared_plate`; `_REGEX` is the pattern of the server. -/
def normalizePlate (raw : String) : Option String :=
  if (strip raw.toList).isEmpty then none
  else do
    let g ← plateRegex (cleanText raw.toList)
    let base := g.twoDigits ++ mapLetters letters g.letters ++ g.threeDigits
    some <| String.ofList <| base ++ match g.province with
      | some p => "IR".toList ++ p
      | none => []

theorem letters_eq : letters = letterMap := rfl

end Agent

/-! ## Two texts -/

/-- The word for the country. -/
def country : List Char := "ایران".toList

/-- What is left of the text before the word for the country is replaced. -/
def beforeCountry (raw : List Char) : List Char :=
  replace "IRAN".toList "IR".toList
    ((upper ((strip raw).map digitTrans)).filter fun c => !isSeparator c)

theorem Agent.cleanText_eq (raw : List Char) :
    Agent.cleanText raw = replace country "IR".toList (beforeCountry raw) := rfl

/-- The three letters that `ARABIC_LETTER_TRANS` translates. -/
def isArabicForm (c : Char) : Bool := arabicLetterTrans c != c

theorem isArabicForm_iff {c : Char} : isArabicForm c = true ↔ c = 'ك' ∨ c = 'ي' ∨ c = 'ى' := by
  unfold isArabicForm arabicLetterTrans
  split <;> simp_all

theorem arabicLetterTrans_of_not {c : Char} (h : isArabicForm c = false) :
    arabicLetterTrans c = c := by
  simpa [isArabicForm] using h

/-- The characters that the translation neither makes nor changes. -/
def isUntouched (p : Char) : Bool := !isArabicForm p && p != 'ک' && p != 'ی'

theorem arabicLetterTrans_eq_iff {p : Char} (h : isUntouched p = true) (c : Char) :
    arabicLetterTrans c = p ↔ c = p := by
  simp only [isUntouched, Bool.and_eq_true, Bool.not_eq_true', bne_iff_ne] at h
  obtain ⟨⟨hp, hkaf⟩, hyeh⟩ := h
  constructor
  · intro h
    unfold arabicLetterTrans at h
    split at h
    · exact absurd h.symm hkaf
    · exact absurd h.symm hyeh
    · exact absurd h.symm hyeh
    · exact h
  · rintro rfl
    exact arabicLetterTrans_of_not hp

theorem isArabicForm_toUpper {c : Char} (h : c.isLower = true) :
    isArabicForm c.toUpper = false := by
  have hascii : c.toNat < 123 := by
    have hrange : (decide (c.val ≥ 97) && decide (c.val ≤ 122)) = true := h
    have hle : c.val ≤ 122 := of_decide_eq_true (Bool.and_eq_true_iff.1 hrange).2
    exact Nat.lt_succ_of_le (UInt32.le_iff_toNat_le.1 hle)
  have hall : ∀ n < 123, isArabicForm (Char.ofNat n).toUpper = false := by decide
  have hc := hall c.toNat hascii
  rwa [Char.ofNat_toNat] at hc

theorem upperChar_arabicLetterTrans (c : Char) :
    upperChar (arabicLetterTrans c) = (upperChar c).map arabicLetterTrans := by
  cases hc : isArabicForm c with
  | true => rcases isArabicForm_iff.1 hc with rfl | rfl | rfl <;> decide
  | false =>
    rw [arabicLetterTrans_of_not hc]
    unfold upperChar
    split
    · rename_i hlower
      simp [arabicLetterTrans_of_not (isArabicForm_toUpper hlower)]
    · split
      all_goals first
        | decide
        | simp [arabicLetterTrans_of_not hc]

theorem upper_arabicLetterTrans (cs : List Char) :
    upper (cs.map arabicLetterTrans) = (upper cs).map arabicLetterTrans := by
  simp only [upper, List.flatMap_map, List.map_flatMap, upperChar_arabicLetterTrans]

theorem isSeparator_arabicLetterTrans (c : Char) :
    isSeparator (arabicLetterTrans c) = isSeparator c := by
  cases hc : isArabicForm c with
  | true => rcases isArabicForm_iff.1 hc with rfl | rfl | rfl <;> decide
  | false => rw [arabicLetterTrans_of_not hc]

/-- The server translates the same text before it replaces the word for the country. -/
theorem serverText_eq (raw : List Char) : Plate.cleanText raw =
    replace country "IR".toList ((beforeCountry raw).map arabicLetterTrans) := by
  have htext : ((upper ((strip raw).map fun c => arabicLetterTrans (digitTrans c))).filter
      fun c => !isSeparator c) =
      ((upper ((strip raw).map digitTrans)).filter fun c => !isSeparator c).map
        arabicLetterTrans := by
    rw [← Function.comp_def arabicLetterTrans, ← List.map_map, upper_arabicLetterTrans,
      List.filter_map]
    simp only [Function.comp_def, isSeparator_arabicLetterTrans]
  have hword : "IRAN".toList.all isUntouched = true := by decide
  have hshort : "IR".toList.all (fun c => arabicLetterTrans c == c) = true := by decide
  unfold Plate.cleanText beforeCountry country
  simp only [htext]
  rw [replace_map (by decide) (fun p hp => arabicLetterTrans_eq_iff (List.all_eq_true.1 hword p hp))
    fun c hc => beq_iff_eq.1 (List.all_eq_true.1 hshort c hc)]

/-- The agent's text and the server's: the same characters, translated by the server, but for
the word of the country where the agent does not find it. -/
inductive Reread : List Char → List Char → Prop
  | nil : Reread [] []
  | cons (c : Char) {a b : List Char} (rest : Reread a b) :
      Reread (c :: a) (arabicLetterTrans c :: b)
  | country {yeh : Char} (form : isArabicForm yeh = true) {a b : List Char} (rest : Reread a b) :
      Reread ('ا' :: yeh :: 'ر' :: 'ا' :: 'ن' :: a) ('I' :: 'R' :: b)

theorem map_country : country.map arabicLetterTrans = country := by decide

theorem country_eq : country = ['ا', 'ی', 'ر', 'ا', 'ن'] := by decide

/-- A word that is translated to the word for the country. -/
theorem country_forms {w : List Char} (h : w.map arabicLetterTrans = country) :
    w = country ∨ ∃ yeh, isArabicForm yeh = true ∧ w = ['ا', yeh, 'ر', 'ا', 'ن'] := by
  rw [country_eq] at h ⊢
  have hletter (p : Char) (hp : isUntouched p = true) (c : Char) (hc : arabicLetterTrans c = p) :
      c = p := (arabicLetterTrans_eq_iff hp c).1 hc
  obtain ⟨c₀, w₁, rfl, h₀, hw₁⟩ := List.map_eq_cons_iff.1 h
  obtain ⟨c₁, w₂, rfl, h₁, hw₂⟩ := List.map_eq_cons_iff.1 hw₁
  obtain ⟨c₂, w₃, rfl, h₂, hw₃⟩ := List.map_eq_cons_iff.1 hw₂
  obtain ⟨c₃, w₄, rfl, h₃, hw₄⟩ := List.map_eq_cons_iff.1 hw₃
  obtain ⟨c₄, w₅, rfl, h₄, hw₅⟩ := List.map_eq_cons_iff.1 hw₄
  obtain rfl := List.map_eq_nil_iff.1 hw₅
  obtain rfl := hletter 'ا' (by decide) c₀ h₀
  obtain rfl := hletter 'ر' (by decide) c₂ h₂
  obtain rfl := hletter 'ا' (by decide) c₃ h₃
  obtain rfl := hletter 'ن' (by decide) c₄ h₄
  cases hform : isArabicForm c₁ with
  | true => exact Or.inr ⟨c₁, hform, rfl⟩
  | false =>
    rw [arabicLetterTrans_of_not hform] at h₁
    exact Or.inl (by rw [h₁])

/-- Written with another yeh, the word is not found. -/
theorem replace_country_form {yeh : Char} (hyeh : isArabicForm yeh = true) (text : List Char) :
    replace country "IR".toList ('ا' :: yeh :: 'ر' :: 'ا' :: 'ن' :: text) =
      'ا' :: yeh :: 'ر' :: 'ا' :: 'ن' :: replace country "IR".toList text := by
  have hne : yeh ≠ 'ی' ∧ yeh ≠ 'ا' := by
    rcases isArabicForm_iff.1 hyeh with rfl | rfl | rfl <;> decide
  rw [replace_cons, replace_cons, replace_cons, replace_cons, replace_cons]
  all_goals simp [country_eq, hne.1.symm, hne.2.symm]

/-- **Both replacements** leave texts that differ only so. -/
theorem reread_replace (text : List Char) :
    Reread (replace country "IR".toList text)
      (replace country "IR".toList (text.map arabicLetterTrans)) := by
  have hne : country ≠ [] := by decide
  generalize htrans : text.map arabicLetterTrans = translated
  induction translated using replace_induction hne generalizing text with
  | nil =>
    rw [List.map_eq_nil_iff.1 htrans]
    exact .nil
  | found rest ih =>
    obtain ⟨w, text', rfl, hw, rfl⟩ := List.map_eq_append_iff.1 htrans
    rw [replace_append hne]
    rcases country_forms hw with rfl | ⟨yeh, hyeh, rfl⟩
    · rw [replace_append hne]
      exact .cons 'I' (.cons 'R' (ih text' rfl))
    · show Reread (replace country _ ('ا' :: yeh :: 'ر' :: 'ا' :: 'ن' :: text')) _
      rw [replace_country_form hyeh]
      exact .country hyeh (ih text' rfl)
  | kept c cs hc ih =>
    obtain ⟨d, text', rfl, rfl, rfl⟩ := List.map_eq_cons_iff.1 htrans
    have hd : ¬ country <+: d :: text' := fun hstarts => hc <| by
      have hmap := hstarts.map arabicLetterTrans
      rwa [map_country] at hmap
    rw [replace_cons _ hc, replace_cons _ hd]
    exact .cons d (ih text' rfl)

/-! ## What the pattern reads -/

/-- The characters of a tail. -/
def inTail (c : Char) : Bool := isDigit c || c == 'I' || c == 'R'

theorem inTail_of_tailMatch {text : List Char} {t} (h : tailMatch text = some t) :
    ∀ c ∈ text, inTail c = true := by
  unfold tailMatch at h
  split at h
  all_goals first
    | cases h
    | split at h
      · rename_i hdigits
        simp only [List.all_cons, List.all_nil, Bool.and_true, Bool.and_eq_true] at hdigits
        simp [inTail, hdigits]
      · cases h

theorem inTail_of_arabicForm {c : Char} (h : isArabicForm c = true) : inTail c = false := by
  rcases isArabicForm_iff.1 h with rfl | rfl | rfl <;> decide

/-- A tail starts with three digits. -/
theorem tailMatch_none_of_digits {text : List Char}
    (h : ∀ a b c rest, text = a :: b :: c :: rest → ([a, b, c].all isDigit) = false) :
    tailMatch text = none := by
  unfold tailMatch
  split
  · rw [if_neg (by rw [h _ _ _ _ rfl]; exact Bool.false_ne_true)]
  · rw [if_neg (by rw [h _ _ _ _ rfl]; exact Bool.false_ne_true)]
  · rename_i a b c d e _
    refine if_neg fun hall => ?_
    have hthree := h a b c [d, e] rfl
    simp only [List.all_cons, List.all_nil, Bool.and_true, Bool.and_eq_true] at hall
    simp [hall] at hthree
  · rename_i a b c d e
    refine if_neg fun hall => ?_
    have hthree := h a b c ['I', 'R', d, e] rfl
    simp only [List.all_cons, List.all_nil, Bool.and_true, Bool.and_eq_true] at hall
    simp [hall] at hthree
  · rfl

/-- A tail that has the word for the country in it has no tail after its first character. -/
theorem lettersMatch_of_tail {text : List Char} {t} (h : tailMatch text = some t)
    (hI : 'I' ∈ text) : lettersMatch text = none := by
  have hdigitI : isDigit 'I' = false := by decide
  have hdigitR : isDigit 'R' = false := by decide
  have hletters (a b c : Char) (rest : List Char) (hrest : lettersMatch rest = none)
      (htail : tailMatch rest = none) :
      lettersMatch (a :: b :: c :: 'I' :: 'R' :: rest) = none := by
    have h₁ : tailMatch (b :: c :: 'I' :: 'R' :: rest) = none :=
      tailMatch_none_of_digits (by rintro _ _ _ _ ⟨⟩; simp [hdigitI])
    have h₂ : tailMatch (c :: 'I' :: 'R' :: rest) = none :=
      tailMatch_none_of_digits (by rintro _ _ _ _ ⟨⟩; simp [hdigitI])
    have h₃ : tailMatch ('I' :: 'R' :: rest) = none :=
      tailMatch_none_of_digits (by rintro _ _ _ _ ⟨⟩; simp [hdigitI])
    have h₄ : tailMatch ('R' :: rest) = none :=
      tailMatch_none_of_digits (by rintro _ _ _ _ ⟨⟩; simp [hdigitR])
    simp [lettersMatch, hrest, htail, h₁, h₂, h₃, h₄]
  have hnone {cs : List Char} (hall : cs.all isDigit = true) : 'I' ∉ cs := fun hmem => by
    rw [List.all_eq_true.1 hall 'I' hmem] at hdigitI
    cases hdigitI
  unfold tailMatch at h
  split at h
  · split at h
    · rename_i hall
      exact absurd hI (hnone hall)
    · cases h
  · exact hletters _ _ _ [] rfl rfl
  · split at h
    · rename_i hall
      exact absurd hI (hnone hall)
    · cases h
  · exact hletters _ _ _ _ rfl rfl
  · cases h

theorem lettersMatch_cons_iff {c : Char} {cs letters : List Char} {t} :
    lettersMatch (c :: cs) = some (letters, t) ↔
      (tailMatch cs = some t ∧ letters = [c]) ∨
        (tailMatch cs = none ∧ ∃ ls, lettersMatch cs = some (ls, t) ∧ letters = c :: ls) := by
  rw [lettersMatch]
  cases htail : tailMatch cs with
  | none => simp [Prod.ext_iff, eq_comm]
  | some t' => simp [Prod.ext_iff, eq_comm, and_comm]

namespace Reread

theorem eq_of_plain {a b : List Char} (h : Reread a b) (ha : ∀ c ∈ a, isArabicForm c = false) :
    b = a := by
  induction h with
  | nil => rfl
  | cons c rest ih =>
    rw [arabicLetterTrans_of_not (ha c List.mem_cons_self),
      ih fun d hd => ha d (List.mem_cons_of_mem _ hd)]
  | country form rest ih =>
    rw [ha _ (List.mem_cons_of_mem _ List.mem_cons_self)] at form
    cases form

/-- A tail of the server without the word for the country is the agent's. -/
theorem eq_of_digits {a b : List Char} (h : Reread a b) (hb : ∀ c ∈ b, inTail c = true)
    (hI : 'I' ∉ b) : b = a := by
  induction h with
  | nil => rfl
  | cons c rest ih =>
    have hform : isArabicForm c = false := by
      cases hform : isArabicForm c with
      | false => rfl
      | true =>
        have hc := hb _ List.mem_cons_self
        rcases isArabicForm_iff.1 hform with rfl | rfl | rfl <;> revert hc <;> decide
    rw [arabicLetterTrans_of_not hform, ih (fun d hd => hb d (List.mem_cons_of_mem _ hd))
      fun hmem => hI (List.mem_cons_of_mem _ hmem)]
  | country form rest ih => exact absurd List.mem_cons_self hI

theorem tail_some {a b : List Char} (h : Reread a b) {t} (ha : tailMatch a = some t) : b = a :=
  h.eq_of_plain fun c hc => by
    cases hform : isArabicForm c with
    | false => rfl
    | true =>
      have hin := inTail_of_tailMatch ha c hc
      rw [inTail_of_arabicForm hform] at hin
      cases hin

theorem tail_none {a b : List Char} (h : Reread a b) (ha : tailMatch a = none)
    {letters t} (hb : lettersMatch b = some (letters, t)) : tailMatch b = none := by
  cases htail : tailMatch b with
  | none => rfl
  | some t' =>
    by_cases hI : 'I' ∈ b
    · rw [lettersMatch_of_tail htail hI] at hb
      cases hb
    · rw [h.eq_of_digits (inTail_of_tailMatch htail) hI, ha] at htail
      cases htail

/-- One step of both: a letter on each side, before texts that are reread. -/
theorem lettersMatch_step {a b : List Char} (h : Reread a b) (c d : Char)
    {t} (ih : ∀ {letters}, lettersMatch a = some (letters, t) →
      ∃ letters', lettersMatch b = some (letters', t) ∧ Reread letters letters')
    {letters} (ha : lettersMatch (c :: a) = some (letters, t)) :
    ∃ ls ls', letters = c :: ls ∧ lettersMatch (d :: b) = some (d :: ls', t) ∧ Reread ls ls' := by
  rcases lettersMatch_cons_iff.1 ha with ⟨htail, rfl⟩ | ⟨hnone, ls, hls, rfl⟩
  · obtain rfl := h.tail_some htail
    exact ⟨[], [], rfl, lettersMatch_cons_iff.2 (Or.inl ⟨htail, rfl⟩), .nil⟩
  · obtain ⟨ls', hls', hreread⟩ := ih hls
    exact ⟨ls, ls', rfl,
      lettersMatch_cons_iff.2 (Or.inr ⟨h.tail_none hnone hls', ls', hls', rfl⟩), hreread⟩

/-- **The letters** of a plate that the agent reads are read by the server, before the same
digits. -/
theorem lettersMatch {a b : List Char} (h : Reread a b) {letters t}
    (ha : Plate.lettersMatch a = some (letters, t)) :
    ∃ letters', Plate.lettersMatch b = some (letters', t) ∧ Reread letters letters' := by
  induction h generalizing letters with
  | nil => cases ha
  | cons c rest ih =>
    obtain ⟨ls, ls', rfl, hb, hreread⟩ := lettersMatch_step rest c _ ih ha
    exact ⟨_, hb, .cons c hreread⟩
  | @country yeh form a b rest ih =>
    have hnone {x : Char} (hx : isDigit x = false) (cs : List Char) : tailMatch (x :: cs) = none :=
      tailMatch_none_of_digits (by rintro _ _ _ _ ⟨⟩; simp [hx])
    have hyeh : isDigit yeh = false := by
      rcases isArabicForm_iff.1 form with rfl | rfl | rfl <;> decide
    have hfour : Plate.lettersMatch ('ا' :: yeh :: 'ر' :: 'ا' :: 'ن' :: a) =
        (Plate.lettersMatch ('ن' :: a)).map
          fun found => ('ا' :: yeh :: 'ر' :: 'ا' :: found.1, found.2) := by
      have hra : isDigit 'ر' = false := by decide
      have halef : isDigit 'ا' = false := by decide
      have hnoon : isDigit 'ن' = false := by decide
      rw [Plate.lettersMatch, hnone hyeh, Plate.lettersMatch, hnone hra, Plate.lettersMatch,
        hnone halef, Plate.lettersMatch, hnone hnoon]
      simp [Function.comp_def]
    rw [hfour] at ha
    obtain ⟨⟨found, t'⟩, hfound, heq⟩ := Option.map_eq_some_iff.1 ha
    obtain ⟨rfl, rfl⟩ := Prod.mk.inj heq
    obtain ⟨ls, ls', rfl, hb, hreread⟩ := lettersMatch_step rest 'ن' 'R' ih hfound
    have hword : isDigit 'R' = false := by decide
    exact ⟨'I' :: 'R' :: ls', lettersMatch_cons_iff.2 (Or.inr ⟨hnone hword _, _, hb, rfl⟩),
      .country form hreread⟩

end Reread

/-- The groups of a plate that the agent reads. -/
theorem Reread.plateRegex {a b : List Char} (h : Reread a b) {g : Groups}
    (ha : Plate.plateRegex a = some g) : ∃ g', Plate.plateRegex b = some g' ∧
      g'.twoDigits = g.twoDigits ∧ g'.threeDigits = g.threeDigits ∧ g'.province = g.province ∧
      Reread g.letters g'.letters := by
  have hdigit {c : Char} (hc : isDigit c = true) : arabicLetterTrans c = c := by
    refine arabicLetterTrans_of_not ?_
    cases hform : isArabicForm c with
    | false => rfl
    | true => rcases isArabicForm_iff.1 hform with rfl | rfl | rfl <;> revert hc <;> decide
  unfold Plate.plateRegex at ha
  split at ha
  · split at ha
    · rename_i c d rest htwo
      obtain ⟨⟨letters, three, province⟩, hletters, rfl⟩ := Option.map_eq_some_iff.1 ha
      obtain ⟨hc, hd⟩ := Bool.and_eq_true_iff.1 htwo
      cases h with
      | cons _ h =>
        cases h with
        | cons _ h =>
          obtain ⟨letters', hb, hreread⟩ := h.lettersMatch hletters
          rw [hdigit hc, hdigit hd, Plate.plateRegex, if_pos htwo, hb]
          exact ⟨_, rfl, rfl, rfl, rfl, hreread⟩
        | country _ _ => exact absurd hd (by decide)
      | country _ _ => exact absurd hc (by decide)
    · cases ha
  · cases ha

/-! ## The letters -/

/-- The letters of a text that the server reads more often than the agent. -/
def weight (cs : List Char) : ℕ := cs.countP fun c => c == 'K' || c == 'Y' || c == 'I'

theorem weight_append (cs ds : List Char) : weight (cs ++ ds) = weight cs + weight ds :=
  List.countP_append

/-- The letters of a letter part, before the placeholder of an empty one. -/
def latin (cs : List Char) : List Char :=
  cs.flatMap fun c => match letterMap.lookup c with
    | some code => code.toList
    | none => if c.isAlpha then [c] else []

theorem weight_mapLetters (cs : List Char) : weight (mapLetters letterMap cs) = weight (latin cs) := by
  show weight (if (latin cs).isEmpty then ['X'] else latin cs) = _
  split
  · rename_i hempty
    rw [List.isEmpty_iff.1 hempty]
    rfl
  · rfl

/-- The server reads every Arabic form as a letter, and one letter more of the country. -/
theorem Reread.weight_latin {a b : List Char} (h : Reread a b) :
    weight (latin a) ≤ weight (latin b) ∧
      (weight (latin a) = weight (latin b) → ∀ c ∈ a, isArabicForm c = false) := by
  have hcons (c : Char) (cs : List Char) :
      weight (latin (c :: cs)) = weight (latin [c]) + weight (latin cs) := by
    rw [← weight_append, latin, List.flatMap_cons]
    simp [latin]
  induction h with
  | nil => exact ⟨le_refl _, fun _ c hc => absurd hc List.not_mem_nil⟩
  | cons c rest ih =>
    rw [hcons c, hcons (arabicLetterTrans c)]
    cases hform : isArabicForm c with
    | false =>
      rw [arabicLetterTrans_of_not hform]
      refine ⟨by omega, fun heq d hd => ?_⟩
      rcases List.mem_cons.1 hd with rfl | hmem
      · exact hform
      · exact ih.2 (by omega) d hmem
    | true =>
      have hone : weight (latin [c]) = 0 ∧ weight (latin [arabicLetterTrans c]) = 1 := by
        rcases isArabicForm_iff.1 hform with rfl | rfl | rfl <;> decide
      exact ⟨by omega, fun heq => by omega⟩
  | @country yeh form a b rest ih =>
    have hword : weight (latin ['ا', yeh, 'ر', 'ا', 'ن']) = 0 ∧ weight (latin ['I', 'R']) = 1 := by
      rcases isArabicForm_iff.1 form with rfl | rfl | rfl <;> decide
    have happ (w cs : List Char) : weight (latin (w ++ cs)) = weight (latin w) + weight (latin cs) := by
      rw [← weight_append, latin, List.flatMap_append]
      rfl
    have ha := happ ['ا', yeh, 'ر', 'ا', 'ن'] a
    have hb := happ ['I', 'R'] b
    simp only [List.cons_append, List.nil_append] at ha hb
    exact ⟨by omega, fun heq => by omega⟩

/-! ## Two plates -/

/-- The plate that the groups spell. -/
def Groups.written (g : Groups) : String :=
  String.ofList <| g.twoDigits ++ mapLetters letterMap g.letters ++ g.threeDigits ++
    match g.province with
    | some p => "IR".toList ++ p
    | none => []

theorem serverPlate_eq (s : String) : Plate.normalizePlate "MANY_TO_ONE" s =
    (plateRegex (Plate.cleanText s.toList)).map Groups.written := by
  have hmap : getLetterMap "MANY_TO_ONE" = letterMap := if_neg (by decide)
  unfold Plate.normalizePlate
  rw [hmap]
  split
  · rename_i hempty
    have htext : Plate.cleanText s.toList = [] := by
      unfold Plate.cleanText
      rw [List.isEmpty_iff.1 hempty]
      rfl
    rw [htext]
    rfl
  · exact (Option.map_eq_bind ..).symm

theorem agentPlate_eq (s : String) : Agent.normalizePlate s =
    (plateRegex (Agent.cleanText s.toList)).map Groups.written := by
  unfold Agent.normalizePlate
  rw [Agent.letters_eq]
  split
  · rename_i hempty
    have htext : Agent.cleanText s.toList = [] := by
      unfold Agent.cleanText
      rw [List.isEmpty_iff.1 hempty]
      rfl
    rw [htext]
    rfl
  · exact (Option.map_eq_bind ..).symm

/-- An Arabic form is in the letters of every plate it is part of. -/
theorem mem_letters {text : List Char} {g : Groups} (h : plateRegex text = some g) {c : Char}
    (hform : isArabicForm c = true) (hc : c ∈ text) : c ∈ g.letters := by
  have hdigit {d : Char} (hd : isDigit d = true) : c ≠ d := by
    rintro rfl
    have htail := inTail_of_arabicForm hform
    rw [inTail, hd] at htail
    cases htail
  have hrest {cs letters : List Char} {t} (hcs : lettersMatch cs = some (letters, t))
      (hmem : c ∈ cs) : c ∈ letters := by
    induction cs generalizing letters with
    | nil => cases hmem
    | cons d ds ih =>
      rcases lettersMatch_cons_iff.1 hcs with ⟨htail, rfl⟩ | ⟨_, ls, hls, rfl⟩
      · refine List.mem_singleton.2 ((List.mem_cons.1 hmem).resolve_right fun hds => ?_)
        have hin := inTail_of_tailMatch htail c hds
        rw [inTail_of_arabicForm hform] at hin
        cases hin
      · rcases List.mem_cons.1 hmem with rfl | hds
        · exact List.mem_cons_self
        · exact List.mem_cons_of_mem _ (ih hls hds)
  unfold plateRegex at h
  split at h
  · split at h
    · rename_i htwo
      obtain ⟨⟨letters, three, province⟩, hletters, rfl⟩ := Option.map_eq_some_iff.1 h
      obtain ⟨ha, hb⟩ := Bool.and_eq_true_iff.1 htwo
      have hafter := (List.mem_cons.1 hc).resolve_left (hdigit ha)
      exact hrest hletters ((List.mem_cons.1 hafter).resolve_left (hdigit hb))
    · cases h
  · cases h

/-- Cleaning keeps the Arabic forms. -/
theorem mem_cleanText {raw : List Char} {c : Char} (hform : isArabicForm c = true)
    (hc : c ∈ raw) : c ∈ Agent.cleanText raw := by
  have hkept : isSpace c = false ∧ digitTrans c = c ∧ c ∈ upperChar c ∧ isSeparator c = false ∧
      c ∉ "IRAN".toList ∧ c ∉ country := by
    rcases isArabicForm_iff.1 hform with rfl | rfl | rfl <;> decide
  obtain ⟨hspace, hdigit, hupper, hseparator, hiran, hcountry⟩ := hkept
  have htrans : c ∈ (strip raw).map digitTrans := List.mem_map.2 ⟨c, mem_strip hspace hc, hdigit⟩
  have htext : c ∈ upper ((strip raw).map digitTrans) := List.mem_flatMap.2 ⟨c, htrans, hupper⟩
  refine mem_replace (by decide) hcountry _ (mem_replace (by decide) hiran _ ?_)
  exact List.mem_filter.2 ⟨htext, by rw [hseparator]; rfl⟩

/-- Without them the server's translation does nothing. -/
theorem cleanText_of_plain {raw : List Char} (h : ∀ c ∈ raw, isArabicForm c = false) :
    Agent.cleanText raw = Plate.cleanText raw := by
  have hascii : ∀ n < 58, isArabicForm (Char.ofNat n) = false := by decide
  have hdigit (c : Char) (hc : isArabicForm c = false) : isArabicForm (digitTrans c) = false := by
    unfold digitTrans
    dsimp only
    split
    · exact hascii _ (by omega)
    · split
      · exact hascii _ (by omega)
      · exact hc
  have hmap : (strip raw).map (fun c => arabicLetterTrans (digitTrans c)) =
      (strip raw).map digitTrans :=
    List.map_congr_left fun c hc => arabicLetterTrans_of_not (hdigit c (h c (strip_subset hc)))
  unfold Agent.cleanText Plate.cleanText
  rw [hmap]

/-- A plate written with the Arabic yeh has two keys. -/
theorem arabicYeh_twoKeys : ¬ ∀ s : String,
    Agent.normalizePlate s = Plate.normalizePlate "MANY_TO_ONE" s := fun h =>
  absurd (h "12ي34567") (by decide)

/-- **One key**: agent and server read a plate alike exactly where it has none of the letters
that only the server translates, or nothing the server could read. -/
theorem agentPlate_eq_iff (s : String) :
    Agent.normalizePlate s = Plate.normalizePlate "MANY_TO_ONE" s ↔
      (∀ c ∈ s.toList, isArabicForm c = false) ∨ plateRegex (Plate.cleanText s.toList) = none := by
  have hreread : Reread (Agent.cleanText s.toList) (Plate.cleanText s.toList) := by
    rw [Agent.cleanText_eq, serverText_eq]
    exact reread_replace _
  rw [agentPlate_eq, serverPlate_eq]
  constructor
  · intro heq
    by_contra hneither
    push Not at hneither
    obtain ⟨⟨c, hc, hform⟩, hserver⟩ := hneither
    obtain ⟨g', hg'⟩ := Option.ne_none_iff_exists'.1 hserver
    rw [hg'] at heq
    obtain ⟨g, hg, hwritten⟩ := Option.map_eq_some_iff.1 heq
    obtain ⟨g'', hg'', htwo, hthree, hprovince, hletters⟩ := hreread.plateRegex hg
    obtain rfl := Option.some.inj (hg''.symm.trans hg')
    -- equal plates have equal letter parts, and these have equal weights
    have hparts : mapLetters letterMap g.letters = mapLetters letterMap g''.letters := by
      have hlists := String.ofList_injective hwritten
      rw [htwo, hthree, hprovince] at hlists
      simpa using hlists
    have hweight : weight (latin g.letters) = weight (latin g''.letters) := by
      rw [← weight_mapLetters, hparts, weight_mapLetters]
    have hplain := hletters.weight_latin.2 hweight c
      (mem_letters hg (by simpa using hform) (mem_cleanText (by simpa using hform) hc))
    rw [hplain] at hform
    exact hform rfl
  · rintro (hplain | hnone)
    · rw [cleanText_of_plain hplain]
    · rw [hnone]
      cases hg : plateRegex (Agent.cleanText s.toList) with
      | none => rfl
      | some g =>
        obtain ⟨g', hg', _⟩ := hreread.plateRegex hg
        rw [hnone] at hg'
        cases hg'

end ParkingSystem
