import ParkingSystem.PlateOcr.Text

/-!
# From the Reader to the System

A plate text of the reader is spelled out and read again by `normalize_plate`. The key it gets has
the digits of the text and the code of its letter, also where the groups were read from right to
left.
-/

namespace ParkingSystem.PlateText

open Plate PyText

/-! ## Plate texts -/

/-- A plate text: two digits, an official letter, three digits, and the two digits of a province
or none. The digits may be of any script. -/
structure OcrPlate where
  two : List Char
  letter : Char
  three : List Char
  province : List Char
  digits : ∀ c ∈ two ++ (three ++ province), isDigit c = true
  official : isLetter letter = true
  two_length : two.length = 2
  three_length : three.length = 3
  province_length : province.length = 0 ∨ province.length = 2

namespace OcrPlate

variable (p : OcrPlate)

def text : List Char := p.two ++ p.letter :: (p.three ++ p.province)

/-- The plate with its digits translated. -/
def translated : OcrPlate where
  two := p.two.map digitTrans
  letter := p.letter
  three := p.three.map digitTrans
  province := p.province.map digitTrans
  digits := by
    intro c hc
    rw [← List.map_append, ← List.map_append] at hc
    obtain ⟨d, hd, rfl⟩ := List.mem_map.1 hc
    exact (digitTrans_spec (p.digits d hd)).1
  official := p.official
  two_length := by rw [List.length_map, p.two_length]
  three_length := by rw [List.length_map, p.three_length]
  province_length := by rw [List.length_map]; exact p.province_length

/-- The groups of a plate, read from right to left: the province at the end, or at the start. -/
def scrambles : List (List Char) :=
  [p.three ++ p.letter :: (p.two ++ p.province), p.province ++ p.three ++ p.letter :: p.two]

/-- What `normalize_plate` reads. -/
def groups : Groups where
  twoDigits := p.two
  letters := [p.letter]
  threeDigits := p.three
  province := if p.province.isEmpty then none else some p.province

/-- The key of a plate. -/
def key (mode : String) : String :=
  String.ofList (keyText (keyGroups mode p.translated.groups))

variable {p}

theorem two_digit {c : Char} (h : c ∈ p.two) : isDigit c = true :=
  p.digits c (List.mem_append_left _ h)

theorem three_digit {c : Char} (h : c ∈ p.three) : isDigit c = true :=
  p.digits c (List.mem_append_right _ (List.mem_append_left _ h))

theorem province_digit {c : Char} (h : c ∈ p.province) : isDigit c = true :=
  p.digits c (List.mem_append_right _ (List.mem_append_right _ h))

/-- What is made of the parts of a plate has the characters of a plate. -/
theorem plateChar_of_mem {c : Char}
    (h : c ∈ p.two ++ (p.three ++ p.province) ∨ c = p.letter) : PlateChar c := by
  rcases h with hdigit | rfl
  · exact .inl (p.digits c hdigit)
  · exact .inr p.official

/-- The digits of a province, or none. -/
theorem province_cases (p : OcrPlate) : p.province = [] ∨
    ∃ d e, p.province = [d, e] ∧ isDigit d = true ∧ isDigit e = true := by
  rcases p.province_length with hnone | hsome
  · exact .inl (List.length_eq_zero_iff.1 hnone)
  · obtain ⟨d, e, hde⟩ := List.length_eq_two.1 hsome
    have hdigits : ∀ c ∈ [d, e], isDigit c = true := fun c hc => province_digit (hde ▸ hc)
    exact .inr ⟨d, e, hde, hdigits d (by simp), hdigits e (by simp)⟩

/-- A plate text has the form of a plate. -/
theorem plateRe_text (p : OcrPlate) : plateRe p.text = true := by
  obtain ⟨a, b, htwo⟩ := List.length_eq_two.1 p.two_length
  obtain ⟨x, y, z, hthree⟩ := List.length_eq_three.1 p.three_length
  have htwo' : ∀ d ∈ [a, b], isDigit d = true := fun d hd => two_digit (htwo ▸ hd)
  have hthree' : ∀ d ∈ [x, y, z], isDigit d = true := fun d hd => three_digit (hthree ▸ hd)
  have htail := tailMatch_digits ⟨hthree' x (by simp), hthree' y (by simp),
    hthree' z (by simp)⟩ (show [] ∈ [[], "IR".toList] by simp) p.province_cases
  rw [text, htwo, hthree, List.cons_append, List.cons_append, List.nil_append, plateRe,
    htwo' a (by simp), htwo' b (by simp), p.official, Bool.and_self, Bool.and_self, Bool.true_and]
  rw [List.nil_append] at htail
  rw [htail]
  rfl

/-- **What has the form of a plate** is a plate text. -/
theorem exists_plate {t : List Char} (h : ∀ c ∈ t, PlateChar c) (hre : plateRe t = true) :
    ∃ p : OcrPlate, p.text = t := by
  have hI : ¬ PlateChar 'I' := not_plateChar (by decide)
  unfold plateRe at hre
  split at hre
  · rename_i a b c rest
    simp only [Bool.and_eq_true] at hre
    obtain ⟨⟨⟨ha, hb⟩, hc⟩, htail⟩ := hre
    unfold tailMatch at htail
    split at htail
    case h_2 | h_4 => exact absurd (h 'I' (by simp)) hI
    case h_5 => cases htail
    · rename_i x y z
      split at htail
      · rename_i hall
        exact ⟨⟨[a, b], c, [x, y, z], [], by simpa [ha, hb] using hall, hc, rfl, rfl, .inl rfl⟩, rfl⟩
      · cases htail
    · rename_i x y z d e hprovince
      split at htail
      · rename_i hall
        exact ⟨⟨[a, b], c, [x, y, z], [d, e], by simpa [ha, hb, and_assoc] using hall, hc, rfl, rfl,
          .inr rfl⟩, rfl⟩
      · cases htail
  · cases hre

/-! ## Order -/

/-- **A plate text** is in its order. -/
theorem canonicalOrder_text (p : OcrPlate) : canonicalOrder p.text = p.text := by
  obtain ⟨a, b, htwo⟩ := List.length_eq_two.1 p.two_length
  have hthird : (p.text[2]?).any isLetter = true := by
    simp [text, htwo, p.official]
  rw [canonicalOrder, if_pos hthird]

/-- The letter is found between digits. -/
theorem onlyLetter_digits {pre post : List Char} {c : Char} (hc : isLetter c = true)
    (hpre : ∀ d ∈ pre, isDigit d = true) (hpost : ∀ d ∈ post, isDigit d = true) :
    onlyLetter (pre ++ c :: post) = some (pre, c, post) := by
  have hchar {d : Char} (hd : isDigit d = true) : isDigitChar d = true := by
    rw [isDigitChar, hd, Bool.true_or]
  have hstop := (letter_spec hc).1
  have hall : post.all isDigitChar = true := List.all_eq_true.2 fun d hd => hchar (hpost d hd)
  rw [onlyLetter, List.dropWhile_append_of_pos fun d hd => hchar (hpre d hd),
    List.takeWhile_append_of_pos fun d hd => hchar (hpre d hd), List.dropWhile_cons_of_neg (by simp [hstop])]
  simp [hall, hstop]

/-- A text with three digits in front is taken apart at its letter. -/
theorem canonicalOrder_digits {c : Char} {pre post : List Char} (hc : isLetter c = true)
    (hpre : ∀ d ∈ pre, isDigit d = true) (hpost : ∀ d ∈ post, isDigit d = true)
    (hlong : 2 < pre.length) : canonicalOrder (pre ++ c :: post) =
      if (pre ++ c :: post).length = 6 ∧ pre.length = 3 ∧ post.length = 2 then post ++ c :: pre
      else if (pre ++ c :: post).length = 8 ∧ pre.length = 3 ∧ post.length = 4 then
        post.take 2 ++ c :: (pre ++ post.drop 2)
      else if (pre ++ c :: post).length = 8 ∧ pre.length = 5 ∧ post.length = 2 then
        post ++ c :: (pre.drop 2 ++ pre.take 2)
      else pre ++ c :: post := by
  have hthird : ((pre ++ c :: post)[2]?).any isLetter = false := by
    rw [List.getElem?_append_left hlong, List.getElem?_eq_getElem hlong, Option.any_some,
      ← Bool.not_eq_true]
    intro hletter
    have hdigit := hpre _ (List.getElem_mem hlong)
    rw [isDigit_of_isLetter hletter] at hdigit
    cases hdigit
  rw [canonicalOrder, if_neg (by simp [hthird]), onlyLetter_digits hc hpre hpost]

/-- **Scrambled groups** are put in their places. -/
theorem canonicalOrder_scramble {t : List Char} (h : t ∈ p.scrambles) :
    canonicalOrder t = p.text := by
  have htwo := p.two_length
  have hthree := p.three_length
  simp only [scrambles, List.mem_cons, List.not_mem_nil, or_false] at h
  rcases h with rfl | rfl
  · rw [canonicalOrder_digits p.official (fun d => three_digit)
      (fun d hd => (List.mem_append.1 hd).elim two_digit province_digit) (by omega)]
    rcases p.province_length with hnone | hsome
    · simp [text, htwo, hthree, List.length_eq_zero_iff.1 hnone]
    · simp [text, htwo, hthree, hsome]
  · rw [canonicalOrder_digits p.official
      (fun d hd => (List.mem_append.1 hd).elim province_digit three_digit) (fun d => two_digit)
      (by rw [List.length_append]; omega)]
    rcases p.province_length with hnone | hsome
    · simp [text, htwo, hthree, List.length_eq_zero_iff.1 hnone]
    · simp [text, htwo, hthree, hsome]

/-! ## Reading a plate -/

theorem normalize_text (p : OcrPlate) : normalize p.text = p.translated.text := by
  have hletter := (letter_spec p.official).2.1
  rw [normalize_plateChars fun c hc => plateChar_of_mem (p := p) (by
    simpa [text, or_comm, or_assoc, or_left_comm] using hc)]
  simp [text, translated, hletter]

/-- A scramble is one of the translated plate. -/
theorem normalize_scramble {t : List Char} (h : t ∈ p.scrambles) :
    normalize t ∈ p.translated.scrambles := by
  have hletter := (letter_spec p.official).2.1
  have hchars : ∀ c ∈ t, PlateChar c := by
    intro c hc
    refine plateChar_of_mem (p := p) ?_
    simp only [scrambles, List.mem_cons, List.not_mem_nil, or_false] at h
    rcases h with rfl | rfl <;> simp at hc ⊢ <;> tauto
  rw [normalize_plateChars hchars]
  simp only [scrambles, List.mem_cons, List.not_mem_nil, or_false] at h ⊢
  rcases h with rfl | rfl
  · exact .inl (by simp [translated, hletter])
  · exact .inr (by simp [translated, hletter])

/-- The text that `to_system_normalized` spells out. -/
def spelled (p : OcrPlate) : List Char :=
  let plain := p.two ++ [' '] ++ [p.letter] ++ [' '] ++ p.three
  if p.province.isEmpty then plain else plain ++ [' '] ++ country ++ [' '] ++ p.province

/-- What is ordered as a plate is spelled out as that plate. -/
theorem toSystemNormalized_eq {t : List Char} (mode : String)
    (h : canonicalOrder (normalize t) = p.text) :
    toSystemNormalized mode t = normalizePlate mode (String.ofList p.spelled) := by
  have hne : t.isEmpty = false := by
    rw [← Bool.not_eq_true, List.isEmpty_iff]
    rintro rfl
    have hnil : p.text = [] := by rw [← h]; decide
    simp [text] at hnil
  obtain ⟨a, b, htwo⟩ := List.length_eq_two.1 p.two_length
  obtain ⟨x, y, z, hthree⟩ := List.length_eq_three.1 p.three_length
  rw [toSystemNormalized, if_neg (by simp [hne]), h]
  rcases p.province_length with hnone | hsome
  · have hnil := List.length_eq_zero_iff.1 hnone
    simp [text, spelled, htwo, hthree, hnil]
  · obtain ⟨e, f, hprovince⟩ := List.length_eq_two.1 hsome
    simp [text, spelled, htwo, hthree, hprovince]

/-- The characters of a translated plate are clean. -/
theorem cleanChar_translated {c : Char}
    (h : c ∈ p.translated.two ++ (p.translated.three ++ p.translated.province) ∨ c = p.letter) :
    CleanChar c := by
  rcases h with hdigit | rfl
  · simp only [translated, ← List.map_append] at hdigit
    obtain ⟨d, hd, rfl⟩ := List.mem_map.1 hdigit
    exact (digitTrans_spec (p.digits d hd)).2.2.2
  · exact (letter_spec p.official).2.2.2.1

/-- What is left of a spelled plate without the spaces. -/
theorem filter_spelled (p : OcrPlate) : p.translated.spelled.filter (fun c => !isSeparator c) =
    p.translated.two ++ p.letter :: (p.translated.three ++
      ((if p.province.isEmpty then [] else country) ++ p.translated.province)) := by
  have hkept {cs : List Char} (h : ∀ c ∈ cs, CleanChar c) :
      cs.filter (fun c => !isSeparator c) = cs :=
    List.filter_eq_self.2 fun c hc => by simp [(h c hc).kept]
  have htwo := hkept fun c hc => cleanChar_translated (p := p) (.inl (List.mem_append_left _ hc))
  have hthree := hkept fun c hc => cleanChar_translated (p := p)
    (.inl (List.mem_append_right _ (List.mem_append_left _ hc)))
  have hprovince := hkept fun c hc => cleanChar_translated (p := p)
    (.inl (List.mem_append_right _ (List.mem_append_right _ hc)))
  have hletter : isSeparator p.letter = false := (cleanChar_translated (p := p) (.inr rfl)).kept
  have hspace : isSeparator ' ' = true := by decide
  have hcountry : country.filter (fun c => !isSeparator c) = country := by decide
  have hsame : p.translated.province.isEmpty = p.province.isEmpty := by simp [translated]
  have hname : p.translated.letter = p.letter := rfl
  unfold spelled
  rw [hsame, hname]
  dsimp only
  split
  · rename_i hempty
    have hnil : p.translated.province = [] := by
      rw [← hsame] at hempty
      exact List.isEmpty_iff.1 hempty
    simp [htwo, hthree, hletter, hspace, hnil]
  · simp [htwo, hthree, hletter, hspace, hcountry, hprovince]

/-- **The cleaning** of a spelled plate puts IR before the province. -/
theorem cleanText_spelled (p : OcrPlate) : ∃ ir ∈ [[], "IR".toList],
    cleanText p.translated.spelled =
      p.translated.two ++ p.letter :: (p.translated.three ++ (ir ++ p.translated.province)) := by
  have hfiltered : cleanText p.translated.spelled =
      cleanText (p.translated.spelled.filter fun c => !isSeparator c) := by
    rw [cleanText_eq, cleanText_eq, List.filter_filter]
    simp
  have hcountry : ∀ c ∈ country, CleanChar c := by
    have hall : (country.all fun c => !isSeparator c && plateTrans c == c &&
        upperChar c == [c]) = true := by decide
    intro c hc
    have hc := List.all_eq_true.1 hall c hc
    simp only [Bool.and_eq_true, Bool.not_eq_true', beq_iff_eq] at hc
    exact ⟨hc.1.1, hc.1.2, hc.2⟩
  have hplate : ∀ c, c ∈ p.translated.two ++ p.letter :: p.translated.three ∨
      c ∈ p.translated.province → PlateChar c ∧ CleanChar c := by
    intro c hc
    have hpart : c ∈ p.translated.two ++ (p.translated.three ++ p.translated.province) ∨
        c = p.letter := by
      rcases hc with hbody | hprovince
      · rcases List.mem_append.1 hbody with htwo | hrest
        · exact .inl (List.mem_append_left _ htwo)
        · rcases List.mem_cons.1 hrest with hletter | hthree
          · exact .inr hletter
          · exact .inl (List.mem_append_right _ (List.mem_append_left _ hthree))
      · exact .inl (List.mem_append_right _ (List.mem_append_right _ hprovince))
    exact ⟨plateChar_of_mem (p := p.translated) hpart, cleanChar_translated hpart⟩
  have hbody (rest : List Char) : p.translated.two ++ p.letter :: (p.translated.three ++ rest) =
      p.translated.two ++ p.letter :: p.translated.three ++ rest := by simp
  have hnone {c : Char} (hc : (!isDigit c && !isLetter c) = true) :
      c ∉ p.translated.two ++ p.letter :: p.translated.three ∧ c ∉ p.translated.province :=
    ⟨fun h => not_plateChar hc (hplate c (.inl h)).1, fun h => not_plateChar hc (hplate c (.inr h)).1⟩
  obtain ⟨hI, hI'⟩ := hnone (c := 'I') (by decide)
  obtain ⟨halef, halef'⟩ := hnone (c := 'ا') (by decide)
  have hword : (if p.province.isEmpty then [] else country) ∈
      [[], country, "IRAN".toList, "IR".toList] := by
    split <;> simp
  obtain ⟨ir, hir, hreplaced⟩ := replace_countryWord hword hI'
    (hnone (c := 'A') (by decide)).2 halef'
  refine ⟨ir, hir, ?_⟩
  rw [hfiltered, filter_spelled, hbody, hbody, cleanText_cleanChars fun c hc => ?_]
  · have hiran := replace_append_of_notMem (q := "RAN".toList) "IR".toList hI
    have hcountry := replace_append_of_notMem (q := "یران".toList) "IR".toList halef
    rw [show "IRAN".toList = 'I' :: "RAN".toList from rfl, hiran,
      show country = 'ا' :: "یران".toList from rfl, hcountry]
    exact congrArg (_ ++ ·) hreplaced
  · rcases List.mem_append.1 hc with hpart | hrest
    · exact (hplate c (.inl hpart)).2
    · rcases List.mem_append.1 hrest with hwordmem | hprovince
      · split at hwordmem
        · cases hwordmem
        · exact hcountry c hwordmem
      · exact (hplate c (.inr hprovince)).2

/-- **A spelled plate is read** as its groups. -/
theorem plateRegex_spelled (p : OcrPlate) :
    plateRegex (cleanText p.translated.spelled) = some p.translated.groups := by
  obtain ⟨a, b, htwo⟩ := List.length_eq_two.1 p.translated.two_length
  obtain ⟨x, y, z, hthree⟩ := List.length_eq_three.1 p.translated.three_length
  have hdigit {c : Char} (h : c ∈ p.translated.three) : isDigit c = true := three_digit h
  have hprovince := p.translated.province_cases
  obtain ⟨ir, hir, hclean⟩ := p.cleanText_spelled
  have htail := tailMatch_digits (a := x) (b := y) (c := z)
    ⟨hdigit (hthree ▸ by simp), hdigit (hthree ▸ by simp), hdigit (hthree ▸ by simp)⟩ hir hprovince
  rw [← hthree] at htail
  have hletters := lettersMatch_append (c := p.letter) (List.forall_mem_nil _) htail
  have ha : isDigit a = true := two_digit (p := p.translated) (htwo ▸ by simp)
  have hb : isDigit b = true := two_digit (p := p.translated) (htwo ▸ by simp)
  rw [hclean, htwo, List.cons_append, List.cons_append, List.nil_append, plateRegex, ha, hb]
  rw [List.nil_append] at hletters
  rw [hletters, groups, htwo]
  rfl

/-- **A plate that is ordered** has its key. -/
theorem toSystemNormalized_key {t : List Char} (mode : String)
    (h : canonicalOrder (normalize t) = p.translated.text) :
    toSystemNormalized mode t = some (p.key mode) := by
  have hread := p.plateRegex_spelled
  rw [← String.toList_ofList (l := p.translated.spelled)] at hread
  rw [toSystemNormalized_eq mode h, normalizePlate_of_read hread]
  rfl

/-! ## Keys -/

/-- The official letters have codes of one or two letters. -/
theorem letter_code (p : OcrPlate) (mode : String) : ∃ code,
    (getLetterMap mode).lookup p.letter = some code ∧ (code.toList.length = 1 ∨ code.toList.length = 2) ∧
      mapLetters (getLetterMap mode) [p.letter] = code.toList := by
  have htables : ∀ table ∈ [uniqueLetterMap, letterMap], (officialLetters.all fun c =>
      (table.lookup c).any fun code =>
        code.toList.length == 1 || code.toList.length == 2) = true := by decide
  have hmode : getLetterMap mode ∈ [uniqueLetterMap, letterMap] := by
    unfold getLetterMap
    split <;> simp
  have hmem : p.letter ∈ officialLetters := by simpa [isLetter] using p.official
  obtain ⟨code, hcode, hlength⟩ := (Option.any_eq_true ..).1
    (List.all_eq_true.1 (htables _ hmode) p.letter hmem)
  rw [Bool.or_eq_true, beq_iff_eq, beq_iff_eq] at hlength
  refine ⟨code, hcode, hlength, ?_⟩
  have hsingle : [p.letter].flatMap (charCode (getLetterMap mode)) = code.toList := by
    simp [charCode, hcode]
  rw [mapLetters_eq, hsingle, if_neg]
  rw [List.isEmpty_iff]
  intro hnil
  rw [hnil] at hlength
  simp at hlength

theorem keyParts (p : OcrPlate) (mode : String) :
    KeyParts (keyGroups mode p.translated.groups) := keyParts_keyGroups p.plateRegex_spelled

/-- A key has the groups it was made of. -/
theorem key_injective {p q : OcrPlate} {mode : String} (h : p.key mode = q.key mode) :
    p.translated.two = q.translated.two ∧ p.translated.three = q.translated.three ∧
      p.translated.province = q.translated.province ∧
        (getLetterMap mode).lookup p.letter = (getLetterMap mode).lookup q.letter := by
  have htext := String.ofList_injective h
  have hgroups : keyGroups mode p.translated.groups = keyGroups mode q.translated.groups := by
    have hp := plateRegex_keyText (p.keyParts mode)
    rw [htext, plateRegex_keyText (q.keyParts mode)] at hp
    exact (Option.some.inj hp).symm
  have hletters : mapLetters (getLetterMap mode) [p.letter] =
      mapLetters (getLetterMap mode) [q.letter] := congrArg Groups.letters hgroups
  obtain ⟨code, hcode, -, hmapped⟩ := p.letter_code mode
  obtain ⟨code', hcode', -, hmapped'⟩ := q.letter_code mode
  rw [hmapped, hmapped'] at hletters
  refine ⟨congrArg Groups.twoDigits hgroups, congrArg Groups.threeDigits hgroups, ?_, ?_⟩
  · have hprovince := congrArg Groups.province hgroups
    simp only [keyGroups, groups] at hprovince
    split at hprovince <;> split at hprovince <;> simp_all
  · rw [hcode, hcode', String.toList_inj.1 hletters]

/-- **Plate texts in the system**: a plate text of the reader gets a valid key, under either
mapping, which tells its digits and the code of its letter; its scrambles get the same key, and its
order is left alone. -/
theorem toSystemNormalized_plate (p : OcrPlate) (mode : String) :
    ∃ key, toSystemNormalized mode p.text = some key ∧ isValidIranianPlate key = true ∧
      (∀ q : OcrPlate, toSystemNormalized mode q.text = some key →
        p.translated.two = q.translated.two ∧ p.translated.three = q.translated.three ∧
          p.translated.province = q.translated.province ∧
            (getLetterMap mode).lookup p.letter = (getLetterMap mode).lookup q.letter) ∧
      (∀ t ∈ p.scrambles, toSystemNormalized mode t = some key) ∧
      canonicalOrder p.text = p.text := by
  have hkey (q : OcrPlate) : toSystemNormalized mode q.text = some (q.key mode) :=
    toSystemNormalized_key mode (by rw [normalize_text, canonicalOrder_text])
  refine ⟨p.key mode, hkey p, ?_, fun q hq => ?_, fun t ht => ?_, canonicalOrder_text p⟩
  · obtain ⟨code, -, hlength, hmapped⟩ := p.letter_code mode
    have hletters : (keyGroups mode p.translated.groups).letters = code.toList := hmapped
    rw [key, isValidIranianPlate_keyText (p.keyParts mode), hletters]
    exact hlength
  · rw [hkey q] at hq
    exact key_injective (Option.some.inj hq).symm
  · exact toSystemNormalized_key mode (canonicalOrder_scramble (normalize_scramble ht))

end OcrPlate

end ParkingSystem.PlateText
