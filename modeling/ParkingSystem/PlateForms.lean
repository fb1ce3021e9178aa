import ParkingSystem.Agent.Plate
import ParkingSystem.Registry.PlateLetters

/-!
# Canonical Plate Keys

A key is canonical when every text that is read has a well-formed key, and the ways to write one
plate are all read as one key.

## Where it fails

* The letter part of a text may be anything. A key has as many letters as the codes of its
  characters together, and the pattern of a valid plate allows two.
* The input form writes alef with its name. The name is three letters, each with a code of its
  own, so it is neither a valid key nor the key of the single letter.
-/

namespace ParkingSystem

open Plate PyText

/-! ## Valid plates -/

/-- `is_valid_iranian_plate`; its pattern is the one of a key, without the groups. -/
def isValidIranianPlate (normalized : String) : Bool :=
  if normalized = "" then false else (normalizedParts normalized.toList).isSome

/-- What a character of the letter part becomes in a key. -/
def charCode (table : List (Char × String)) (c : Char) : List Char :=
  match table.lookup c with
  | some code => code.toList
  | none => if c.isAlpha then [c] else []

/-- A letter part becomes what its characters become, or X where that is nothing. -/
theorem mapLetters_eq (table : List (Char × String)) (letters : List Char) :
    mapLetters table letters =
      if (letters.flatMap (charCode table)).isEmpty then ['X']
      else letters.flatMap (charCode table) := rfl

/-- How many letters of a key a character of the letter part is worth. -/
def letterWeight (mode : String) (c : Char) : ℕ := (charCode (getLetterMap mode) c).length

/-- The part of a text that is read as the letter of the plate. -/
def letterPart (raw : String) : List Char :=
  ((plateRegex (cleanText raw.toList)).map Groups.letters).getD []

/-- The letters of a key under a mapping. -/
def keyGroups (mode : String) (g : Groups) : Groups :=
  { g with letters := mapLetters (getLetterMap mode) g.letters }

/-- A plate that is read has the key of its parts. -/
theorem normalizePlate_eq_some {mode raw plate : String} (h : normalizePlate mode raw = some plate) :
    ∃ g, plateRegex (cleanText raw.toList) = some g ∧
      plate = String.ofList (keyText (keyGroups mode g)) := by
  unfold normalizePlate at h
  split at h
  · cases h
  · obtain ⟨g, hg, h⟩ := Option.bind_eq_some_iff.1 h
    refine ⟨g, hg, ?_⟩
    rw [← Option.some.inj h]
    rfl

/-- What the pattern reads has a key. -/
theorem normalizePlate_of_read {mode raw : String} {g : Groups}
    (h : plateRegex (cleanText raw.toList) = some g) :
    normalizePlate mode raw = some (String.ofList (keyText (keyGroups mode g))) := by
  unfold normalizePlate
  split
  · rename_i hempty
    have hnil : cleanText raw.toList = [] := by
      unfold cleanText
      rw [List.isEmpty_iff.1 hempty]
      rfl
    rw [hnil] at h
    cases h
  · rw [h]
    rfl

/-! ## What is read -/

theorem tailMatch_groups {text three : List Char} {province : Option (List Char)}
    (h : tailMatch text = some (three, province)) :
    (∃ x y z, three = [x, y, z] ∧ isDigit x = true ∧ isDigit y = true ∧ isDigit z = true) ∧
      (province = none ∨ ∃ d e, province = some [d, e] ∧ isDigit d = true ∧ isDigit e = true) := by
  unfold tailMatch at h
  split at h
  all_goals first
    | cases h
    | split at h
      · rename_i hdigits
        cases h
        simp only [List.all_cons, List.all_nil, Bool.and_true, Bool.and_eq_true] at hdigits
        simp [hdigits]
      · cases h

/-- A tail follows the letter part. -/
theorem lettersMatch_groups {text letters : List Char} {t : List Char × Option (List Char)}
    (h : lettersMatch text = some (letters, t)) :
    ∃ rest, text = letters ++ rest ∧ tailMatch rest = some t := by
  induction text generalizing letters with
  | nil => cases h
  | cons d ds ih =>
    rcases lettersMatch_cons_iff.1 h with ⟨htail, rfl⟩ | ⟨-, ls, hls, rfl⟩
    · exact ⟨ds, rfl, htail⟩
    · obtain ⟨rest, hrest, htail⟩ := ih hls
      exact ⟨rest, congrArg (d :: ·) hrest, htail⟩

/-- The groups of the pattern. -/
theorem plateRegex_groups {text : List Char} {g : Groups} (h : plateRegex text = some g) :
    (∃ a b, g.twoDigits = [a, b] ∧ isDigit a = true ∧ isDigit b = true) ∧
      (∃ x y z, g.threeDigits = [x, y, z] ∧ isDigit x = true ∧ isDigit y = true ∧
        isDigit z = true) ∧
      (g.province = none ∨
        ∃ d e, g.province = some [d, e] ∧ isDigit d = true ∧ isDigit e = true) ∧
      ∀ c ∈ g.letters, c ∈ text := by
  unfold plateRegex at h
  split at h
  · rename_i a b rest
    split at h
    · rename_i htwo
      obtain ⟨⟨letters, three, province⟩, hletters, rfl⟩ := Option.map_eq_some_iff.1 h
      obtain ⟨after, hafter, htail⟩ := lettersMatch_groups hletters
      obtain ⟨hthree, hprovince⟩ := tailMatch_groups htail
      exact ⟨⟨a, b, rfl, Bool.and_eq_true_iff.1 htwo⟩, hthree, hprovince,
        fun c hc => by simp [hafter, hc]⟩
    · cases h
  · cases h

theorem mem_of_tailMatch {text : List Char} {t : List Char × Option (List Char)}
    (h : tailMatch text = some t) : ∀ c ∈ t.1 ++ t.2.getD [], c ∈ text := by
  unfold tailMatch at h
  split at h
  all_goals first
    | cases h
    | split at h
      · cases h
        simp
      · cases h

/-- The digits of the groups are characters of the text. -/
theorem mem_of_plateRegex {text : List Char} {g : Groups} (h : plateRegex text = some g) :
    ∀ c ∈ g.twoDigits ++ (g.threeDigits ++ g.province.getD []), c ∈ text := by
  unfold plateRegex at h
  split at h
  · split at h
    · obtain ⟨⟨letters, t⟩, hletters, rfl⟩ := Option.map_eq_some_iff.1 h
      obtain ⟨after, rfl, htail⟩ := lettersMatch_groups hletters
      intro c hc
      rcases List.mem_append.1 hc with htwo | hrest
      · exact List.mem_append_left (letters ++ after) htwo
      · exact List.mem_cons_of_mem _ (List.mem_cons_of_mem _
          (List.mem_append_right _ (mem_of_tailMatch htail c hrest)))
    · cases h
  · cases h

/-! ## The letters of a key -/

theorem isUpperAscii_toUpper {c : Char} (h : c.isLower = true) : isUpperAscii c.toUpper = true := by
  have hrange : (decide (c.val ≥ 97) && decide (c.val ≤ 122)) = true := h
  have hle : c.val ≤ 122 := of_decide_eq_true (Bool.and_eq_true_iff.1 hrange).2
  have hge : 97 ≤ c.val := of_decide_eq_true (Bool.and_eq_true_iff.1 hrange).1
  have hall : ∀ n < 123, 97 ≤ n → isUpperAscii (Char.ofNat n).toUpper = true := by decide
  have hc := hall c.toNat (Nat.lt_succ_of_le (UInt32.le_iff_toNat_le.1 hle))
    (UInt32.le_iff_toNat_le.1 hge)
  rwa [Char.ofNat_toNat] at hc

/-- An ASCII letter of an upper-cased text is an upper-case letter. -/
theorem isUpperAscii_of_mem_upper {c : Char} {cs : List Char} (h : c ∈ upper cs)
    (halpha : c.isAlpha = true) : isUpperAscii c = true := by
  obtain ⟨d, -, hc⟩ := List.mem_flatMap.1 h
  have hall (ds : List Char) (hds : (ds.all fun e => !e.isAlpha || isUpperAscii e) = true)
      (hmem : c ∈ ds) : isUpperAscii c = true := by
    simpa [halpha] using List.all_eq_true.1 hds c hmem
  unfold upperChar at hc
  split at hc
  · rename_i hlower
    rw [List.mem_singleton.1 hc]
    exact isUpperAscii_toUpper hlower
  · rename_i hlower
    split at hc
    -- the expansions of one character, and a character that stays
    case h_18 =>
      obtain rfl := List.mem_singleton.1 hc
      exact isUpperAscii_iff.2 ((Bool.or_eq_true_iff.1 halpha).resolve_right hlower)
    all_goals exact hall _ (by decide) hc

theorem mem_of_mem_replace {pat : List Char} (hpat : pat ≠ []) {rep : List Char} {c : Char}
    {text : List Char} (h : c ∈ replace pat rep text) : c ∈ rep ∨ c ∈ text := by
  induction text using replace_induction hpat with
  | nil => exact .inr h
  | found rest ih =>
    rw [replace_append hpat] at h
    rcases List.mem_append.1 h with hrep | hrest
    · exact .inl hrep
    · exact (ih hrest).imp_right (List.mem_append_right _)
  | kept d cs hstarts ih =>
    rw [replace_cons rep hstarts] at h
    rcases List.mem_cons.1 h with rfl | hcs
    · exact .inr List.mem_cons_self
    · exact (ih hcs).imp_right (List.mem_cons_of_mem _)

/-- The ASCII letters of a cleaned text are upper-case letters. -/
theorem isUpperAscii_of_mem_cleanText {c : Char} {raw : List Char} (h : c ∈ cleanText raw)
    (halpha : c.isAlpha = true) : isUpperAscii c = true := by
  have hIR : "IR".toList.all isUpperAscii = true := by decide
  rcases mem_of_mem_replace (by decide) h with hrep | htext
  · exact List.all_eq_true.1 hIR c hrep
  · rcases mem_of_mem_replace (by decide) htext with hrep | htext
    · exact List.all_eq_true.1 hIR c hrep
    · exact isUpperAscii_of_mem_upper (List.mem_filter.1 htext).1 halpha

/-- The letters of a key are upper-case letters. -/
theorem isUpperAscii_mapLetters {mode : String} {letters raw : List Char}
    (h : ∀ c ∈ letters, c ∈ cleanText raw) :
    ∀ c ∈ mapLetters (getLetterMap mode) letters, isUpperAscii c = true := by
  have hcode : ∀ c ∈ letters.flatMap (charCode (getLetterMap mode)), isUpperAscii c = true := by
    intro c hc
    obtain ⟨d, hd, hc⟩ := List.mem_flatMap.1 hc
    unfold charCode at hc
    split at hc
    · rename_i code hlookup
      obtain ⟨l, hl, hone | ⟨m, hm, htwo⟩⟩ := isLetterCode_iff.1 (code_letters hlookup)
      · rw [hone] at hc
        rw [List.mem_singleton.1 hc]
        exact hl
      · rw [htwo] at hc
        rcases List.mem_cons.1 hc with rfl | hc
        · exact hl
        · rw [List.mem_singleton.1 hc]
          exact hm
    · split at hc
      · rename_i halpha
        rw [List.mem_singleton.1 hc]
        exact isUpperAscii_of_mem_cleanText (h d hd) halpha
      · cases hc
  rw [mapLetters_eq]
  split
  · exact List.all_eq_true.1 (by decide : ['X'].all isUpperAscii = true)
  · exact hcode

/-- A key has a letter for each letter its text is worth, and one where that is none. -/
theorem length_mapLetters (mode : String) (letters : List Char) :
    (mapLetters (getLetterMap mode) letters).length =
      max 1 (letters.map (letterWeight mode)).sum := by
  have hsum : (letters.flatMap (charCode (getLetterMap mode))).length =
      (letters.map (letterWeight mode)).sum := List.length_flatMap
  rw [mapLetters_eq, ← hsum]
  split
  · rename_i hempty
    rw [List.isEmpty_iff.1 hempty]
    rfl
  · rename_i hempty
    have hpos := List.length_pos_iff.2 (mt List.isEmpty_iff.2 hempty)
    omega

/-! ## When a key is valid -/

/-- What a text that is read becomes: the parts of a key, with as many letters as it takes. -/
structure KeyParts (g : Groups) : Prop where
  two : ∃ a b, g.twoDigits = [a, b] ∧ isDigit a = true ∧ isDigit b = true
  ne_nil : g.letters ≠ []
  upper : ∀ c ∈ g.letters, isUpperAscii c = true
  three : ∃ x y z, g.threeDigits = [x, y, z] ∧ isDigit x = true ∧ isDigit y = true ∧
    isDigit z = true
  province : g.province = none ∨
    ∃ d e, g.province = some [d, e] ∧ isDigit d = true ∧ isDigit e = true

/-- A text that is read has the parts of a key. -/
theorem keyParts_keyGroups {mode : String} {raw : List Char} {g : Groups}
    (h : plateRegex (cleanText raw) = some g) : KeyParts (keyGroups mode g) := by
  obtain ⟨htwo, hthree, hprovince, hmem⟩ := plateRegex_groups h
  have hlength : 0 < (mapLetters (getLetterMap mode) g.letters).length := by
    rw [length_mapLetters]
    omega
  exact ⟨htwo, List.length_pos_iff.1 hlength, isUpperAscii_mapLetters hmem, hthree, hprovince⟩

/-- The letters of a key are all that stands before its first letterless place. -/
theorem takeWhile_keyText {letters three : List Char} {province : Option (List Char)}
    (hletters : ∀ c ∈ letters, isUpperAscii c = true)
    (hthree : ∃ x y z, three = [x, y, z] ∧ isDigit x = true ∧ isDigit y = true ∧
      isDigit z = true) :
    (letters ++ (three ++ provinceText province)).takeWhile isUpperAscii = letters := by
  obtain ⟨x, y, z, rfl, hx, -, -⟩ := hthree
  rw [List.takeWhile_append_of_pos hletters, List.cons_append, List.takeWhile_cons,
    isUpperAscii_of_isDigit hx]
  simp

/-- **A key is valid** exactly where it has one or two letters. -/
theorem isValidIranianPlate_keyText {g : Groups} (h : KeyParts g) :
    isValidIranianPlate (String.ofList (keyText g)) = true ↔
      g.letters.length = 1 ∨ g.letters.length = 2 := by
  obtain ⟨⟨a, b, hab, ha, hb⟩, -, hletters, hthree, hprovince⟩ := h
  have hne : String.ofList (keyText g) ≠ "" := by
    intro hempty
    have hnil := congrArg String.toList hempty
    simp [keyText, hab] at hnil
  rw [isValidIranianPlate, if_neg hne, String.toList_ofList, Option.isSome_iff_exists]
  constructor
  · rintro ⟨g', hg'⟩
    obtain ⟨hkey, htext⟩ := normalizedParts_iff.1 hg'
    obtain ⟨a', b', hab', -, -⟩ := hkey.two
    obtain ⟨l, hl, hform⟩ := hkey.letters
    have hletters' : ∀ c ∈ g'.letters, isUpperAscii c = true := by
      rcases hform with hone | ⟨m, hm, hboth⟩
      · simp [hone, hl]
      · simp [hboth, hl, hm]
    rw [dropLineEnd_keyText hthree hprovince, keyText, keyText, hab, hab'] at htext
    simp only [List.cons_append, List.nil_append, List.append_assoc, List.cons.injEq] at htext
    have hsame := congrArg (List.takeWhile isUpperAscii) htext.2.2
    rw [takeWhile_keyText hletters hthree, takeWhile_keyText hletters' hkey.three] at hsame
    rcases hform with hone | ⟨m, hm, hboth⟩
    · exact .inl (by rw [hsame, hone]; rfl)
    · exact .inr (by rw [hsame, hboth]; rfl)
  · intro hlength
    have hform : ∃ l, isUpperAscii l = true ∧
        (g.letters = [l] ∨ ∃ m, isUpperAscii m = true ∧ g.letters = [l, m]) := by
      rcases hlength with hone | htwo
      · obtain ⟨l, hl⟩ := List.length_eq_one_iff.1 hone
        exact ⟨l, hletters l (by simp [hl]), .inl hl⟩
      · obtain ⟨l, m, hboth⟩ := List.length_eq_two.1 htwo
        exact ⟨l, hletters l (by simp [hboth]), .inr ⟨m, hletters m (by simp [hboth]), hboth⟩⟩
    exact ⟨g, normalizedParts_keyText ⟨⟨a, b, hab, ha, hb⟩, hform, hthree, hprovince⟩⟩

/-- **Valid keys**: what a text is read as is a valid plate exactly where its letter part is worth
two letters at most. -/
theorem valid_iff_weight {mode raw plate : String} (h : normalizePlate mode raw = some plate) :
    isValidIranianPlate plate = true ↔ ((letterPart raw).map (letterWeight mode)).sum ≤ 2 := by
  obtain ⟨g, hg, rfl⟩ := normalizePlate_eq_some h
  have hpart : letterPart raw = g.letters := by simp [letterPart, hg]
  rw [isValidIranianPlate_keyText (keyParts_keyGroups hg), hpart]
  have hlength : (keyGroups mode g).letters.length =
      max 1 (g.letters.map (letterWeight mode)).sum := length_mapLetters mode g.letters
  omega

/-! ## Spellings -/

/-- `PLATE_LETTERS`: a letter of a plate, and what the input form writes for it. -/
def plateLetters : List (Char × String) :=
  [('ا', "الف"), ('ب', "ب"), ('پ', "پ"), ('ت', "ت"), ('ث', "ث"), ('ج', "ج"), ('د', "د"), ('ز', "ز"),
    ('س', "س"), ('ص', "ص"), ('ط', "ط"), ('ع', "ع"), ('ف', "ف"), ('ق', "ق"), ('ک', "ک"), ('گ', "گ"),
    ('ل', "ل"), ('م', "م"), ('ن', "ن"), ('و', "و"), ('ه', "هـ"), ('ی', "ی")]

/-- The ways to write the country, and to leave it out. -/
def countryWords : List String := ["", "ایران", "IRAN", "Iran", "iran", "IR", "Ir", "ir"]

/-- A plate of the input form; the province may be missing. -/
structure FormPlate where
  two : List (Fin 10)
  letter : Char × String
  three : List (Fin 10)
  province : List (Fin 10)
  offered : letter ∈ plateLetters
  two_length : two.length = 2
  three_length : three.length = 3
  province_length : province.length = 0 ∨ province.length = 2

/-- The Latin digit. -/
def latinDigit (d : Fin 10) : Char := Char.ofNat (0x30 + d)

/-- A digit written in Latin, Arabic or Persian. -/
def WritesDigit (d : Fin 10) (c : Char) : Prop :=
  c ∈ [latinDigit d, Char.ofNat (0x660 + d), Char.ofNat (0x6F0 + d)]

instance (d : Fin 10) (c : Char) : Decidable (WritesDigit d c) :=
  inferInstanceAs (Decidable (c ∈ _))

/-- The letter of a plate as a single letter, or as the form writes it. -/
def FormPlate.letterText (p : FormPlate) (asForm : Bool) : List Char :=
  if asForm then p.letter.2.toList else [p.letter.1]

/-- A text that spells a plate: apart from separators, which may stand anywhere, its digits, its
letter, a word for the country or none, and the province. -/
structure Spells (p : FormPlate) (asForm : Bool) (raw : String) : Prop where
  parts : ∃ two three province : List Char, ∃ word ∈ countryWords,
    List.Forall₂ WritesDigit p.two two ∧ List.Forall₂ WritesDigit p.three three ∧
      List.Forall₂ WritesDigit p.province province ∧
      (raw.toList.filter fun c => !isSeparator c) =
        two ++ p.letterText asForm ++ three ++ word.toList ++ province

/-! ## Cleaning a spelling -/

/-- The separators that `str.strip` removes are removed anyway. -/
theorem filter_strip (raw : List Char) :
    (strip raw).filter (fun c => !isSeparator c) = raw.filter fun c => !isSeparator c := by
  have hdrop (cs : List Char) : (cs.dropWhile isSpace).filter (fun c => !isSeparator c) =
      cs.filter fun c => !isSeparator c := by
    induction cs with
    | nil => rfl
    | cons c cs ih =>
      cases hspace : isSpace c with
      | false => rw [List.dropWhile_cons_of_neg (by simp [hspace])]
      | true =>
        have hseparator : isSeparator c = true := by simp [isSeparator, hspace]
        rw [List.dropWhile_cons_of_pos hspace, ih, List.filter_cons_of_neg (by simp [hseparator])]
  rw [strip, List.filter_reverse, hdrop, List.filter_reverse, List.reverse_reverse, hdrop]

theorem isSeparator_digitTrans (c : Char) : isSeparator (digitTrans c) = isSeparator c := by
  have hdigits : ∀ k < 10, isSeparator (Char.ofNat (0x6F0 + k)) = false ∧
      isSeparator (Char.ofNat (0x660 + k)) = false ∧
      isSeparator (Char.ofNat (k + 0x30)) = false := by decide
  have hblock (z : ℕ) (h : z ≤ c.toNat ∧ c.toNat ≤ z + 9) :
      ∃ k < 10, c = Char.ofNat (z + k) ∧ c.toNat - z = k :=
    ⟨c.toNat - z, by omega, by rw [Nat.add_sub_cancel' h.1, Char.ofNat_toNat], rfl⟩
  unfold digitTrans
  dsimp only
  split
  · obtain ⟨k, hk, hc, hvalue⟩ := hblock 0x6F0 (by assumption)
    rw [hvalue, (hdigits k hk).2.2, hc, (hdigits k hk).1]
  · split
    · obtain ⟨k, hk, hc, hvalue⟩ := hblock 0x660 (by assumption)
      rw [hvalue, (hdigits k hk).2.2, hc, (hdigits k hk).2.1]
    · rfl

/-- Upper case makes no separator, and loses none. -/
theorem filter_upperChar (c : Char) : (upperChar c).filter (fun c => !isSeparator c) =
    if isSeparator c then [] else upperChar c := by
  unfold upperChar
  split
  · rename_i hlower
    have hrange : (decide (c.val ≥ 97) && decide (c.val ≤ 122)) = true := hlower
    have hle : c.val ≤ 122 := of_decide_eq_true (Bool.and_eq_true_iff.1 hrange).2
    have hge : 97 ≤ c.val := of_decide_eq_true (Bool.and_eq_true_iff.1 hrange).1
    have hall : ∀ n < 123, 97 ≤ n → isSeparator (Char.ofNat n) = false ∧
        isSeparator (Char.ofNat n).toUpper = false := by decide
    have hc := hall c.toNat (Nat.lt_succ_of_le (UInt32.le_iff_toNat_le.1 hle))
      (UInt32.le_iff_toNat_le.1 hge)
    rw [Char.ofNat_toNat] at hc
    simp [hc]
  · split
    case h_18 => cases hc : isSeparator c <;> simp [hc]
    all_goals
      rename_i hc
      have hchar := congrArg Char.ofNat hc
      rw [Char.ofNat_toNat] at hchar
      rw [hchar]
      decide

theorem filter_upper (cs : List Char) : (upper cs).filter (fun c => !isSeparator c) =
    upper (cs.filter fun c => !isSeparator c) := by
  induction cs with
  | nil => rfl
  | cons c cs ih =>
    have hcons (d : Char) (ds : List Char) : upper (d :: ds) = upperChar d ++ upper ds := rfl
    rw [hcons, List.filter_append, filter_upperChar, ih]
    cases hc : isSeparator c with
    | true => simp [hc]
    | false => simp [hc, hcons]

/-- The translation of the digits and of the Arabic letters. -/
def plateTrans (c : Char) : Char := arabicLetterTrans (digitTrans c)

/-- Where the separators are does not matter. -/
theorem cleanText_eq (raw : List Char) : cleanText raw =
    replace country "IR".toList (replace "IRAN".toList "IR".toList
      (upper ((raw.filter fun c => !isSeparator c).map plateTrans))) := by
  have htrans (cs : List Char) : (cs.map plateTrans).filter (fun c => !isSeparator c) =
      (cs.filter fun c => !isSeparator c).map plateTrans := by
    rw [List.filter_map]
    refine congrArg (List.map plateTrans) (List.filter_congr fun c _ => ?_)
    simp [plateTrans, isSeparator_arabicLetterTrans, isSeparator_digitTrans]
  rw [← filter_strip, ← htrans, ← filter_upper]
  rfl

/-! ## Reading a spelling -/

theorem upper_append (cs ds : List Char) : upper (cs ++ ds) = upper cs ++ upper ds :=
  List.flatMap_append

/-- Digits become Latin digits. -/
theorem upper_digits {ds : List (Fin 10)} {cs : List Char} (h : List.Forall₂ WritesDigit ds cs) :
    upper (cs.map plateTrans) = ds.map latinDigit := by
  have hdigit : ∀ d : Fin 10,
      ([latinDigit d, Char.ofNat (0x660 + d), Char.ofNat (0x6F0 + d)].all fun c =>
        upperChar (plateTrans c) == [latinDigit d]) = true := by decide
  induction h with
  | nil => rfl
  | cons hd _ ih =>
    rw [List.map_cons, List.map_cons, ← ih]
    exact congrArg (· ++ _) (beq_iff_eq.1 (List.all_eq_true.1 (hdigit _) _ hd))

theorem upper_countryWord {word : String} (h : word ∈ countryWords) :
    upper (word.toList.map plateTrans) ∈ [[], country, "IRAN".toList, "IR".toList] := by
  revert word
  decide

/-- Where no occurrence starts, a text stays. -/
theorem replace_append_of_notMem {p : Char} {q : List Char} (rep : List Char) {t : List Char}
    (h : p ∉ t) (rest : List Char) :
    replace (p :: q) rep (t ++ rest) = t ++ replace (p :: q) rep rest := by
  induction t with
  | nil => rfl
  | cons c t ih =>
    have hne : ¬ p :: q <+: c :: (t ++ rest) := by
      rw [List.cons_prefix_cons]
      exact fun hstarts => h (hstarts.1 ▸ List.mem_cons_self)
    rw [List.cons_append, replace_cons rep hne, ih fun hp => h (List.mem_cons_of_mem _ hp)]
    rfl

/-- Every word for the country becomes IR, or is missing. -/
theorem replace_countryWord {word digits : List Char}
    (h : word ∈ [[], country, "IRAN".toList, "IR".toList]) (hI : 'I' ∉ digits)
    (hA : 'A' ∉ digits) (halef : 'ا' ∉ digits) :
    ∃ ir ∈ [[], "IR".toList],
      replace country "IR".toList (replace "IRAN".toList "IR".toList (word ++ digits)) =
        ir ++ digits := by
  have hiran : replace "IRAN".toList "IR".toList digits = digits := by
    have hkept := replace_append_of_notMem (q := "RAN".toList) "IR".toList hI []
    rw [List.append_nil] at hkept
    exact hkept.trans (List.append_nil _)
  have hcountry : replace country "IR".toList digits = digits := by
    have hkept := replace_append_of_notMem (q := "یران".toList) "IR".toList halef []
    rw [List.append_nil] at hkept
    exact hkept.trans (List.append_nil _)
  have hshort : replace country "IR".toList ("IR".toList ++ digits) = "IR".toList ++ digits := by
    have hkept := replace_append_of_notMem (p := 'ا') (q := "یران".toList) "IR".toList
      (t := "IR".toList) (by decide) digits
    exact hkept.trans (congrArg ("IR".toList ++ ·) hcountry)
  simp only [List.mem_cons, List.not_mem_nil, or_false] at h
  rcases h with rfl | rfl | rfl | rfl
  · exact ⟨[], by simp, by rw [List.nil_append, hiran, hcountry]⟩
  · refine ⟨"IR".toList, by simp, ?_⟩
    have hkept := replace_append_of_notMem (p := 'I') (q := "RAN".toList) "IR".toList
      (t := country) (by decide) digits
    rw [show "IRAN".toList = 'I' :: "RAN".toList from rfl, hkept,
      show 'I' :: "RAN".toList = "IRAN".toList from rfl, hiran, replace_append (by decide), hcountry]
  · refine ⟨"IR".toList, by simp, ?_⟩
    rw [replace_append (by decide), hiran, hshort]
  · refine ⟨"IR".toList, by simp, ?_⟩
    -- IR is not the start of IRAN, since no A follows
    have hstarts : ¬ "IRAN".toList <+: 'I' :: 'R' :: digits := by
      intro h
      have htail : "AN".toList <+: digits := by
        rw [show "IRAN".toList = 'I' :: 'R' :: "AN".toList from rfl, List.cons_prefix_cons,
          List.cons_prefix_cons] at h
        exact h.2.2
      exact hA (htail.subset (by decide))
    have hkept : replace "IRAN".toList "IR".toList ("IR".toList ++ digits) =
        "IR".toList ++ digits := by
      rw [show "IR".toList ++ digits = 'I' :: 'R' :: digits from rfl, replace_cons _ hstarts,
        replace_cons _ (by simp [List.cons_prefix_cons]), hiran]
    rw [hkept, hshort]

/-- A letter part with no digit after its first character is read whole. -/
theorem lettersMatch_append {c : Char} {cs tail : List Char} {t : List Char × Option (List Char)}
    (hcs : ∀ d ∈ cs, isDigit d = false) (htail : tailMatch tail = some t) :
    lettersMatch (c :: (cs ++ tail)) = some (c :: cs, t) := by
  induction cs generalizing c with
  | nil => exact lettersMatch_cons_iff.2 (.inl ⟨htail, rfl⟩)
  | cons d ds ih =>
    have hnone : tailMatch (d :: ds ++ tail) = none :=
      tailMatch_none_of_digits (by
        rintro a b e rest hrest
        obtain rfl : d = a := (List.cons.inj hrest).1
        simp [hcs d List.mem_cons_self])
    exact lettersMatch_cons_iff.2 (.inr ⟨hnone, d :: ds,
      ih fun e he => hcs e (List.mem_cons_of_mem _ he), rfl⟩)

/-- A tail of digits, with IR before the province or not. -/
theorem tailMatch_digits {a b c : Char} {ir province : List Char}
    (hthree : isDigit a = true ∧ isDigit b = true ∧ isDigit c = true)
    (hir : ir ∈ [[], "IR".toList])
    (hprovince : province = [] ∨
      ∃ d e, province = [d, e] ∧ isDigit d = true ∧ isDigit e = true) :
    tailMatch ([a, b, c] ++ (ir ++ province)) =
      some ([a, b, c], if province.isEmpty then none else some province) := by
  obtain ⟨ha, hb, hc⟩ := hthree
  simp only [List.mem_cons, List.not_mem_nil, or_false] at hir
  rcases hir with rfl | rfl
  · rcases hprovince with rfl | ⟨d, e, rfl, hd, he⟩
    · simp [tailMatch, ha, hb, hc]
    · have hI : d ≠ 'I' := by
        rintro rfl
        revert hd
        decide
      show tailMatch [a, b, c, d, e] = _
      unfold tailMatch
      split
      case h_5 hfive _ => exact absurd rfl (hfive a b c d e)
      all_goals simp_all
  · rcases hprovince with rfl | ⟨d, e, rfl, hd, he⟩
    · simp [tailMatch, ha, hb, hc]
    · simp [tailMatch, ha, hb, hc, hd, he]

/-- A letter part that the cleaning leaves as it is and the pattern reads whole: it starts no word
for the country, and no digit follows its first character. -/
structure KeptLetters (letters : List Char) : Prop where
  upper_eq : upper (letters.map plateTrans) = letters
  noI : 'I' ∉ letters
  country_eq : ∀ d, d ≠ 'ی' → ∀ rest, replace country "IR".toList (letters ++ d :: rest) =
    letters ++ replace country "IR".toList (d :: rest)
  cons : ∃ c cs, letters = c :: cs ∧ ∀ d ∈ cs, isDigit d = false

/-- The parts of a plate as they are read. -/
def plateGroups (two : List (Fin 10)) (letters : List Char) (three province : List (Fin 10)) :
    Groups :=
  { twoDigits := two.map latinDigit
    letters
    threeDigits := three.map latinDigit
    province := if province.isEmpty then none else some (province.map latinDigit) }

section

variable {two three province : List (Fin 10)} {letters : List Char}

theorem plateRegex_parts (hletters : KeptLetters letters) (htwo : two.length = 2)
    (hthree : three.length = 3) (hprovince : province.length = 0 ∨ province.length = 2)
    {ir : List Char} (hir : ir ∈ [[], "IR".toList]) :
    plateRegex (two.map latinDigit ++ (letters ++ (three.map latinDigit ++
      (ir ++ province.map latinDigit)))) = some (plateGroups two letters three province) := by
  have hdigit : ∀ d : Fin 10, isDigit (latinDigit d) = true := by decide
  obtain ⟨a, b, htwo⟩ := List.length_eq_two.1 htwo
  obtain ⟨x, y, z, hthree⟩ := List.length_eq_three.1 hthree
  have htail : tailMatch (three.map latinDigit ++ (ir ++ province.map latinDigit)) =
      some ((plateGroups two letters three province).threeDigits,
        (plateGroups two letters three province).province) := by
    have hprovince : province.map latinDigit = [] ∨ ∃ d e, province.map latinDigit = [d, e] ∧
        isDigit d = true ∧ isDigit e = true := by
      rcases hprovince with hnone | hsome
      · exact .inl (by rw [List.length_eq_zero_iff.1 hnone, List.map_nil])
      · obtain ⟨d, e, hde⟩ := List.length_eq_two.1 hsome
        exact .inr ⟨latinDigit d, latinDigit e, by rw [hde]; rfl, hdigit d, hdigit e⟩
    have hmatch := tailMatch_digits ⟨hdigit x, hdigit y, hdigit z⟩ hir hprovince
    simp only [plateGroups, hthree, List.map_cons, List.map_nil]
    rw [hmatch, List.isEmpty_map]
  obtain ⟨c, cs, hcons, hcs⟩ := hletters.cons
  have hmatch := lettersMatch_append (c := c) hcs htail
  rw [hcons, htwo]
  simp only [List.map_cons, List.map_nil, List.cons_append, List.nil_append]
  simp only [plateRegex, hdigit, Bool.and_self, if_true, hmatch, Option.map_some]
  simp [plateGroups, htwo, hcons]

/-- **A text of parts is read** as the key of the parts. -/
theorem normalizePlate_parts {twoText threeText provinceText : List Char} {word raw : String}
    (hletters : KeptLetters letters) (htwo : two.length = 2) (hthree : three.length = 3)
    (hprovince : province.length = 0 ∨ province.length = 2) (hword : word ∈ countryWords)
    (htwoText : List.Forall₂ WritesDigit two twoText)
    (hthreeText : List.Forall₂ WritesDigit three threeText)
    (hprovinceText : List.Forall₂ WritesDigit province provinceText)
    (hraw : (raw.toList.filter fun c => !isSeparator c) =
      twoText ++ letters ++ threeText ++ word.toList ++ provinceText) (mode : String) :
    normalizePlate mode raw =
      some (String.ofList (keyText (keyGroups mode (plateGroups two letters three province)))) := by
  have hlatin : ∀ d : Fin 10, latinDigit d ≠ 'I' ∧ latinDigit d ≠ 'A' ∧ latinDigit d ≠ 'ا' := by
    decide
  have hdigits (c : Char) (hc : ∀ d, latinDigit d ≠ c) (ds : List (Fin 10)) :
      c ∉ ds.map latinDigit := fun hmem => by
    obtain ⟨d, -, hd⟩ := List.mem_map.1 hmem
    exact hc d hd
  -- the text after the translation
  have htext : upper ((raw.toList.filter fun c => !isSeparator c).map plateTrans) =
      two.map latinDigit ++ (letters ++ (three.map latinDigit ++
        (upper (word.toList.map plateTrans) ++ province.map latinDigit))) := by
    rw [hraw]
    simp only [List.map_append, upper_append, upper_digits htwoText, upper_digits hthreeText,
      upper_digits hprovinceText, hletters.upper_eq, List.append_assoc]
  obtain ⟨ir, hir, hword⟩ := replace_countryWord (upper_countryWord hword)
    (hdigits 'I' (fun d => (hlatin d).1) province)
    (hdigits 'A' (fun d => (hlatin d).2.1) province)
    (hdigits 'ا' (fun d => (hlatin d).2.2) province)
  -- what stands before the country is not changed
  have hclean : cleanText raw.toList = two.map latinDigit ++ (letters ++
      (three.map latinDigit ++ (ir ++ province.map latinDigit))) := by
    obtain ⟨x, y, z, hxyz⟩ := List.length_eq_three.1 hthree
    have hyeh : latinDigit x ≠ 'ی' := by
      clear hxyz
      revert x
      decide
    rw [cleanText_eq, htext, show "IRAN".toList = 'I' :: "RAN".toList from rfl,
      replace_append_of_notMem _ (hdigits 'I' (fun d => (hlatin d).1) two),
      replace_append_of_notMem _ hletters.noI,
      replace_append_of_notMem _ (hdigits 'I' (fun d => (hlatin d).1) three)]
    have htwoKept (rest : List Char) := replace_append_of_notMem (q := "یران".toList) "IR".toList
      (hdigits 'ا' (fun d => (hlatin d).2.2) two) rest
    have hthreeKept (rest : List Char) := replace_append_of_notMem (q := "یران".toList) "IR".toList
      (hdigits 'ا' (fun d => (hlatin d).2.2) three) rest
    refine (htwoKept _).trans (congrArg (two.map latinDigit ++ ·) ?_)
    have hletter := hletters.country_eq _ hyeh ([latinDigit y, latinDigit z] ++
      replace "IRAN".toList "IR".toList
        (upper (word.toList.map plateTrans) ++ province.map latinDigit))
    simp only [hxyz, List.map_cons, List.map_nil, List.cons_append, List.nil_append] at hletter hthreeKept ⊢
    refine hletter.trans (congrArg (letters ++ ·) ?_)
    exact (hthreeKept _).trans (by rw [← hword]; rfl)
  have hread : plateRegex (cleanText raw.toList) = some (plateGroups two letters three province) := by
    rw [hclean]
    exact plateRegex_parts hletters htwo hthree hprovince hir
  exact normalizePlate_of_read hread

end

/-- A letter part of one Persian letter is kept. -/
theorem keptLetters_singleton {c : Char} (hupper : upper [plateTrans c] = [c]) (hI : c ≠ 'I') :
    KeptLetters [c] where
  upper_eq := hupper
  noI := by simpa using hI.symm
  country_eq d hd rest := by
    by_cases halef : c = 'ا'
    · rw [halef]
      exact replace_cons _ (by simp [country_eq, List.cons_prefix_cons, hd.symm])
    · exact replace_append_of_notMem (p := 'ا') (q := "یران".toList) _ (by simpa using Ne.symm halef) _
  cons := ⟨c, [], rfl, fun d hd => absurd hd List.not_mem_nil⟩

/-- The letters of the form are kept; the name of alef starts with an alef, and no word for the
country follows. -/
theorem FormPlate.keptLetters (p : FormPlate) (asForm : Bool) : KeptLetters (p.letterText asForm) := by
  have hletters : ∀ entry ∈ plateLetters, ∀ text ∈ [[entry.1], entry.2.toList],
      upper (text.map plateTrans) = text ∧ 'I' ∉ text ∧ text ≠ [] ∧
        text.all (fun d => !isDigit d) = true ∧
        ('ا' ∉ text ∨ text = ['ا'] ∨ text = ['ا', 'ل', 'ف']) := by decide
  obtain ⟨hupper, hI, hne, hdigits, halef⟩ := hletters _ p.offered (p.letterText asForm) (by
    unfold FormPlate.letterText
    split <;> simp)
  rcases halef with hnone | hone | hname
  · obtain ⟨c, cs, hcs⟩ := List.exists_cons_of_ne_nil hne
    exact
      { upper_eq := hupper
        noI := hI
        country_eq := fun d _ rest => replace_append_of_notMem (p := 'ا') (q := "یران".toList) _ hnone _
        cons := ⟨c, cs, hcs, fun d hd =>
          by simpa using List.all_eq_true.1 hdigits d (hcs ▸ List.mem_cons_of_mem _ hd)⟩ }
  · rw [hone]
    exact keptLetters_singleton (by decide) (by decide)
  · rw [hname]
    exact
      { upper_eq := by decide
        noI := by decide
        country_eq := fun d _ rest => by
          have hlf := replace_append_of_notMem (p := 'ا') (q := "یران".toList) "IR".toList
            (t := ['ل', 'ف']) (by decide) (d :: rest)
          refine (replace_cons _ ?_).trans (congrArg ('ا' :: ·) hlf)
          simp [country_eq, List.cons_prefix_cons]
        cons := ⟨_, _, rfl, forall_mem_of_all (by decide)⟩ }

/-- The parts of a plate as they are read. -/
def FormPlate.groups (p : FormPlate) (asForm : Bool) : Groups :=
  { twoDigits := p.two.map latinDigit
    letters := p.letterText asForm
    threeDigits := p.three.map latinDigit
    province := if p.province.isEmpty then none else some (p.province.map latinDigit) }

/-- The key of a plate. -/
def FormPlate.key (p : FormPlate) (mode : String) (asForm : Bool) : String :=
  String.ofList (keyText (keyGroups mode (p.groups asForm)))

/-- **A spelling is read** as the key of its plate. -/
theorem normalizePlate_spelling {p : FormPlate} {asForm : Bool} {raw : String}
    (h : Spells p asForm raw) (mode : String) :
    normalizePlate mode raw = some (p.key mode asForm) := by
  obtain ⟨two, three, province, word, hword, htwo, hthree, hprovince, hraw⟩ := h.parts
  exact normalizePlate_parts (p.keptLetters asForm) p.two_length p.three_length p.province_length
    hword htwo hthree hprovince hraw mode

/-! ## Two spellings -/

/-- Two ways to write the letter give one key unless one of them is the name of alef. -/
theorem key_eq_iff (p : FormPlate) (mode : String) (f₁ f₂ : Bool) :
    p.key mode f₁ = p.key mode f₂ ↔ p.letter.1 ≠ 'ا' ∨ f₁ = f₂ := by
  have hcodes : ∀ table ∈ [letterMap, uniqueLetterMap], ∀ entry ∈ plateLetters,
      mapLetters table entry.2.toList = mapLetters table [entry.1] ↔ entry.1 ≠ 'ا' := by decide
  have hmode : getLetterMap mode ∈ [letterMap, uniqueLetterMap] := by
    unfold getLetterMap
    split <;> simp
  have hletters := hcodes _ hmode _ p.offered
  have hkey : p.key mode f₁ = p.key mode f₂ ↔
      mapLetters (getLetterMap mode) (p.letterText f₁) =
        mapLetters (getLetterMap mode) (p.letterText f₂) := by
    have hlist (as bs : List Char) : String.ofList as = String.ofList bs ↔ as = bs :=
      ⟨fun h => String.ofList_injective h, congrArg _⟩
    simp [FormPlate.key, keyText, keyGroups, FormPlate.groups, hlist]
  rw [hkey]
  cases f₁ <;> cases f₂
  · simp
  · simpa [FormPlate.letterText, eq_comm] using hletters
  · simpa [FormPlate.letterText] using hletters
  · simp

/-- **Canonical keys**: a key is valid exactly where the letter part of its text is worth two
letters at most, and two spellings of a plate of the form have one key exactly where the letter
is not alef, or both write it alike. -/
theorem canonical_iff (mode : String) :
    (∀ raw plate, normalizePlate mode raw = some plate →
      (isValidIranianPlate plate = true ↔
        ((letterPart raw).map (letterWeight mode)).sum ≤ 2)) ∧
    ∀ (p : FormPlate) (f₁ f₂ : Bool) (raw₁ raw₂ : String), Spells p f₁ raw₁ → Spells p f₂ raw₂ →
      ((∃ key, normalizePlate mode raw₁ = some key ∧ normalizePlate mode raw₂ = some key) ↔
        p.letter.1 ≠ 'ا' ∨ f₁ = f₂) := by
  refine ⟨fun raw plate h => valid_iff_weight h, fun p f₁ f₂ raw₁ raw₂ h₁ h₂ => ?_⟩
  rw [normalizePlate_spelling h₁, normalizePlate_spelling h₂, ← key_eq_iff p mode]
  constructor
  · rintro ⟨key, hkey₁, hkey₂⟩
    rw [Option.some.inj hkey₁, Option.some.inj hkey₂]
  · exact fun hsame => ⟨_, rfl, congrArg some hsame.symm⟩

/-- A plate with the letter heh. -/
def hehPlate : FormPlate :=
  { two := [1, 2], letter := ('ه', "هـ"), three := [3, 4, 5], province := [6, 7]
    offered := by decide, two_length := rfl, three_length := rfl, province_length := .inr rfl }

theorem spells_heh : Spells hehPlate false "۱۲-ه-۳۴۵-67" :=
  ⟨['۱', '۲'], ['۳', '۴', '۵'], ['6', '7'], "", by decide, by decide, by decide, by decide, by decide⟩

theorem spells_heh_form : Spells hehPlate true "۱۲ هـ ۳۴۵ ایران ۶۷" :=
  ⟨['۱', '۲'], ['۳', '۴', '۵'], ['۶', '۷'], "ایران", by decide, by decide, by decide, by decide,
    by decide⟩

/-- Heh with tatweel and without, with the country and without, is one valid key. -/
theorem canonical_iff_heh : isValidIranianPlate "12HH345IR67" = true ∧
    ∃ key, normalizePlate "UNIQUE" "۱۲-ه-۳۴۵-67" = some key ∧
      normalizePlate "UNIQUE" "۱۲ هـ ۳۴۵ ایران ۶۷" = some key :=
  ⟨((canonical_iff "UNIQUE").1 "۱۲-ه-۳۴۵-67" "12HH345IR67" (by decide)).2 (by decide),
    ((canonical_iff "UNIQUE").2 hehPlate false true _ _ spells_heh spells_heh_form).2
      (.inl (by decide))⟩

/-- The key of a plate whose letter was chosen from the form as alef has three letters. -/
theorem alef_not_valid : ¬ ∀ mode : String,
    (∀ raw plate, normalizePlate mode raw = some plate → isValidIranianPlate plate = true) ∧
    ∀ (p : FormPlate) (f₁ f₂ : Bool) (raw₁ raw₂ : String), Spells p f₁ raw₁ → Spells p f₂ raw₂ →
      ∃ key, normalizePlate mode raw₁ = some key ∧ normalizePlate mode raw₂ = some key :=
  fun h => absurd ((h "MANY_TO_ONE").1 "12 الف 345 ایران 67" "12ALF345IR67" (by decide)) (by decide)

end ParkingSystem
