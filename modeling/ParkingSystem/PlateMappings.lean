import ParkingSystem.PlateForms

/-!
# The Two Letter Tables

A plate with one Persian letter has a key under each table. Under the table of unique codes the key
determines the plate, so it can be led to the key of the other table. The way back exists for the
letters that share their code with no other letter.
-/

namespace ParkingSystem

open Plate PyText

/-! ## Plates with a letter of the tables -/

/-- A plate: two digits, a letter of `LETTER_MAP`, three digits, and a province or none. -/
@[ext]
structure LetterPlate where
  two : List (Fin 10)
  letter : Char
  three : List (Fin 10)
  province : List (Fin 10)
  known : letter ∈ letterMap.map Prod.fst
  two_length : two.length = 2
  three_length : three.length = 3
  province_length : province.length = 0 ∨ province.length = 2

/-- A text of a plate: its parts in any script of digits, with separators anywhere, and with a word
for the country or none before the province. -/
structure LetterPlate.Writes (p : LetterPlate) (raw : String) : Prop where
  parts : ∃ two three province : List Char, ∃ word ∈ countryWords,
    List.Forall₂ WritesDigit p.two two ∧ List.Forall₂ WritesDigit p.three three ∧
      List.Forall₂ WritesDigit p.province province ∧
      (raw.toList.filter fun c => !isSeparator c) =
        two ++ [p.letter] ++ three ++ word.toList ++ province

namespace LetterPlate

variable (p : LetterPlate)

def groups : Groups := plateGroups p.two [p.letter] p.three p.province

/-- The key of a plate. -/
def key (mode : String) : String := String.ofList (keyText (keyGroups mode p.groups))

/-- A text of a plate is read as its key. -/
theorem normalizePlate_key {raw : String} (h : p.Writes raw) (mode : String) :
    normalizePlate mode raw = some (p.key mode) := by
  have hletters : ∀ c ∈ letterMap.map Prod.fst, upper [plateTrans c] = [c] ∧ c ≠ 'I' :=
    forall_mem_of_all (by decide)
  obtain ⟨hupper, hI⟩ := hletters _ p.known
  obtain ⟨two, three, province, word, hword, htwo, hthree, hprovince, hraw⟩ := h.parts
  exact normalizePlate_parts (keptLetters_singleton hupper hI) p.two_length p.three_length
    p.province_length hword htwo hthree hprovince hraw mode

/-- Both tables have a code for the letter. -/
theorem exists_code (mode : String) : ∃ code, (getLetterMap mode).lookup p.letter = some code := by
  have htables : ∀ c ∈ letterMap.map Prod.fst,
      (letterMap.lookup c).isSome = true ∧ (uniqueLetterMap.lookup c).isSome = true :=
    forall_mem_of_all (by decide)
  refine Option.isSome_iff_exists.1 ?_
  unfold getLetterMap
  split
  · exact (htables _ p.known).2
  · exact (htables _ p.known).1

variable {p} {mode code : String}

/-- The letters of the key are the code. -/
theorem keyGroups_eq (hcode : (getLetterMap mode).lookup p.letter = some code) :
    keyGroups mode p.groups = { p.groups with letters := code.toList } := by
  have hne : code.toList ≠ [] := by
    intro hnil
    have hletters := code_letters hcode
    rw [hnil] at hletters
    cases hletters
  have hmap : mapLetters (getLetterMap mode) [p.letter] = code.toList := by
    rw [mapLetters_eq]
    simp [charCode, hcode, hne]
  exact congrArg (fun letters => { p.groups with letters }) hmap

/-- The parts of a plate are the parts of a key. -/
theorem keyGroups_spec (hcode : (getLetterMap mode).lookup p.letter = some code) :
    KeyGroups (keyGroups mode p.groups) := by
  have hdigit : ∀ d : Fin 10, isDigit (latinDigit d) = true := by decide
  obtain ⟨a, b, htwo⟩ := List.length_eq_two.1 p.two_length
  obtain ⟨x, y, z, hthree⟩ := List.length_eq_three.1 p.three_length
  rw [keyGroups_eq hcode]
  refine
    { two := ⟨_, _, by simp only [groups, plateGroups, htwo]; rfl, hdigit a, hdigit b⟩
      letters := isLetterCode_iff.1 (code_letters hcode)
      three := ⟨_, _, _, by simp only [groups, plateGroups, hthree]; rfl, hdigit x, hdigit y,
        hdigit z⟩
      province := ?_ }
  rcases p.province_length with hnone | hsome
  · exact .inl (by simp [groups, plateGroups, List.length_eq_zero_iff.1 hnone])
  · obtain ⟨d, e, hde⟩ := List.length_eq_two.1 hsome
    exact .inr ⟨latinDigit d, latinDigit e, by simp [groups, plateGroups, hde], hdigit d, hdigit e⟩

/-- A key is read back as the parts of its plate. -/
theorem normalizedParts_key (hcode : (getLetterMap mode).lookup p.letter = some code) :
    normalizedParts (p.key mode).toList = some { p.groups with letters := code.toList } := by
  rw [key, String.toList_ofList, normalizedParts_keyText (keyGroups_spec hcode), keyGroups_eq hcode]

end LetterPlate

/-! ## From one table to the other -/

theorem mem_lettersOf_lookup {mode code : String} {letter : Char}
    (h : (getLetterMap mode).lookup letter = some code) :
    letter ∈ lettersOf (getLetterMap mode) code := by
  have hnodup : ∀ table ∈ [uniqueLetterMap, letterMap], (table.map Prod.fst).Nodup := by decide
  refine mem_lettersOf.2 ((Table.lookup_eq_some_iff_mem (hnodup _ ?_)).1 h)
  unfold getLetterMap
  split <;> simp

/-- **A key is led to the other table** exactly where its letter has the code for itself, and then
to the key of its plate. -/
theorem remapNormalizedPlate_key {p : LetterPlate} {source code : String}
    (hcode : (getLetterMap source).lookup p.letter = some code) (target : String) :
    remapNormalizedPlate (p.key source) (getLetterMap source) (getLetterMap target) =
      if lettersOf (getLetterMap source) code = [p.letter] then some (p.key target) else none := by
  obtain ⟨new, hnew⟩ := p.exists_code target
  have hmem := mem_lettersOf_lookup hcode
  rw [remapNormalizedPlate, p.normalizedParts_key hcode, Option.bind_eq_bind, Option.bind_some,
    String.ofList_toList]
  split
  · rename_i letter hletter
    obtain rfl : p.letter = letter := List.mem_singleton.1 (hletter ▸ hmem)
    rw [if_pos hletter, hnew, LetterPlate.key, p.keyGroups_eq hnew]
    rfl
  · rename_i hnot
    exact (if_neg fun hone => hnot p.letter hone).symm

/-- In the table of unique codes every letter has its code for itself. -/
theorem lettersOf_unique {code : String} {letter : Char}
    (h : (getLetterMap "UNIQUE").lookup letter = some code) :
    lettersOf (getLetterMap "UNIQUE") code = [letter] := by
  have htable : ∀ entry ∈ uniqueLetterMap, lettersOf uniqueLetterMap entry.2 = [entry.1] := by
    decide
  exact htable (letter, code) (mem_lettersOf.1 (mem_lettersOf_lookup h))

/-- **A unique key determines its plate.** -/
theorem key_unique_injective {p q : LetterPlate} (h : p.key "UNIQUE" = q.key "UNIQUE") : p = q := by
  obtain ⟨code, hcode⟩ := p.exists_code "UNIQUE"
  obtain ⟨code', hcode'⟩ := q.exists_code "UNIQUE"
  have hgroups : ({ p.groups with letters := code.toList } : Groups) =
      { q.groups with letters := code'.toList } := by
    refine Option.some.inj ((p.normalizedParts_key hcode).symm.trans ?_)
    rw [h]
    exact q.normalizedParts_key hcode'
  have hdigits {ds es : List (Fin 10)} (hmap : ds.map latinDigit = es.map latinDigit) : ds = es :=
    List.map_injective_iff.2 (fun d e => by revert d e; decide) hmap
  have hletter : p.letter = q.letter := by
    obtain rfl : code = code' := String.toList_injective (congrArg Groups.letters hgroups)
    have hsame := (lettersOf_unique hcode).symm.trans (lettersOf_unique hcode')
    exact (List.cons.inj hsame).1
  have hprovince : p.province = q.province := by
    have hsame := congrArg Groups.province hgroups
    simp only [LetterPlate.groups, plateGroups] at hsame
    split at hsame <;> split at hsame
    · rename_i hp hq
      rw [List.isEmpty_iff.1 hp, List.isEmpty_iff.1 hq]
    · cases hsame
    · cases hsame
    · exact hdigits (Option.some.inj hsame)
  exact LetterPlate.ext (hdigits (congrArg Groups.twoDigits hgroups)) hletter
    (hdigits (congrArg Groups.threeDigits hgroups)) hprovince

/-- **The tables can be exchanged**: two texts with one unique key are texts of one plate, the
unique key of a text is led to its other key, and the other key is led to the unique key or
nowhere. -/
theorem mappings_reversible (p : LetterPlate) (raw : String) (h : p.Writes raw) :
    (∀ (q : LetterPlate) (raw' : String), q.Writes raw' →
      normalizePlate "UNIQUE" raw = normalizePlate "UNIQUE" raw' → p = q) ∧
    ∃ unique many, normalizePlate "UNIQUE" raw = some unique ∧
      normalizePlate "MANY_TO_ONE" raw = some many ∧
      remapNormalizedPlate unique uniqueLetterMap letterMap = some many ∧
      (remapNormalizedPlate many letterMap uniqueLetterMap = none ∨
        remapNormalizedPlate many letterMap uniqueLetterMap = some unique) := by
  refine ⟨fun q raw' hq hsame => ?_, p.key "UNIQUE", p.key "MANY_TO_ONE",
    p.normalizePlate_key h "UNIQUE", p.normalizePlate_key h "MANY_TO_ONE", ?_, ?_⟩
  · rw [p.normalizePlate_key h, q.normalizePlate_key hq] at hsame
    exact key_unique_injective (Option.some.inj hsame)
  · obtain ⟨code, hcode⟩ := p.exists_code "UNIQUE"
    have hled := remapNormalizedPlate_key hcode "MANY_TO_ONE"
    rwa [if_pos (lettersOf_unique hcode)] at hled
  · obtain ⟨code, hcode⟩ := p.exists_code "MANY_TO_ONE"
    have hled := remapNormalizedPlate_key hcode "UNIQUE"
    split at hled
    · exact .inr hled
    · exact .inl hled

theorem zheh_known : 'ژ' ∈ letterMap.map Prod.fst := by decide

/-- The digits of the plate with heh, with a letter that shares its code with two others. -/
def zhehPlate : LetterPlate :=
  { two := hehPlate.two, letter := 'ژ', three := hehPlate.three, province := hehPlate.province
    known := zheh_known, two_length := rfl, three_length := rfl, province_length := .inr rfl }

theorem mappings_reversible_zheh : ∃ unique many,
    normalizePlate "UNIQUE" "۱۲-ژ ٣٤٥ ایران 67" = some unique ∧
      remapNormalizedPlate unique uniqueLetterMap letterMap = some many := by
  obtain ⟨unique, many, hunique, -, hled, -⟩ :=
    (mappings_reversible zhehPlate "۱۲-ژ ٣٤٥ ایران 67"
      ⟨['۱', '۲'], ['٣', '٤', '٥'], ['6', '7'], "ایران", by decide, by decide, by decide, by decide,
        by decide⟩).2
  exact ⟨unique, many, hunique, hled⟩

end ParkingSystem
