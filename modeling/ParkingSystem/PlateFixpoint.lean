import ParkingSystem.PlateMappings

/-!
# Keys That Are Read Again

A key is a plate text itself, and it is normalised again where a stored plate is looked up. It is
read as itself, unless its letters spell the country: the word is looked for before the letters are
mapped, so the first reading can make it, and the second one shortens it.
-/

namespace ParkingSystem

open Plate PyText

/-! ## Characters the cleaning leaves alone -/

/-- A character that stays as it is, apart from the words for the country. -/
structure CleanChar (c : Char) : Prop where
  kept : isSeparator c = false
  translated : plateTrans c = c
  upper : upperChar c = [c]

theorem cleanText_cleanChars {cs : List Char} (h : ∀ c ∈ cs, CleanChar c) :
    cleanText cs = replace country "IR".toList (replace "IRAN".toList "IR".toList cs) := by
  have hkept : cs.filter (fun c => !isSeparator c) = cs :=
    List.filter_eq_self.2 fun c hc => by simp [(h c hc).kept]
  have htranslated : cs.map plateTrans = cs :=
    (List.map_congr_left fun c hc => (h c hc).translated).trans (List.map_id cs)
  have hupper : upper cs = cs := by
    rw [upper, List.flatMap_congr fun c hc => (h c hc).upper]
    exact List.flatMap_singleton' cs
  rw [cleanText_eq, hkept, htranslated, hupper]

theorem cleanChar_of_isUpperAscii {c : Char} (h : isUpperAscii c = true) : CleanChar c := by
  have hle : c ≤ 'Z' := by simpa using (Bool.and_eq_true_iff.1 h).2
  have hge : 'A' ≤ c := by simpa using (Bool.and_eq_true_iff.1 h).1
  have hall : ∀ n < 91, 65 ≤ n → isSeparator (Char.ofNat n) = false ∧
      plateTrans (Char.ofNat n) = Char.ofNat n ∧ upperChar (Char.ofNat n) = [Char.ofNat n] := by
    decide
  have hc := hall c.toNat (Nat.lt_succ_of_le (UInt32.le_iff_toNat_le.1 hle))
    (UInt32.le_iff_toNat_le.1 hge)
  rw [Char.ofNat_toNat] at hc
  exact ⟨hc.1, hc.2.1, hc.2.2⟩

/-- A digit is one of ten characters of a block. -/
theorem isDigit_block {c : Char} (h : isDigit c = true) :
    ∃ z ∈ digitZeros, ∃ k < 10, c = Char.ofNat (z + k) := by
  obtain ⟨v, hv⟩ := Option.isSome_iff_exists.1 h
  obtain ⟨z, hz, -⟩ := Option.map_eq_some_iff.1 hv
  have hrange := List.find?_some hz
  simp only [Bool.and_eq_true, decide_eq_true_eq] at hrange
  refine ⟨z, List.mem_of_find?_eq_some hz, c.toNat - z, by omega, ?_⟩
  rw [Nat.add_sub_cancel' hrange.1, Char.ofNat_toNat]

theorem plateTrans_plateTrans (c : Char) : plateTrans (plateTrans c) = plateTrans c := by
  have hdigits : ∀ k < 10, plateTrans (Char.ofNat (0x6F0 + k)) = Char.ofNat (0x30 + k) ∧
      plateTrans (Char.ofNat (0x660 + k)) = Char.ofNat (0x30 + k) ∧
      plateTrans (Char.ofNat (0x30 + k)) = Char.ofNat (0x30 + k) := by decide
  have hblock (z : ℕ) (h : z ≤ c.toNat ∧ c.toNat ≤ z + 9) : ∃ k < 10, c = Char.ofNat (z + k) :=
    ⟨c.toNat - z, by omega, by rw [Nat.add_sub_cancel' h.1, Char.ofNat_toNat]⟩
  by_cases hpersian : 0x6F0 ≤ c.toNat ∧ c.toNat ≤ 0x6F9
  · obtain ⟨k, hk, rfl⟩ := hblock 0x6F0 hpersian
    rw [(hdigits k hk).1, (hdigits k hk).2.2]
  · by_cases harabic : 0x660 ≤ c.toNat ∧ c.toNat ≤ 0x669
    · obtain ⟨k, hk, rfl⟩ := hblock 0x660 harabic
      rw [(hdigits k hk).2.1, (hdigits k hk).2.2]
    · have hdigit : digitTrans c = c := by simp only [digitTrans, if_neg hpersian, if_neg harabic]
      cases hform : isArabicForm c with
      | true => rcases isArabicForm_iff.1 hform with rfl | rfl | rfl <;> decide
      | false =>
        have hsame : plateTrans c = c := by
          rw [plateTrans, hdigit, arabicLetterTrans_of_not hform]
        rw [hsame, hsame]

/-- Upper case makes no digit. -/
theorem eq_of_mem_upperChar {c d : Char} (h : c ∈ upperChar d) (hdigit : isDigit c = true) :
    c = d := by
  have hall (ds : List Char) (hds : (ds.all fun e => !isDigit e) = true) (hmem : c ∈ ds) :
      c = d := by
    have hnot := List.all_eq_true.1 hds c hmem
    rw [hdigit] at hnot
    cases hnot
  unfold upperChar at h
  split at h
  · rename_i hlower
    have hupper := isUpperAscii_toUpper hlower
    rw [← List.mem_singleton.1 h, isUpperAscii_of_isDigit hdigit] at hupper
    cases hupper
  · split at h
    case h_18 => exact List.mem_singleton.1 h
    all_goals exact hall _ (by decide) h

/-- A digit of a cleaned text stays: it was translated where it could be. -/
theorem cleanChar_of_isDigit {c : Char} {raw : List Char} (h : c ∈ cleanText raw)
    (hdigit : isDigit c = true) : CleanChar c := by
  have hIR : "IR".toList.all (fun c => !isDigit c) = true := by decide
  have hnot (hrep : c ∈ "IR".toList) : False := by
    have hletter := List.all_eq_true.1 hIR c hrep
    rw [hdigit] at hletter
    cases hletter
  have htranslated : plateTrans c = c := by
    rw [cleanText_eq] at h
    have htext := (mem_of_mem_replace (by decide) h).resolve_left hnot
    obtain ⟨d, hd, hc⟩ := List.mem_flatMap.1
      ((mem_of_mem_replace (by decide) htext).resolve_left hnot)
    obtain ⟨e, -, rfl⟩ := List.mem_map.1 hd
    rw [eq_of_mem_upperChar hc hdigit, plateTrans_plateTrans]
  have hall : ∀ z ∈ digitZeros, ∀ k < 10, isSeparator (Char.ofNat (z + k)) = false ∧
      upperChar (Char.ofNat (z + k)) = [Char.ofNat (z + k)] := by decide +kernel
  obtain ⟨z, hz, k, hk, rfl⟩ := isDigit_block hdigit
  exact ⟨(hall z hz k hk).1, htranslated, (hall z hz k hk).2⟩

/-! ## A key as a text -/

/-- The letters of a key, the word for the country shortened. -/
def shortened (g : Groups) : Groups :=
  { g with letters := replace "IRAN".toList "IR".toList g.letters }

theorem replace_ne_nil {pat rep text : List Char} (hpat : pat ≠ []) (hrep : rep ≠ [])
    (h : text ≠ []) : replace pat rep text ≠ [] := by
  induction text using replace_induction hpat with
  | nil => exact h
  | found rest _ =>
    rw [replace_append hpat]
    exact List.append_ne_nil_of_left_ne_nil hrep _
  | kept c cs hstarts _ =>
    rw [replace_cons rep hstarts]
    exact List.cons_ne_nil _ _

section

variable {mode : String} {g : Groups}

theorem KeyParts.shortened (h : KeyParts g) : KeyParts (shortened g) :=
  { h with
    ne_nil := replace_ne_nil (by decide) (by decide) h.ne_nil
    upper := fun c hc => by
      have hIR : "IR".toList.all isUpperAscii = true := by decide
      rcases mem_of_mem_replace (by decide) hc with hrep | hletter
      · exact List.all_eq_true.1 hIR c hrep
      · exact h.upper c hletter }

/-- A key has digits and upper-case letters. -/
theorem KeyParts.mem_keyText (h : KeyParts g) {c : Char} (hc : c ∈ keyText g) :
    c ∈ g.twoDigits ++ (g.threeDigits ++ g.province.getD []) ∧ isDigit c = true ∨
      isUpperAscii c = true := by
  obtain ⟨⟨a, b, hab, ha, hb⟩, -, hupper, ⟨x, y, z, hxyz, hx, hy, hz⟩, hprovince⟩ := h
  rcases hprovince with hnone | ⟨d, e, hsome, hd, he⟩
  · simp only [keyText, hab, hxyz, hnone, provinceText, List.append_nil, List.append_assoc,
      List.mem_append, List.mem_cons, List.not_mem_nil, or_false] at hc
    rcases hc with (rfl | rfl) | hletter | rfl | rfl | rfl
    case inr.inl => exact .inr (hupper c hletter)
    all_goals exact .inl ⟨by simp [hab, hxyz], by assumption⟩
  · simp only [keyText, hab, hxyz, hsome, provinceText, List.append_assoc, List.mem_append,
      List.mem_cons, List.not_mem_nil, or_false] at hc
    rcases hc with (rfl | rfl) | hletter | (rfl | rfl | rfl) | hIR' | rfl | rfl
    case inr.inl => exact .inr (hupper c hletter)
    case inr.inr.inr.inl =>
      exact .inr (List.all_eq_true.1 (by decide : "IR".toList.all isUpperAscii = true) c hIR')
    all_goals exact .inl ⟨by simp [hab, hxyz, hsome], by assumption⟩

/-- A digit is none of the letters of a word. -/
theorem ne_of_isDigit {c d : Char} (hc : isDigit c = true) (hd : isDigit d = false) : d ≠ c := by
  rintro rfl
  rw [hc] at hd
  cases hd

/-- **Cleaning a key** shortens its letters and leaves the rest. -/
theorem cleanText_keyText (h : KeyParts g) (hclean : ∀ c ∈ keyText g, CleanChar c) :
    cleanText (keyText g) = keyText (ParkingSystem.shortened g) := by
  have hiran : replace "IRAN".toList "IR".toList (keyText g) =
      keyText (ParkingSystem.shortened g) := by
    obtain ⟨⟨a, b, hab, ha, hb⟩, -, -, ⟨x, y, z, hxyz, hx, hy, hz⟩, hprovince⟩ := h
    have hword : ∀ c ∈ "IRAN".toList, isDigit c = false := forall_mem_of_all (by decide)
    have hx' : x ∉ "IRAN".toList := fun hmem => ne_of_isDigit hx (hword x hmem) rfl
    have htwo : 'I' ∉ [a, b] := by
      simp [ne_of_isDigit ha (hword 'I' (by decide)), ne_of_isDigit hb (hword 'I' (by decide))]
    -- no N follows the letters
    have htail : replace "IRAN".toList "IR".toList (y :: z :: provinceText g.province) =
        y :: z :: provinceText g.province := by
      refine (replace_eq_self_iff (by decide) (by decide) _).2 fun hinside => ?_
      have hN : 'N' ∈ y :: z :: provinceText g.province := hinside.subset (by decide)
      have hnot {c : Char} (hc : isDigit c = true) : 'N' ≠ c :=
        ne_of_isDigit hc (hword 'N' (by decide))
      rcases hprovince with hnone | ⟨d, e, hsome, hd, he⟩
      · simp [hnone, provinceText, hnot hy, hnot hz] at hN
      · simp [hsome, provinceText, hnot hy, hnot hz, hnot hd, hnot he] at hN
    have hsplit (letters : List Char) : keyText { g with letters } =
        [a, b] ++ (letters ++ x :: (y :: z :: provinceText g.province)) := by
      simp [keyText, hab, hxyz]
    refine (congrArg (replace _ _) (hsplit g.letters)).trans ?_
    refine (replace_append_of_notMem (q := "RAN".toList) "IR".toList htwo _).trans ?_
    rw [show 'I' :: "RAN".toList = "IRAN".toList from rfl, replace_separated (by decide) _ hx', htail]
    exact (hsplit _).symm
  have hcountry : replace country "IR".toList (keyText (ParkingSystem.shortened g)) =
      keyText (ParkingSystem.shortened g) := by
    -- there is no alef in a key
    refine (replace_eq_self_iff (by decide) (by decide) _).2 fun hinside => ?_
    have halef : isDigit 'ا' = false ∧ isUpperAscii 'ا' = false := by decide
    rcases h.shortened.mem_keyText (hinside.subset (by decide : 'ا' ∈ country)) with ⟨-, hd⟩ | hu
    · rw [halef.1] at hd
      cases hd
    · rw [halef.2] at hu
      cases hu
  rw [cleanText_cleanChars hclean, hiran, hcountry]

/-- A key is read as its parts. -/
theorem plateRegex_keyText (h : KeyParts g) : plateRegex (keyText g) = some g := by
  obtain ⟨⟨a, b, hab, ha, hb⟩, hne, hupper, ⟨x, y, z, hxyz, hx, hy, hz⟩, hprovince⟩ := h
  obtain ⟨c, cs, hcons⟩ := List.exists_cons_of_ne_nil hne
  have hcs : ∀ d ∈ cs, isDigit d = false := by
    intro d hd
    rw [← Bool.not_eq_true]
    intro hdigit
    have hletter := hupper d (hcons ▸ List.mem_cons_of_mem _ hd)
    rw [isUpperAscii_of_isDigit hdigit] at hletter
    cases hletter
  have htail : tailMatch (g.threeDigits ++ provinceText g.province) =
      some (g.threeDigits, g.province) := by
    rcases hprovince with hnone | ⟨d, e, hsome, hd, he⟩
    · have hmatch := @tailMatch_digits x y z [] [] ⟨hx, hy, hz⟩ (by simp) (.inl rfl)
      rw [hxyz, hnone]
      exact hmatch
    · have hmatch := @tailMatch_digits x y z "IR".toList [d, e] ⟨hx, hy, hz⟩ (by simp)
        (.inr ⟨d, e, rfl, hd, he⟩)
      rw [hxyz, hsome]
      exact hmatch
  have hletters := lettersMatch_append (c := c) hcs htail
  have hsplit : keyText g =
      a :: b :: (c :: (cs ++ (g.threeDigits ++ provinceText g.province))) := by
    simp [keyText, hab, hcons]
  rw [hsplit, plateRegex, ha, hb, hletters, ← hcons, ← hab]
  rfl

/-- Upper-case letters are their own codes. -/
theorem mapLetters_upper {letters : List Char} (hne : letters ≠ [])
    (h : ∀ c ∈ letters, isUpperAscii c = true) : mapLetters (getLetterMap mode) letters = letters := by
  have hpersian : ∀ table ∈ [uniqueLetterMap, letterMap],
      table.all (fun entry => !isUpperAscii entry.1) = true := by decide
  have hmode : getLetterMap mode ∈ [uniqueLetterMap, letterMap] := by
    unfold getLetterMap
    split <;> simp
  have hcode : ∀ c ∈ letters, charCode (getLetterMap mode) c = [c] := by
    intro c hc
    have halpha : c.isAlpha = true := Bool.or_eq_true_iff.2 (.inl (isUpperAscii_iff.1 (h c hc)))
    have hlookup : (getLetterMap mode).lookup c = none := by
      refine List.lookup_eq_none_iff.2 fun entry hentry => bne_iff_ne.2 ?_
      rintro rfl
      have hother := List.all_eq_true.1 (hpersian _ hmode) entry hentry
      rw [h _ hc] at hother
      cases hother
    rw [charCode, hlookup]
    exact if_pos halpha
  rw [mapLetters_eq, List.flatMap_congr hcode, List.flatMap_singleton']
  exact if_neg fun hempty => hne (List.isEmpty_iff.1 hempty)

/-- **A key read again** has the letters that are left when the country is shortened. -/
theorem normalizePlate_keyText {raw : List Char} (h : plateRegex (cleanText raw) = some g) :
    normalizePlate mode (String.ofList (keyText (keyGroups mode g))) =
      some (String.ofList (keyText (ParkingSystem.shortened (keyGroups mode g)))) := by
  have hparts : KeyParts (keyGroups mode g) := keyParts_keyGroups h
  have hclean : ∀ c ∈ keyText (keyGroups mode g), CleanChar c := by
    intro c hc
    rcases hparts.mem_keyText hc with ⟨hmem, hdigit⟩ | hupper
    · exact cleanChar_of_isDigit (mem_of_plateRegex h c hmem) hdigit
    · exact cleanChar_of_isUpperAscii hupper
  have hread : plateRegex (cleanText (keyText (keyGroups mode g))) =
      some (ParkingSystem.shortened (keyGroups mode g)) := by
    rw [cleanText_keyText hparts hclean, plateRegex_keyText hparts.shortened]
  have hsame : keyGroups mode (ParkingSystem.shortened (keyGroups mode g)) =
      ParkingSystem.shortened (keyGroups mode g) := by
    have hletters := @mapLetters_upper mode _ hparts.shortened.ne_nil hparts.shortened.upper
    exact congrArg (fun letters => { keyGroups mode g with letters }) hletters
  rw [← String.toList_ofList (l := keyText (keyGroups mode g))] at hread
  rw [normalizePlate_of_read hread, hsame]

end

/-! ## Letters that spell the country -/

section

variable {word : List Char} {codes : List (List Char)}

/-- A word at the start of a text of codes is made of its letters as codes. -/
theorem prefix_flatten_iff (hne : ∀ code ∈ codes, code ≠ [])
    (hword : ∀ code ∈ codes, ∀ l ∈ word, code.head? = some l → code = [l]) :
    word <+: codes.flatten ↔ word.map (fun l => [l]) <+: codes := by
  induction word generalizing codes with
  | nil => simp
  | cons l ls ih =>
    cases codes with
    | nil => simp
    | cons code rest =>
      obtain ⟨c, cs, rfl⟩ := List.exists_cons_of_ne_nil (hne code List.mem_cons_self)
      have hrest := ih (fun code h => hne code (List.mem_cons_of_mem _ h))
        (fun code h l hl => hword code (List.mem_cons_of_mem _ h) l (List.mem_cons_of_mem _ hl))
      rw [List.flatten_cons, List.cons_append, List.cons_prefix_cons, List.map_cons,
        List.cons_prefix_cons, ← hrest]
      constructor
      · rintro ⟨rfl, hls⟩
        have hsingle := hword _ List.mem_cons_self l List.mem_cons_self rfl
        obtain rfl : cs = [] := (List.cons.inj hsingle).2
        exact ⟨rfl, hls⟩
      · rintro ⟨hcode, hls⟩
        obtain ⟨rfl, rfl⟩ := List.cons.inj hcode
        exact ⟨rfl, hls⟩

/-- A word does not start where its first letter is missing. -/
theorem infix_append_iff {w : Char} {ws cs rest : List Char} (h : w ∉ cs) :
    w :: ws <:+: cs ++ rest ↔ w :: ws <:+: rest := by
  induction cs with
  | nil => rfl
  | cons c cs ih =>
    rw [List.cons_append, List.infix_cons_iff, List.cons_prefix_cons,
      ih fun hmem => h (List.mem_cons_of_mem _ hmem), or_iff_right]
    rintro ⟨rfl, -⟩
    exact h List.mem_cons_self

/-- **A word in a text of codes** is made of its letters as codes, in a row. -/
theorem infix_flatten_iff {w : Char} {ws : List Char} (hne : ∀ code ∈ codes, code ≠ [])
    (hword : ∀ code ∈ codes, ∀ l ∈ w :: ws, code.head? = some l → code = [l])
    (htail : ∀ code ∈ codes, w ∉ code.tail) :
    w :: ws <:+: codes.flatten ↔ (w :: ws).map (fun l => [l]) <:+: codes := by
  induction codes with
  | nil => simp
  | cons code rest ih =>
    have hstarts := prefix_flatten_iff hne hword
    have hrest := ih (fun code h => hne code (List.mem_cons_of_mem _ h))
      (fun code h => hword code (List.mem_cons_of_mem _ h))
      (fun code h => htail code (List.mem_cons_of_mem _ h))
    rw [List.infix_cons_iff, ← hrest, ← hstarts]
    obtain ⟨c, cs, rfl⟩ := List.exists_cons_of_ne_nil (hne code List.mem_cons_self)
    have hskip : w ∉ cs := htail _ List.mem_cons_self
    rw [List.flatten_cons, List.cons_append, List.infix_cons_iff, infix_append_iff hskip]

end

/-- Whether the characters that count for something count for I, R, A and N, in a row. -/
def SpellsCountry (mode : String) (letters : List Char) : Prop :=
  "IRAN".toList.map (fun l => [l]) <:+:
    (letters.map (charCode (getLetterMap mode))).filter fun code => !code.isEmpty

instance (mode : String) (letters : List Char) : Decidable (SpellsCountry mode letters) :=
  inferInstanceAs (Decidable (_ <:+: _))

/-- A code that starts like a letter of the word is that letter, and an I is a code of its own. -/
theorem charCode_word (mode : String) (c : Char) :
    (∀ l ∈ "IRAN".toList, (charCode (getLetterMap mode) c).head? = some l →
      charCode (getLetterMap mode) c = [l]) ∧ 'I' ∉ (charCode (getLetterMap mode) c).tail := by
  have hcodes : ∀ entry ∈ letterMap ++ uniqueLetterMap,
      "IRAN".toList.all (fun l =>
        decide (entry.2.toList.head? = some l → entry.2.toList = [l])) = true ∧
          'I' ∉ entry.2.toList.tail := by decide
  unfold charCode
  split
  · rename_i code hlookup
    refine (hcodes (c, code) ?_).imp_left forall_mem_of_all
    have hmem := mem_lettersOf.1 (mem_lettersOf_lookup hlookup)
    unfold getLetterMap at hmem
    split at hmem
    · exact List.mem_append_right _ hmem
    · exact List.mem_append_left _ hmem
  · split <;> simp

/-- The letters of a key contain the country exactly where the letter part spells it. -/
theorem infix_mapLetters_iff (mode : String) (letters : List Char) :
    "IRAN".toList <:+: mapLetters (getLetterMap mode) letters ↔ SpellsCountry mode letters := by
  have hflatten : letters.flatMap (charCode (getLetterMap mode)) =
      ((letters.map (charCode (getLetterMap mode))).filter fun code => !code.isEmpty).flatten := by
    rw [List.flatten_filter_not_isEmpty]
    rfl
  have hcodes : ∀ code ∈ (letters.map (charCode (getLetterMap mode))).filter
      (fun code => !code.isEmpty), ∃ c, code = charCode (getLetterMap mode) c ∧ code ≠ [] := by
    intro code hcode
    obtain ⟨hmem, hne⟩ := List.mem_filter.1 hcode
    obtain ⟨c, -, rfl⟩ := List.mem_map.1 hmem
    exact ⟨c, rfl, by simpa using hne⟩
  have hinside : "IRAN".toList <:+: letters.flatMap (charCode (getLetterMap mode)) ↔
      SpellsCountry mode letters := by
    rw [hflatten]
    refine @infix_flatten_iff _ 'I' "RAN".toList (fun code hcode => ?_)
      (fun code hcode => ?_) fun code hcode => ?_
    all_goals obtain ⟨c, rfl, hne⟩ := hcodes code hcode
    · exact hne
    · exact (charCode_word mode c).1
    · exact (charCode_word mode c).2
  rw [← hinside, mapLetters_eq]
  split
  · rename_i hempty
    rw [List.isEmpty_iff.1 hempty]
    decide
  · rfl

/-- **Keys are fixed** exactly where the letter part of the text does not spell the country. -/
theorem normalizePlate_fixed_iff (mode raw key : String) (h : normalizePlate mode raw = some key) :
    normalizePlate mode key = some key ↔ ¬ SpellsCountry mode (letterPart raw) := by
  obtain ⟨g, hg, rfl⟩ := normalizePlate_eq_some h
  have hpart : letterPart raw = g.letters := by simp [letterPart, hg]
  rw [normalizePlate_keyText hg, Option.some_inj, hpart, ← infix_mapLetters_iff,
    ← @replace_eq_self_iff "IRAN".toList (by decide) "IR".toList (by decide)]
  have hlist (as bs : List Char) : String.ofList as = String.ofList bs ↔ as = bs :=
    ⟨fun h => String.ofList_injective h, congrArg _⟩
  simp [hlist, keyText, shortened, keyGroups]

theorem normalizePlate_fixed_iff_letter : normalizePlate "UNIQUE" "12SS345IR67" = some "12SS345IR67" :=
  (normalizePlate_fixed_iff "UNIQUE" "۱۲ ث ۳۴۵ ایران ۶۷" "12SS345IR67" (by decide)).2 (by decide)

/-- A word for the country inside the letters leaves another one when it is shortened. -/
theorem country_in_letters : ¬ ∀ mode raw key : String, normalizePlate mode raw = some key →
    normalizePlate mode key = some key :=
  fun h => absurd (h "MANY_TO_ONE" "12IRANAN345" "12IRAN345" (by decide)) (by decide)

end ParkingSystem
