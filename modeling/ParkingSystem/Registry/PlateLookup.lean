import ParkingSystem.Agent.Plate
import ParkingSystem.Library.PyLines
import ParkingSystem.Library.Words
import ParkingSystem.PlateOcr.Text
import ParkingSystem.Registry.Admin

/-!
# Plates at the Gate Panel

`plate_lookup`: whether a plate is a resident's or a guest's, and where a guest's is from. A
registration is given the letter and the code of its plate; the lookup has to find those in the
text of the plate where the request leaves them out.

- `lookupParts` is what the lookup finds, `lookupParts_eq` says what that is;
- where a row has the letter, the region is that of `resolve_region`; the province of the code is
  reported also where none has.

## What goes wrong

A letter that is found in the text is compared as it stands, and one in its Arabic form is not
found in any row; so is a code at the end of a text that is no plate.
-/

namespace ParkingSystem

open Plate PyText Table

/-! ## The endpoint -/

/-- What stands between the words of a plate: `[\s\-_/,().]`. -/
def isLookupMark (c : Char) : Bool :=
  isSpace c || ['-', '_', '/', ',', '(', ')', '.'].contains c

/-- `tok.strip().strip('"')`. -/
def stripQuotes (t : List Char) : List Char :=
  (((strip t).dropWhile (· == '"')).reverse.dropWhile (· == '"')).reverse

/-- The words of a plate, with their digits translated; the empty ones of `re.split` are passed
over in any case. -/
def lookupWords (raw : String) : List (List Char) :=
  (wordsBy isLookupMark (raw.toList.map digitTrans)).map stripQuotes

/-- `IR(\d{2})$` on a text that is read from its end: the end is also the place before a line
break that ends the text. -/
def irMatch : List Char → Option String
  | '\n' :: e :: d :: 'R' :: 'I' :: _ | e :: d :: 'R' :: 'I' :: _ =>
    if isDigit d && isDigit e then some (String.ofList [d, e]) else none
  | _ => none

/-- `re.search(r"IR(\d{2})$", normalized)`. -/
def irCode (normalized : String) : Option String := irMatch normalized.toList.reverse

/-- `tok.isdigit() and len(tok) == 2`. -/
def isCodeWord (tok : List Char) : Bool :=
  tok.all (fun c => isDigit c || isOtherDigit c) && tok.length == 2

/-- One word of the loop: the first code that it finds, and the first letter. -/
def scanWord (parts : Option String × Option String) (tok : List Char) :
    Option String × Option String :=
  if tok.isEmpty then parts
  else if parts.1.isNone && isCodeWord tok then (some (String.ofList tok), parts.2)
  else if parts.2.isNone && tok.length == 1 then (parts.1, some (String.ofList tok))
  else parts

/-- The code and the letter that `plate_lookup` looks for. -/
def lookupParts (normalized raw : String) (code letter : Option String) :
    Option String × Option String :=
  let code := normCode code
  let code := if code.getD "" = "" then (irCode normalized).or code else code
  let letter := letterOf letter
  if code.getD "" = "" ∨ letter = none then (lookupWords raw).foldl scanWord (code, letter)
  else (code, letter)

/-- Whether a row of the table lists a letter. -/
def hasLetter (r : PlateRegion) (letter : String) : Bool :=
  ((words (r.letters.getD "").toList).map fun w => normLetter (String.ofList w)).contains letter

/-- What `plate_lookup` answers. -/
inductive PlateLookup where
  | resident (plateNormalized : String) (unitNumber towerName : Option String) (vehicle : Vehicle)
  | guest (plateNormalized : String) (province city : Option String)

/-- The province and the city that are reported of a guest. -/
def guestRegion (parts : Option String × Option String) (s : Store) :
    Option String × Option String :=
  match parts with
  | (some code, some letter) =>
    if code = "" ∨ letter = "" then (none, none)
    else
      let rows := s.plateRegions.filter fun r => r.plateCode == code
      match rows.find? fun r => hasLetter r letter with
      | some r => (some r.province, some r.city)
      | none => (rows.head?.map PlateRegion.province, none)
  | _ => (none, none)

/-- `plate_lookup` on a store. -/
def plateLookup (cfg : Config) (raw : String) (code letter : Option String) (s : Store) :
    PlateLookup :=
  match vehicleByText cfg raw s with
  | some v =>
    let unit := v.unitId.bind fun id => s.units.find? fun u => u.id == id
    let tower := unit.bind fun u => s.towers.find? fun t => t.id == u.towerId
    .resident (plateKey cfg raw) (unit.map ResidentialUnit.unitNumber) (tower.map Tower.name) v
  | none =>
    let region := guestRegion (lookupParts (plateKey cfg raw) raw code letter) s
    .guest (plateKey cfg raw) region.1 region.2

/-! ## What is looked for -/

/-- The loop keeps what there is, and takes the first word of each kind. -/
theorem foldl_scanWord (ws : List (List Char)) (code letter : Option String) :
    ws.foldl scanWord (code, letter) =
      (code.or ((ws.find? isCodeWord).map String.ofList),
        letter.or ((ws.find? fun w => w.length == 1).map String.ofList)) := by
  induction ws generalizing code letter with
  | nil => simp
  | cons w ws ih =>
    rw [List.foldl_cons, List.find?_cons, List.find?_cons]
    cases hcode : isCodeWord w with
    | true =>
      -- two characters are no letter
      have hlength : w.length = 2 := by
        rw [isCodeWord, Bool.and_eq_true, beq_iff_eq] at hcode
        exact hcode.2
      have hne : w.isEmpty = false := by
        cases w with
        | nil => cases hlength
        | cons c w => rfl
      cases code with
      | some c => simp [scanWord, hne, hlength, ih]
      | none => simp [scanWord, hne, hlength, hcode, ih]
    | false =>
      by_cases hlength : w.length = 1
      · have hne : w.isEmpty = false := by
          cases w with
          | nil => cases hlength
          | cons c w => rfl
        cases letter with
        | some l => simp [scanWord, hne, hlength, hcode, ih]
        | none => simp [scanWord, hne, hlength, hcode, ih]
      · have hsame : scanWord (code, letter) w = (code, letter) := by
          simp [scanWord, hcode, hlength]
        rw [hsame, ih, beq_false_of_ne hlength]

/-- The code that the request or the end of the plate gives; `some ""` where the request gives
one that is blank. -/
def givenCode (normalized : String) (code : Option String) : Option String :=
  if (normCode code).getD "" = "" then (irCode normalized).or (normCode code) else normCode code

/-- **What is looked for**: the code of the request, of the end of the plate, or the first word of
two digits; the letter of the request, or the first word of one character. -/
theorem lookupParts_eq (normalized raw : String) (code letter : Option String) :
    lookupParts normalized raw code letter =
      ((givenCode normalized code).or (((lookupWords raw).find? isCodeWord).map String.ofList),
        (letterOf letter).or
          (((lookupWords raw).find? fun w => w.length == 1).map String.ofList)) := by
  unfold lookupParts
  dsimp only
  rw [← givenCode]
  split
  next => exact foldl_scanWord _ _ _
  next hgiven =>
    obtain ⟨hcode, hletter⟩ := not_or.1 hgiven
    obtain ⟨l, hl⟩ := Option.ne_none_iff_exists'.1 hletter
    cases hc : givenCode normalized code with
    | none => rw [hc] at hcode; exact absurd rfl hcode
    | some c => rw [hl, Option.some_or, Option.some_or]

/-! ## Codes and letters in the form of the table -/

/-- A code that `resolve_region` would look for as it is. -/
theorem normCode_self {c : List Char} (hne : c ≠ []) (htrans : ∀ x ∈ c, digitTrans x = x)
    (hspace : strip c = c) : normCode (some (String.ofList c)) = some (String.ofList c) := by
  have hempty : String.ofList c ≠ "" := by
    rw [Ne, ← String.toList_inj, String.toList_ofList]
    exact hne
  have hmap : c.map digitTrans = c := by
    conv_rhs => rw [← List.map_id c]
    exact List.map_congr_left htrans
  rw [normCode, Option.bind_some, if_neg hempty, String.toList_ofList, hmap, hspace]

/-- The code of a request is in that form. -/
theorem normCode_normCode {code : Option String} {c : String} (h : normCode code = some c)
    (hne : c ≠ "") : normCode (some c) = some c := by
  obtain ⟨s, -, hs⟩ := Option.bind_eq_some_iff.1 h
  split at hs
  next => cases hs
  next =>
    rw [Option.some.injEq] at hs
    subst hs
    refine normCode_self ?_ ?_ (strip_strip _)
    · intro hnil
      rw [hnil] at hne
      exact hne rfl
    · intro x hx
      obtain ⟨y, -, rfl⟩ := List.mem_map.1 (strip_subset hx)
      exact PlateText.digitTrans_digitTrans y

/-- White space is no digit. -/
theorem strip_of_digits {c : List Char} (h : ∀ x ∈ c, isSpace x = false) : strip c = c :=
  strip_eq_self (fun x hx => h x (List.mem_of_mem_head? hx))
    fun x hx => h x (List.mem_of_mem_getLast? hx)

/-- A word of the text, as a code, is in that form. -/
theorem normCode_word {raw : String} {w : List Char} (hw : w ∈ lookupWords raw)
    (hcode : isCodeWord w = true) : normCode (some (String.ofList w)) = some (String.ofList w) := by
  obtain ⟨t, ht, rfl⟩ := List.mem_map.1 hw
  obtain ⟨-, hmark⟩ := mem_wordsBy t ht
  have hsub : ∀ x ∈ stripQuotes t, x ∈ t := by
    intro x hx
    have hdrop := (List.dropWhile_sublist _).subset (List.mem_reverse.1 hx)
    exact strip_subset ((List.dropWhile_sublist _).subset (List.mem_reverse.1 hdrop))
  refine normCode_self ?_ ?_ ?_
  · intro hnil
    rw [hnil] at hcode
    cases hcode
  · intro x hx
    obtain ⟨y, -, rfl⟩ := List.mem_map.1 (mem_of_mem_wordsBy ht (hsub x hx))
    exact PlateText.digitTrans_digitTrans y
  · refine strip_of_digits fun x hx => ?_
    have hx' := hmark x (hsub x hx)
    rw [isLookupMark, Bool.or_eq_false_iff] at hx'
    exact hx'.1

/-- `_norm_letter` of a letter that went through it. -/
theorem normLetter_normLetter (s : String) : normLetter (normLetter s) = normLetter s := by
  by_cases hs : s = ""
  · rw [hs]
    rfl
  · have hself (c : List Char) (hc : ∀ x ∈ c, x.toNat ≠ 0x640 ∧ arabicLetterTrans x = x)
        (hspace : strip c = c) : normLetter (String.ofList c) = String.ofList c := by
      rw [normLetter]
      split
      next => rfl
      next =>
        have hkept : c.filter (fun x => x.toNat != 0x640) = c :=
          List.filter_eq_self.2 fun x hx => by simpa using (hc x hx).1
        have hmap : c.map arabicLetterTrans = c := by
          conv_rhs => rw [← List.map_id c]
          exact List.map_congr_left fun x hx => (hc x hx).2
        rw [String.toList_ofList, hkept, hmap, hspace]
    rw [show normLetter s = String.ofList (strip ((s.toList.filter fun c => c.toNat != 0x640).map
      arabicLetterTrans)) from if_neg hs]
    refine hself _ (fun x hx => ?_) (strip_strip _)
    obtain ⟨y, hy, rfl⟩ := List.mem_map.1 (strip_subset hx)
    have hkept := (List.mem_filter.1 hy).2
    by_cases hform : isArabicForm y = true
    · rcases isArabicForm_iff.1 hform with rfl | rfl | rfl <;> decide
    · have hsame := arabicLetterTrans_of_not (by simpa using hform)
      rw [hsame]
      exact ⟨by simpa using hkept, hsame⟩

theorem letterOf_some {letter : Option String} {l : String} (h : letterOf letter = some l) :
    l ≠ "" ∧ normLetter l = l := by
  rw [letterOf] at h
  split at h
  next => cases h
  next hne =>
    rw [Option.some.injEq] at h
    subst h
    exact ⟨hne, normLetter_normLetter _⟩

/-! ## The code of a plate that can be read -/

/-- The province in the text of a plate. -/
def provinceOf (raw : String) : Option String :=
  ((plateRegex (cleanText raw.toList)).bind Groups.province).map String.ofList

/-- Two digits after the word for the country. -/
theorem irMatch_digits {d e : Char} (hd : isDigit d = true) (he : isDigit e = true)
    (rest : List Char) : irMatch (e :: d :: 'R' :: 'I' :: rest) = some (String.ofList [d, e]) := by
  unfold irMatch
  split
  next heq =>
    injection heq with hbreak
    rw [hbreak] at he
    cases he
  next heq =>
    cases heq
    rw [hd, he]
    rfl
  next hother => exact absurd rfl (hother e d rest)

/-- Three digits at the end. -/
theorem irMatch_three {x z : Char} (hx : isDigit x = true) (hz : isDigit z = true) (y : Char)
    (rest : List Char) : irMatch (z :: y :: x :: rest) = none := by
  unfold irMatch
  split
  next heq =>
    injection heq with hbreak
    rw [hbreak] at hz
    cases hz
  next heq =>
    cases heq
    cases hx
  next => rfl

/-- **The end of a key** is the province of the plate. -/
theorem irCode_normalizePlate {mode raw plate : String}
    (h : normalizePlate mode raw = some plate) : irCode plate = provinceOf raw := by
  obtain ⟨g, hg, rfl⟩ := normalizePlate_eq_some h
  obtain ⟨-, ⟨x, y, z, hthree, hx, hy, hz⟩, hprovince, -⟩ := plateRegex_groups hg
  rw [provinceOf, hg, Option.bind_some, irCode, String.toList_ofList, keyText, keyGroups]
  dsimp only
  rw [hthree]
  rcases hprovince with hnone | ⟨d, e, hsome, hd, he⟩
  · rw [hnone, provinceText, List.append_nil, List.reverse_append]
    exact irMatch_three hx hz y _
  · rw [hsome, provinceText, List.reverse_append]
    exact irMatch_digits hd he _

/-- The province of a plate is in the form that the table has codes in. -/
theorem normCode_provinceOf {raw c : String} (h : provinceOf raw = some c) :
    normCode (some c) = some c := by
  obtain ⟨p, hp, rfl⟩ := Option.map_eq_some_iff.1 h
  obtain ⟨g, hg, hgp⟩ := Option.bind_eq_some_iff.1 hp
  have hdigits : ∃ d e, p = [d, e] ∧ isDigit d = true ∧ isDigit e = true := by
    rcases (plateRegex_groups hg).2.2.1 with hnone | ⟨d, e, hsome, hd, he⟩
    · rw [hnone] at hgp
      cases hgp
    · rw [hsome, Option.some.injEq] at hgp
      exact ⟨d, e, hgp.symm, hd, he⟩
  have hmem : ∀ x ∈ p, x ∈ cleanText raw.toList := fun x hx =>
    mem_of_plateRegex hg x (by simp [hgp, hx])
  have hdigit : ∀ x ∈ p, isDigit x = true := by
    obtain ⟨d, e, rfl, hd, he⟩ := hdigits
    simp [hd, he]
  refine normCode_self ?_ (fun x hx => ?_) (strip_of_digits fun x hx => ?_)
  · obtain ⟨d, e, rfl, -, -⟩ := hdigits
    exact List.cons_ne_nil _ _
  · -- a digit of a cleaned text is not one that would be translated
    have hclean := (cleanChar_of_isDigit (hmem x hx) (hdigit x hx)).translated
    obtain ⟨-, htwice, -, hdigits⟩ := PlateText.digitTrans_spec (hdigit x hx)
    calc digitTrans x = plateTrans (digitTrans x) := hdigits.translated.symm
      _ = arabicLetterTrans (digitTrans x) := by rw [plateTrans, htwice]
      _ = x := hclean
  · have hkept := (cleanChar_of_isDigit (hmem x hx) (hdigit x hx)).kept
    rw [isSeparator, Bool.or_eq_false_iff] at hkept
    exact hkept.1

/-! ## The region of a guest -/

/-- The province of the first row with a code. -/
def firstProvince (code : Option String) (s : Store) : Option String :=
  code.bind fun c => if c = "" then none else
    ((s.plateRegions.filter fun r => r.plateCode == c).head?).map PlateRegion.province

/-- **What is reported** of a code and a letter in the form of the table. -/
theorem guestRegion_eq {code letter : Option String} {s : Store}
    (hcode : ∀ c, code = some c → c ≠ "" → normCode (some c) = some c)
    (hletter : ∀ l, letter = some l → l ≠ "" ∧ normLetter l = l) :
    guestRegion (code, letter) s =
      match regionOf letter code s with
      | some region => (some region.1, some region.2)
      | none => (if letter = none then none else firstProvince code s, none) := by
  cases letter with
  | none =>
    cases code <;> rfl
  | some l =>
    obtain ⟨hl, hnorm⟩ := hletter l rfl
    cases code with
    | none => rfl
    | some c =>
      by_cases hc : c = ""
      · simp [guestRegion, regionOf, firstProvince, hc]
      · have hrows : (s.plateRegions.filter fun r => normCode (some c) == some r.plateCode) =
            s.plateRegions.filter fun r => r.plateCode == c := by
          refine List.filter_congr fun r _ => ?_
          rw [hcode c rfl hc, Bool.eq_iff_iff, beq_iff_eq, beq_iff_eq, Option.some.injEq]
          exact eq_comm
        simp only [guestRegion, regionOf, hc, hl, or_self, if_false, hrows, hnorm]
        rw [show (fun r => hasLetter r l) = fun r : PlateRegion =>
          ((words (r.letters.getD "").toList).map fun w =>
            normLetter (String.ofList w)).contains l from rfl]
        cases (s.plateRegions.filter fun r => r.plateCode == c).find? fun r =>
            ((words (r.letters.getD "").toList).map fun w =>
              normLetter (String.ofList w)).contains l with
        | some r => rfl
        | none => simp [firstProvince, hc]

/-- What is looked for is in the form of the table, but for what the text of a plate has in
another one. -/
theorem lookupParts_normal {cfg : Config} {raw : String} {code letter : Option String}
    (hread : normalizePlate cfg.plateLetterMapping raw ≠ none ∨ irCode raw = none)
    (hwords : letterOf letter = none → ∀ w ∈ lookupWords raw, w.length = 1 →
      normLetter (String.ofList w) = String.ofList w) :
    (∀ c, (lookupParts (plateKey cfg raw) raw code letter).1 = some c → c ≠ "" →
      normCode (some c) = some c) ∧
    ∀ l, (lookupParts (plateKey cfg raw) raw code letter).2 = some l →
      l ≠ "" ∧ normLetter l = l := by
  have hkey (c : String) (h : irCode (plateKey cfg raw) = some c) :
      normCode (some c) = some c := by
    cases hplate : normalizePlate cfg.plateLetterMapping raw with
    | none =>
      rw [plateKey, hplate, Option.getD_none, hread.resolve_left (not_not_intro hplate)] at h
      cases h
    | some plate =>
      rw [plateKey, hplate, Option.getD_some, irCode_normalizePlate hplate] at h
      exact normCode_provinceOf h
  rw [lookupParts_eq]
  constructor
  · intro c hc hne
    rcases Option.or_eq_some_iff.1 hc with hgiven | ⟨-, hword⟩
    · unfold givenCode at hgiven
      split at hgiven
      next hblank =>
        rcases Option.or_eq_some_iff.1 hgiven with hir | ⟨-, hcode⟩
        · exact hkey c hir
        · rw [hcode] at hblank
          exact absurd hblank hne
      next => exact normCode_normCode hgiven hne
    · obtain ⟨w, hw, rfl⟩ := Option.map_eq_some_iff.1 hword
      exact normCode_word (List.mem_of_find?_eq_some hw) (List.find?_some hw)
  · intro l hl
    rcases Option.or_eq_some_iff.1 hl with hgiven | ⟨hnone, hword⟩
    · exact letterOf_some hgiven
    · obtain ⟨w, hw, rfl⟩ := Option.map_eq_some_iff.1 hword
      have hlength : w.length = 1 := by simpa using List.find?_some hw
      refine ⟨?_, hwords hnone w (List.mem_of_find?_eq_some hw) hlength⟩
      intro hempty
      rw [← String.toList_inj, String.toList_ofList] at hempty
      rw [hempty] at hlength
      cases hlength

/-- **Where a guest is from**: of the code and the letter that are looked for, what a registration
gets where a row has the letter, and the province of the code alone where none has. A plate with a
province is looked up by it, unless the request says otherwise. -/
theorem guest_region (cfg : Config) {s : Store} {raw : String} {code letter : Option String}
    (hguest : vehicleByText cfg raw s = none)
    (hread : normalizePlate cfg.plateLetterMapping raw ≠ none ∨ irCode raw = none)
    (hwords : letterOf letter = none → ∀ w ∈ lookupWords raw, w.length = 1 →
      normLetter (String.ofList w) = String.ofList w) :
    let key := plateKey cfg raw
    let parts := lookupParts key raw code letter
    ∃ province city, plateLookup cfg raw code letter s = .guest key province city ∧
      parts = ((givenCode key code).or (((lookupWords raw).find? isCodeWord).map String.ofList),
        (letterOf letter).or
          (((lookupWords raw).find? fun w => w.length == 1).map String.ofList)) ∧
      (∀ p, provinceOf raw = some p → (normCode code).getD "" = "" → parts.1 = some p) ∧
      (∀ region, regionOf parts.2 parts.1 s = some region →
        province = some region.1 ∧ city = some region.2) ∧
      (regionOf parts.2 parts.1 s = none →
        city = none ∧ province = if parts.2 = none then none else firstProvince parts.1 s) := by
  intro key parts
  obtain ⟨hcode, hletter⟩ := @lookupParts_normal cfg raw code letter hread hwords
  have hregion := @guestRegion_eq parts.1 parts.2 s hcode hletter
  rw [Prod.mk.eta] at hregion
  refine ⟨(guestRegion parts s).1, (guestRegion parts s).2, ?_, lookupParts_eq _ _ _ _, ?_, ?_, ?_⟩
  · rw [plateLookup, hguest]
  · intro p hp hblank
    -- the key of a plate with a province ends with it
    have hir : irCode key = some p := by
      obtain ⟨x, hx, -⟩ := Option.map_eq_some_iff.1 hp
      obtain ⟨g, hg, -⟩ := Option.bind_eq_some_iff.1 hx
      have hplate := @normalizePlate_of_read cfg.plateLetterMapping _ _ hg
      dsimp only [key]
      rw [plateKey, hplate, Option.getD_some, irCode_normalizePlate hplate, hp]
    dsimp only [parts]
    rw [lookupParts_eq, givenCode, if_pos hblank, hir, Option.some_or, Option.some_or]
  · intro region hr
    rw [hregion, hr]
    exact ⟨rfl, rfl⟩
  · intro hr
    rw [hregion, hr]
    exact ⟨rfl, rfl⟩

/-- A table with one row. -/
def oneRegion : Store :=
  { plateRegions :=
      [{ plateCode := "67", province := "اصفهان", city := "کاشان", letters := some "د ی" }] }

theorem guest_region_of_text : ∃ province city,
    plateLookup {} "۱۲ د ۳۴۵ ایران ۶۷" none none oneRegion =
      .guest (plateKey {} "۱۲ د ۳۴۵ ایران ۶۷") province city ∧
    province = some "اصفهان" ∧ city = some "کاشان" :=
  let ⟨province, city, h⟩ := @guest_region {} oneRegion "۱۲ د ۳۴۵ ایران ۶۷" none none rfl
    (Or.inl (by decide)) (by decide)
  ⟨province, city, h.1, h.2.2.2.1 ("اصفهان", "کاشان") (by decide)⟩

/-- A province is reported of a code, with a letter that no row has. -/
theorem province_without_letter : ¬ ∀ (cfg : Config) (s : Store) (raw : String)
    (code letter : Option String), vehicleByText cfg raw s = none →
      plateLookup cfg raw code letter s = .guest (plateKey cfg raw)
        ((regionOf letter code s).map Prod.fst) ((regionOf letter code s).map Prod.snd) := by
  intro hall
  have h := hall {} oneRegion "۱۲ ب ۳۴۵ ایران ۶۷" (some "67") (some "ب") rfl
  rw [plateLookup] at h
  injection h with _ hprovince
  revert hprovince
  decide

end ParkingSystem
