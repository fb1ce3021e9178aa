import ParkingSystem.Library.PyText

/-!
# Plate Normalisation

`normalize_plate`: the key under which a plate is stored and looked up everywhere in the
system. The raw text is stripped of separators, its digits and letters are mapped to ASCII,
and what is left must read as two digits, a letter part, three digits and possibly two digits
of province.
-/

namespace ParkingSystem.Plate

open PyText

/-! ## Translation tables -/

/-- `DIGIT_TRANS`: Persian and Arabic digits. -/
def digitTrans (c : Char) : Char :=
  let n := c.toNat
  if 0x6F0 ≤ n ∧ n ≤ 0x6F9 then Char.ofNat (n - 0x6F0 + 0x30)
  else if 0x660 ≤ n ∧ n ≤ 0x669 then Char.ofNat (n - 0x660 + 0x30)
  else c

/-- `ARABIC_LETTER_TRANS`. -/
def arabicLetterTrans : Char → Char
  | 'ك' => 'ک'
  | 'ي' => 'ی'
  | 'ى' => 'ی'
  | c => c

/-- `LETTER_MAP`: several Persian letters to one Latin letter. -/
def letterMap : List (Char × String) :=
  [('ا', "A"), ('ب', "B"), ('پ', "P"), ('ت', "T"), ('ث', "S"), ('ج', "J"), ('چ', "C"),
    ('ح', "H"), ('خ', "X"), ('د', "D"), ('ذ', "Z"), ('ر', "R"), ('ز', "Z"), ('ژ', "Z"),
    ('س', "S"), ('ش', "S"), ('ص', "S"), ('ض', "Z"), ('ط', "T"), ('ظ', "Z"), ('ع', "A"),
    ('غ', "G"), ('ف', "F"), ('ق', "G"), ('ک', "K"), ('گ', "G"), ('ل', "L"), ('م', "M"),
    ('ن', "N"), ('و', "V"), ('ه', "H"), ('ی', "Y")]

/-- `UNIQUE_LETTER_MAP`: each Persian letter to a code of its own. -/
def uniqueLetterMap : List (Char × String) :=
  [('ا', "A"), ('ب', "B"), ('پ', "P"), ('ت', "T"), ('ث', "SS"), ('ج', "J"), ('چ', "CC"),
    ('ح', "H"), ('خ', "KH"), ('د', "D"), ('ذ', "ZD"), ('ر', "R"), ('ز', "Z"), ('ژ', "ZJ"),
    ('س', "S"), ('ش', "SH"), ('ص', "SC"), ('ض', "ZB"), ('ط', "TA"), ('ظ', "ZZ"), ('ع', "E"),
    ('غ', "GH"), ('ف', "F"), ('ق', "G"), ('ک', "K"), ('گ', "GG"), ('ل', "L"), ('م', "M"),
    ('ن', "N"), ('و', "V"), ('ه', "HH"), ('ی', "Y")]

/-- `get_letter_map`. -/
def getLetterMap (mode : String) : List (Char × String) :=
  if upperString mode = "UNIQUE" then uniqueLetterMap else letterMap

/-! ## The pattern -/

/-- What the pattern wants after the letters: `(\d{3})(?:IR)?(\d{2})?$`, with the province,
if any. -/
def tailMatch : List Char → Option (List Char × Option (List Char))
  | [a, b, c] => if [a, b, c].all isDigit then some ([a, b, c], none) else none
  | [a, b, c, 'I', 'R'] => if [a, b, c].all isDigit then some ([a, b, c], none) else none
  | [a, b, c, d, e] =>
    if [a, b, c, d, e].all isDigit then some ([a, b, c], some [d, e]) else none
  | [a, b, c, 'I', 'R', d, e] =>
    if [a, b, c, d, e].all isDigit then some ([a, b, c], some [d, e]) else none
  | _ => none

/-- The lazy `(.+?)` followed by the tail: the shortest non-empty letter part that leaves a
tail. -/
def lettersMatch : List Char → Option (List Char × List Char × Option (List Char))
  | [] => none
  | c :: cs =>
    match tailMatch cs with
    | some (three, province) => some ([c], three, province)
    | none => (lettersMatch cs).map fun (letters, rest) => (c :: letters, rest)

/-- The four groups of `PLATE_REGEX`. -/
structure Groups where
  twoDigits : List Char
  letters : List Char
  threeDigits : List Char
  province : Option (List Char)

/-- `PLATE_REGEX.search(text)`. -/
def plateRegex : List Char → Option Groups
  | a :: b :: rest =>
    if isDigit a && isDigit b then
      (lettersMatch rest).map fun (letters, three, province) =>
        { twoDigits := [a, b], letters, threeDigits := three, province }
    else none
  | _ => none

/-! ## Normalisation -/

/-- The separators: `[\s\-_/\\.,()]`. -/
def isSeparator (c : Char) : Bool :=
  isSpace c || ['-', '_', '/', '\\', '.', ',', '(', ')'].contains c

/-- The text the pattern is matched against. -/
def cleanText (raw : List Char) : List Char :=
  let text := (strip raw).map fun c => arabicLetterTrans (digitTrans c)
  let text := (upper text).filter fun c => !isSeparator c
  let text := replace "IRAN".toList "IR".toList text
  replace "ایران".toList "IR".toList text

/-- The letter part in Latin letters. -/
def mapLetters (table : List (Char × String)) (letters : List Char) : List Char :=
  let mapped := letters.flatMap fun c =>
    match table.lookup c with
    | some code => code.toList
    | none => if c.isAlpha then [c] else []
  if mapped.isEmpty then ['X'] else mapped

/-- `normalize_plate(raw, mode)`; `none` for an unreadable plate. -/
def normalizePlate (mode : String) (raw : String) : Option String :=
  if (strip raw.toList).isEmpty then none
  else do
    let g ← plateRegex (cleanText raw.toList)
    let base := g.twoDigits ++ mapLetters (getLetterMap mode) g.letters ++ g.threeDigits
    some <| String.ofList <| base ++ match g.province with
      | some p => "IR".toList ++ p
      | none => []

theorem plateRegex_twoDigits {text : List Char} {g : Groups} (h : plateRegex text = some g) :
    g.twoDigits ≠ [] := by
  unfold plateRegex at h
  split at h
  · split at h
    · obtain ⟨_, _, rfl⟩ := Option.map_eq_some_iff.1 h
      simp
    · cases h
  · cases h

/-- A plate that can be read is not empty. -/
theorem normalizePlate_ne_empty {mode raw plate : String}
    (h : normalizePlate mode raw = some plate) : plate ≠ "" := by
  unfold normalizePlate at h
  split at h
  · cases h
  · obtain ⟨g, hg, h⟩ := Option.bind_eq_some_iff.1 h
    obtain rfl := Option.some.inj h
    intro hempty
    have hnil := congrArg String.toList hempty
    simp [plateRegex_twoDigits hg] at hnil

example : normalizePlate "MANY_TO_ONE" "۱۲ ب ۳۴۵ ایران ۶۷" = some "12B345IR67" := by decide

end ParkingSystem.Plate
