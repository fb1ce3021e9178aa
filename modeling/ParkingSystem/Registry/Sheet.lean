import ParkingSystem.Plate
import ParkingSystem.Settings

/-!
# The Sheet

The rows of the vehicle sheet as the synchronisation reads them: records by column, dates in
either calendar, and the checks a row has to pass. A check that raises gives `none`.
-/

namespace ParkingSystem

open PyText PyValue Plate

/-! ## Cells -/

namespace Cell

def truthy : Cell → Bool
  | null => false
  | bool b => b
  | int n => n != 0
  | float q => q != 0
  | str s => s != ""

/-- `str(value)`. -/
def text (cfg : Config) : Cell → String
  | null => "None"
  | bool b => if b then "True" else "False"
  | int n => toString n
  | float q => cfg.floatText q
  | str s => s

/-- `str(value or "").strip()`. -/
def shown (cfg : Config) (c : Cell) : List Char :=
  if c.truthy then strip (c.text cfg).toList else []

end Cell

/-- `rec.get(column)`. -/
def SheetRecord.cell (rec : SheetRecord) (column : String) : Cell :=
  (rec.lookup column).getD .null

/-- `SHEET_COLUMNS`. -/
def sheetColumns : List String :=
  ["external_vehicle_id", "source_system", "plate_raw", "plate_normalized", "owner_full_name",
    "owner_mobile", "unit_number", "tower_code", "brand", "model", "color", "year",
    "vehicle_type", "plate_type", "permit_type", "permit_valid_from", "permit_valid_until",
    "is_active", "notes", "external_updated_at"]

/-- What the fetcher returns. -/
structure Sheet where
  headers : List String
  rows : List (List Cell)

/-- The column that has a header: the last one, where two are alike. -/
def headerIndex (headers : List String) (column : String) : Option ℕ :=
  (headers.zipIdx.reverse.find? fun h =>
    h.1 != "" && String.ofList (strip h.1.toList) == column).map Prod.snd

/-- A cell as a record keeps it. -/
def trimmed : Cell → Cell
  | .null => .str ""
  | .str s => .str (String.ofList (strip s.toList))
  | c => c

/-- One row of `rows_to_records`: by header, else by the order of `SHEET_COLUMNS`. -/
def recordOf (headers : List String) (row : List Cell) : SheetRecord :=
  sheetColumns.zipIdx.filterMap fun column =>
    (row[(headerIndex headers column.1).getD column.2]?).map fun c => (column.1, trimmed c)

/-- `rows_to_records`. -/
def Sheet.records (sheet : Sheet) : List SheetRecord := sheet.rows.map (recordOf sheet.headers)

/-! ## Dates -/

def isLeapYear (y : ℤ) : Bool := (y % 4 == 0 && y % 100 != 0) || y % 400 == 0

/-- The lengths of the months. -/
def monthLengths (leap : Bool) : List ℤ :=
  [31, if leap then 29 else 28, 31, 30, 31, 30, 31, 31, 30, 31, 30, 31]

/-- Days from the epoch to the first day of a year. -/
def daysBeforeYear (y : ℤ) : ℤ :=
  365 * (y - 1970) + ((y - 1) / 4 - 492) - ((y - 1) / 100 - 19) + ((y - 1) / 400 - 4)

/-- `datetime(y, m, d, tzinfo=utc)`; `none` is a ValueError. -/
def utcDate (y m d : ℤ) : Option ℤ :=
  let months := monthLengths (isLeapYear y)
  if 1 ≤ y ∧ y ≤ 9999 ∧ 1 ≤ m ∧ m ≤ 12 ∧ 1 ≤ d ∧ d ≤ months.getD (m - 1).toNat 0 then
    some ((daysBeforeYear y + (months.take (m - 1).toNat).sum + (d - 1)) * 86400000000)
  else none

/-- The month and the day of a day of the year; month 0 where the year has no such day. -/
def monthOfDay (d : ℤ) : ℤ → List ℤ → ℤ × ℤ
  | _, [] => (0, d)
  | month, length :: rest => if d ≤ length then (month, d) else monthOfDay (d - length) (month + 1) rest

/-- `_jalali_to_gregorian`. -/
def jalaliToGregorian (jy jm jd : ℤ) : ℤ × ℤ × ℤ :=
  let jy := jy + 1595
  let days := -355668 + 365 * jy + jy / 33 * 8 + (jy % 33 + 3) / 4 + jd +
    (if jm < 7 then (jm - 1) * 31 else (jm - 7) * 30 + 186)
  let gy := 400 * (days / 146097)
  let days := days % 146097
  let century := if 36524 < days then
      let rest := (days - 1) % 36524
      (gy + 100 * ((days - 1) / 36524), if 365 ≤ rest then rest + 1 else rest)
    else (gy, days)
  let gy := century.1 + 4 * (century.2 / 1461)
  let days := century.2 % 1461
  let year := if 365 < days then (gy + (days - 1) / 365, (days - 1) % 365) else (gy, days)
  let month := monthOfDay (year.2 + 1) 1 (monthLengths (isLeapYear year.1))
  (year.1, month.1, month.2)

/-- What `parse_any_date` returns. -/
inductive ParsedDate where
  | empty
  | date (t : ℤ)
  | malformed (message : String)
  deriving DecidableEq, Repr

/-- Whether a number is an argument `datetime` can take. -/
def fitsCInt (n : ℤ) : Bool := decide (-(2 ^ 31) ≤ n ∧ n < 2 ^ 31)

/-- The date that three numbers name: Gregorian from 1901 on, Jalali before. -/
def dateOfParts (s : List Char) (y m d : ℤ) : Option ParsedDate :=
  if 1900 < y then
    -- an OverflowError is not caught
    if [y, m, d].all fitsCInt then
      some (((utcDate y m d).map .date).getD
        (.malformed ("تاریخ میلادی نامعتبر: " ++ String.ofList s)))
    else none
  else
    let g := jalaliToGregorian y m d
    (utcDate g.1 g.2.1 g.2.2).map .date

/-- `parse_any_date`. -/
def parseAnyDate (cfg : Config) (value : Cell) : Option ParsedDate :=
  if value = .null then some .empty
  else
    let s := strip (value.text cfg).toList
    if s.isEmpty || ["none", "null", "-"].contains (String.ofList (s.map Char.toLower)) then
      some .empty
    else
      let s := strip (s.filter fun c => c.toNat != 0x200C)
      match split '-' (s.map fun c => if c == '/' then '-' else c) with
      | [y, m, d] =>
        match pyInt y, pyInt m, pyInt d with
        | some y, some m, some d => dateOfParts s y m d
        | _, _, _ => some (.malformed ("تاریخ عددی نیست: " ++ String.ofList s))
      | _ => some (.malformed ("قالب تاریخ نامعتبر: " ++ String.ofList s))

/-- A date as a column takes it. -/
def ParsedDate.value? : ParsedDate → Option ℤ
  | date t => some t
  | _ => none

/-! ## Other cells -/

/-- `parse_bool`. -/
def parseBool (cfg : Config) (value : Cell) (default : Bool) : Bool :=
  let s := if value = .null then ""
    else String.ofList ((strip (value.text cfg).toList).map Char.toLower)
  if ["true", "1", "yes", "y", "فعال", "بله", "true."].contains s then true
  else if ["false", "0", "no", "n", "غیرفعال", "خیر"].contains s then false
  else default

/-- `value or None` for a text column; a number does not fit one. -/
def textColumn : Cell → Option (Option String)
  | .str s => some (if s = "" then none else some s)
  | c => if c.truthy then none else some none

/-- `(value or default).upper()`. -/
def upperColumn (default : String) : Cell → Option String
  | .str s => some (upperString (if s = "" then default else s))
  | c => if c.truthy then none else some (upperString default)

/-- The year of a record, where its text is digits only; `none` is a ValueError. -/
def yearOf (cfg : Config) (value : Cell) : Option (Option ℤ) :=
  let s := value.shown cfg
  if !s.isEmpty && s.all fun c => isDigit c || isOtherDigit c then (pyInt s).map some else some none

/-! ## Checks -/

/-- `key` of a record: the source system and the identifier there. -/
def SheetRecord.key (cfg : Config) (rec : SheetRecord) : String × String :=
  let source := rec.cell "source_system"
  (String.ofList (strip (if source.truthy then source.text cfg else "OPS").toList),
    String.ofList ((rec.cell "external_vehicle_id").shown cfg))

/-- The error of a date column; `none` where the check raises. -/
def dateErrors (cfg : Config) (rec : SheetRecord) (column : String) : Option (List String) :=
  let value := rec.cell column
  if value = .null ∨ value = .str "" then some []
  else do
    match ← parseAnyDate cfg value with
    | .malformed _ => some ["INVALID_DATE:" ++ column]
    | _ => some []

/-- The errors of the plate; a plate that is not a text has no `strip`. -/
def plateErrors (cfg : Config) (rec : SheetRecord) : Option (List String) :=
  if ((rec.cell "plate_raw").shown cfg).isEmpty then some ["MISSING_REQUIRED:plate_raw"]
  else match rec.cell "plate_raw" with
    | .str raw => some (if (normalizePlate cfg.plateLetterMapping raw).isNone then ["INVALID_PLATE"]
        else [])
    | _ => none

/-- `validate_row`. -/
def validateRow (cfg : Config) (rec : SheetRecord) : Option (List String) := do
  let identifier := if ((rec.cell "external_vehicle_id").shown cfg).isEmpty then
    ["MISSING_REQUIRED:external_vehicle_id"] else []
  let plate ← plateErrors cfg rec
  let dateFrom ← dateErrors cfg rec "permit_valid_from"
  let dateUntil ← dateErrors cfg rec "permit_valid_until"
  return identifier ++ plate ++ dateFrom ++ dateUntil

/-- `rec.get("plate_normalized") or normalize_plate(rec.get("plate_raw"))`; `none` where the
value is no text. -/
def SheetRecord.plate (cfg : Config) (rec : SheetRecord) : Option (Option String) :=
  match rec.cell "plate_normalized" with
  | .str s => if s = "" then rawPlate else some (some s)
  | c => if c.truthy then none else rawPlate
where
  rawPlate : Option (Option String) :=
    match rec.cell "plate_raw" with
    | .str raw => some (normalizePlate cfg.plateLetterMapping raw)
    | c => if c.truthy then none else some none

end ParkingSystem
