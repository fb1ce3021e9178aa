import Mathlib.Data.List.Induction
import ParkingSystem.Plate
import ParkingSystem.Vehicles

/-!
# Migration of the Plate Letters

`migrate_plate_letters.py` rewrites the stored keys from one letter table to the other. The
vehicles are read again from their raw text; permits, sessions, events and payments have no raw
text and follow a map built from the vehicles, or the letters of the key itself; restrictions and
violations are not visited.

The rows of one vehicle that had one key have one key afterwards exactly where these three rules
lead to the same key.
-/

namespace ParkingSystem

open Plate PyText Table

/-! ## Reading a key back -/

/-- The class `[A-Z]`. -/
def isUpperAscii (c : Char) : Bool := 'A' ≤ c && c ≤ 'Z'

/-- `(\d{3})(IR(\d{2}))?`, to the end. -/
def normalizedTail : List Char → Option (List Char × Option (List Char))
  | [a, b, c] => if [a, b, c].all isDigit then some ([a, b, c], none) else none
  | [a, b, c, 'I', 'R', d, e] =>
    if [a, b, c, d, e].all isDigit then some ([a, b, c], some [d, e]) else none
  | _ => none

/-- `$` also matches before a line break that ends the text. -/
def dropLineEnd (text : List Char) : List Char :=
  if text.getLast? = some '\n' then text.dropLast else text

/-- `([A-Z]{1,2})` from a first letter on, and what follows: a second letter belongs to it, since
a digit has to come next. -/
def letterRun (l : Char) : List Char → List Char × List Char
  | [] => ([l], [])
  | m :: rest => if isUpperAscii m then ([l, m], rest) else ([l], m :: rest)

/-- `NORMALIZED_PARTS_REGEX.match(text)`. -/
def normalizedParts (text : List Char) : Option Groups :=
  match dropLineEnd text with
  | a :: b :: l :: rest =>
    if isDigit a && isDigit b && isUpperAscii l then
      (normalizedTail (letterRun l rest).2).map fun (three, province) =>
        { twoDigits := [a, b], letters := (letterRun l rest).1, threeDigits := three, province }
    else none
  | _ => none

/-- The province as a key spells it. -/
def provinceText : Option (List Char) → List Char
  | some p => "IR".toList ++ p
  | none => []

/-- The Persian letters with a code. -/
def lettersOf (table : List (Char × String)) (code : String) : List Char :=
  (table.filter fun entry => entry.2 == code).map Prod.fst

/-- `remap_normalized_plate(normalized, from_map, to_map)`. -/
def remapNormalizedPlate (normalized : String) (fromMap toMap : List (Char × String)) :
    Option String := do
  let g ← normalizedParts normalized.toList
  match lettersOf fromMap (String.ofList g.letters) with
  | [letter] => do
    let code ← toMap.lookup letter
    some (String.ofList (g.twoDigits ++ code.toList ++ g.threeDigits ++ provinceText g.province))
  | _ => none

/-! ## The script -/

/-- `vehicle_map` after some vehicles, the latest entry first. -/
def vehicleMapStep (mode : String) (map : List (String × String)) (v : Vehicle) :
    List (String × String) :=
  match normalizePlate mode v.plateRaw with
  | some plate => if v.plateNormalized = "" then map else (v.plateNormalized, plate) :: map
  | none => map

/-- `vehicle_map`. -/
def vehicleMap (mode : String) (s : Store) : List (String × String) :=
  s.vehicles.foldl (vehicleMapStep mode) []

/-- `map_norm`. -/
def mapNorm (mode : String) (s : Store) (old : Option String) : Option String :=
  match old with
  | none => none
  | some old =>
    if old = "" then none
    else match (vehicleMap mode s).lookup old with
      | some plate => some plate
      | none => remapNormalizedPlate old letterMap (getLetterMap mode)

/-- `new_norm[2:4] if new_norm[2:3].isalpha() else new_norm[2:3]`; what stands there in a
normalised plate is ASCII. -/
def plateLetterOf (plate : String) : String :=
  let rest := plate.toList.drop 2
  String.ofList (rest.take (if (rest.take 1).any Char.isAlpha then 2 else 1))

/-- A vehicle, read again from its raw text. -/
def migrateVehicle (mode : String) (v : Vehicle) : Vehicle :=
  match normalizePlate mode v.plateRaw with
  | some plate => { v with plateNormalized := plate, plateLetter := some (plateLetterOf plate) }
  | none => v

/-- The key of a row that has nothing but the key. -/
def mappedKey (mode : String) (s : Store) (old : String) : String :=
  (mapNorm mode s (some old)).getD old

/-- A session under its new key. -/
def migrateSession (mode : String) (s : Store) (row : ParkingSession) : ParkingSession :=
  { row with plateNormalized := mappedKey mode s row.plateNormalized }

/-- What the UPDATEs of a run write, where none is refused. -/
def rewritten (mode : String) (s : Store) : Store :=
  { s with
    vehicles := s.vehicles.map (migrateVehicle mode)
    permits := s.permits.map fun p =>
      { p with plateNormalized := mappedKey mode s p.plateNormalized }
    sessions := s.sessions.map (migrateSession mode s)
    events := s.events.map fun e =>
      { e with plateNormalized := e.plateNormalized.map (mappedKey mode s) }
    recognitions := s.recognitions.map fun r =>
      match normalizePlate mode r.plateRaw with
      | some plate => { r with plateNormalized := some plate }
      | none => r
    payments := s.payments.map fun p =>
      { p with plateNormalized := p.plateNormalized.map (mappedKey mode s) } }

/-- Whether the unique index on open sessions refuses an UPDATE: they run one after another, so
a session meets the new keys of those before it and the old keys of those after it. -/
def openKeyTaken (new : ParkingSession → ParkingSession) :
    List ParkingSession → List ParkingSession → Bool
  | _, [] => false
  | done, row :: rest =>
    (new row != row && row.status == .opened &&
        (done ++ rest).any fun other =>
          other.status == .opened && other.plateNormalized == (new row).plateNormalized) ||
      openKeyTaken new (done ++ [new row]) rest

/-- Whether a key that an UPDATE writes is too long for its column. -/
def keyTooLong (old new : Option String) : Bool := new != old && !fitsChar? 32 new

/-- Whether the database refuses one of the UPDATEs. -/
def migrationRefused (mode : String) (s : Store) : Bool :=
  (s.vehicles.any fun v =>
      keyTooLong (some v.plateNormalized) (some (migrateVehicle mode v).plateNormalized)) ||
    ((s.permits.map AccessPermit.plateNormalized ++
        s.sessions.map ParkingSession.plateNormalized ++
        s.events.filterMap AccessEvent.plateNormalized ++
        s.payments.filterMap Payment.plateNormalized).any fun key =>
      keyTooLong (some key) (some (mappedKey mode s key))) ||
    (s.recognitions.any fun r =>
      !fitsChar? 32 (normalizePlate mode r.plateRaw) &&
        normalizePlate mode r.plateRaw != r.plateNormalized) ||
    openKeyTaken (migrateSession mode s) [] (orderBy (fun row => row.id) s.sessions)

/-- `migrate(target_mode, apply)`: what it leaves committed. -/
def migrate (mode : String) (apply : Bool) (s : Store) : Store :=
  if apply && !migrationRefused mode s then rewritten mode s else s

/-! ## Plates with one Persian letter -/

/-- What a stored key is meant to stand for: a plate as it is painted, with one letter. -/
structure PersianPlate where
  two : Char × Char
  letter : Char
  three : Char × Char × Char
  province : Option (Char × Char)

/-- The key of a plate under a table of letters. -/
def PersianPlate.key (p : PersianPlate) (table : List (Char × String)) : Option String :=
  (table.lookup p.letter).map fun code =>
    String.ofList ([p.two.1, p.two.2] ++ code.toList ++ [p.three.1, p.three.2.1, p.three.2.2] ++
      provinceText (p.province.map fun (d, e) => [d, e]))

/-- A key that has been kept, or replaced by the key that the one plate it can stand for has
under the target table. A line break at the end of the key is dropped with it. -/
def MovedAsPlate (mode : String) (old new : String) : Prop :=
  new = old ∨ ∃ p : PersianPlate,
    (∀ q : PersianPlate, q.key letterMap = some (String.ofList (dropLineEnd old.toList)) ↔ q = p) ∧
      p.key (getLetterMap mode) = some new

theorem mem_lettersOf {table : List (Char × String)} {code : String} {letter : Char} :
    letter ∈ lettersOf table code ↔ (letter, code) ∈ table := by
  simp [lettersOf]

/-- Each letter stands once in the table, with a code of one character. -/
theorem letterMap_lookup {letter : Char} {code : String} :
    letterMap.lookup letter = some code ↔ (letter, code) ∈ letterMap :=
  lookup_eq_some_iff_mem (by decide)

theorem letterMap_single {letter : Char} {code : String} (h : (letter, code) ∈ letterMap) :
    ∃ c, code.toList = [c] := by
  have hsingle : (letterMap.all fun entry => entry.2.toList.length == 1) = true := by decide
  exact List.length_eq_one_iff.1 (beq_iff_eq.1 (List.all_eq_true.1 hsingle _ h))

theorem normalizedTail_some {text three : List Char} {province : Option (List Char)}
    (h : normalizedTail text = some (three, province)) :
    ∃ x y z, ∃ p : Option (Char × Char), three = [x, y, z] ∧
      province = p.map (fun (d, e) => [d, e]) ∧ text = three ++ provinceText province := by
  unfold normalizedTail at h
  split at h
  · split at h
    · cases h
      exact ⟨_, _, _, none, rfl, rfl, rfl⟩
    · cases h
  · split at h
    · cases h
      exact ⟨_, _, _, some (_, _), rfl, rfl, rfl⟩
    · cases h
  · cases h

theorem letterRun_append (l : Char) (rest : List Char) :
    (letterRun l rest).1 ++ (letterRun l rest).2 = l :: rest := by
  unfold letterRun
  split
  · rfl
  · split <;> rfl

/-- What the pattern has read, put together again. -/
theorem normalizedParts_some {text : List Char} {g : Groups} (h : normalizedParts text = some g) :
    ∃ a b x y z, ∃ province : Option (Char × Char),
      g.twoDigits = [a, b] ∧ g.threeDigits = [x, y, z] ∧
        g.province = province.map (fun (d, e) => [d, e]) ∧
        dropLineEnd text = [a, b] ++ g.letters ++ [x, y, z] ++ provinceText g.province := by
  unfold normalizedParts at h
  split at h
  · split at h
    · obtain ⟨⟨three, province⟩, htail, rfl⟩ := Option.map_eq_some_iff.1 h
      obtain ⟨x, y, z, p, rfl, rfl, hrest⟩ := normalizedTail_some htail
      refine ⟨_, _, x, y, z, p, rfl, rfl, rfl, ?_⟩
      rw [‹dropLineEnd text = _›, List.append_assoc, List.append_assoc, ← hrest, letterRun_append]
      rfl
    · cases h
  · cases h

theorem provinceText_inj {p q : Option (Char × Char)}
    (h : provinceText (p.map fun (d, e) => [d, e]) = provinceText (q.map fun (d, e) => [d, e])) :
    p = q := by
  cases p <;> cases q <;> simp_all [provinceText, Prod.ext_iff]

/-- Two plates with one key under the first table differ in nothing but the letter. -/
theorem PersianPlate.key_letterMap {q : PersianPlate} {text : List Char} :
    q.key letterMap = some (String.ofList text) ↔
      ∃ c, (q.letter, String.ofList [c]) ∈ letterMap ∧
        [q.two.1, q.two.2, c, q.three.1, q.three.2.1, q.three.2.2] ++
          provinceText (q.province.map fun (d, e) => [d, e]) = text := by
  unfold PersianPlate.key
  rw [Option.map_eq_some_iff]
  constructor
  · rintro ⟨code, hcode, htext⟩
    obtain ⟨c, hc⟩ := letterMap_single (letterMap_lookup.1 hcode)
    have hsingle : code = String.ofList [c] := by rw [← hc, String.ofList_toList]
    subst hsingle
    refine ⟨c, letterMap_lookup.1 hcode, ?_⟩
    simpa using String.ofList_injective htext
  · rintro ⟨c, hc, rfl⟩
    exact ⟨_, letterMap_lookup.2 hc, by simp⟩

/-- A key that can be moved stands for one plate, and moves to that plate's key. -/
theorem remapNormalizedPlate_some {old new : String} {target : List (Char × String)}
    (h : remapNormalizedPlate old letterMap target = some new) :
    ∃ p : PersianPlate,
      (∀ q : PersianPlate,
        q.key letterMap = some (String.ofList (dropLineEnd old.toList)) ↔ q = p) ∧
      p.key target = some new := by
  obtain ⟨g, hg, h⟩ := Option.bind_eq_some_iff.1 h
  obtain ⟨a, b, x, y, z, province, htwo, hthree, hprovince, htext⟩ := normalizedParts_some hg
  split at h
  case h_2 => cases h
  case h_1 letter hletters =>
    obtain ⟨code, hcode, hnew⟩ := Option.bind_eq_some_iff.1 h
    have hmem : ∀ l, (l, String.ofList g.letters) ∈ letterMap ↔ l = letter := by
      intro l
      rw [← mem_lettersOf, hletters, List.mem_singleton]
    obtain ⟨c, hc⟩ := letterMap_single ((hmem letter).2 rfl)
    rw [String.toList_ofList] at hc
    rw [hc] at hmem htext
    refine ⟨⟨(a, b), letter, (x, y, z), province⟩, fun q => ?_, ?_⟩
    · -- the characters around the letter are in the key, and the code has one letter
      rw [PersianPlate.key_letterMap, htext, hprovince]
      constructor
      · rintro ⟨c', hc', hq⟩
        obtain ⟨⟨q₁, q₂⟩, l, ⟨q₃, q₄, q₅⟩, r⟩ := q
        simp only [List.cons_append, List.nil_append, List.cons.injEq] at hq
        obtain ⟨rfl, rfl, rfl, rfl, rfl, rfl, hr⟩ := hq
        rw [(hmem l).1 hc', provinceText_inj hr]
      · rintro rfl
        exact ⟨c, (hmem letter).2 rfl, rfl⟩
    · rw [PersianPlate.key, hcode, Option.map_some]
      rw [htwo, hthree, hprovince] at hnew
      exact hnew

/-! ## Where a key moves -/

/-- What the vehicles registered under a key are now read as: the last one that can be read. -/
def readAs (mode : String) (s : Store) (key : String) : Option String :=
  ((s.vehicles.filter fun v => v.plateNormalized == key).filterMap fun v =>
    normalizePlate mode v.plateRaw).getLast?

theorem lookup_vehicleMap {mode key : String} (hkey : key ≠ "") (s : Store) :
    (vehicleMap mode s).lookup key = readAs mode s key := by
  unfold vehicleMap readAs
  induction s.vehicles using List.reverseRecOn with
  | nil => rfl
  | append_singleton vehicles v ih =>
    rw [List.foldl_append, List.filter_append, List.filterMap_append, List.getLast?_append, ← ih]
    simp only [List.foldl_cons, List.foldl_nil, vehicleMapStep]
    -- the vehicle counts where it has the key and can be read
    by_cases hv : v.plateNormalized = key
    · subst hv
      cases hread : normalizePlate mode v.plateRaw with
      | none => simp [hread]
      | some plate => simp [hread, hkey]
    · have hne : (key == v.plateNormalized) = false := beq_eq_false_iff_ne.2 (Ne.symm hv)
      cases hread : normalizePlate mode v.plateRaw with
      | none => simp [hv]
      | some plate =>
        by_cases hempty : v.plateNormalized = ""
        · simp [hempty, Ne.symm hkey]
        · simp [hempty, hv, List.lookup_cons, hne]

theorem mappedKey_of_readAs {mode key plate : String} {s : Store} (hkey : key ≠ "")
    (h : readAs mode s key = some plate) : mappedKey mode s key = plate := by
  rw [mappedKey, mapNorm, if_neg hkey, lookup_vehicleMap hkey, h]
  rfl

theorem mappedKey_of_unread {mode key : String} {s : Store} (h : readAs mode s key = none) :
    MovedAsPlate mode key (mappedKey mode s key) := by
  unfold mappedKey mapNorm
  dsimp only
  by_cases hkey : key = ""
  · rw [if_pos hkey]
    exact .inl rfl
  rw [if_neg hkey, lookup_vehicleMap hkey, h]
  cases hremap : remapNormalizedPlate key letterMap (getLetterMap mode) with
  | none => exact .inl rfl
  | some new => exact .inr (remapNormalizedPlate_some hremap)

/-! ## Rows with a key -/

/-- A row as far as the joins go: the vehicle it names, and its key. -/
structure PlateRow where
  owner : Option ℕ
  key : Option String
  deriving DecidableEq, Repr

/-- The vehicles. -/
def Vehicle.plateRow (v : Vehicle) : PlateRow := ⟨some v.id, some v.plateNormalized⟩

/-- The rows whose key follows the map. -/
def Store.mappedRows (s : Store) : List PlateRow :=
  (s.permits.map fun p => ⟨p.vehicleId, some p.plateNormalized⟩) ++
    (s.sessions.map fun row => ⟨row.vehicleId, some row.plateNormalized⟩) ++
    (s.events.map fun e => ⟨e.vehicleId, e.plateNormalized⟩) ++
    s.payments.map fun p => ⟨p.vehicleId, p.plateNormalized⟩

/-- The rows the script does not visit. -/
def Store.keptRows (s : Store) : List PlateRow :=
  (s.restrictions.map fun r => ⟨r.vehicleId, some r.plateNormalized⟩) ++
    s.violations.map fun v => ⟨v.vehicleId, v.plateNormalized⟩

/-- The rows of all seven tables. -/
def Store.plateRows (s : Store) : List PlateRow :=
  s.vehicles.map Vehicle.plateRow ++ (s.mappedRows ++ s.keptRows)

/-- A row belongs to a vehicle that it names; one that names none, to those under its key. -/
def PlateRow.BelongsTo (r : PlateRow) (v : Vehicle) : Prop :=
  r.owner = some v.id ∨ r.owner = none ∧ r.key = some v.plateNormalized

/-- No UPDATE moves a row: the rows before and after a run, side by side. -/
def rowPairs (s s' : Store) : List (PlateRow × PlateRow) := s.plateRows.zip s'.plateRows

/-- **Identity is preserved**: two rows of one vehicle that had one key still have one key. -/
def KeepsIdentity (s s' : Store) : Prop :=
  ∀ v ∈ s.vehicles, ∀ r₁ ∈ rowPairs s s', ∀ r₂ ∈ rowPairs s s',
    r₁.1.BelongsTo v → r₂.1.BelongsTo v → r₁.1.key = r₂.1.key → r₁.2.key = r₂.2.key

/-- A key that no vehicle has which could be read again. -/
def Unmatched (mode : String) (s : Store) (key : String) : Prop :=
  ∀ v ∈ s.vehicles, v.plateNormalized = key → normalizePlate mode v.plateRaw = none

/-- Every row that matched no vehicle has its key, or the key of its plate. -/
def MovesRest (mode : String) (s s' : Store) : Prop :=
  ∀ r ∈ rowPairs s s', ∀ key, r.1.key = some key → Unmatched mode s key →
    ∃ new, r.2.key = some new ∧ MovedAsPlate mode key new

/-! ## What a run does to the rows -/

/-- A row under its new key. -/
def PlateRow.mapped (mode : String) (s : Store) (r : PlateRow) : PlateRow :=
  { r with key := r.key.map (mappedKey mode s) }

theorem mappedRows_rewritten (mode : String) (s : Store) :
    (rewritten mode s).mappedRows = s.mappedRows.map (PlateRow.mapped mode s) := by
  simp only [Store.mappedRows, rewritten, List.map_append, List.map_map]
  rfl

theorem vehicleRows_rewritten (mode : String) (s : Store) :
    (rewritten mode s).vehicles.map Vehicle.plateRow =
      s.vehicles.map fun v => (migrateVehicle mode v).plateRow := by
  simp only [rewritten, List.map_map]
  rfl

theorem mem_rowPairs_self {s : Store} {r r' : PlateRow} :
    (r, r') ∈ rowPairs s s ↔ r ∈ s.plateRows ∧ r' = r := mem_zip_self

/-- A vehicle under its new key, a row under the key of the map, or a row left alone. -/
theorem mem_rowPairs_rewritten {mode : String} {s : Store} {r r' : PlateRow} :
    (r, r') ∈ rowPairs s (rewritten mode s) ↔
      (∃ v ∈ s.vehicles, r = v.plateRow ∧ r' = (migrateVehicle mode v).plateRow) ∨
        (r ∈ s.mappedRows ∧ r' = r.mapped mode s) ∨ (r ∈ s.keptRows ∧ r' = r) := by
  have hkept : (rewritten mode s).keptRows = s.keptRows := rfl
  unfold rowPairs Store.plateRows
  rw [mappedRows_rewritten, vehicleRows_rewritten, hkept,
    List.zip_append (by simp), List.zip_append (by simp), List.zip_map', List.mem_append,
    List.mem_append, mem_zip_map_self, mem_zip_self]
  simp only [List.mem_map, Prod.mk.injEq]
  simp only [eq_comm]

/-! ## The rows of one vehicle -/

/-- Where the rows under a key are led: by the vehicles under it, else by the letters. -/
def keyLed (mode : String) (s : Store) (key : String) : String :=
  if key = "" then key
  else (readAs mode s key).getD
    ((remapNormalizedPlate key letterMap (getLetterMap mode)).getD key)

/-- **When the rows of a vehicle stay together**:
* `follows`: where rows that follow the map have the vehicle's key, the map leads to what the
  vehicle itself is read as;
* `stays`: where a restriction or a violation has the vehicle's key, the vehicle keeps it;
* `together`: where a restriction or a violation and a row that follows the map have one key, the
  map keeps it. -/
structure StaysTogether (mode : String) (s : Store) (v : Vehicle) : Prop where
  follows : ∀ r ∈ s.mappedRows, r.BelongsTo v → r.key = some v.plateNormalized →
    keyLed mode s v.plateNormalized = (normalizePlate mode v.plateRaw).getD v.plateNormalized
  stays : ∀ r ∈ s.keptRows, r.BelongsTo v → r.key = some v.plateNormalized →
    (normalizePlate mode v.plateRaw).getD v.plateNormalized = v.plateNormalized
  together : ∀ r ∈ s.mappedRows, ∀ k ∈ s.keptRows, r.BelongsTo v → k.BelongsTo v →
    ∀ key, r.key = some key → k.key = some key → keyLed mode s key = key

theorem mappedKey_eq_keyLed (mode : String) (s : Store) (key : String) :
    mappedKey mode s key = keyLed mode s key := by
  unfold mappedKey mapNorm keyLed
  dsimp only
  by_cases hkey : key = ""
  · rw [if_pos hkey, if_pos hkey]
    rfl
  rw [if_neg hkey, if_neg hkey, lookup_vehicleMap hkey]
  cases readAs mode s key with
  | none => rfl
  | some plate => rfl

theorem migrateVehicle_plateRow (mode : String) (v : Vehicle) :
    (migrateVehicle mode v).plateRow =
      ⟨some v.id, some ((normalizePlate mode v.plateRaw).getD v.plateNormalized)⟩ := by
  unfold migrateVehicle
  cases normalizePlate mode v.plateRaw with
  | none => rfl
  | some plate => rfl

/-- The only vehicle among the rows of a vehicle is the vehicle. -/
theorem eq_of_belongsTo {s : Store} (hids : (s.vehicles.map Vehicle.id).Nodup) {v w : Vehicle}
    (hv : v ∈ s.vehicles) (hw : w ∈ s.vehicles) (h : w.plateRow.BelongsTo v) : w = v := by
  rcases h with h | ⟨h, -⟩
  · exact List.inj_on_of_nodup_map hids hw hv (Option.some.inj h)
  · cases h

section Rewritten

variable {mode : String} {s : Store} {v : Vehicle}

theorem vehicle_mem_rowPairs (hv : v ∈ s.vehicles) :
    (v.plateRow, (migrateVehicle mode v).plateRow) ∈ rowPairs s (rewritten mode s) :=
  mem_rowPairs_rewritten.2 (.inl ⟨v, hv, rfl, rfl⟩)

theorem mapped_mem_rowPairs {r : PlateRow} (hr : r ∈ s.mappedRows) :
    (r, r.mapped mode s) ∈ rowPairs s (rewritten mode s) :=
  mem_rowPairs_rewritten.2 (.inr (.inl ⟨hr, rfl⟩))

theorem kept_mem_rowPairs {r : PlateRow} (hr : r ∈ s.keptRows) :
    (r, r) ∈ rowPairs s (rewritten mode s) :=
  mem_rowPairs_rewritten.2 (.inr (.inr ⟨hr, rfl⟩))

theorem mapped_key {r : PlateRow} {key : String} (h : r.key = some key) :
    (r.mapped mode s).key = some (keyLed mode s key) := by
  rw [PlateRow.mapped, h, Option.map_some, mappedKey_eq_keyLed]

theorem StaysTogether.of_keeps (h : KeepsIdentity s (rewritten mode s)) (hv : v ∈ s.vehicles) :
    StaysTogether mode s v where
  follows r hr hown hkey := by
    have hsame := h v hv _ (mapped_mem_rowPairs hr) _ (vehicle_mem_rowPairs hv) hown (.inl rfl) hkey
    rw [mapped_key hkey, migrateVehicle_plateRow] at hsame
    exact Option.some.inj hsame
  stays r hr hown hkey := by
    have hsame := h v hv _ (vehicle_mem_rowPairs hv) _ (kept_mem_rowPairs hr) (.inl rfl) hown
      hkey.symm
    rw [hkey, migrateVehicle_plateRow] at hsame
    exact Option.some.inj hsame
  together r hr k hk hrown hkown key hrkey hkkey := by
    have hsame := h v hv _ (mapped_mem_rowPairs hr) _ (kept_mem_rowPairs hk) hrown hkown
      (hrkey.trans hkkey.symm)
    rw [mapped_key hrkey, hkkey] at hsame
    exact Option.some.inj hsame

/-- A row that follows the map, beside a row the script left alone. -/
theorem StaysTogether.mapped_kept (h : StaysTogether mode s v) {r k : PlateRow}
    (hr : r ∈ s.mappedRows) (hk : k ∈ s.keptRows) (hrown : r.BelongsTo v) (hkown : k.BelongsTo v)
    (hsame : r.key = k.key) : (r.mapped mode s).key = k.key := by
  cases hkey : k.key with
  | none =>
    rw [PlateRow.mapped, hsame, hkey]
    rfl
  | some key =>
    rw [mapped_key (hsame.trans hkey),
      h.together r hr k hk hrown hkown key (hsame.trans hkey) hkey]

theorem StaysTogether.mapped_vehicle (h : StaysTogether mode s v) {r : PlateRow}
    (hr : r ∈ s.mappedRows) (hown : r.BelongsTo v) (hsame : r.key = v.plateRow.key) :
    (r.mapped mode s).key = (migrateVehicle mode v).plateRow.key := by
  rw [mapped_key hsame, h.follows r hr hown hsame, migrateVehicle_plateRow]

theorem StaysTogether.kept_vehicle (h : StaysTogether mode s v) {k : PlateRow}
    (hk : k ∈ s.keptRows) (hown : k.BelongsTo v) (hsame : k.key = v.plateRow.key) :
    k.key = (migrateVehicle mode v).plateRow.key := by
  rw [migrateVehicle_plateRow, h.stays k hk hown hsame, hsame]
  rfl

theorem keepsIdentity_rewritten (hids : (s.vehicles.map Vehicle.id).Nodup)
    (h : ∀ v ∈ s.vehicles, StaysTogether mode s v) : KeepsIdentity s (rewritten mode s) := by
  rintro v hv ⟨r₁, r₁'⟩ hr₁ ⟨r₂, r₂'⟩ hr₂ hown₁ hown₂ hsame
  dsimp only at hown₁ hown₂ hsame ⊢
  have hvt := h v hv
  -- the kind of the first row, then of the second
  rcases mem_rowPairs_rewritten.1 hr₁ with ⟨w, hw, rfl, rfl⟩ | ⟨hm, rfl⟩ | ⟨hk, rfl⟩
  · obtain rfl := eq_of_belongsTo hids hv hw hown₁
    rcases mem_rowPairs_rewritten.1 hr₂ with ⟨w', hw', rfl, rfl⟩ | ⟨hm', rfl⟩ | ⟨hk', rfl⟩
    · obtain rfl := eq_of_belongsTo hids hv hw' hown₂
      rfl
    · exact (hvt.mapped_vehicle hm' hown₂ hsame.symm).symm
    · exact (hvt.kept_vehicle hk' hown₂ hsame.symm).symm
  · rcases mem_rowPairs_rewritten.1 hr₂ with ⟨w', hw', rfl, rfl⟩ | ⟨hm', rfl⟩ | ⟨hk', rfl⟩
    · obtain rfl := eq_of_belongsTo hids hv hw' hown₂
      exact hvt.mapped_vehicle hm hown₁ hsame
    · rw [PlateRow.mapped, PlateRow.mapped, hsame]
    · exact hvt.mapped_kept hm hk' hown₁ hown₂ hsame
  · rcases mem_rowPairs_rewritten.1 hr₂ with ⟨w', hw', rfl, rfl⟩ | ⟨hm', rfl⟩ | ⟨hk', rfl⟩
    · obtain rfl := eq_of_belongsTo hids hv hw' hown₂
      exact hvt.kept_vehicle hk hown₁ hsame
    · exact (hvt.mapped_kept hm' hk hown₂ hown₁ hsame.symm).symm
    · exact hsame

/-- A row whose key no vehicle led anywhere keeps it, or moves as its plate does. -/
theorem movesRest_rewritten : MovesRest mode s (rewritten mode s) := by
  rintro ⟨r, r'⟩ hr key hkey hun
  dsimp only at hkey ⊢
  rcases mem_rowPairs_rewritten.1 hr with ⟨w, hw, rfl, rfl⟩ | ⟨hm, rfl⟩ | ⟨hk, rfl⟩
  · obtain rfl := Option.some.inj hkey
    rw [migrateVehicle_plateRow, hun w hw rfl]
    exact ⟨_, rfl, .inl rfl⟩
  · refine ⟨_, mapped_key hkey, ?_⟩
    have hnone : readAs mode s key = none := by
      rw [readAs, List.getLast?_eq_none_iff, List.filterMap_eq_nil_iff]
      intro w hw
      rw [List.mem_filter] at hw
      exact hun w hw.1 (beq_iff_eq.1 hw.2)
    rw [← mappedKey_eq_keyLed]
    exact mappedKey_of_unread hnone
  · exact ⟨key, hkey, .inl rfl⟩

end Rewritten

/-- **The migration preserves identity exactly where an UPDATE is refused, which leaves everything
as it was, or the rows of every vehicle stay together**; the rows of no vehicle always keep their
key or move as their plate does. -/
theorem migration_iff (mode : String) (s : Store) (hids : (s.vehicles.map Vehicle.id).Nodup) :
    KeepsIdentity s (migrate mode true s) ∧ MovesRest mode s (migrate mode true s) ↔
      migrationRefused mode s = true ∨ ∀ v ∈ s.vehicles, StaysTogether mode s v := by
  cases hrefused : migrationRefused mode s with
  | true =>
    have hsame : migrate mode true s = s := by simp [migrate, hrefused]
    rw [hsame]
    refine iff_of_true ⟨?_, ?_⟩ (.inl rfl)
    · rintro v hv ⟨r₁, r₁'⟩ hr₁ ⟨r₂, r₂'⟩ hr₂ - - hkey
      rw [(mem_rowPairs_self.1 hr₁).2, (mem_rowPairs_self.1 hr₂).2]
      exact hkey
    · rintro ⟨r, r'⟩ hr key hkey -
      rw [(mem_rowPairs_self.1 hr).2]
      exact ⟨key, hkey, .inl rfl⟩
  | false =>
    have hrun : migrate mode true s = rewritten mode s := by simp [migrate, hrefused]
    rw [hrun]
    simp only [Bool.false_eq_true, false_or]
    constructor
    · exact fun h v hv => StaysTogether.of_keeps h.1 hv
    · exact fun h => ⟨keepsIdentity_rewritten hids h, movesRest_rewritten⟩

/-- A vehicle with a letter that the two tables spell differently, and a permit of it. -/
def shinStore : Store :=
  { vehicles := [{ id := 1, plateRaw := "۱۲ ش ۳۴۵ ایران ۶۷", plateNormalized := "12S345IR67"
                   createdAt := 0 }]
    permits := [{ id := 2, vehicleId := some 1, plateNormalized := "12S345IR67", createdAt := 0 }] }

theorem migration_iff_shin :
    KeepsIdentity shinStore (migrate "UNIQUE" true shinStore) ∧
      MovesRest "UNIQUE" shinStore (migrate "UNIQUE" true shinStore) := by
  refine (migration_iff "UNIQUE" shinStore (by decide)).2 (.inr fun v hv => ?_)
  obtain rfl : v = _ := List.mem_singleton.1 hv
  exact
    { follows := fun _ _ _ _ => by decide
      stays := fun r hr => absurd hr List.not_mem_nil
      together := fun _ _ k hk => absurd hk List.not_mem_nil }

/-- The same vehicle, banned. -/
def bannedShin : Store :=
  { shinStore with
    restrictions := [{ id := 3, vehicleId := some 1, plateNormalized := "12S345IR67" }] }

/-- The ban stays under the key the vehicle had. -/
theorem bannedShin_splits :
    ¬ ∀ (mode : String) (s : Store), (s.vehicles.map Vehicle.id).Nodup →
      KeepsIdentity s (migrate mode true s) ∧ MovesRest mode s (migrate mode true s) := by
  intro h
  have hpairs : rowPairs bannedShin (migrate "UNIQUE" true bannedShin) =
      [(⟨some 1, some "12S345IR67"⟩, ⟨some 1, some "12SH345IR67"⟩),
        (⟨some 1, some "12S345IR67"⟩, ⟨some 1, some "12SH345IR67"⟩),
        (⟨some 1, some "12S345IR67"⟩, ⟨some 1, some "12S345IR67"⟩)] := by decide
  have hsplit := (h "UNIQUE" bannedShin (by decide)).1 _ List.mem_cons_self
  rw [hpairs] at hsplit
  have hsame := hsplit _ List.mem_cons_self _ (List.mem_of_getLast? rfl) (.inl rfl) (.inl rfl) rfl
  exact absurd hsame (by decide)

end ParkingSystem
