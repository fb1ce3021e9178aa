import ParkingSystem.Registry.Migration

/-!
# The Letter Column after the Migration

`migrate_plate_letters.py` writes two columns of a vehicle: the key it is read as, and the letter
code cut out of that key. It is meant to run once, and to change nothing when it runs again.

## What holds

* A second run changes no row: a row that follows the map is led to a key the map keeps.
* The cut takes the two characters after the digits whenever the first of them is a letter. A
  code of one letter is followed by a digit, which is cut out with it.
-/

namespace ParkingSystem

open Plate PyText Table

/-! ## Keys and their parts -/

/-- What the pattern of a key reads. -/
structure KeyGroups (g : Groups) : Prop where
  two : ∃ a b, g.twoDigits = [a, b] ∧ isDigit a = true ∧ isDigit b = true
  letters : ∃ l, isUpperAscii l = true ∧
    (g.letters = [l] ∨ ∃ m, isUpperAscii m = true ∧ g.letters = [l, m])
  three : ∃ x y z, g.threeDigits = [x, y, z] ∧ isDigit x = true ∧ isDigit y = true ∧
    isDigit z = true
  province : g.province = none ∨
    ∃ d e, g.province = some [d, e] ∧ isDigit d = true ∧ isDigit e = true

/-- The key with some parts. -/
def keyText (g : Groups) : List Char :=
  g.twoDigits ++ g.letters ++ g.threeDigits ++ provinceText g.province

theorem isUpperAscii_iff {c : Char} : isUpperAscii c = true ↔ c.isUpper = true := by
  refine Bool.and_eq_true_iff.trans ⟨fun h => ?_, fun h => ?_⟩
  · exact decide_eq_true ⟨of_decide_eq_true h.1, of_decide_eq_true h.2⟩
  · obtain ⟨hge, hle⟩ := of_decide_eq_true h
    exact ⟨decide_eq_true hge, decide_eq_true hle⟩

theorem isUpperAscii_of_isDigit {c : Char} (h : isDigit c = true) : isUpperAscii c = false := by
  cases hupper : isUpperAscii c with
  | false => rfl
  | true =>
    -- the letters are few, and none of them is a digit
    have hle : c ≤ 'Z' := by simpa using (Bool.and_eq_true_iff.1 hupper).2
    have hge : 'A' ≤ c := by simpa using (Bool.and_eq_true_iff.1 hupper).1
    have hall : ∀ n < 91, 65 ≤ n → isDigit (Char.ofNat n) = false := by decide
    have hc := hall c.toNat (Nat.lt_succ_of_le (UInt32.le_iff_toNat_le.1 hle))
      (UInt32.le_iff_toNat_le.1 hge)
    rw [Char.ofNat_toNat, h] at hc
    cases hc

/-- A key ends in a digit, so nothing is dropped from it. -/
theorem dropLineEnd_keyText {g : Groups}
    (three : ∃ x y z, g.threeDigits = [x, y, z] ∧ isDigit x = true ∧ isDigit y = true ∧
      isDigit z = true)
    (province : g.province = none ∨
      ∃ d e, g.province = some [d, e] ∧ isDigit d = true ∧ isDigit e = true) :
    dropLineEnd (keyText g) = keyText g := by
  obtain ⟨x, y, z, hthree, -, -, hz⟩ := three
  refine if_neg fun hlast => ?_
  have hdigit : ∀ c, (keyText g).getLast? = some c → isDigit c = true := by
    intro c hc
    rcases province with hnone | ⟨d, e, hsome, -, he⟩
    · simp only [keyText, hnone, hthree, provinceText, List.append_nil] at hc
      rw [List.getLast?_append_of_ne_nil _ (by simp)] at hc
      cases hc
      exact hz
    · simp only [keyText, hsome, provinceText] at hc
      rw [List.getLast?_append_of_ne_nil _ (by simp),
        List.getLast?_append_of_ne_nil _ (by simp)] at hc
      cases hc
      exact he
  have hbreak := hdigit _ hlast
  revert hbreak
  decide

theorem normalizedTail_iff {text three : List Char} {province : Option (List Char)} :
    normalizedTail text = some (three, province) ↔
      (∃ x y z, three = [x, y, z] ∧ isDigit x = true ∧ isDigit y = true ∧ isDigit z = true) ∧
      (province = none ∨
        ∃ d e, province = some [d, e] ∧ isDigit d = true ∧ isDigit e = true) ∧
      text = three ++ provinceText province := by
  constructor
  · intro h
    unfold normalizedTail at h
    split at h
    · rename_i a b c
      split at h
      · rename_i hdigits
        cases h
        simp only [List.all_cons, List.all_nil, Bool.and_true, Bool.and_eq_true] at hdigits
        exact ⟨⟨a, b, c, rfl, hdigits⟩, .inl rfl, rfl⟩
      · cases h
    · rename_i a b c d e
      split at h
      · rename_i hdigits
        cases h
        simp only [List.all_cons, List.all_nil, Bool.and_true, Bool.and_eq_true] at hdigits
        obtain ⟨ha, hb, hc, hd, he⟩ := hdigits
        exact ⟨⟨a, b, c, rfl, ha, hb, hc⟩, .inr ⟨d, e, rfl, hd, he⟩, rfl⟩
      · cases h
    · cases h
  · rintro ⟨⟨x, y, z, rfl, hx, hy, hz⟩, rfl | ⟨d, e, rfl, hd, he⟩, rfl⟩
    · simp [normalizedTail, provinceText, hx, hy, hz]
    · simp [normalizedTail, provinceText, hx, hy, hz, hd, he]

/-- A run has a second letter where one follows. -/
theorem letterRun_letters (l : Char) (rest : List Char) :
    (letterRun l rest).1 = [l] ∨ ∃ m, isUpperAscii m = true ∧ (letterRun l rest).1 = [l, m] := by
  unfold letterRun
  split
  · exact .inl rfl
  · rename_i m rest'
    cases hm : isUpperAscii m with
    | true => exact .inr ⟨m, hm, by simp⟩
    | false => exact .inl (by simp)

/-- **The pattern of a key** reads exactly the keys, and their parts. -/
theorem normalizedParts_iff {text : List Char} {g : Groups} :
    normalizedParts text = some g ↔ KeyGroups g ∧ dropLineEnd text = keyText g := by
  unfold normalizedParts
  constructor
  · intro h
    split at h
    · rename_i a b l rest htext
      split at h
      · rename_i hhead
        simp only [Bool.and_eq_true] at hhead
        obtain ⟨⟨three, province⟩, htail, rfl⟩ := Option.map_eq_some_iff.1 h
        obtain ⟨hthree, hprovince, hrest⟩ := normalizedTail_iff.1 htail
        refine ⟨⟨⟨a, b, rfl, hhead.1⟩, ⟨l, hhead.2, letterRun_letters l rest⟩, hthree,
          hprovince⟩, ?_⟩
        rw [htext]
        simp only [keyText, List.append_assoc, ← hrest]
        rw [letterRun_append]
        rfl
      · cases h
    · cases h
  · rintro ⟨hg, htext⟩
    obtain ⟨a, b, htwo, ha, hb⟩ := hg.two
    obtain ⟨l, hl, hletters⟩ := hg.letters
    have htail : normalizedTail (g.threeDigits ++ provinceText g.province) =
        some (g.threeDigits, g.province) := normalizedTail_iff.2 ⟨hg.three, hg.province, rfl⟩
    obtain ⟨x, y, z, hthree, hx, -, -⟩ := hg.three
    have hrun : letterRun l (g.letters.tail ++ (g.threeDigits ++ provinceText g.province)) =
        (g.letters, g.threeDigits ++ provinceText g.province) := by
      rcases hletters with hone | ⟨m, hm, htwo⟩
      · simp [hone, hthree, letterRun, isUpperAscii_of_isDigit hx]
      · simp [htwo, letterRun, hm]
    have hsplit : keyText g =
        a :: b :: l :: (g.letters.tail ++ (g.threeDigits ++ provinceText g.province)) := by
      rcases hletters with hone | ⟨m, -, hboth⟩
      · simp [keyText, htwo, hone]
      · simp [keyText, htwo, hboth]
    rw [htext, hsplit]
    simp [ha, hb, hl, hrun, htail, ← htwo]

/-- A key is read as its parts. -/
theorem normalizedParts_keyText {g : Groups} (h : KeyGroups g) :
    normalizedParts (keyText g) = some g :=
  normalizedParts_iff.2 ⟨h, dropLineEnd_keyText h.three h.province⟩

/-! ## A key that is led once is led no further -/

/-- One or two upper-case letters. -/
def isLetterCode : List Char → Bool
  | [l] => isUpperAscii l
  | [l, m] => isUpperAscii l && isUpperAscii m
  | _ => false

theorem isLetterCode_iff {code : List Char} : isLetterCode code = true ↔
    ∃ l, isUpperAscii l = true ∧ (code = [l] ∨ ∃ m, isUpperAscii m = true ∧ code = [l, m]) := by
  unfold isLetterCode
  split
  · simp
  · simp
  · rename_i hone htwo
    refine iff_of_false Bool.false_ne_true ?_
    rintro ⟨l, -, rfl | ⟨m, -, rfl⟩⟩
    · exact hone l rfl
    · exact htwo l m rfl

/-- The codes of both tables are codes of a key. -/
theorem code_letters {mode : String} {letter : Char} {code : String}
    (h : (getLetterMap mode).lookup letter = some code) : isLetterCode code.toList = true := by
  have hcode : ∀ entry ∈ letterMap ++ uniqueLetterMap, isLetterCode entry.2.toList = true := by
    decide
  have hmem : (letter, code) ∈ letterMap ++ uniqueLetterMap := by
    unfold getLetterMap at h
    split at h
    · exact List.mem_append_right _ ((lookup_eq_some_iff_mem (by decide)).1 h)
    · exact List.mem_append_left _ ((lookup_eq_some_iff_mem (by decide)).1 h)
  exact hcode _ hmem

/-- A letter that alone has its code in the first table has under the other one the same code,
or a code the first table does not know. -/
theorem code_led {mode : String} {letter : Char} {old code : String}
    (hold : lettersOf letterMap old = [letter])
    (hcode : (getLetterMap mode).lookup letter = some code) :
    code = old ∨ lettersOf letterMap code = [] := by
  have hmany : ∀ entry ∈ letterMap, lettersOf letterMap entry.2 = [entry.1] →
      letterMap.lookup entry.1 = some entry.2 := by decide
  have hunique : ∀ entry ∈ letterMap, lettersOf letterMap entry.2 = [entry.1] →
      (uniqueLetterMap.lookup entry.1).all (fun code =>
        code == entry.2 || (lettersOf letterMap code).isEmpty) = true := by decide
  have hmem : (letter, old) ∈ letterMap := mem_lettersOf.1 (by simp [hold])
  unfold getLetterMap at hcode
  split at hcode
  · have hall := hunique _ hmem hold
    simpa [hcode] using hall
  · rw [hmany _ hmem hold] at hcode
    exact .inl (Option.some.inj hcode).symm

/-- A key that is led somewhere: its parts, the letter it stands for and the new code. -/
theorem remapNormalizedPlate_eq_some {old new : String} {target : List (Char × String)}
    (h : remapNormalizedPlate old letterMap target = some new) :
    ∃ g letter code, normalizedParts old.toList = some g ∧
      lettersOf letterMap (String.ofList g.letters) = [letter] ∧
      target.lookup letter = some code ∧
      new = String.ofList (keyText { g with letters := code.toList }) := by
  obtain ⟨g, hg, h⟩ := Option.bind_eq_some_iff.1 h
  split at h
  · rename_i letter hletter
    obtain ⟨code, hcode, hnew⟩ := Option.bind_eq_some_iff.1 h
    exact ⟨g, letter, code, hg, hletter, hcode, (Option.some.inj hnew).symm⟩
  · cases h

/-- **Led once**: where the letters lead to, they lead no further. -/
theorem remapNormalizedPlate_led {mode old new : String}
    (h : remapNormalizedPlate old letterMap (getLetterMap mode) = some new) :
    (remapNormalizedPlate new letterMap (getLetterMap mode)).getD new = new := by
  obtain ⟨g, letter, code, hg, hletter, hcode, rfl⟩ := remapNormalizedPlate_eq_some h
  have hnew : KeyGroups { g with letters := code.toList } :=
    { (normalizedParts_iff.1 hg).1 with letters := isLetterCode_iff.1 (code_letters hcode) }
  cases hagain : remapNormalizedPlate (String.ofList (keyText { g with letters := code.toList }))
      letterMap (getLetterMap mode) with
  | none => rfl
  | some again =>
    obtain ⟨g', letter', code', hg', hletter', hcode', rfl⟩ := remapNormalizedPlate_eq_some hagain
    rw [String.toList_ofList, normalizedParts_keyText hnew] at hg'
    obtain rfl := Option.some.inj hg'
    rw [String.ofList_toList] at hletter'
    rcases code_led hletter hcode with rfl | hunknown
    · obtain rfl : letter' = letter := by
        rw [hletter] at hletter'
        exact (List.cons.inj hletter').1.symm
      rw [hcode] at hcode'
      obtain rfl := Option.some.inj hcode'
      rfl
    · rw [hunknown] at hletter'
      cases hletter'

/-! ## The second run -/

section

variable {mode : String} {s : Store}

/-- What a vehicle of the migrated table is read as is the key it has. -/
theorem readAs_rewritten {key plate : String} (h : readAs mode (rewritten mode s) key = some plate) :
    plate = key := by
  have hmem := List.mem_of_getLast? h
  obtain ⟨v', hv', hread⟩ := List.mem_filterMap.1 hmem
  obtain ⟨hv', hkey⟩ := List.mem_filter.1 hv'
  obtain ⟨v, -, rfl⟩ := List.mem_map.1 hv'
  rw [← beq_iff_eq.1 hkey]
  unfold migrateVehicle at hread ⊢
  cases hraw : normalizePlate mode v.plateRaw with
  | none => simp [hraw] at hread
  | some new =>
    simp only [hraw] at hread ⊢
    exact (Option.some.inj hread).symm

/-- A key that vehicles were read as is the key of a vehicle that is read so. -/
theorem readAs_rewritten_isSome {key plate : String} (h : readAs mode s key = some plate) :
    (readAs mode (rewritten mode s) plate).isSome = true := by
  obtain ⟨v, hv, hread⟩ := List.mem_filterMap.1 (List.mem_of_getLast? h)
  have hv' : migrateVehicle mode v ∈ (rewritten mode s).vehicles.filter fun v' =>
      v'.plateNormalized == plate := by
    refine List.mem_filter.2 ⟨List.mem_map.2 ⟨v, (List.mem_filter.1 hv).1, rfl⟩, ?_⟩
    simp [migrateVehicle, hread]
  have hread' : normalizePlate mode (migrateVehicle mode v).plateRaw = some plate := by
    simp [migrateVehicle, hread]
  rw [readAs, List.getLast?_isSome]
  exact List.ne_nil_of_mem (List.mem_filterMap.2 ⟨_, hv', hread'⟩)

/-- The map of the second run keeps every key the first one led to. -/
theorem keyLed_rewritten (key : String) :
    keyLed mode (rewritten mode s) (keyLed mode s key) = keyLed mode s key := by
  generalize hx : keyLed mode s key = x
  unfold keyLed
  split
  · rfl
  · cases hagain : readAs mode (rewritten mode s) x with
    | some plate => exact readAs_rewritten hagain
    | none =>
      -- so no vehicle led there, and the letters did
      unfold keyLed at hx
      split at hx
      · subst hx
        contradiction
      · cases hread : readAs mode s key with
        | some plate =>
          rw [hread, Option.getD_some] at hx
          have hsome := readAs_rewritten_isSome hread
          rw [hx, hagain] at hsome
          cases hsome
        | none =>
          rw [hread, Option.getD_none] at hx
          cases hremap : remapNormalizedPlate key letterMap (getLetterMap mode) with
          | none =>
            rw [hremap, Option.getD_none] at hx
            rw [← hx, hremap]
            rfl
          | some new =>
            rw [hremap, Option.getD_some] at hx
            rw [← hx]
            exact remapNormalizedPlate_led hremap

theorem migrateVehicle_twice (v : Vehicle) :
    migrateVehicle mode (migrateVehicle mode v) = migrateVehicle mode v := by
  cases hread : normalizePlate mode v.plateRaw with
  | none => simp [migrateVehicle, hread]
  | some plate => simp [migrateVehicle, hread]

theorem mappedKey_rewritten (key : String) :
    mappedKey mode (rewritten mode s) (mappedKey mode s key) = mappedKey mode s key := by
  simp only [mappedKey_eq_keyLed, keyLed_rewritten]

/-- Every row is as the script would write it. -/
structure RowsFixed (mode : String) (s : Store) : Prop where
  vehicles : ∀ v ∈ s.vehicles, migrateVehicle mode v = v
  permits : ∀ p ∈ s.permits, mappedKey mode s p.plateNormalized = p.plateNormalized
  sessions : ∀ row ∈ s.sessions, mappedKey mode s row.plateNormalized = row.plateNormalized
  events : ∀ e ∈ s.events, e.plateNormalized.map (mappedKey mode s) = e.plateNormalized
  recognitions : ∀ r ∈ s.recognitions, ∀ plate, normalizePlate mode r.plateRaw = some plate →
    r.plateNormalized = some plate
  payments : ∀ p ∈ s.payments, p.plateNormalized.map (mappedKey mode s) = p.plateNormalized

theorem RowsFixed.rewritten_eq (h : RowsFixed mode s) : rewritten mode s = s := by
  have hrows {α : Type} {f : α → α} {rows : List α} (hf : ∀ r ∈ rows, f r = r) :
      rows.map f = rows := (List.map_congr_left hf).trans (List.map_id rows)
  have hpermits : s.permits.map (fun p =>
      { p with plateNormalized := mappedKey mode s p.plateNormalized }) = s.permits :=
    hrows fun p hp => by rw [h.permits p hp]
  have hsessions : s.sessions.map (migrateSession mode s) = s.sessions :=
    hrows fun row hrow => by rw [migrateSession, h.sessions row hrow]
  have hevents : s.events.map (fun e =>
      { e with plateNormalized := e.plateNormalized.map (mappedKey mode s) }) = s.events :=
    hrows fun e he => by rw [h.events e he]
  have hpayments : s.payments.map (fun p =>
      { p with plateNormalized := p.plateNormalized.map (mappedKey mode s) }) = s.payments :=
    hrows fun p hp => by rw [h.payments p hp]
  unfold rewritten
  rw [hrows h.vehicles, hpermits, hsessions, hevents, hpayments, hrows fun r hr => ?_]
  cases hread : normalizePlate mode r.plateRaw with
  | none => rfl
  | some plate => simp only [← h.recognitions r hr plate hread]

theorem rowsFixed_rewritten (mode : String) (s : Store) : RowsFixed mode (rewritten mode s) := by
  have hoption (key : Option String) :
      (key.map (mappedKey mode s)).map (mappedKey mode (rewritten mode s)) =
        key.map (mappedKey mode s) := by
    cases key with
    | none => rfl
    | some key => exact congrArg some (mappedKey_rewritten key)
  constructor
  case recognitions =>
    intro r hr plate hread
    obtain ⟨r₀, -, rfl⟩ := List.mem_map.1 hr
    cases hraw : normalizePlate mode r₀.plateRaw with
    | none => simp [hraw] at hread
    | some new => simpa [hraw] using hread
  all_goals
    intro row hrow
    obtain ⟨row₀, -, rfl⟩ := List.mem_map.1 hrow
  · exact migrateVehicle_twice row₀
  · exact mappedKey_rewritten _
  · exact mappedKey_rewritten _
  · exact hoption _
  · exact hoption _

/-- **The second run** changes no row. -/
theorem migrate_twice (mode : String) (s : Store) :
    migrate mode true (migrate mode true s) = migrate mode true s := by
  cases hrefused : migrationRefused mode s with
  | true =>
    have hsame : migrate mode true s = s := by simp [migrate, hrefused]
    rw [hsame, hsame]
  | false =>
    have hrun : migrate mode true s = rewritten mode s := by simp [migrate, hrefused]
    rw [hrun]
    unfold migrate
    split
    · exact (rowsFixed_rewritten mode s).rewritten_eq
    · rfl

end

/-! ## The letter column -/

/-- The letter column of a vehicle is the letter code of its key. -/
def LetterRight (v : Vehicle) : Prop :=
  ∃ g, normalizedParts v.plateNormalized.toList = some g ∧
    v.plateLetter = some (String.ofList g.letters)

/-- The letter column is right for every vehicle whose plate can be read. -/
def LettersRight (mode : String) (s : Store) : Prop :=
  ∀ v ∈ s.vehicles, (normalizePlate mode v.plateRaw).isSome = true → LetterRight v

/-- A key whose code has two letters. -/
def TwoLetterCode (plate : String) : Prop :=
  ∃ g, normalizedParts plate.toList = some g ∧ g.letters.length = 2

/-- What the script cuts out is the code of the key where the code has two letters. -/
theorem plateLetterOf_iff {plate : String} {g : Groups}
    (h : normalizedParts plate.toList = some g) :
    plateLetterOf plate = String.ofList g.letters ↔ g.letters.length = 2 := by
  obtain ⟨hg, htext⟩ := normalizedParts_iff.1 h
  obtain ⟨a, b, htwo, -, -⟩ := hg.two
  obtain ⟨l, hl, hletters⟩ := hg.letters
  obtain ⟨x, y, z, hthree, hx, -, -⟩ := hg.three
  have halpha : l.isAlpha = true := Bool.or_eq_true_iff.2 (.inl (isUpperAscii_iff.1 hl))
  -- the line end that the pattern overlooks is behind what is cut out
  obtain ⟨rest, hrest⟩ : ∃ rest, plate.toList = keyText g ++ rest := by
    rw [← htext]
    unfold dropLineEnd
    split
    · exact ⟨_, (List.dropLast_append_getLast? _ (by assumption)).symm⟩
    · exact ⟨[], (List.append_nil _).symm⟩
  rcases hletters with hone | ⟨m, -, hboth⟩
  · have hcut : plateLetterOf plate = String.ofList [l, x] := by
      simp [plateLetterOf, hrest, keyText, htwo, hone, hthree, halpha]
    rw [hcut, hone]
    refine iff_of_false (fun hsame => ?_) (by simp)
    have hlist := congrArg String.toList hsame
    simp at hlist
  · have hcut : plateLetterOf plate = String.ofList [l, m] := by
      simp [plateLetterOf, hrest, keyText, htwo, hboth, halpha]
    rw [hcut, hboth]
    simp

/-- A vehicle that was read again has the right letter where its code has two letters. -/
theorem letterRight_migrateVehicle {mode plate : String} {v : Vehicle}
    (h : normalizePlate mode v.plateRaw = some plate) :
    LetterRight (migrateVehicle mode v) ↔ TwoLetterCode plate := by
  have hmigrated : migrateVehicle mode v =
      { v with plateNormalized := plate, plateLetter := some (plateLetterOf plate) } := by
    simp [migrateVehicle, h]
  rw [hmigrated]
  refine exists_congr fun g => and_congr_right fun hg => ?_
  rw [Option.some_inj, plateLetterOf_iff hg]

theorem lettersRight_rewritten (mode : String) (s : Store) :
    LettersRight mode (rewritten mode s) ↔ ∀ v ∈ s.vehicles, ∀ plate,
      normalizePlate mode v.plateRaw = some plate → TwoLetterCode plate := by
  have hraw (v : Vehicle) : (migrateVehicle mode v).plateRaw = v.plateRaw := by
    unfold migrateVehicle
    split <;> rfl
  unfold LettersRight
  constructor
  · intro h v hv plate hread
    refine (letterRight_migrateVehicle hread).1 (h _ (List.mem_map.2 ⟨v, hv, rfl⟩) ?_)
    rw [hraw, hread]
    rfl
  · intro h v' hv' hread
    obtain ⟨v, hv, rfl⟩ := List.mem_map.1 hv'
    rw [hraw] at hread
    obtain ⟨plate, hplate⟩ := Option.isSome_iff_exists.1 hread
    exact (letterRight_migrateVehicle hplate).2 (h v hv plate hplate)

/-- **The migration**: after a run the letter column is right, and a second run changes no row,
exactly where every vehicle that can be read has a code of two letters; a run that is refused
leaves the letters as they were. -/
theorem migrate_letters_iff (mode : String) (s : Store) :
    LettersRight mode (migrate mode true s) ∧
        migrate mode true (migrate mode true s) = migrate mode true s ↔
      if migrationRefused mode s then LettersRight mode s
      else ∀ v ∈ s.vehicles, ∀ plate, normalizePlate mode v.plateRaw = some plate →
        TwoLetterCode plate := by
  rw [and_iff_left (migrate_twice mode s)]
  cases hrefused : migrationRefused mode s with
  | true => simp [migrate, hrefused]
  | false =>
    have hrun : migrate mode true s = rewritten mode s := by simp [migrate, hrefused]
    rw [hrun, lettersRight_rewritten]
    simp

/-- A vehicle with a letter whose code is B. -/
def letterBStore : Store :=
  { vehicles := [{ id := 1, plateRaw := "۱۲ ب ۳۴۵ ایران ۶۷", plateNormalized := "12B345IR67"
                   createdAt := 0 }] }

/-- The B is followed by a digit, which becomes part of the stored code. -/
theorem letterB_cut : ¬ ∀ (mode : String) (s : Store),
    LettersRight mode (migrate mode true s) ∧
      migrate mode true (migrate mode true s) = migrate mode true s := by
  intro h
  have hrun : (migrate "UNIQUE" true letterBStore).vehicles =
      [{ id := 1, plateRaw := "۱۲ ب ۳۴۵ ایران ۶۷", plateNormalized := "12B345IR67"
         plateLetter := some "B3", createdAt := 0 }] := by decide
  obtain ⟨g, hg, hletter⟩ := (h "UNIQUE" letterBStore).1 _
    (by rw [hrun]; exact List.mem_cons_self) (by decide)
  have hcode : (normalizedParts "12B345IR67".toList).map (fun g => String.ofList g.letters) =
      some "B" := by decide
  rw [hg, Option.map_some] at hcode
  rw [← hletter] at hcode
  exact absurd hcode (by decide)

end ParkingSystem
