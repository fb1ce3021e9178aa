import ParkingSystem.ConfigAdmin
import ParkingSystem.Library.Scheduler
import ParkingSystem.Settings

/-!
# The Journal of the Settings

`put_setting` writes a row of `app_settings` and a row of `app_settings_history` in one transaction.
The table should be what the journal says: the changes, replayed in the order in which they were
committed, should give the value that is in force.

The ORM sends a value only where it differs from the one that was read. A request that saves the
value it found writes no value, but it does write a row of the journal, and what it found may no
longer be in force. Such a row changes nothing in a replay.
-/

namespace ParkingSystem

open PyValue Transaction

/-! ## Tables -/

/-- A row of `app_settings`. The key is unique and never changes, and stands for the row. -/
structure SettingRow extends AppSetting where
  updatedBy : Option ℕ
  updatedAt : ℤ

/-- A row of `app_settings_history`, without its id. -/
structure SettingChange where
  key : String
  oldValue : Json
  newValue : Json
  changedBy : Option ℕ
  reason : String
  changedAt : ℤ

/-- The two tables; the journal is in the order in which it was committed. -/
structure SettingsDb where
  rows : List SettingRow := []
  journal : List SettingChange := []

/-- A handler on the two tables. -/
abbrev SettingsHandler : Type → Type := Prog SettingsDb String Unit AppError

/-- The row of a key. -/
def settingRow (key : String) (db : SettingsDb) : Option SettingRow :=
  db.rows.find? fun row => row.key == key

/-- The value that a request finds for a key: `row.value if row else None`. -/
def inForce (key : String) (db : SettingsDb) : Json :=
  ((settingRow key db).map fun row => row.value).getD .null

/-- A policy is read from the value in force. -/
theorem storedSetting_inForce {db : SettingsDb} {s : Store}
    (h : s.appSettings = db.rows.map SettingRow.toAppSetting) (group : String)
    (names : List String) : storedSetting group names s =
      storedSetting group names { appSettings := [{ key := group, value := inForce group db }] } := by
  have hfind : s.appSettings.find? (fun row => row.key == group) =
      (settingRow group db).map SettingRow.toAppSetting := by
    rw [h, List.find?_map]
    rfl
  rw [storedSetting, storedSetting, hfind, List.find?_cons_of_pos (by simp), inForce]
  cases settingRow group db with
  | none => rfl
  | some row => rfl

/-! ## Statements -/

/-- The INSERT of a setting. -/
def insertSetting (row : SettingRow) : Statement SettingsDb String Unit where
  label := ()
  locks := [row.key]
  check db := if (settingRow row.key db).isSome then some .integrity else none
  apply db := { db with rows := db.rows ++ [row] }

/-- A row with the columns that an UPDATE writes; `updated_at` is written with any of them. -/
def SettingRow.write (value : Option Json) (updatedBy : Option (Option ℕ)) (now : ℤ)
    (row : SettingRow) : SettingRow :=
  { row with
    value := value.getD row.value, updatedBy := updatedBy.getD row.updatedBy, updatedAt := now }

/-- The UPDATE of a setting, with the columns whose values changed. -/
def updateSetting (key : String) (value : Option Json) (updatedBy : Option (Option ℕ)) (now : ℤ) :
    Statement SettingsDb String Unit where
  label := ()
  locks := [key]
  check _ := none
  apply db := { db with
    rows := Table.updateWhere (fun row => row.key == key) (.write value updatedBy now) db.rows }

/-- The INSERT of a row of the journal. A key of more than 64 characters does not fit its column. -/
def insertChange (change : SettingChange) : Statement SettingsDb String Unit where
  label := ()
  locks := []
  check _ := if change.key.length ≤ 64 then none else some .data
  apply db := { db with journal := db.journal ++ [change] }

/-! ## Endpoints -/

/-- `body.get("value", {})`. -/
def settingValueOf (body : Dict) : Json := (Dict.get body "value").getD (.obj [])

/-- `body.get("reason") or "MANUAL_EDIT"`; `none` is a value that its text column refuses. -/
def reasonOf (body : Dict) : Option String :=
  match (Dict.get body "reason").filter Json.truthy with
  | none => some "MANUAL_EDIT"
  | some (.str reason) => some reason
  | some _ => none

/-- A request that has read the row of its key. -/
structure SettingSave where
  key : String
  newValue : Json
  user : ℕ
  now : ℤ
  row : Option SettingRow

namespace SettingSave

/-- `old`. -/
def oldValue (save : SettingSave) : Json := (save.row.map fun row => row.value).getD .null

/-- The value, where it differs from the one that was read. -/
def sentValue (save : SettingSave) (row : SettingRow) : Option Json :=
  if Json.pyEq save.newValue row.value then none else some save.newValue

/-- The user, where the row was last written by another. -/
def sentUser (save : SettingSave) (row : SettingRow) : Option (Option ℕ) :=
  changedColumn row.updatedBy (some save.user)

/-- The row that is inserted. -/
def newRow (save : SettingSave) : SettingRow where
  key := save.key
  value := save.newValue
  updatedBy := some save.user
  updatedAt := save.now

/-- The statement for the setting, if there is one. -/
def statement (save : SettingSave) : Option (Statement SettingsDb String Unit) :=
  match save.row with
  | none => some (insertSetting save.newRow)
  | some row =>
    if (save.sentValue row).isNone && (save.sentUser row).isNone then none
    else some (updateSetting save.key (save.sentValue row) (save.sentUser row) save.now)

/-- What the flush sends for the setting. -/
def sendRow (save : SettingSave) : SettingsHandler Unit :=
  match save.statement with
  | none => pure ()
  | some st => .flush st

/-- The row of the journal. -/
def change (save : SettingSave) (reason : String) : SettingChange where
  key := save.key
  oldValue := save.oldValue
  newValue := save.newValue
  changedBy := some save.user
  reason := reason
  changedAt := save.now

/-- What the flush sends for the journal. -/
def sendChange (save : SettingSave) : Option String → SettingsHandler Unit
  | none => .throw (.rejected .data)
  | some reason => .flush (insertChange (save.change reason))

end SettingSave

/-- The flush. Nothing relates the two tables, and the unit of work sends the row of either one
first. -/
def SettingSave.flush (save : SettingSave) (journalFirst : Bool) (reason : Option String) :
    SettingsHandler Unit :=
  if journalFirst then do
    save.sendChange reason
    save.sendRow
  else do
    save.sendRow
    save.sendChange reason

/-- `put_setting`, of a user who may. `now()` is the start of the transaction. -/
def putSetting (journalFirst : Bool) (key : String) (body : Dict) (user : ℕ) :
    SettingsHandler Unit := do
  let now ← .getTime
  let row ← .select (settingRow key)
  let save : SettingSave := { key, newValue := settingValueOf body, user, now, row }
  save.flush journalFirst (reasonOf body)
  .commitTx

/-- `setting_history`: the newest fifty rows of a key. -/
def settingHistory (key : String) (db : SettingsDb) : List SettingChange :=
  ((db.journal.filter fun c => c.key == key).reverse.mergeSort
    fun c c' => decide (c'.changedAt ≤ c.changedAt)).take 50

/-! ## Replay -/

/-- A row of the journal whose value the ORM has sent. -/
def SettingChange.changes (c : SettingChange) : Bool := !Json.pyEq c.newValue c.oldValue

/-- The value of a key after some rows of the journal. -/
def replay (key : String) (value : Json) (journal : List SettingChange) : Json :=
  journal.foldl (fun value c => if c.key == key && c.changes then c.newValue else value) value

theorem replay_concat (key : String) (value : Json) (journal : List SettingChange)
    (c : SettingChange) : replay key value (journal ++ [c]) =
      if c.key == key && c.changes then c.newValue else replay key value journal := by
  rw [replay, List.foldl_append]
  rfl

/-- A replay ends with the last row that changes the key. -/
theorem replay_of_find {key : String} {value : Json} {journal : List SettingChange}
    {c : SettingChange} (h : journal.reverse.find? (fun c => c.key == key && c.changes) = some c) :
    replay key value journal = c.newValue := by
  induction journal using List.reverseRecOn with
  | nil => cases h
  | append_singleton journal c' ih =>
    rw [List.reverse_append, List.reverse_singleton, List.singleton_append, List.find?_cons] at h
    rw [replay_concat]
    cases hchanges : c'.key == key && c'.changes with
    | true =>
      rw [hchanges] at h
      rw [if_pos rfl, Option.some.inj h]
    | false =>
      rw [hchanges] at h
      rw [if_neg nofun, ih h]

/-! ## One save -/

/-- A row that is inserted where its key has none. -/
theorem settingRow_append {key : String} {row : SettingRow} (db : SettingsDb)
    (h : settingRow row.key db = none) : settingRow key { db with rows := db.rows ++ [row] } =
      if row.key = key then some row else settingRow key db := by
  rw [settingRow, List.find?_append]
  split
  · rename_i hkey
    have hnone : db.rows.find? (fun r => r.key == key) = none := hkey ▸ h
    rw [hnone, Option.none_or, List.find?_cons_of_pos (by simpa using hkey)]
  · rename_i hkey
    rw [List.find?_cons_of_neg (by simpa using hkey), List.find?_nil, Option.or_none]
    rfl

/-- An UPDATE writes the row of its key. -/
theorem settingRow_update (key key' : String) (value : Option Json) (updatedBy : Option (Option ℕ))
    (now : ℤ) (db : SettingsDb) :
    settingRow key' ((updateSetting key value updatedBy now).apply db) =
      if key = key' then (settingRow key db).map (.write value updatedBy now)
      else settingRow key' db := by
  have hwrite (row : SettingRow) : (row.write value updatedBy now).key = row.key := rfl
  split
  · rename_i hkey
    subst hkey
    exact Table.find?_updateWhere_self hwrite key db.rows
  · rename_i hkey
    exact Table.find?_updateWhere_of_ne hwrite hkey db.rows

/-- Nothing but null is equal to null. -/
theorem pyEq_null {v : Json} (h : Json.pyEq v .null = true) : v = .null := by
  cases v with
  | null => rfl
  | _ => simp [Json.pyEq, Json.number?] at h

namespace SettingSave

variable {save : SettingSave} {st : Statement SettingsDb String Unit} {db : SettingsDb}

/-- The statement locks its key, and leaves the journal and the rows of the other keys alone. -/
theorem statement_frame (h : save.statement = some st) :
    st.locks = [save.key] ∧ (st.apply db).journal = db.journal ∧
      ∀ key, key ≠ save.key → settingRow key (st.apply db) = settingRow key db := by
  unfold statement at h
  split at h
  · obtain rfl := Option.some.inj h
    refine ⟨rfl, rfl, fun key hkey => ?_⟩
    have hother : [save.newRow].find? (fun row => row.key == key) = none :=
      List.find?_eq_none.2 fun row hrow => by
        rw [List.mem_singleton.1 hrow]
        simpa [newRow] using hkey.symm
    show (db.rows ++ [save.newRow]).find? (fun row => row.key == key) = _
    rw [List.find?_append, hother, Option.or_none]
    rfl
  · split at h
    · cases h
    · obtain rfl := Option.some.inj h
      refine ⟨rfl, rfl, fun key hkey => ?_⟩
      rw [settingRow_update, if_neg hkey.symm]

/-- The key has a row exactly where the request found one. -/
def Finds (save : SettingSave) (db : SettingsDb) : Prop :=
  (settingRow save.key db).isSome = save.row.isSome

/-- **The statement** writes the value where it differs from the one that was read. -/
theorem statement_inForce (h : save.statement = some st) (hfinds : save.Finds db) :
    (settingRow save.key (st.apply db)).isSome = true ∧
      inForce save.key (st.apply db) =
        if Json.pyEq save.newValue save.oldValue then inForce save.key db else save.newValue := by
  unfold statement at h
  unfold Finds at hfinds
  unfold oldValue
  split at h
  · -- the key had no row, and has none
    rename_i hnone
    obtain rfl := Option.some.inj h
    rw [hnone, Option.isSome_none, Option.isSome_eq_false_iff, Option.isNone_iff_eq_none] at hfinds
    have hrow : settingRow save.key ((insertSetting save.newRow).apply db) = some save.newRow :=
      (settingRow_append db hfinds).trans (if_pos rfl)
    rw [inForce, inForce, hrow, hfinds, hnone]
    refine ⟨rfl, ?_⟩
    split
    · rename_i hnull
      exact pyEq_null hnull
    · rfl
  · rename_i row hrow
    split at h
    · cases h
    · obtain rfl := Option.some.inj h
      rw [hrow, Option.isSome_some] at hfinds
      obtain ⟨current, hcurrent⟩ := Option.isSome_iff_exists.1 hfinds
      rw [inForce, inForce, settingRow_update, if_pos rfl, hcurrent, hrow]
      refine ⟨rfl, ?_⟩
      show (save.sentValue row).getD current.value = _
      unfold sentValue
      show _ = if Json.pyEq save.newValue row.value then current.value else save.newValue
      split <;> rfl

/-- Nothing is sent where the value is the one that was read. -/
theorem statement_none (h : save.statement = none) :
    save.row.isSome = true ∧ Json.pyEq save.newValue save.oldValue = true := by
  unfold statement at h
  split at h
  · cases h
  · rename_i row hrow
    split at h
    · rename_i hsame
      have hvalue := (Bool.and_eq_true_iff.1 hsame).1
      rw [oldValue, hrow]
      refine ⟨rfl, ?_⟩
      by_contra hdiffers
      have hsent : save.sentValue row = some save.newValue := if_neg hdiffers
      rw [hsent] at hvalue
      cases hvalue
    · cases h

/-- An INSERT is sent where the request found no row; it finds none either. -/
theorem finds_of_check (h : save.statement = some st) (hrow : save.row = none)
    (hcheck : st.check db = none) : save.Finds db := by
  unfold statement at h
  rw [hrow] at h
  obtain rfl := Option.some.inj h
  unfold Finds
  rw [hrow, Option.isSome_none, Bool.eq_false_iff]
  intro hsome
  have hrefused : (insertSetting save.newRow).check db = some .integrity := if_pos hsome
  rw [hrefused] at hcheck
  cases hcheck

end SettingSave

/-! ## The table and its journal -/

/-- What was added to the journal, replayed, gives the value in force; and what a row says it
replaced is what a beginning of the earlier rows gives, as it was in force when the request read it.
The row of the cameras has a writer without a journal. -/
structure Replayed (db₀ : SettingsDb) (added : List SettingChange) (db : SettingsDb) : Prop where
  journal : db.journal = db₀.journal ++ added
  inForce : ∀ key, key ≠ "cameras" → inForce key db = replay key (inForce key db₀) added
  found : ∀ before c after, added = before ++ c :: after → c.key ≠ "cameras" →
    ∃ seen, seen <+: before ∧ c.oldValue = replay c.key (ParkingSystem.inForce c.key db₀) seen

variable {db₀ db db' : SettingsDb} {added : List SettingChange} {save : SettingSave}

theorem Replayed.refl (db : SettingsDb) : Replayed db [] db where
  journal := (List.append_nil _).symm
  inForce _ _ := rfl
  found before c after h := absurd h (by simp)

/-- The rows added since are determined. -/
theorem Replayed.unique (h : Replayed db₀ added db) {other : List SettingChange}
    (h' : Replayed db₀ other db) : added = other :=
  List.append_cancel_left (h.journal.symm.trans h'.journal)

/-- What a request has read: some rows had been journaled, and gave what it found; and a row that it
found is still there. -/
structure SettingSave.Read (save : SettingSave) (db₀ db : SettingsDb) : Prop where
  replayed : ∃ added, Replayed db₀ added db
  found : save.key ≠ "cameras" → ∀ added, Replayed db₀ added db →
    ∃ seen, seen <+: added ∧ save.oldValue = replay save.key (inForce save.key db₀) seen
  row : save.key ≠ "cameras" → save.row.isSome → (settingRow save.key db).isSome

/-- **Step**: a save that commits is one row more to replay. -/
theorem Replayed.saved (hread : save.Read db₀ db) (h : Replayed db₀ added db) {reason : String}
    (hjournal : db'.journal = db.journal ++ [save.change reason])
    (hother : ∀ key, key ≠ "cameras" → key ≠ save.key → settingRow key db' = settingRow key db)
    (hforce : save.key ≠ "cameras" → ParkingSystem.inForce save.key db' =
      if Json.pyEq save.newValue save.oldValue then ParkingSystem.inForce save.key db
      else save.newValue) :
    Replayed db₀ (added ++ [save.change reason]) db' where
  journal := by rw [hjournal, h.journal, List.append_assoc]
  inForce key hkey := by
    rw [replay_concat, ← h.inForce key hkey]
    by_cases heq : save.key = key
    · subst heq
      have hchanges : (((save.change reason).key == save.key) && (save.change reason).changes) =
          !Json.pyEq save.newValue save.oldValue := by
        simp [SettingSave.change, SettingChange.changes]
      rw [hforce hkey, hchanges]
      cases Json.pyEq save.newValue save.oldValue <;> rfl
    · have hkept : (((save.change reason).key == key) && (save.change reason).changes) = false := by
        simp [SettingSave.change, heq]
      rw [hkept, ParkingSystem.inForce, hother key hkey (Ne.symm heq)]
      rfl
  found before c after hsplit hkey := by
    rcases List.eq_nil_or_concat after with rfl | ⟨after, last, rfl⟩
    · -- it is the new row
      have hrow : added ++ [save.change reason] = before ++ [c] := hsplit
      obtain ⟨rfl, hc⟩ := List.append_inj' hrow rfl
      obtain rfl : save.change reason = c := List.singleton_inj.1 hc
      exact hread.found hkey _ h
    · have hsplit : added ++ [save.change reason] = (before ++ c :: after) ++ [last] := by
        simpa using hsplit
      obtain ⟨rfl, -⟩ := List.append_inj' hsplit rfl
      exact h.found before c after rfl hkey

/-! ## Rely and guarantee -/

/-- Others keep the journal in step with the table, and delete no row. -/
def SettingsMove (db₀ db db' : SettingsDb) : Prop :=
  (∀ added, Replayed db₀ added db → ∃ more, Replayed db₀ (added ++ more) db') ∧
    ∀ key, key ≠ "cameras" → (settingRow key db).isSome → (settingRow key db').isSome

/-- The others leave the rows alone that a transaction locked. -/
def settingsR (db₀ : SettingsDb) : Interference SettingsDb String := fun H db db' =>
  SettingsMove db₀ db db' ∧
    ∀ key ∈ H.locks, key ≠ "cameras" → settingRow key db' = settingRow key db

/-- A commit writes locked rows only. -/
def settingsG (db₀ : SettingsDb) : Interference SettingsDb String := fun H db db' =>
  SettingsMove db₀ db db' ∧
    ∀ key, key ∉ H.locks → key ≠ "cameras" → settingRow key db' = settingRow key db

theorem SettingsMove.refl (db₀ db : SettingsDb) : SettingsMove db₀ db db :=
  ⟨fun added h => ⟨[], (List.append_nil added).symm ▸ h⟩, fun _ _ => id⟩

theorem SettingsMove.trans {db'' : SettingsDb} (h : SettingsMove db₀ db db')
    (h' : SettingsMove db₀ db' db'') : SettingsMove db₀ db db'' := by
  refine ⟨fun added hadded => ?_, fun key hkey hrow => h'.2 key hkey (h.2 key hkey hrow)⟩
  obtain ⟨more, hmore⟩ := h.1 added hadded
  obtain ⟨most, hmost⟩ := h'.1 _ hmore
  exact ⟨more ++ most, List.append_assoc _ _ _ ▸ hmost⟩

theorem settingsR_refl (H : Held String) (db : SettingsDb) : settingsR db₀ H db db :=
  ⟨.refl db₀ db, fun _ _ _ => rfl⟩

theorem settingsR_trans (H : Held String) (db₁ db₂ db₃ : SettingsDb) (h : settingsR db₀ H db₁ db₂)
    (h' : settingsR db₀ H db₂ db₃) : settingsR db₀ H db₁ db₃ :=
  ⟨h.1.trans h'.1, fun key hl hkey => (h'.2 key hl hkey).trans (h.2 key hl hkey)⟩

/-- What has been read stays read. -/
theorem SettingSave.Read.mono (h : save.Read db₀ db) (hmove : SettingsMove db₀ db db') :
    save.Read db₀ db' := by
  obtain ⟨added, hadded⟩ := h.replayed
  obtain ⟨more, hmore⟩ := hmove.1 added hadded
  refine ⟨⟨_, hmore⟩, fun hkey added' hadded' => ?_, fun hkey hrow => hmove.2 _ hkey (h.row hkey hrow)⟩
  obtain ⟨seen, hseen, hold⟩ := h.found hkey added hadded
  exact ⟨seen, hmore.unique hadded' ▸ hseen.trans (List.prefix_append _ _), hold⟩

namespace SettingSave

/-- What the transaction commits. -/
def written (save : SettingSave) (reason : String) (db : SettingsDb) : SettingsDb where
  rows := ((save.statement.map fun st => st.apply db).getD db).rows
  journal := db.journal ++ [save.change reason]

/-- The statement was sent: its key is locked, and found as the request found it. -/
def Sent (save : SettingSave) (H : Held String) (db : SettingsDb) : Prop :=
  save.statement.isSome → save.key ∈ H.locks ∧ (save.key ≠ "cameras" → save.Finds db)

theorem Sent.mono {H : Held String} (h : save.Sent H db) (hR : settingsR db₀ H db db') :
    save.Sent H db' := by
  intro hsome
  obtain ⟨hlock, hfinds⟩ := h hsome
  refine ⟨hlock, fun hkey => ?_⟩
  rw [Finds, hR.2 save.key hlock hkey]
  exact hfinds hkey

/-- **Step**: a save that was sent may commit. -/
theorem guarantee {H : Held String} (hread : save.Read db₀ db) (hsent : save.Sent H db)
    (reason : String) : settingsG db₀ H db (save.written reason db) := by
  cases hst : save.statement with
  | none =>
    have hrows (key : String) : settingRow key (save.written reason db) = settingRow key db := by
      rw [settingRow, written, hst]
      rfl
    refine ⟨⟨fun added hadded => ⟨_, hadded.saved hread rfl (fun key _ _ => hrows key) fun _ => ?_⟩,
      fun key _ hrow => (hrows key).symm ▸ hrow⟩, fun key _ _ => hrows key⟩
    rw [if_pos (statement_none hst).2, inForce, hrows]
    rfl
  | some st =>
    obtain ⟨hlock, hfinds⟩ := hsent (hst ▸ rfl)
    have hframe (key : String) (hkey : key ≠ save.key) :
        settingRow key (st.apply db) = settingRow key db := (statement_frame hst).2.2 key hkey
    have hrows (key : String) : settingRow key (save.written reason db) =
        settingRow key (st.apply db) := by
      rw [settingRow, written, hst]
      rfl
    have hother (key : String) (hne : key ≠ save.key) :
        settingRow key (save.written reason db) = settingRow key db := (hrows key).trans (hframe key hne)
    refine ⟨⟨fun added hadded => ⟨_, hadded.saved hread rfl (fun key _ => hother key) fun hkey => ?_⟩,
      fun key hkey hrow => ?_⟩, fun key hnot _ => hother key fun heq => hnot (heq ▸ hlock)⟩
    · rw [inForce, hrows]
      exact (statement_inForce hst (hfinds hkey)).2
    · by_cases hne : key = save.key
      · subst hne
        rw [hrows]
        exact (statement_inForce hst (hfinds hkey)).1
      · rwa [hother key hne]

end SettingSave

/-! ## Requests -/

/-- Any requests at all; the rest of the system may write the row of the cameras. -/
def settingsRegime : Regime SettingsDb Unit where
  isFresh _ _ := True
  allowed _ _ := True
  env db db' := db'.journal = db.journal ∧
    ∀ key, key ≠ "cameras" → settingRow key db' = settingRow key db

/-- A request that has returned is in the journal. -/
def journaled (db₀ : SettingsDb) (key : String) (value : Json) (user : ℕ) :
    Post SettingsDb String AppError Unit := fun r _ _ _ db =>
  r = .ok () → ∃ added, Replayed db₀ added db ∧
    ∃ c ∈ added, c.key = key ∧ c.newValue = value ∧ c.changedBy = some user

/-- What the flush leaves to commit. -/
def flushed (db₀ : SettingsDb) (save : SettingSave) : Post SettingsDb String AppError Unit :=
  fun r pend b H db => r = .ok () → b = false ∧ save.Read db₀ db ∧ save.Sent H db ∧
    ∃ reason, ∀ db, pend db = save.written reason db

section

variable {Q : Post SettingsDb String AppError Unit} {H : Held String} {pend : SettingsDb → SettingsDb}
  {k : Unit → SettingsHandler Unit}

/-- The statement is applied to what is pending, and then it is sent. -/
theorem safe_sendRow (herr : ∀ e pend b H db, Q (.error e) pend b H db)
    (hpend : ∀ db, (pend db).rows = db.rows) (hread : save.Read db₀ db)
    (h : ∀ H' db', save.Read db₀ db' → save.Sent H' db' → (k ()).Safe settingsRegime (settingsR db₀)
      (settingsG db₀) Q (fun db => (save.statement.map fun st => st.apply (pend db)).getD (pend db))
      false H' db') :
    (save.sendRow.bind k).Safe settingsRegime (settingsR db₀) (settingsG db₀) Q pend false H db := by
  unfold SettingSave.sendRow
  cases hst : save.statement with
  | none =>
    have hk := h H db hread (fun hsome => absurd (hst ▸ hsome) (by simp))
    rw [hst] at hk
    exact hk
  | some st =>
    rw [hst] at h
    refine Prog.safe_flush (fun _ _ _ _ _ => herr _ _ _ _ _) (fun _ _ _ _ _ _ _ _ => herr _ _ _ _ _)
      fun _ db' hR _ hcheck => h _ db' (hread.mono hR.1) fun _ => ?_
    have hlocks : st.locks = [save.key] := (@SettingSave.statement_frame save st db' hst).1
    refine ⟨by simp [hlocks], fun hkey => ?_⟩
    have hrows : settingRow save.key (pend db') = settingRow save.key db' := by
      rw [settingRow, hpend]
      rfl
    cases hrow : save.row with
    | none =>
      have hfinds := SettingSave.finds_of_check hst hrow hcheck
      rwa [SettingSave.Finds, hrows] at hfinds
    | some row =>
      rw [SettingSave.Finds, (hread.mono hR.1).row hkey (hrow ▸ rfl), hrow]
      rfl

/-- The row of the journal is appended to what is pending. -/
theorem safe_sendChange {reason : Option String} (herr : ∀ e pend b H db, Q (.error e) pend b H db)
    (h : ∀ reason db', settingsR db₀ H db db' → (k ()).Safe settingsRegime (settingsR db₀)
      (settingsG db₀) Q (fun db => (insertChange (save.change reason)).apply (pend db)) false H db') :
    ((save.sendChange reason).bind k).Safe settingsRegime (settingsR db₀) (settingsG db₀) Q pend
      false H db := by
  cases reason with
  | none => exact fun _ _ => herr _ _ _ _ _
  | some reason =>
    exact Prog.safe_flush (fun _ _ _ _ _ => herr _ _ _ _ _) (fun _ _ _ _ _ _ _ _ => herr _ _ _ _ _)
      fun _ db' hR _ _ => h reason db' hR

end

/-- What a statement does to the rows does not depend on the journal. -/
theorem SettingSave.statement_journal {st : Statement SettingsDb String Unit}
    (h : save.statement = some st) (journal : List SettingChange) (db : SettingsDb) :
    st.apply { db with journal } = { st.apply db with journal } := by
  unfold statement at h
  split at h
  · obtain rfl := Option.some.inj h
    rfl
  · split at h
    · cases h
    · obtain rfl := Option.some.inj h
      rfl

/-- **The flush**, in either order. -/
theorem safe_flush (journalFirst : Bool) (reason : Option String) (hread : save.Read db₀ db) :
    (save.flush journalFirst reason).Safe settingsRegime (settingsR db₀) (settingsG db₀)
      (flushed db₀ save) id false {} db := by
  have herr (e : Exc AppError) (pend : SettingsDb → SettingsDb) (b : Bool) (H : Held String)
      (db : SettingsDb) : flushed db₀ save (.error e) pend b H db := nofun
  cases journalFirst with
  | true =>
    refine safe_sendChange herr fun reason db₁ hR => ?_
    rw [← Prog.bind_ret save.sendRow]
    refine safe_sendRow herr (fun _ => rfl) (hread.mono hR.1) fun H' db₂ hread hsent =>
      Prog.safe_ret fun db₃ hR _ => ⟨rfl, hread.mono hR.1, hsent.mono hR, reason, fun db => ?_⟩
    unfold SettingSave.written
    cases hst : save.statement with
    | none => rfl
    | some st => exact SettingSave.statement_journal hst _ db
  | false =>
    refine safe_sendRow herr (fun _ => rfl) hread fun H' db₁ hread hsent => ?_
    rw [← Prog.bind_ret (save.sendChange reason)]
    refine safe_sendChange herr fun reason db₂ hR =>
      Prog.safe_ret fun db₃ hR' _ => ⟨rfl, (hread.mono hR.1).mono hR'.1, (hsent.mono hR).mono hR',
        reason, fun db => ?_⟩
    unfold SettingSave.written
    cases hst : save.statement with
    | none => rfl
    | some st =>
      show ({ st.apply db with journal := (st.apply db).journal ++ _ } : SettingsDb) = _
      rw [(SettingSave.statement_frame hst).2.1]
      rfl

/-- A request that has read its row commits a save that finds the row as it was read. -/
theorem safe_flush_commit (journalFirst : Bool) (reason : Option String)
    (hread : save.Read db₀ db) :
    ((save.flush journalFirst reason).bind fun _ => .commitTx).Safe settingsRegime (settingsR db₀)
      (settingsG db₀) (journaled db₀ save.key save.newValue save.user) id false {} db := by
  refine (safe_flush journalFirst reason hread).bind settingsR_refl
    (fun _ pend b H db₁ hflushed => ?_) fun _ _ _ _ _ _ => nofun
  obtain ⟨rfl, hread, hsent, reason, hpend⟩ := hflushed rfl
  refine Prog.safe_commit_last nofun fun _ db₂ hR => ?_
  have hG := SettingSave.guarantee (hread.mono hR.1) (hsent.mono hR) reason
  rw [← hpend] at hG
  refine ⟨hG, fun db₃ hR' _ => ?_⟩
  -- the row it has added is there, and stays
  obtain ⟨added, hadded⟩ := (hread.mono hR.1).replayed
  obtain ⟨own, hown⟩ := hG.1.1 added hadded
  have hjournal : db₀.journal ++ (added ++ own) = db₀.journal ++ added ++ [save.change reason] :=
    hown.journal.symm.trans ((congrArg SettingsDb.journal (hpend db₂)).trans
      (congrArg (· ++ [save.change reason]) hadded.journal))
  have hsame : own = [save.change reason] := by simpa using hjournal
  subst hsame
  obtain ⟨later, hlater⟩ := hR'.1.1 _ hown
  exact ⟨_, hlater, save.change reason, by simp, rfl, rfl, rfl⟩

/-- **Step**: a request is safe at whatever tables it arrives. -/
theorem safe_putSetting (journalFirst : Bool) (key : String) (body : Dict) (user : ℕ)
    (hdb : ∃ added, Replayed db₀ added db) :
    (putSetting journalFirst key body user).Safe settingsRegime (settingsR db₀) (settingsG db₀)
      (journaled db₀ key (settingValueOf body) user) id false {} db := by
  refine Prog.safe_getTime fun db₁ now hR₁ => Prog.safe_select nofun fun _ db₂ hR₂ => ?_
  obtain ⟨added, hadded⟩ := hdb
  obtain ⟨more, hmore⟩ := (hR₁.1.trans hR₂.1).1 added hadded
  have hread : SettingSave.Read
      { key, newValue := settingValueOf body, user, now, row := settingRow key db₂ } db₀ db₂ :=
    ⟨⟨_, hmore⟩, fun hkey added' h => ⟨added', List.prefix_rfl, h.inForce key hkey⟩, fun _ => id⟩
  exact safe_flush_commit journalFirst (reasonOf body) hread

/-- A PUT of a setting. -/
structure SettingRequest where
  key : String
  body : Dict
  user : ℕ
  journalFirst : Bool

/-- The requests arrive at the tables. -/
def settingsWorld {ι : Type} (requests : ι → SettingRequest) (db : SettingsDb) :
    World ι SettingsDb String Unit AppError Unit :=
  .start db fun i =>
    putSetting (requests i).journalFirst (requests i).key (requests i).body (requests i).user

theorem settingsContract {ι : Type} (requests : ι → SettingRequest) :
    World.Contract settingsRegime (settingsR db₀) (settingsG db₀) fun i =>
      journaled db₀ (requests i).key (settingValueOf (requests i).body) (requests i).user where
  refl := settingsR_refl
  trans := settingsR_trans
  env db db' h H := by
    refine ⟨⟨fun added hadded => ⟨[], ?_⟩, fun key hkey hrow => (h.2 key hkey).symm ▸ hrow⟩,
      fun key _ => h.2 key⟩
    rw [List.append_nil]
    refine ⟨h.1.trans hadded.journal, fun key hkey => ?_, hadded.found⟩
    rw [inForce, h.2 key hkey]
    exact hadded.inForce key hkey
  guarantee _ _ _ _ hd hG := ⟨hG.1, fun key hl => hG.2 key fun hl' => hd.locks _ hl' hl⟩
  aborted _ _ := nofun
  closed i r pend b H db db' hQ hR hr := by
    obtain ⟨added, hadded, c, hc, hrow⟩ := hQ hr
    obtain ⟨more, hmore⟩ := hR.1.1 added hadded
    exact ⟨_, hmore, c, List.mem_append_left _ hc, hrow⟩

/-! ## Every run -/

/-- Where no two saves of a key overlap, the first change that the history shows is in force. -/
theorem Replayed.newest (h : Replayed db₀ added db) {key : String} (hkey : key ≠ "cameras")
    (hnew : ∀ c ∈ db₀.journal, c.key ≠ key)
    (horder : (db.journal.filter fun c => c.key == key).Pairwise fun c c' => c.changedAt < c'.changedAt)
    {c : SettingChange} (hfirst : (settingHistory key db).find? SettingChange.changes = some c) :
    ParkingSystem.inForce key db = c.newValue := by
  have hsorted : (db.journal.filter fun c => c.key == key).reverse.Pairwise
      fun c c' => decide (c'.changedAt ≤ c.changedAt) = true :=
    (List.pairwise_reverse.2 horder).imp fun hlt => decide_eq_true (Int.le_of_lt hlt)
  rw [settingHistory, List.mergeSort_of_pairwise hsorted] at hfirst
  have hfound := List.IsPrefix.find?_eq_some (List.take_prefix _ _) hfirst
  simp only [← List.filter_reverse, List.find?_filter, h.journal, List.reverse_append,
    List.find?_append, Bool.decide_and, Bool.decide_eq_true] at hfound
  have hold : db₀.journal.reverse.find? (fun c => c.key == key && c.changes) = none :=
    List.find?_eq_none.2 fun c hc => by simp [hnew c (List.mem_reverse.1 hc)]
  rw [hold, Option.or_none] at hfound
  rw [h.inForce key hkey, replay_of_find hfound]

/-- **The settings are what their journal says**: in every run of requests, whatever the order of
their statements, the rows that are added to the journal, replayed in the order of their commits,
give the value in force of every key but the cameras'; what a row says it replaced was in force when
its request read it; and a request that has returned is in the journal. Where no two saves of a key
overlapped, the first change that its history shows is in force. -/
theorem settings_replayed {ι : Type} [DecidableEq ι] (requests : ι → SettingRequest)
    (db : SettingsDb) (w : World ι SettingsDb String Unit AppError Unit)
    (hrun : World.Run settingsRegime (settingsWorld requests db) w) :
    ∃ added, Replayed db added w.committed ∧
      (∀ i, (w.conns i).prog.result? = some () → ∃ c ∈ added, c.key = (requests i).key ∧
        c.newValue = settingValueOf (requests i).body ∧ c.changedBy = some (requests i).user) ∧
      ∀ key, key ≠ "cameras" → (∀ c ∈ db.journal, c.key ≠ key) →
        ((w.committed.journal.filter fun c => c.key == key).Pairwise
          fun c c' => c.changedAt < c'.changedAt) →
        ∀ c, (settingHistory key w.committed).find? SettingChange.changes = some c →
          inForce key w.committed = c.newValue := by
  have hok : World.Ok settingsRegime (settingsR db) (settingsG db) _ (settingsWorld requests db) :=
    World.Ok.init fun i => safe_putSetting (requests i).journalFirst (requests i).key
      (requests i).body (requests i).user ⟨[], .refl db⟩
  obtain ⟨hok, hR⟩ := hok.run (settingsContract requests) hrun
  obtain ⟨added, hadded⟩ := hR.1.1 [] (.refl db)
  rw [List.nil_append] at hadded
  refine ⟨added, hadded, fun i hi => ?_, fun key hkey hnew horder c => hadded.newest hkey hnew horder⟩
  obtain ⟨added', hadded', hrow⟩ := hok.returned (settingsContract requests) hi rfl
  exact hadded'.unique hadded ▸ hrow

/-! ### A save that changes nothing -/

instance (db : SettingsDb) (n : ℕ) : Decidable (settingsRegime.isFresh db n) :=
  inferInstanceAs (Decidable True)

instance (label : Unit) (db : SettingsDb) : Decidable (settingsRegime.allowed label db) :=
  inferInstanceAs (Decidable True)

/-- The value of `gate_policy` with a policy for unpaid exits. -/
def unpaidExits (policy : String) : Json := .obj [("EXIT_UNPAID_POLICY", .str policy)]

/-- A policy that nobody has changed. -/
def warnDb : SettingsDb :=
  { rows := [{ key := "gate_policy", value := unpaidExits "WARN", updatedBy := some 1, updatedAt := 0 }] }

/-- Two users change the policy, and a third one saves it as it is. -/
def policyRequests : Fin 3 → SettingRequest
  | 0 => ⟨"gate_policy", [("value", unpaidExits "DENY"), ("reason", .str "designer-edit")], 1, true⟩
  | 1 => ⟨"gate_policy", [("value", unpaidExits "ALLOW")], 2, false⟩
  | 2 => ⟨"gate_policy", [("value", unpaidExits "WARN")], 3, true⟩

/-- All three read the policy, and then they commit, one after the other. -/
def afterPolicies : Option (World (Fin 3) SettingsDb String Unit AppError Unit) :=
  World.runSchedule settingsRegime [(0, 2, 10), (1, 2, 11), (2, 2, 12), (0, 3, 0), (1, 3, 0), (2, 3, 0)]
    0 (settingsWorld policyRequests warnDb)

/-- The third row of the journal is the last, and the policy is that of the second. -/
theorem settings_replayed_policies : ∃ w,
    World.Run settingsRegime (settingsWorld policyRequests warnDb) w ∧
      w.committed.journal.map SettingChange.newValue =
        [unpaidExits "DENY", unpaidExits "ALLOW", unpaidExits "WARN"] ∧
      inForce "gate_policy" w.committed = unpaidExits "ALLOW" ∧
      ∃ added, Replayed warnDb added w.committed ∧
        (∀ i, (w.conns i).prog.result? = some () → ∃ c ∈ added, c.key = (policyRequests i).key ∧
          c.newValue = settingValueOf (policyRequests i).body ∧
          c.changedBy = some (policyRequests i).user) ∧
        ∀ key, key ≠ "cameras" → (∀ c ∈ warnDb.journal, c.key ≠ key) →
          ((w.committed.journal.filter fun c => c.key == key).Pairwise
            fun c c' => c.changedAt < c'.changedAt) →
          ∀ c, (settingHistory key w.committed).find? SettingChange.changes = some c →
            inForce key w.committed = c.newValue := by
  have hrun : afterPolicies.any (fun w => decide (w.committed.journal.map SettingChange.newValue =
      [unpaidExits "DENY", unpaidExits "ALLOW", unpaidExits "WARN"] ∧
      inForce "gate_policy" w.committed = unpaidExits "ALLOW")) = true := by decide +kernel
  obtain ⟨w, hw, hend⟩ := (Option.any_eq_true _ _).1 hrun
  have hsteps := World.runSchedule_run hw
  obtain ⟨hjournal, hforce⟩ := of_decide_eq_true hend
  exact ⟨w, hsteps, hjournal, hforce, settings_replayed policyRequests warnDb w hsteps⟩

end ParkingSystem
