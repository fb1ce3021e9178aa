import ParkingSystem.Library.Hoare
import ParkingSystem.Registry.Sync

/-!
# What a Run of the Sheet Accounts For

A run counts the rows it rejects and the rows it skips, and it writes a conflict for each row
that a human has to settle. The conflicts of a rejected row are counted where they are written;
those that `_upsert_vehicle` and `_maybe_permit` write are not counted anywhere.
-/

namespace ParkingSystem

open PyText Plate Table Transaction

/-! ## Identifiers that were drawn -/

/-- Vehicles, and the vehicles that permits name, have identifiers below the next one. -/
structure Drawn (s : Store) (n : ℕ) : Prop where
  vehicles : ∀ v ∈ s.vehicles, v.id < n
  permits : ∀ p ∈ s.permits, ∀ id, p.vehicleId = some id → id < n

theorem Drawn.mono {s : Store} {n m : ℕ} (h : Drawn s n) (hnm : n ≤ m) : Drawn s m where
  vehicles v hv := Nat.lt_of_lt_of_le (h.vehicles v hv) hnm
  permits p hp id hid := Nat.lt_of_lt_of_le (h.permits p hp id hid) hnm

/-- Tables that are left alone. -/
theorem Drawn.congr {s s' : Store} {n : ℕ} (h : Drawn s n) (hvehicles : s'.vehicles = s.vehicles)
    (hpermits : s'.permits = s.permits) : Drawn s' n where
  vehicles := hvehicles ▸ h.vehicles
  permits := hpermits ▸ h.permits

/-- No permit names a vehicle that is still to come. -/
theorem Drawn.permitsOfVehicle_eq_nil {s : Store} {n : ℕ} (h : Drawn s n) :
    permitsOfVehicle n s = [] := by
  refine List.filter_eq_nil_iff.2 fun p hp hsame => ?_
  have hid : p.vehicleId = some n := by
    have hboth := hsame
    simp only [Bool.and_eq_true, beq_iff_eq] at hboth
    exact hboth.1
  exact absurd (h.permits p hp n hid) (Nat.lt_irrefl n)

theorem Drawn.insertVehicle {s : Store} {n : ℕ} (h : Drawn s n) {v : Vehicle} (hv : v.id < n) :
    Drawn ((insertVehicle v).apply s) n where
  vehicles u hu := by
    rcases List.mem_append.1 hu with hu | hu
    · exact h.vehicles u hu
    · rw [List.mem_singleton.1 hu]
      exact hv
  permits := h.permits

theorem Drawn.updateVehicle {s : Store} {n : ℕ} (h : Drawn s n) {v : Vehicle} (hv : v.id < n) :
    Drawn ((updateVehicle v).apply s) n where
  vehicles u hu := by
    rcases mem_updateWhere.1 hu with ⟨u₀, -, -, rfl⟩ | ⟨hu, -⟩
    · exact hv
    · exact h.vehicles u hu
  permits := h.permits

theorem Drawn.insertPermit {s : Store} {n : ℕ} (h : Drawn s n) {p : AccessPermit}
    (hp : ∀ id, p.vehicleId = some id → id < n) : Drawn ((insertPermit p).apply s) n where
  vehicles := h.vehicles
  permits q hq := by
    rcases List.mem_append.1 hq with hq | hq
    · exact h.permits q hq
    · rw [List.mem_singleton.1 hq]
      exact hp

/-! ## Conflicts of a part of the run -/

/-- What a part of a run leaves: it drew its identifiers, wrote `n` conflicts and no run. -/
structure Tallied (w w' : Session Store) (n : ℕ) : Prop where
  drawn : Drawn w'.view w'.nextId
  nextId : w.nextId ≤ w'.nextId
  runs : w'.view.syncRuns = w.view.syncRuns
  conflicts : w'.view.syncConflicts.length = w.view.syncConflicts.length + n

theorem Tallied.trans {w w' w'' : Session Store} {n m : ℕ} (h : Tallied w w' n)
    (h' : Tallied w' w'' m) : Tallied w w'' (n + m) where
  drawn := h'.drawn
  nextId := Nat.le_trans h.nextId h'.nextId
  runs := h'.runs.trans h.runs
  conflicts := by rw [h'.conflicts, h.conflicts, Nat.add_assoc]

/-- A part that ends as it began. -/
theorem Tallied.refl {w : Session Store} (h : Drawn w.view w.nextId) : Tallied w w 0 :=
  ⟨h, Nat.le_refl _, rfl, rfl⟩

variable {cfg : Config} {clk : ℕ → ℤ} {row : SyncRow} {w : Session Store}

theorem addConflict_wp (hdry : row.dryRun = false) (h : Drawn w.view w.nextId)
    (conflictType message : String) :
    (addConflict row conflictType message).wp clk
      (Prog.returned fun _ w' => Tallied w w' 1) w := by
  simp only [addConflict, hdry, Bool.false_eq_true, if_false]
  refine Prog.wp_newId (Prog.wp_returned_flush_last fun _ => ?_)
  exact ⟨(h.mono (Nat.le_succ _)).congr rfl rfl, Nat.le_succ _, rfl, List.length_append⟩

theorem valueOf_wp {α : Type} (value : Option α) :
    (valueOf value).wp clk (Prog.returned fun a w' => value = some a ∧ w' = w) w := by
  cases value with
  | none => exact Prog.wp_raise trivial
  | some a => exact Prog.wp_ret ⟨rfl, rfl⟩

theorem parsedDate_wp (value : Cell) :
    (parsedDate cfg value).wp clk (Prog.returned fun _ w' => w' = w) w :=
  (valueOf_wp _).returned_mono fun _ _ hw' => hw'.2

theorem insertSheetPermit_wp {v : Vehicle} (hv : v.id < w.nextId) (h : Drawn w.view w.nextId)
    (permitType : String) :
    (insertSheetPermit cfg v row permitType).wp clk
      (Prog.returned fun _ w' => Tallied w w' 0) w := by
  unfold insertSheetPermit
  refine Prog.wp_returned_bind (parsedDate_wp _) fun validFrom w' hw' => ?_
  subst hw'
  refine Prog.wp_returned_bind (parsedDate_wp _) fun validUntil w' hw' => ?_
  subst hw'
  refine Prog.wp_newId (Prog.wp_getTime (Prog.wp_returned_flush_last fun _ => ?_))
  refine ⟨(h.mono (Nat.le_succ _)).insertPermit fun id hid => ?_, Nat.le_succ _, rfl, rfl⟩
  cases hid
  exact Nat.lt_succ_of_lt hv

/-- Whether a row names a permit and its vehicle has one already. -/
def permitDisputed (record : SheetRecord) (vehicleId : ℕ) (s : Store) : Bool :=
  (permitTypeOf record).any (· != "") && !(permitsOfVehicle vehicleId s).isEmpty

theorem maybePermit_wp {v : Vehicle} (hdry : row.dryRun = false) (hv : v.id < w.nextId)
    (h : Drawn w.view w.nextId) :
    (maybePermit cfg v row).wp clk
      (Prog.returned fun _ w' => Tallied w w' (permitDisputed row.record v.id w.view).toNat)
      w := by
  unfold maybePermit permitDisputed
  cases permitTypeOf row.record with
  | none => exact Prog.wp_raise trivial
  | some permitType =>
    by_cases hempty : permitType = ""
    · simp only [hempty, if_true]
      exact Prog.wp_ret (Tallied.refl h)
    · simp only [hempty, if_false]
      refine Prog.wp_returned_select ?_
      simp only [hdry, Bool.false_eq_true, if_false]
      cases hpermits : (permitsOfVehicle v.id w.view).isEmpty with
      | true =>
        simpa [hempty] using insertSheetPermit_wp hv h permitType
      | false =>
        refine Prog.wp_newId (Prog.wp_returned_flush_last fun _ => ?_)
        refine ⟨(h.mono (Nat.le_succ _)).congr rfl rfl, Nat.le_succ _, rfl, ?_⟩
        simp [insertSyncConflict, bne_iff_ne.2 hempty]

/-! ## One row -/

theorem insertSheetRef_wp {key : String × String} {record : SheetRecord} (vehicleId : ℕ)
    (h : Drawn w.view w.nextId) : (insertSheetRef cfg key record vehicleId).wp clk
      (Prog.returned fun _ w' => Tallied w w' 0 ∧ w'.view.permits = w.view.permits) w := by
  have hkept : Drawn w.view (w.nextId + 1) := h.mono (Nat.le_succ _)
  refine Prog.wp_returned_bind (parsedDate_wp _) fun date w' hw' => ?_
  subst hw'
  refine Prog.wp_newId ?_
  have hsent (ref : VehicleExternalRef) :
      (Prog.flush (insertExternalRef ref) : Handler Unit).wp clk
        (Prog.returned fun _ w'' => Tallied w' w'' 0 ∧ w''.view.permits = w'.view.permits)
        { w' with nextId := w'.nextId + 1 } :=
    Prog.wp_returned_flush_last fun _ => ⟨⟨hkept.congr rfl rfl, Nat.le_succ _, rfl, rfl⟩, rfl⟩
  cases date with
  | malformed message => exact Prog.wp_returned_flush_last nofun
  | empty => exact hsent _
  | date t => exact hsent _

theorem createFromSheet_wp (hdry : row.dryRun = false) (plate : Option String)
    (h : Drawn w.view w.nextId) :
    (createFromSheet cfg row plate).wp clk (Prog.returned fun _ w' => Tallied w w' 0) w := by
  refine Prog.wp_returned_bind (valueOf_wp _) fun year w' hw' => ?_
  obtain ⟨-, rfl⟩ := hw'
  refine Prog.wp_returned_bind (valueOf_wp _) fun vehicleType w' hw' => ?_
  obtain ⟨-, rfl⟩ := hw'
  refine Prog.wp_returned_bind (valueOf_wp _) fun plateType w' hw' => ?_
  obtain ⟨-, rfl⟩ := hw'
  refine Prog.wp_newId (Prog.wp_getTime ?_)
  cases hrow : sheetVehicle cfg row.key row.record plate year vehicleType plateType w'.nextId
      (clk w'.tick) with
  | none => exact Prog.wp_returned_flush nofun
  | some v =>
    refine Prog.wp_returned_flush fun _ => ?_
    have hid : v.id < w'.nextId + 1 := by
      rw [(sheetVehicle_some hrow).1]
      exact Nat.lt_succ_self _
    have hdrawn := (h.mono (Nat.le_succ w'.nextId)).insertVehicle hid
    refine Prog.wp_returned_bind (insertSheetRef_wp v.id hdrawn) fun _ w₁ hw₁ => ?_
    have hnone : permitsOfVehicle v.id w₁.view = [] := by
      rw [permitsOfVehicle, hw₁.2, (sheetVehicle_some hrow).1]
      exact h.permitsOfVehicle_eq_nil
    refine Prog.wp_returned_bind
      (maybePermit_wp hdry (Nat.lt_of_lt_of_le hid hw₁.1.nextId) hw₁.1.drawn) fun _ w₂ hw₂ => ?_
    have htallied := hw₁.1.trans hw₂
    rw [permitDisputed, hnone, List.isEmpty_nil, Bool.not_true, Bool.and_false] at htallied
    exact Prog.wp_ret ⟨htallied.drawn, Nat.le_trans (Nat.le_succ _) htallied.nextId,
      htallied.runs, htallied.conflicts⟩

/-- A vehicle of the store that is written again. -/
theorem flushVehicle_wp {old new : Vehicle} (hid : new.id < w.nextId) (h : Drawn w.view w.nextId) :
    (flushVehicle old new).wp clk
      (Prog.returned fun _ w' => Tallied w w' 0 ∧ w'.view.permits = w.view.permits) w := by
  unfold flushVehicle
  split
  · exact Prog.wp_ret ⟨Tallied.refl h, rfl⟩
  · exact Prog.wp_returned_flush_last fun _ => ⟨⟨h.updateVehicle hid, Nat.le_refl _, rfl, rfl⟩, rfl⟩

theorem refreshRef_wp {record : SheetRecord} (refId : ℕ) (changed : Bool)
    (h : Drawn w.view w.nextId) :
    (refreshRef cfg record refId changed).wp clk
      (Prog.returned fun _ w' => Tallied w w' 0 ∧ w'.view.permits = w.view.permits) w := by
  unfold refreshRef
  split
  · refine Prog.wp_returned_bind (parsedDate_wp _) fun date w' hw' => ?_
    subst hw'
    have hsent (value : Option ℤ) :
        (Prog.flush (updateExternalRef refId value) : Handler Unit).wp clk
          (Prog.returned fun _ w'' => Tallied w' w'' 0 ∧ w''.view.permits = w'.view.permits) w' :=
      Prog.wp_returned_flush_last fun _ => ⟨⟨h.congr rfl rfl, Nat.le_refl _, rfl, rfl⟩, rfl⟩
    cases date with
    | malformed message => exact Prog.wp_returned_flush_last nofun
    | empty => exact hsent _
    | date t => exact hsent _
  · exact Prog.wp_ret ⟨Tallied.refl h, rfl⟩

theorem refreshFromSheet_wp (hdry : row.dryRun = false) (refId : ℕ) {v : Vehicle}
    (hv : v.id < w.nextId) (h : Drawn w.view w.nextId) :
    (refreshFromSheet cfg row refId v).wp clk
      (Prog.returned fun _ w' => Tallied w w' (permitDisputed row.record v.id w.view).toNat)
      w := by
  unfold refreshFromSheet
  cases htexts : refreshTexts row.record v with
  | none => exact Prog.wp_returned_flush nofun
  | some withTexts =>
    obtain ⟨hid, -⟩ := refreshTexts_some htexts
    have hwith : withTexts.id < w.nextId := hid ▸ hv
    refine Prog.wp_returned_bind (flushVehicle_wp hwith h) fun _ w₁ hw₁ => ?_
    refine Prog.wp_returned_bind (valueOf_wp _) fun year w' hw' => ?_
    obtain ⟨-, rfl⟩ := hw'
    have hwith₁ : withTexts.id < w'.nextId := Nat.lt_of_lt_of_le hwith hw₁.1.nextId
    refine Prog.wp_returned_bind (flushVehicle_wp hwith₁ hw₁.1.drawn) fun _ w₂ hw₂ => ?_
    refine Prog.wp_returned_bind (refreshRef_wp refId _ hw₂.1.drawn) fun _ w₃ hw₃ => ?_
    have hwith₃ : withTexts.id < w₃.nextId :=
      Nat.lt_of_lt_of_le hwith₁ (Nat.le_trans hw₂.1.nextId hw₃.1.nextId)
    refine Prog.wp_returned_bind (maybePermit_wp hdry hwith₃ hw₃.1.drawn) fun _ w₄ hw₄ => ?_
    -- nothing before the permits wrote one
    have hpermits : w₃.view.permits = w.view.permits := by rw [hw₃.2, hw₂.2, hw₁.2]
    have htallied := ((hw₁.1.trans hw₂.1).trans hw₃.1).trans hw₄
    simp only [permitDisputed, permitsOfVehicle, hpermits, hid, Nat.zero_add] at htallied
    exact Prog.wp_ret htallied

/-- Whether the sheet and the database disagree on a row that passed the checks: its plate is
another vehicle's, the vehicle of its key is gone or has another plate, or the row names a permit
and the vehicle has one already. -/
def disputed (cfg : Config) (key : String × String) (record : SheetRecord) (s : Store) : Bool :=
  match refByKey key s with
  | none => (record.plate cfg).any fun plate => (vehicleWithPlate plate s).isSome
  | some ref =>
    match vehicleById ref.vehicleId s with
    | none => true
    | some v => record.plate cfg != some (some v.plateNormalized) || permitDisputed record v.id s

theorem upsertNew_wp (hdry : row.dryRun = false) (h : Drawn w.view w.nextId)
    (href : refByKey row.key w.view = none) :
    (upsertNew cfg row).wp clk
      (Prog.returned fun _ w' => Tallied w w' (disputed cfg row.key row.record w.view).toNat) w := by
  unfold upsertNew disputed
  rw [href]
  cases row.record.plate cfg with
  | none => exact Prog.wp_returned_flush nofun
  | some plate =>
    refine Prog.wp_returned_select ?_
    dsimp only [Option.any_some]
    cases (vehicleWithPlate plate w.view).isSome with
    | true =>
      exact Prog.wp_returned_bind (addConflict_wp hdry h _ _) fun _ w' hw' => Prog.wp_ret hw'
    | false =>
      simp only [hdry, Bool.false_eq_true, if_false]
      exact createFromSheet_wp hdry plate h

theorem upsertKnown_wp (hdry : row.dryRun = false) (h : Drawn w.view w.nextId)
    {ref : VehicleExternalRef} (href : refByKey row.key w.view = some ref) :
    (upsertKnown cfg row ref).wp clk
      (Prog.returned fun _ w' => Tallied w w' (disputed cfg row.key row.record w.view).toNat) w := by
  unfold upsertKnown disputed
  rw [href]
  refine Prog.wp_returned_select ?_
  dsimp only
  cases hvehicle : vehicleById ref.vehicleId w.view with
  | none =>
    exact Prog.wp_returned_bind (addConflict_wp hdry h _ _) fun _ w' hw' => Prog.wp_ret hw'
  | some v =>
    dsimp only
    by_cases hplate : row.record.plate cfg = some (some v.plateNormalized)
    · rw [if_neg (not_not_intro hplate), if_neg (by simp [hdry])]
      rw [bne_eq_false_iff_eq.2 hplate, Bool.false_or]
      have hv : v.id < w.nextId := h.vehicles v (List.mem_of_find?_eq_some hvehicle)
      exact refreshFromSheet_wp hdry ref.id hv h
    · rw [if_pos hplate, bne_iff_ne.2 hplate, Bool.true_or]
      exact Prog.wp_returned_bind (addConflict_wp hdry h _ _) fun _ w' hw' => Prog.wp_ret hw'

theorem upsertVehicle_wp (hdry : row.dryRun = false) (h : Drawn w.view w.nextId) :
    (upsertVehicle cfg row).wp clk
      (Prog.returned fun _ w' => Tallied w w' (disputed cfg row.key row.record w.view).toNat) w := by
  refine Prog.wp_returned_select ?_
  cases href : refByKey row.key w.view with
  | none => exact upsertNew_wp hdry h href
  | some ref => exact upsertKnown_wp hdry h href

/-! ## The loop -/

/-- Whether a row passes the checks and is the first of its key. -/
def accepted (cfg : Config) (seen : List (String × String)) (record : SheetRecord) : Bool :=
  validateRow cfg record == some [] && !(seen.contains (record.key cfg) || (record.key cfg).2 == "")

/-- The conflicts that are not counted are those of the accepted rows in dispute. -/
def uncounted (cfg : Config) (l : SyncLoop) (record : SheetRecord) (s : Store) : ℕ :=
  (accepted cfg l.seen record && disputed cfg (record.key cfg) record s).toNat

/-- The rows that came to a result. -/
def SyncStats.settled (st : SyncStats) : ℤ := st.rowsCreated + st.rowsUpdated + st.rowsSkipped

theorem SyncStats.settled_count (st : SyncStats) (result : RowResult) :
    (st.count result).settled = st.settled + 1 := by
  cases result <;> simp only [SyncStats.count, SyncStats.settled] <;> omega

/-- What the body of the loop does to the loop. -/
structure RowDone (cfg : Config) (n : ℕ) (row : SyncRow) (l l' : SyncLoop) : Prop where
  total : l'.stats.rowsTotal = n - 1
  settled : l'.stats.settled = l.stats.settled + (accepted cfg l.seen row.record).toNat
  rejected : l'.stats.conflicts = l.stats.conflicts + (!accepted cfg l.seen row.record).toNat
  seen : l'.seen = if accepted cfg l.seen row.record then row.record.key cfg :: l.seen else l.seen

theorem syncRow_wp (hdry : row.dryRun = false) (hkey : row.key = row.record.key cfg)
    (h : Drawn w.view w.nextId) (n : ℕ) (l : SyncLoop) :
    (syncRow cfg n row l).wp clk (Prog.returned fun l' w' => RowDone cfg n row l l' ∧
      Tallied w w' ((!accepted cfg l.seen row.record).toNat +
        uncounted cfg l row.record w.view)) w := by
  unfold syncRow uncounted
  rw [hkey]
  -- a row that is rejected writes the one conflict that is counted
  have hreject (hno : accepted cfg l.seen row.record = false) (errs : List String)
      (conflictType message : String) :
      ((addConflict row conflictType message).bind fun _ => (Prog.ret
        { l with stats := SyncStats.reject { l.stats with rowsTotal := n - 1 } errs } :
          Handler SyncLoop)).wp clk (Prog.returned fun l' w' => RowDone cfg n row l l' ∧
        Tallied w w' ((!accepted cfg l.seen row.record).toNat +
          (accepted cfg l.seen row.record && disputed cfg (row.record.key cfg) row.record w.view).toNat)) w := by
    refine Prog.wp_returned_bind (addConflict_wp hdry h _ _) fun _ w' hw' => Prog.wp_ret ⟨?_, ?_⟩
    · constructor <;> simp [hno, SyncStats.reject, SyncStats.settled]
    · simpa [hno] using hw'
  cases hvalid : validateRow cfg row.record with
  | none => exact Prog.wp_raise trivial
  | some errs =>
    cases errs with
    | cons err errs =>
      have hno : accepted cfg l.seen row.record = false := by simp [accepted, hvalid]
      exact hreject hno _ _ _
    | nil =>
      dsimp only
      by_cases hseen : (l.seen.contains (row.record.key cfg) || (row.record.key cfg).2 == "") = true
      · have hno : accepted cfg l.seen row.record = false := by
          simp only [accepted, hseen, Bool.not_true, Bool.and_false]
        rw [if_pos hseen]
        exact hreject hno _ _ _
      · have hyes : accepted cfg l.seen row.record = true := by
          rw [accepted, hvalid, Bool.eq_false_iff.2 hseen]
          rfl
        rw [if_neg hseen]
        have hupsert : (upsertVehicle cfg row).wp clk (Prog.returned fun _ w' =>
            Tallied w w' (disputed cfg row.key row.record w.view).toNat) w :=
          upsertVehicle_wp hdry h
        rw [hkey] at hupsert
        refine Prog.wp_returned_bind hupsert fun result w' hw' =>
          Prog.wp_ret ⟨?_, ?_⟩
        · refine ⟨?_, ?_, ?_, ?_⟩
          · cases result <;> rfl
          · rw [SyncStats.settled_count, hyes]
            rfl
          · rw [hyes]
            cases result <;> simp [SyncStats.count]
          · rw [hyes]
            rfl
        · simpa [hyes] using hw'

/-- The rows that are rejected: by the checks, or as further rows of a key. -/
def rejectedRows (cfg : Config) : ℕ → List SheetRecord → List (String × String) → ℕ
  | _, [], _ => 0
  | n, record :: rest, seen =>
    if cfg.vehicleSyncMaxRows < n - 1 then 0
    else if accepted cfg seen record then rejectedRows cfg (n + 1) rest (record.key cfg :: seen)
    else rejectedRows cfg (n + 1) rest seen + 1

/-- No accepted row of the loop is in dispute with the database its turn comes in. -/
def Undisputed (cfg : Config) (clk : ℕ → ℤ) (runId : Option ℕ) :
    ℕ → List SheetRecord → SyncLoop → Session Store → Prop
  | _, [], _, _ => True
  | n, record :: rest, l, w =>
    cfg.vehicleSyncMaxRows < n - 1 ∨
      (accepted cfg l.seen record = true → disputed cfg (record.key cfg) record w.view = false) ∧
        ∀ l' w', (syncRow cfg n (sheetRow cfg runId false n record) l).exec clk w = (.ok l', w') → Undisputed cfg clk runId (n + 1) rest l' w'

theorem uncounted_eq_zero {l : SyncLoop} {record : SheetRecord} {s : Store} :
    uncounted cfg l record s = 0 ↔
      (accepted cfg l.seen record = true → disputed cfg (record.key cfg) record s = false) := by
  unfold uncounted
  cases accepted cfg l.seen record <;> cases disputed cfg (record.key cfg) record s <;> decide

/-- What the loop counts, and what it writes. -/
structure LoopDone (cfg : Config) (clk : ℕ → ℤ) (runId : Option ℕ) (n : ℕ)
    (records : List SheetRecord) (l l' : SyncLoop) (w w' : Session Store) : Prop where
  total : l'.stats.rowsTotal - l'.stats.settled =
    l.stats.rowsTotal - l.stats.settled + rejectedRows cfg n records l.seen
  rejected : l'.stats.conflicts = l.stats.conflicts + rejectedRows cfg n records l.seen
  written : ∃ extra, Tallied w w' (rejectedRows cfg n records l.seen + extra) ∧
    (extra = 0 ↔ Undisputed cfg clk runId n records l w)

/-- By induction on the records: the row at hand, then the rest from what it leaves. -/
theorem syncRows_wp (runId : Option ℕ) {n : ℕ} (hn : 2 ≤ n) (records : List SheetRecord)
    {l : SyncLoop} (htotal : l.stats.rowsTotal = n - 2) (h : Drawn w.view w.nextId) :
    (syncRows cfg runId false n records l).wp clk
      (Prog.returned fun l' w' => LoopDone cfg clk runId n records l l' w w') w := by
  induction records generalizing n l w with
  | nil =>
    refine Prog.wp_ret ⟨by simp [rejectedRows], by simp [rejectedRows], 0, Tallied.refl h, ?_⟩
    simp [Undisputed]
  | cons record rest ih =>
    rw [syncRows]
    by_cases hmax : cfg.vehicleSyncMaxRows < n - 1
    · rw [if_pos hmax]
      refine Prog.wp_ret ⟨?_, ?_, 0, ?_, ?_⟩
      · simp [rejectedRows, hmax]
      · simp [rejectedRows, hmax]
      · simpa [rejectedRows, hmax] using Tallied.refl h
      · simp [Undisputed, hmax]
    · rw [if_neg hmax]
      refine Prog.wp_returned_bind (syncRow_wp rfl rfl h n l).and_exec fun l₁ w₁ hdone => ?_
      obtain ⟨⟨hrow, hconflicts⟩, hexec⟩ := hdone
      have htallied : Tallied w w₁ ((!accepted cfg l.seen record).toNat +
        uncounted cfg l record w.view) := hconflicts
      have htotal₁ : l₁.stats.rowsTotal = (n + 1 : ℕ) - 2 := by
        rw [hrow.total]
        push_cast
        omega
      have hn₁ : 2 ≤ n + 1 := Nat.le_succ_of_le hn
      refine (ih hn₁ htotal₁ htallied.drawn).returned_mono fun l₂ w₂ hrest => ?_
      obtain ⟨extra, hwritten, hextra⟩ := hrest.written
      have htotal₂ := hrest.total
      have hrejected₂ := hrest.rejected
      have hrowTotal : l₁.stats.rowsTotal = n - 1 := hrow.total
      have hsettled : l₁.stats.settled =
          l.stats.settled + (accepted cfg l.seen record).toNat := hrow.settled
      have hrejected : l₁.stats.conflicts =
          l.stats.conflicts + (!accepted cfg l.seen record).toNat := hrow.rejected
      have hundisputed : Undisputed cfg clk runId n (record :: rest) l w ↔
          uncounted cfg l record w.view = 0 ∧ extra = 0 := by
        rw [Undisputed, uncounted_eq_zero, hextra]
        constructor
        · rintro (hover | ⟨hrow, hrest⟩)
          · exact absurd hover hmax
          · exact ⟨hrow, hrest l₁ w₁ hexec⟩
        · rintro ⟨hrow, hrest⟩
          refine Or.inr ⟨hrow, fun l' w' hexec' => ?_⟩
          rw [hexec] at hexec'
          cases hexec'
          exact hrest
      have hcount : rejectedRows cfg n (record :: rest) l.seen =
          (!accepted cfg l.seen record).toNat + rejectedRows cfg (n + 1) rest l₁.seen := by
        have hseen : l₁.seen =
          if accepted cfg l.seen record then record.key cfg :: l.seen else l.seen := hrow.seen
        rw [rejectedRows, if_neg hmax, hseen]
        cases accepted cfg l.seen record
        · exact Nat.add_comm _ _
        · exact (Nat.zero_add _).symm
      refine ⟨?_, ?_, uncounted cfg l record w.view + extra, ?_, ?_⟩
      · cases haccepted : accepted cfg l.seen record <;>
          simp only [haccepted, Bool.not_true, Bool.not_false, Bool.toNat_true,
            Bool.toNat_false] at hcount hsettled <;> omega
      · rw [hcount]
        push_cast
        omega
      · have hboth := htallied.trans hwritten
        rw [hcount]
        convert hboth using 1
        omega
      · rw [hundisputed]
        omega

/-! ## The run -/

/-- What a run that opened left to the loop: its row, and no conflict. -/
theorem openSyncRun_exec (trigger : String) (startedAt : ℤ) (h : Drawn w.view w.nextId) :
    (openSyncRun trigger startedAt false).wp clk (Prog.returned fun run w' =>
      run.2 = some run.1.id ∧ run.1 ∈ w'.view.syncRuns ∧ Drawn w'.view w'.nextId ∧
        w'.view.syncConflicts = w.view.syncConflicts) w := by
  refine Prog.wp_newId (Prog.wp_returned_flush fun _ => Prog.wp_ret ⟨rfl, ?_, ?_, rfl⟩)
  · exact List.mem_append_right _ (List.mem_singleton_self _)
  · exact (h.mono (Nat.le_succ _)).congr rfl rfl

/-- The condition on a run: no accepted row of the sheet is in dispute with the database its turn
comes in, from the session a run starts with. -/
def SheetUndisputed (cfg : Config) (clk : ℕ → ℤ) (sheet : Sheet) (trigger : String)
    (w : Session Store) : Prop :=
  ∀ run w', (openSyncRun trigger (clk w.tick) false).exec clk { w with tick := w.tick + 1 } =
    (.ok run, w') → Undisputed cfg clk run.2 2 sheet.records {} w'

/-- The equations between what a run recorded and what it wrote. -/
structure AccountsFor (cfg : Config) (sheet : Sheet) (s s' : Store) (run : VehicleSyncRun) :
    Prop where
  total : run.rowsTotal = run.rowsCreated + run.rowsUpdated + run.rowsSkipped +
    rejectedRows cfg 2 sheet.records []
  conflicts : run.conflictsCount = s'.syncConflicts.length - s.syncConflicts.length
  success : run.status = "SUCCESS" ↔ s'.syncConflicts.length = s.syncConflicts.length

/-- The rows of a run in the store. -/
def runRows (runId : Option ℕ) (s : Store) : List VehicleSyncRun :=
  s.syncRuns.filter fun run => some run.id == runId

/-- What a run that did not fail leaves. -/
structure RunDone (cfg : Config) (clk : ℕ → ℤ) (sheet : Sheet) (runId : Option ℕ)
    (w w' : Session Store) : Prop where
  recorded : runRows runId w'.committed ≠ []
  accounts : (∀ run ∈ runRows runId w'.committed,
    AccountsFor cfg sheet w.view w'.committed run) ↔ Undisputed cfg clk runId 2 sheet.records {} w

theorem mem_runRows {runId : Option ℕ} {s : Store} {run : VehicleSyncRun} :
    run ∈ runRows runId s ↔ run ∈ s.syncRuns ∧ some run.id = runId := by
  simp [runRows]

/-- A run that is written again is what its rows are. -/
theorem mem_runRows_updateSyncRun {s : Store} {old new run : VehicleSyncRun}
    (hold : old ∈ s.syncRuns) (hid : new.id = old.id) :
    run ∈ runRows (some old.id) ((updateSyncRun new).apply s) ↔ run = new := by
  rw [mem_runRows]
  constructor
  · rintro ⟨hrun, hsame⟩
    rcases mem_updateWhere.1 hrun with ⟨_, _, _, rfl⟩ | ⟨_, hother⟩
    · rfl
    · rw [beq_eq_false_iff_ne, hid] at hother
      exact absurd (Option.some.inj hsame) hother
  · rintro rfl
    exact ⟨mem_updateWhere.2 (Or.inl ⟨old, hold, by simp [hid], rfl⟩), by rw [hid]⟩

/-- The counts are right exactly when no conflict was left out of them. -/
theorem accountsFor_iff {sheet : Sheet} {s s' : Store} (run : VehicleSyncRun) {stats : SyncStats}
    (finishedAt : ℤ) {extra : ℕ}
    (htotal : stats.rowsTotal - stats.settled = rejectedRows cfg 2 sheet.records [])
    (hrejected : stats.conflicts = rejectedRows cfg 2 sheet.records [])
    (hwritten : s'.syncConflicts.length =
      s.syncConflicts.length + (rejectedRows cfg 2 sheet.records [] + extra)) :
    AccountsFor cfg sheet s s' (run.counted stats finishedAt) ↔ extra = 0 := by
  constructor
  · intro h
    have hconflicts : stats.conflicts = s'.syncConflicts.length - s.syncConflicts.length :=
      h.conflicts
    omega
  · intro hextra
    refine ⟨?_, ?_, ?_⟩
    · show stats.rowsTotal = stats.rowsCreated + stats.rowsUpdated + stats.rowsSkipped + _
      unfold SyncStats.settled at htotal
      omega
    · show stats.conflicts = _
      omega
    · show (if stats.conflicts = 0 then "SUCCESS" else "PARTIAL") = "SUCCESS" ↔ _
      by_cases hzero : stats.conflicts = 0
      · simp only [hzero, if_true, true_iff]
        omega
      · simp only [hzero, if_false]
        exact ⟨fun hstatus => absurd hstatus (by decide), fun hnone => by omega⟩

theorem syncBody_wp (sheet : Sheet) {run : VehicleSyncRun} (hrun : run ∈ w.view.syncRuns)
    (h : Drawn w.view w.nextId) :
    (syncBody cfg (some sheet) run (some run.id) false).wp clk (Prog.returned fun out w' =>
      out.runId = some run.id ∧ RunDone cfg clk sheet (some run.id) w w') w := by
  refine Prog.wp_returned_bind (valueOf_wp _) fun sheet' w' hw' => ?_
  obtain ⟨hsheet, rfl⟩ := hw'
  cases hsheet
  refine Prog.wp_returned_bind (syncRows_wp (some run.id) (Nat.le_refl 2) _ rfl h)
    fun l w₁ hdone => Prog.wp_getTime ?_
  obtain ⟨extra, htallied, hextra⟩ := hdone.written
  have htotal := hdone.total
  have hrejected := hdone.rejected
  have hwritten := htallied.conflicts
  simp only [closeSyncRun, Bool.false_eq_true, if_false, Prog.bind_eq, Prog.bind_assoc]
  refine Prog.wp_returned_flush fun _ => Prog.wp_returned_commit (Prog.wp_ret ⟨rfl, ?_⟩)
  have hthere : run ∈ w₁.view.syncRuns := htallied.runs ▸ hrun
  have hrows (row : VehicleSyncRun) : row ∈ runRows (some run.id)
      ((updateSyncRun (run.counted l.stats (clk w₁.tick))).apply w₁.view) ↔
      row = run.counted l.stats (clk w₁.tick) := mem_runRows_updateSyncRun hthere rfl
  refine ⟨List.ne_nil_of_mem ((hrows _).2 rfl), ?_⟩
  rw [← hextra]
  refine Iff.trans ⟨fun hall => hall _ ((hrows _).2 rfl), fun hone row hrow => ?_⟩
    (accountsFor_iff run (clk w₁.tick) (htotal.trans (by simp [SyncStats.settled]))
      (hrejected.trans (by simp)) hwritten)
  rw [(hrows row).1 hrow]
  exact hone

/-- What a run comes to: it failed, or it left its row and the conflicts it wrote. -/
theorem syncRun_wp (sheet : Sheet) (trigger : String) (h : Drawn w.view w.nextId) :
    (syncRun cfg (some sheet) trigger false).wp clk (Prog.returned fun out w' =>
      out.status = "FAILED" ∨
        runRows out.runId w'.committed ≠ [] ∧
          ((∀ run ∈ runRows out.runId w'.committed,
              AccountsFor cfg sheet w.view w'.committed run) ↔
            SheetUndisputed cfg clk sheet trigger w)) w := by
  refine Prog.wp_getTime (Prog.wp_returned_bind
    (openSyncRun_exec (w := { w with tick := w.tick + 1 }) trigger _ h).and_exec
    fun run w₁ hopened => ?_)
  obtain ⟨⟨hid, hmem, hdrawn, hconflicts⟩, hexec⟩ := hopened
  rw [hid]
  refine Prog.wp_attempt ((syncBody_wp sheet hmem hdrawn).mono fun done w₂ hdone => ?_)
  cases done with
  | error exc =>
    refine Prog.wp_getTime (Prog.wp_returned_bind (Prog.wp_trivial _) fun _ _ _ => ?_)
    exact Prog.wp_ret (Or.inl rfl)
  | ok out =>
    obtain ⟨hout, hrecorded, haccounts⟩ := hdone
    refine Prog.wp_ret (Or.inr ?_)
    rw [hout]
    refine ⟨hrecorded, ?_⟩
    -- conflicts are counted from the start of the run, before its row was there
    have hsame : ∀ run s', AccountsFor cfg sheet w.view s' run ↔
        AccountsFor cfg sheet w₁.view s' run := fun run s' => by
      constructor <;> rintro ⟨htotal, hcount, hsuccess⟩
      · exact ⟨htotal, by rw [hconflicts]; exact hcount, by rw [hconflicts]; exact hsuccess⟩
      · exact ⟨htotal, by rw [hconflicts] at hcount; exact hcount,
          by rw [hconflicts] at hsuccess; exact hsuccess⟩
    simp only [hsame]
    rw [haccounts]
    constructor
    · intro hrows run' w' hexec'
      rw [hexec] at hexec'
      cases hexec'
      rwa [hid]
    · intro hrows
      have hrun := hrows run w₁ hexec
      rwa [hid] at hrun

/-- **A run that does not fail leaves its row, and the row accounts for what the run did exactly
when no accepted row of the sheet is in dispute with the database its turn comes in.** The rows
that are settled and the rows that are rejected always add up to the total; the conflicts of the
settled rows are the ones that no count has. -/
theorem sync_accounting_iff (cfg : Config) (clk : ℕ → ℤ) (sheet : Sheet) (trigger : String)
    {s : Store} {nextId tick : ℕ} (hdrawn : Drawn s nextId) {out : SyncRunResult}
    {w' : Session Store}
    (hrun : (syncRun cfg (some sheet) trigger false).exec clk (.fresh s nextId tick) =
      (.ok out, w'))
    (hdone : out.status ≠ "FAILED") :
    runRows out.runId w'.committed ≠ [] ∧
      ((∀ run ∈ runRows out.runId w'.committed, AccountsFor cfg sheet s w'.committed run) ↔
        SheetUndisputed cfg clk sheet trigger (.fresh s nextId tick)) := by
  rcases (syncRun_wp sheet trigger hdrawn).of_ok hrun with hfailed | hend
  · exact absurd hfailed hdone
  · exact hend

/-- A database that has the plate of the sheet's one row under no key. -/
def knownPlate : Store :=
  { vehicles := [{ id := 1, plateRaw := "12ب345-67", plateNormalized := "12B345IR67"
                   createdAt := 0 }] }

def oneRow : Sheet :=
  { headers := ["external_vehicle_id", "plate_raw"], rows := [[.str "E1", .str "12ب345-67"]] }

def knownPlateRun : Except (Exc AppError) SyncRunResult × Session Store :=
  (syncRun {} (some oneRow) "MANUAL" false).exec (fun _ => 0) (.fresh knownPlate 2 0)

theorem knownPlate_drawn : Drawn knownPlate 2 where
  vehicles := by decide
  permits p hp := absurd hp List.not_mem_nil

theorem knownPlateRun_exec : knownPlateRun =
    (.ok { runId := some 2, status := "SUCCESS", stats := some { rowsTotal := 1, rowsSkipped := 1 } },
      knownPlateRun.2) := Prod.ext rfl rfl

theorem sync_accounting_iff_knownPlate : runRows (some 2) knownPlateRun.2.committed ≠ [] ∧
    ((∀ run ∈ runRows (some 2) knownPlateRun.2.committed,
        AccountsFor {} oneRow knownPlate knownPlateRun.2.committed run) ↔
      SheetUndisputed {} (fun _ => 0) oneRow "MANUAL" (.fresh knownPlate 2 0)) :=
  sync_accounting_iff {} (fun _ => 0) oneRow "MANUAL" knownPlate_drawn knownPlateRun_exec (by decide)

/-- The run writes a conflict, counts none and is a SUCCESS. -/
theorem knownPlate_uncounted : ¬ ∀ (cfg : Config) (clk : ℕ → ℤ) (sheet : Sheet) (trigger : String)
    (s : Store) (nextId tick : ℕ) (out : SyncRunResult) (w' : Session Store), Drawn s nextId →
    (syncRun cfg (some sheet) trigger false).exec clk (.fresh s nextId tick) = (.ok out, w') →
    out.status ≠ "FAILED" →
    ∀ run ∈ runRows out.runId w'.committed, AccountsFor cfg sheet s w'.committed run := by
  intro hall
  have haccounts := hall {} (fun _ => 0) oneRow "MANUAL" knownPlate 2 0 _ _ knownPlate_drawn
    knownPlateRun_exec (by decide)
  have hrow : (knownPlateRun.2.committed.syncRuns.any fun run =>
      some run.id == some 2 && run.conflictsCount == 0) = true := by decide +kernel
  obtain ⟨run, hmem, hboth⟩ := List.any_eq_true.1 hrow
  rw [Bool.and_eq_true, beq_iff_eq, beq_iff_eq] at hboth
  have hcount := (haccounts run (mem_runRows.2 ⟨hmem, hboth.1⟩)).conflicts
  have hone : knownPlateRun.2.committed.syncConflicts.length = 1 := by decide +kernel
  have hnone : knownPlate.syncConflicts.length = 0 := rfl
  rw [hboth.2, hone, hnone] at hcount
  exact absurd hcount (by decide)

end ParkingSystem
