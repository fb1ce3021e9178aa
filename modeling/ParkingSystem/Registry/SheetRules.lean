import ParkingSystem.Registry.RowEffect

/-!
# Invariants of the Sheet

What a run of the sheet may do to the registry, said once for every invariant: whatever survives
the statements that a row sends is kept by `VehicleSyncService.run`, however the run ends. A run
that fails commits what the rows before the failure wrote, so that the ends by an exception count
like the normal ones.
-/

namespace ParkingSystem

open PyText Plate Table Transaction

/-! ## Statements of a row -/

/-- The vehicle that the key of a row stands for. -/
structure KeyedTo (row : SyncRow) (s : Store) (v : Vehicle) : Prop where
  mem : v ∈ s.vehicles
  key : ∃ ref, refByKey row.key s = some ref ∧ ref.vehicleId = v.id

/-- A date leaves the keys as they are. -/
theorem refByKey_updateExternalRef (key : String × String) (s : Store) (id : ℕ)
    (date : Option ℤ) : refByKey key ((updateExternalRef id date).apply s) =
      (refByKey key s).map fun r => if r.id == id then { r with externalUpdatedAt := date } else r := by
  show (updateWhere _ _ s.externalRefs).find? _ = _
  rw [updateWhere, List.find?_map]
  congr 2
  funext r
  simp only [Function.comp]
  split <;> rfl

theorem KeyedTo.dated {row : SyncRow} {s : Store} {v : Vehicle} (h : KeyedTo row s v) (id : ℕ)
    (date : Option ℤ) : KeyedTo row ((updateExternalRef id date).apply s) v where
  mem := h.mem
  key := by
    obtain ⟨ref, href, hv⟩ := h.key
    refine ⟨_, by rw [refByKey_updateExternalRef, href]; rfl, ?_⟩
    dsimp only
    split <;> exact hv

/-- What an invariant has to survive, with keys and records that `allowed` admits. -/
structure SheetInvariant (cfg : Config) (allowed : String × String → SheetRecord → Prop) (I : Store → ℕ → Prop) :
    Prop where
  drew : ∀ s n, I s n → I s (n + 1)
  conflict : ∀ s n c, I s n → c.id = n → c.status = "PENDING" →
    I ((insertSyncConflict c).apply s) (n + 1)
  vehicle : ∀ s n (row : SyncRow) v, I s n → allowed row.key row.record → Arrival cfg row s n v →
    I ((insertVehicle v).apply s) (n + 1)
  key : ∀ s n (row : SyncRow) v date, I s n → allowed row.key row.record → Arrival cfg row s n v →
    I ((insertExternalRef (row.ref n date)).apply ((insertVehicle v).apply s)) (n + 2)
  refreshed : ∀ s n (row : SyncRow) v v', I s n → allowed row.key row.record → KeyedTo row s v → v'.id = v.id →
    v'.plateRaw = v.plateRaw → v'.plateNormalized = v.plateNormalized →
    I ((updateVehicle v').apply s) n
  dated : ∀ s n id date, I s n → I ((updateExternalRef id date).apply s) n
  permit : ∀ s n (row : SyncRow) v permitType validFrom validUntil createdAt, I s n →
    allowed row.key row.record → KeyedTo row s v →
    I ((insertPermit (sheetPermit v permitType validFrom validUntil n createdAt)).apply s) (n + 1)
  opened : ∀ s n run, I s n → run.id = n → I ((insertSyncRun run).apply s) (n + 1)
  closed : ∀ s n run, I s n → I ((updateSyncRun run).apply s) n

variable {cfg : Config} {clk : ℕ → ℤ} {allowed : String × String → SheetRecord → Prop} {I : Store → ℕ → Prop}
  {row : SyncRow} {w : Session Store}

/-! ## A row -/

/-- A part of a run that has the invariant at every end. -/
abbrev KeepsRow {α : Type} (clk : ℕ → ℤ) (I : Store → ℕ → Prop) (p : Handler α)
    (w : Session Store) : Prop :=
  p.wp clk (Prog.held (Prog.Stored I) fun _ _ => True) w

theorem KeepsRow.bind {α β : Type} {p : Handler α} {f : α → Handler β} (h : KeepsRow clk I p w)
    (hf : ∀ a w', Prog.Stored I w' → KeepsRow clk I (f a) w') : KeepsRow clk I (p.bind f) w :=
  Prog.wp_held_bind h fun a w' hw' _ => hf a w' hw'

theorem keepsRow_ret {α : Type} (h : Prog.Stored I w) (a : α) :
    KeepsRow clk I (.ret a : Handler α) w := Prog.wp_held_ret h trivial

/-- The value of a cell, or the end of the part. -/
theorem wp_stored_valueOf {α β : Type} {R : β → Session Store → Prop} (h : Prog.Stored I w)
    {value : Option α} {k : α → Handler β}
    (hk : ∀ a, value = some a → (k a).wp clk (Prog.held (Prog.Stored I) R) w) :
    ((valueOf value).bind k).wp clk (Prog.held (Prog.Stored I) R) w := by
  cases value with
  | none => exact Prog.wp_held_raise h
  | some a => exact hk a rfl

/-- A statement that the store refuses. -/
theorem keepsRow_refused {α : Type} (h : Prog.Stored I w) {k : Unit → Handler α} :
    KeepsRow clk I ((Prog.flush refusedQuery).bind k) w :=
  Prog.wp_stored_flush h fun hrefused => absurd hrefused (Option.some_ne_none _)

section

variable (hI : SheetInvariant cfg allowed I)
include hI

theorem keepsRow_addConflict (h : Prog.Stored I w) (conflictType message : String) :
    KeepsRow clk I (addConflict row conflictType message) w := by
  unfold addConflict
  split
  · exact keepsRow_ret h ()
  · refine Prog.wp_newId (Prog.wp_stored_flush_last (h.drew hI.drew) fun _ => ⟨?_, trivial⟩)
    exact hI.conflict _ _ _ h.view rfl rfl

theorem keepsRow_maybePermit (hallowed : allowed row.key row.record) (h : Prog.Stored I w)
    {v : Vehicle} (hv : KeyedTo row w.view v) :
    KeepsRow clk I (maybePermit cfg v row) w := by
  unfold maybePermit
  split
  · exact Prog.wp_held_raise h
  · split
    · exact keepsRow_ret h ()
    · refine Prog.wp_held_select h ?_
      split
      · exact keepsRow_ret h ()
      · split
        · refine wp_stored_valueOf h fun _ _ => wp_stored_valueOf h fun _ _ => ?_
          refine Prog.wp_newId (Prog.wp_getTime ?_)
          refine Prog.wp_stored_flush_last (h.drew hI.drew).ticked fun _ => ⟨?_, trivial⟩
          exact hI.permit _ _ row v _ _ _ _ h.view hallowed hv
        · refine Prog.wp_newId (Prog.wp_stored_flush_last (h.drew hI.drew) fun _ => ⟨?_, trivial⟩)
          exact hI.conflict _ _ _ h.view rfl rfl

/-- The key of a vehicle that was inserted just now. -/
theorem keepsRow_insertSheetRef {s : Store} {n : ℕ} {v : Vehicle} (hs : I s n)
    (hallowed : allowed row.key row.record) (harrival : Arrival cfg row s n v) (h : Prog.Stored I w)
    (hview : w.view = (insertVehicle v).apply s) (hnext : w.nextId = n + 1) :
    (insertSheetRef cfg row.key row.record v.id).wp clk
      (Prog.held (Prog.Stored I) fun _ w' => KeyedTo row w'.view v) w := by
  refine wp_stored_valueOf h fun date _ => Prog.wp_newId ?_
  have hsent (value : Option ℤ) : insertExternalRef
      { id := w.nextId, vehicleId := v.id, sourceSystem := row.key.1
        externalVehicleId := row.key.2, externalUpdatedAt := value } =
      insertExternalRef (row.ref n value) := by
    rw [hnext, harrival.id_eq]
    rfl
  have hkept (value : Option ℤ) : (Prog.flush (insertExternalRef
      { id := w.nextId, vehicleId := v.id, sourceSystem := row.key.1
        externalVehicleId := row.key.2, externalUpdatedAt := value }) : Handler Unit).wp clk
      (Prog.held (Prog.Stored I) fun _ w' => KeyedTo row w'.view v)
      { w with nextId := w.nextId + 1 } := by
    rw [hsent]
    refine Prog.wp_stored_flush_last (h.drew hI.drew) fun _ => ⟨?_, ?_, row.ref n value, ?_, ?_⟩
    · rw [hview, hnext]
      exact hI.key s n row v value hs hallowed harrival
    · show v ∈ w.view.vehicles
      rw [hview]
      exact List.mem_append_right _ (List.mem_singleton_self v)
    · -- the key was not known before
      show (w.view.externalRefs ++ [row.ref n value]).find? _ = _
      rw [hview, List.find?_append]
      have hnone := harrival.unkeyed
      unfold refByKey at hnone
      simp [insertVehicle, hnone, SyncRow.ref]
    · exact harrival.id_eq.symm
  cases date with
  | malformed message => exact Prog.wp_stored_flush_last (h.drew hI.drew) fun hrefused => absurd hrefused (Option.some_ne_none _)
  | empty => exact hkept _
  | date t => exact hkept _

theorem keepsRow_createFromSheet (hallowed : allowed row.key row.record) (h : Prog.Stored I w)
    {plate : Option String} (unkeyed : refByKey row.key w.view = none)
    (read : row.record.plate cfg = some plate) (free : vehicleWithPlate plate w.view = none) :
    KeepsRow clk I (createFromSheet cfg row plate) w := by
  refine wp_stored_valueOf h fun year hyear => wp_stored_valueOf h fun vehicleType _ => ?_
  refine wp_stored_valueOf h fun plateType _ => Prog.wp_newId (Prog.wp_getTime ?_)
  cases hrow : sheetVehicle cfg row.key row.record plate year vehicleType plateType w.nextId
      (clk w.tick) with
  | none => exact keepsRow_refused (h.drew hI.drew).ticked
  | some v =>
    obtain rfl := (sheetVehicle_some hrow).2
    have harrival : Arrival cfg row w.view w.nextId v := ⟨unkeyed, ⟨_, _, _, _, hyear, hrow⟩, read, free⟩
    refine Prog.wp_stored_flush (h.drew hI.drew).ticked fun _ => ?_
    have hinserted : Prog.Stored I { w with
        view := (insertVehicle v).apply w.view, nextId := w.nextId + 1, tick := w.tick + 1 } :=
      ⟨hI.drew _ _ h.committed, hI.vehicle _ _ row v h.view hallowed harrival⟩
    refine Prog.wp_held_bind (keepsRow_insertSheetRef hI h.view hallowed harrival hinserted rfl rfl)
      fun _ w' hw' hv => ?_
    exact KeepsRow.bind (keepsRow_maybePermit hI hallowed hw' hv) fun _ _ hw'' => keepsRow_ret hw'' _

/-- A vehicle that is written with the plate it has. -/
theorem keepsRow_flushVehicle (hallowed : allowed row.key row.record) (h : Prog.Stored I w)
    {old new : Vehicle} (hold : KeyedTo row w.view old) (hid : new.id = old.id)
    (hraw : new.plateRaw = old.plateRaw) (hplate : new.plateNormalized = old.plateNormalized) :
    (flushVehicle old new).wp clk
      (Prog.held (Prog.Stored I) fun _ w' => KeyedTo row w'.view new) w := by
  unfold flushVehicle
  split
  · rename_i hsame
    exact Prog.wp_held_ret h (hsame ▸ hold)
  · refine Prog.wp_stored_flush_last h fun _ => ⟨?_, ?_, ?_⟩
    · exact hI.refreshed _ _ row old new h.view hallowed hold hid hraw hplate
    · exact mem_updateWhere.2 (Or.inl ⟨old, hold.mem, by simp [hid], rfl⟩)
    · rw [hid]
      exact hold.key

theorem keepsRow_refreshRef (h : Prog.Stored I w) (refId : ℕ) (changed : Bool) {v : Vehicle}
    (hv : KeyedTo row w.view v) : (refreshRef cfg row.record refId changed).wp clk
      (Prog.held (Prog.Stored I) fun _ w' => KeyedTo row w'.view v) w := by
  unfold refreshRef
  split
  · refine wp_stored_valueOf h fun date _ => ?_
    have hsent (value : Option ℤ) : (Prog.flush (updateExternalRef refId value) :
        Handler Unit).wp clk (Prog.held (Prog.Stored I) fun _ w' => KeyedTo row w'.view v) w :=
      Prog.wp_stored_flush_last h fun _ => ⟨hI.dated _ _ refId value h.view, hv.dated refId value⟩
    cases date with
    | malformed message => exact Prog.wp_stored_flush_last h fun hrefused => absurd hrefused (Option.some_ne_none _)
    | empty => exact hsent _
    | date t => exact hsent _
  · exact Prog.wp_held_ret h hv

theorem keepsRow_refreshFromSheet (hallowed : allowed row.key row.record) (h : Prog.Stored I w)
    (refId : ℕ) {v : Vehicle} (hv : KeyedTo row w.view v) :
    KeepsRow clk I (refreshFromSheet cfg row refId v) w := by
  unfold refreshFromSheet
  cases htexts : refreshTexts row.record v with
  | none => exact keepsRow_refused h
  | some withTexts =>
    have hkept : withTexts.id = v.id ∧ withTexts.plateRaw = v.plateRaw ∧
        withTexts.plateNormalized = v.plateNormalized := by
      simp only [refreshTexts, Option.bind_eq_bind, Option.bind_eq_some_iff, Option.pure_def,
        Option.some.injEq] at htexts
      obtain ⟨_, -, _, -, _, -, rfl⟩ := htexts
      exact ⟨rfl, rfl, rfl⟩
    refine Prog.wp_held_bind
      (keepsRow_flushVehicle hI hallowed h hv hkept.1 hkept.2.1 hkept.2.2) fun _ w₁ h₁ hv₁ => ?_
    refine wp_stored_valueOf h₁ fun year _ => ?_
    refine Prog.wp_held_bind (keepsRow_flushVehicle hI hallowed h₁ hv₁ rfl rfl rfl)
      fun _ w₂ h₂ hv₂ => ?_
    refine Prog.wp_held_bind (keepsRow_refreshRef hI h₂ _ _ hv₂) fun _ w₃ h₃ hv₃ => ?_
    exact KeepsRow.bind (keepsRow_maybePermit hI hallowed h₃ hv₃) fun _ _ h₄ => keepsRow_ret h₄ _

/-- **A row** keeps the invariant, however it ends. -/
theorem keepsRow_upsertVehicle (hallowed : allowed row.key row.record) (h : Prog.Stored I w) :
    KeepsRow clk I (upsertVehicle cfg row) w := by
  have hskip (conflictType message : String) : KeepsRow clk I
      ((addConflict row conflictType message).bind fun _ => .ret RowResult.skipped) w :=
    (keepsRow_addConflict hI h _ _).bind fun _ _ h' => keepsRow_ret h' _
  refine Prog.wp_held_select h ?_
  cases hkey : refByKey row.key w.view with
  | none =>
    dsimp only
    unfold upsertNew
    cases hread : row.record.plate cfg with
    | none => exact keepsRow_refused h
    | some plate =>
      refine Prog.wp_held_select h ?_
      cases hthere : vehicleWithPlate plate w.view with
      | some v => exact hskip _ _
      | none =>
        rw [if_neg (by simp)]
        split
        · exact keepsRow_ret h _
        · exact keepsRow_createFromSheet hI hallowed h hkey hread hthere
  | some ref =>
    refine Prog.wp_held_select h ?_
    cases hfound : vehicleById ref.vehicleId w.view with
    | none => exact hskip _ _
    | some v =>
      dsimp only
      split
      · exact hskip _ _
      · split
        · exact keepsRow_ret h _
        · have hid : v.id = ref.vehicleId := by simpa using List.find?_some hfound
          exact keepsRow_refreshFromSheet hI hallowed h ref.id
            ⟨List.mem_of_find?_eq_some hfound, ref, hkey, hid.symm⟩

/-! ## A run -/

theorem keepsRow_syncRow (hallowed : validateRow cfg row.record = some [] → allowed row.key row.record)
    (h : Prog.Stored I w) (n : ℕ) (l : SyncLoop) : KeepsRow clk I (syncRow cfg n row l) w := by
  unfold syncRow
  cases hvalid : validateRow cfg row.record with
  | none => exact Prog.wp_held_raise h
  | some errs =>
    cases errs with
    | cons err errs =>
      exact (keepsRow_addConflict hI h _ _).bind fun _ _ h' => keepsRow_ret h' _
    | nil =>
      dsimp only
      split
      · exact (keepsRow_addConflict hI h _ _).bind fun _ _ h' => keepsRow_ret h' _
      · exact (keepsRow_upsertVehicle hI (hallowed hvalid) h).bind fun _ _ h' => keepsRow_ret h' _

/-- By induction on the records. -/
theorem keepsRow_syncRows (runId : Option ℕ) (dryRun : Bool) (n : ℕ) (records : List SheetRecord)
    (hallowed : ∀ record ∈ records, validateRow cfg record = some [] →
      allowed (record.key cfg) record)
    (l : SyncLoop) (h : Prog.Stored I w) :
    KeepsRow clk I (syncRows cfg runId dryRun n records l) w := by
  induction records generalizing n l w with
  | nil => exact keepsRow_ret h l
  | cons record rest ih =>
    rw [syncRows]
    split
    · exact keepsRow_ret h l
    · have hrow := hallowed record List.mem_cons_self
      refine (keepsRow_syncRow hI hrow h n l).bind fun l' w' h' => ?_
      exact ih _ (fun record hrecord => hallowed record (List.mem_cons_of_mem _ hrecord)) _ h'

theorem keepsRow_closeSyncRun (h : Prog.Stored I w) (run : VehicleSyncRun) (dryRun : Bool) :
    KeepsRow clk I (closeSyncRun run dryRun) w := by
  unfold closeSyncRun
  split
  · exact keepsRow_ret h ()
  · refine Prog.wp_stored_flush h fun _ => Prog.wp_stored_commit_last ?_ trivial
    exact ⟨h.committed, hI.closed _ _ _ h.view⟩

/-- **The invariant rule of the sheet**: what the statements of its rows keep, a run keeps, whether
it fails or not. -/
theorem keepsRow_syncRun (sheet : Option Sheet) (trigger : String) (dryRun : Bool)
    (hallowed : ∀ given ∈ sheet, ∀ record ∈ given.records, validateRow cfg record = some [] →
      allowed (record.key cfg) record) (h : Prog.Stored I w) :
    KeepsRow clk I (syncRun cfg sheet trigger dryRun) w := by
  have hopen : KeepsRow clk I (openSyncRun trigger (clk w.tick) dryRun)
      { w with tick := w.tick + 1 } := by
    unfold openSyncRun
    split
    · exact keepsRow_ret h.ticked _
    · refine Prog.wp_newId (Prog.wp_stored_flush (h.drew hI.drew).ticked fun _ => ?_)
      exact keepsRow_ret ⟨hI.drew _ _ h.committed, hI.opened _ _ _ h.view rfl⟩ _
  refine Prog.wp_getTime (hopen.bind fun run w₁ h₁ => ?_)
  have hbody : KeepsRow clk I (syncBody cfg sheet run.1 run.2 dryRun) w₁ := by
    refine wp_stored_valueOf h₁ fun given hgiven => ?_
    refine (keepsRow_syncRows hI _ _ _ _ (hallowed given hgiven) _ h₁).bind fun l w₂ h₂ => ?_
    refine Prog.wp_getTime ?_
    exact (keepsRow_closeSyncRun hI h₂.ticked _ _).bind fun _ _ h₃ => keepsRow_ret h₃ _
  refine Prog.wp_attempt (hbody.mono fun done w₂ h₂ => ?_)
  cases done with
  | ok out => exact Prog.wp_ret ⟨h₂.1, trivial⟩
  | error exc =>
    -- what the rows before it wrote is committed with the failure
    refine Prog.wp_getTime ?_
    exact (keepsRow_closeSyncRun hI h₂.1.ticked _ _).bind fun _ _ h₃ => keepsRow_ret h₃ _

end

/-! ## A dry run -/

/-- A query that is refused changes nothing. -/
theorem RowStmt.apply_dry {st : Stmt} (h : RowStmt true st) (s : Store) : st.apply s = s := by
  cases h with
  | refused => rfl
  | _ wet => exact absurd wet (by decide)

theorem writesOnly_syncRow (n : ℕ) (l : SyncLoop) :
    (syncRow cfg n row l).WritesOnly (RowStmt row.dryRun) := by
  unfold syncRow
  dsimp only
  split
  · trivial
  · split
    · exact (writesOnly_addConflict _ _).bind fun _ => trivial
    · exact writesOnly_upsertVehicle.bind fun _ => trivial
  · exact (writesOnly_addConflict _ _).bind fun _ => trivial

theorem writesOnly_syncRows (runId : Option ℕ) (dryRun : Bool) (n : ℕ) (records : List SheetRecord)
    (l : SyncLoop) : (syncRows cfg runId dryRun n records l).WritesOnly (RowStmt dryRun) := by
  induction records generalizing n l with
  | nil => trivial
  | cons record rest ih =>
    rw [syncRows]
    split
    · trivial
    · have hrow : (syncRow cfg n (sheetRow cfg runId dryRun n record) l).WritesOnly
          (RowStmt (sheetRow cfg runId dryRun n record).dryRun) := writesOnly_syncRow n l
      exact hrow.bind fun _ => ih _ _

theorem writesOnly_syncRun_dry (sheet : Option Sheet) (trigger : String) :
    (syncRun cfg sheet trigger true).WritesOnly (RowStmt true) := by
  refine Prog.writesOnly_getTime.bind fun startedAt => ?_
  refine Prog.WritesOnly.bind (by unfold openSyncRun; trivial) fun run => ?_
  refine Prog.WritesOnly.bind (Prog.WritesOnly.attempt ?_) fun done => ?_
  · refine (writesOnly_valueOf _).bind fun sheet => (writesOnly_syncRows _ _ _ _ _).bind fun l => ?_
    exact Prog.writesOnly_getTime.bind fun finishedAt =>
      Prog.WritesOnly.bind (by unfold closeSyncRun; trivial) fun _ => trivial
  · cases done with
    | ok out => trivial
    | error exc =>
      exact Prog.writesOnly_getTime.bind fun finishedAt =>
        Prog.WritesOnly.bind (by unfold closeSyncRun; trivial) fun _ => trivial

/-- **A dry run leaves the database as it is.** -/
theorem syncRun_dry (sheet : Option Sheet) (trigger : String) (w : Session Store) :
    ((syncRun cfg sheet trigger true).exec clk w).2.committed = w.committed ∧
      w.view = ((syncRun cfg sheet trigger true).exec clk w).2.view :=
  (writesOnly_syncRun_dry sheet trigger).exec_rel (fun _ => rfl) (fun _ _ _ => Eq.trans)
    (fun _ hst s => (hst.apply_dry s).symm) clk w

end ParkingSystem
