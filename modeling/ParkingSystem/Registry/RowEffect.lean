import ParkingSystem.Library.Hoare
import ParkingSystem.Registry.Sync

/-!
# What a Row of the Sheet Does

`_upsert_vehicle` ends in one of three ways, and each of them says all that it wrote: a conflict;
a vehicle with its key, and a permit where the row names one; or the columns of a known vehicle,
with a permit or the conflict over the one that is there.
-/

namespace ParkingSystem

open PyText Plate Table Transaction

/-! ## The parts -/

/-- The columns of a known vehicle once a row has been read. -/
def refreshedVehicle (cfg : Config) (record : SheetRecord) (v : Vehicle) : Option Vehicle := do
  let withTexts ← refreshTexts record v
  let year ← yearOf cfg (record.cell "year")
  return { withTexts with
    year := if year.isSome then year else v.year
    isActive := parseBool cfg (record.cell "is_active") v.isActive }

/-- The identifier and the plates of a vehicle stay. -/
theorem refreshedVehicle_some {cfg : Config} {record : SheetRecord} {v v' : Vehicle}
    (h : refreshedVehicle cfg record v = some v') :
    v'.id = v.id ∧ v'.plateRaw = v.plateRaw ∧ v'.plateNormalized = v.plateNormalized := by
  simp only [refreshedVehicle, refreshTexts, Option.bind_eq_bind, Option.bind_eq_some_iff,
    Option.pure_def, Option.some.injEq] at h
  obtain ⟨_, ⟨_, -, _, -, _, -, rfl⟩, _, -, rfl⟩ := h
  exact ⟨rfl, rfl, rfl⟩

/-- What a known vehicle and its key are changed to; nothing is written where nothing changed. -/
def writeRefreshed (v v' : Vehicle) (refId : ℕ) (date : Option ℤ) (s : Store) : Store :=
  if v = v' then s else (updateExternalRef refId date).apply ((updateVehicle v').apply s)

/-- The permit of a row. -/
def sheetPermit (v : Vehicle) (permitType : String) (validFrom validUntil : Option ℤ) (id : ℕ)
    (createdAt : ℤ) : AccessPermit :=
  { id, vehicleId := some v.id, plateNormalized := v.plateNormalized, permitType, validFrom
    validUntil, reason := some "ایجادشده توسط همگام‌سازی Google Sheets", createdAt }

/-- What `_maybe_permit` does, with the identifiers from `n` to `n'`. -/
inductive PermitEffect (row : SyncRow) (v : Vehicle) (s : Store) (n : ℕ) : Store → ℕ → Prop where
  | none (unnamed : permitTypeOf row.record = some "") : PermitEffect row v s n s n
  | issued {permitType validFrom validUntil createdAt}
      (named : permitTypeOf row.record = some permitType) (nonempty : permitType ≠ "")
      (first : permitsOfVehicle v.id s = []) : PermitEffect row v s n
        ((insertPermit (sheetPermit v permitType validFrom validUntil n createdAt)).apply s) (n + 1)
  | kept {permitType} (named : permitTypeOf row.record = some permitType)
      (nonempty : permitType ≠ "") (there : permitsOfVehicle v.id s ≠ []) :
      PermitEffect row v s n ((insertSyncConflict (permitConflict row n)).apply s) (n + 1)

/-- A vehicle that a row brings, with the identifier `n`. -/
structure Arrival (cfg : Config) (row : SyncRow) (s : Store) (n : ℕ) (v : Vehicle) : Prop where
  unkeyed : refByKey row.key s = none
  built : ∃ year vehicleType plateType createdAt, yearOf cfg (row.record.cell "year") = some year ∧
    sheetVehicle cfg row.key row.record (some v.plateNormalized) year vehicleType plateType n
      createdAt = some v
  read : row.record.plate cfg = some (some v.plateNormalized)
  free : vehicleWithPlate (some v.plateNormalized) s = none

theorem Arrival.id_eq {cfg : Config} {row : SyncRow} {s : Store} {n : ℕ} {v : Vehicle}
    (h : Arrival cfg row s n v) : v.id = n := by
  obtain ⟨_, _, _, _, -, hrow⟩ := h.built
  exact (sheetVehicle_some hrow).1

/-- The key of a vehicle that a row brings. -/
def SyncRow.ref (row : SyncRow) (n : ℕ) (date : Option ℤ) : VehicleExternalRef :=
  { id := n + 1, vehicleId := n, sourceSystem := row.key.1, externalVehicleId := row.key.2
    externalUpdatedAt := date }

/-- The conflict of a row that a human has to settle. -/
def rowConflict (row : SyncRow) (id : ℕ) (conflictType message : String) : VehicleSyncConflict :=
  { id, runId := row.runId, rowNumber := row.rowNumber
    externalVehicleId := some row.key.2, sourceSystem := some row.key.1
    conflictType, message, incoming := row.record }

/-- What `_upsert_vehicle` does, with the identifiers from `n` to `n'`. -/
inductive RowEffect (cfg : Config) (row : SyncRow) (s : Store) (n : ℕ) :
    RowResult → Store → ℕ → Prop where
  | known {plate v conflictType message} (unkeyed : refByKey row.key s = none)
      (read : row.record.plate cfg = some plate) (there : vehicleWithPlate plate s = some v) :
      RowEffect cfg row s n .skipped
        ((insertSyncConflict (rowConflict row n conflictType message)).apply s) (n + 1)
  | gone {ref conflictType message} (keyed : refByKey row.key s = some ref)
      (lost : vehicleById ref.vehicleId s = none) : RowEffect cfg row s n .skipped
        ((insertSyncConflict (rowConflict row n conflictType message)).apply s) (n + 1)
  | mismatch {ref v conflictType message} (keyed : refByKey row.key s = some ref)
      (found : vehicleById ref.vehicleId s = some v)
      (differs : row.record.plate cfg ≠ some (some v.plateNormalized)) : RowEffect cfg row s n .skipped
        ((insertSyncConflict (rowConflict row n conflictType message)).apply s) (n + 1)
  | created {v date s' n'} (arrival : Arrival cfg row s n v)
      (permit : PermitEffect row v ((insertExternalRef (row.ref n date)).apply
        ((insertVehicle v).apply s)) (n + 2) s' n') : RowEffect cfg row s n .created s' n'
  | updated {ref v v' date s' n'} (keyed : refByKey row.key s = some ref)
      (found : vehicleById ref.vehicleId s = some v)
      (agrees : row.record.plate cfg = some (some v.plateNormalized))
      (refreshed : refreshedVehicle cfg row.record v = some v')
      (permit : PermitEffect row v' (writeRefreshed v v' ref.id date s) n s' n') :
      RowEffect cfg row s n .updated s' n'

/-! ## Statements -/

/-- The statements of a row: a dry run sends none but the query that is refused. -/
inductive RowStmt (dryRun : Bool) : Stmt → Prop where
  | refused : RowStmt dryRun refusedQuery
  | conflict (wet : dryRun = false) (c : VehicleSyncConflict) :
      RowStmt dryRun (insertSyncConflict c)
  | newVehicle (wet : dryRun = false) (v : Vehicle) : RowStmt dryRun (insertVehicle v)
  | oldVehicle (wet : dryRun = false) (v : Vehicle) : RowStmt dryRun (updateVehicle v)
  | newKey (wet : dryRun = false) (ref : VehicleExternalRef) : RowStmt dryRun (insertExternalRef ref)
  | oldKey (wet : dryRun = false) (id : ℕ) (date : Option ℤ) :
      RowStmt dryRun (updateExternalRef id date)
  | permit (wet : dryRun = false) (p : AccessPermit) : RowStmt dryRun (insertPermit p)

section

variable {cfg : Config} {row : SyncRow}

theorem writesOnly_valueOf {α : Type} {P : Stmt → Prop} (value : Option α) :
    (valueOf value).WritesOnly P := by
  cases value <;> trivial

theorem writesOnly_addConflict (conflictType message : String) :
    (addConflict row conflictType message).WritesOnly (RowStmt row.dryRun) := by
  unfold addConflict
  split
  · trivial
  · rename_i hdry
    exact Prog.writesOnly_newId.bind fun id =>
      Prog.writesOnly_flush (.conflict (Bool.eq_false_iff.2 hdry) _)

theorem writesOnly_maybePermit (v : Vehicle) :
    (maybePermit cfg v row).WritesOnly (RowStmt row.dryRun) := by
  unfold maybePermit
  split
  · trivial
  · split
    · trivial
    · refine (Prog.writesOnly_select _).bind fun existing => ?_
      split
      · trivial
      · rename_i hdry
        have hwet := Bool.eq_false_iff.2 hdry
        split
        · refine (writesOnly_valueOf _).bind fun _ => (writesOnly_valueOf _).bind fun _ => ?_
          exact Prog.writesOnly_newId.bind fun _ => Prog.writesOnly_getTime.bind fun _ =>
            Prog.writesOnly_flush (.permit hwet _)
        · exact Prog.writesOnly_newId.bind fun _ => Prog.writesOnly_flush (.conflict hwet _)

theorem writesOnly_createFromSheet (hwet : row.dryRun = false) (plate : Option String) :
    (createFromSheet cfg row plate).WritesOnly (RowStmt row.dryRun) := by
  refine (writesOnly_valueOf _).bind fun year => (writesOnly_valueOf _).bind fun vehicleType => ?_
  refine (writesOnly_valueOf _).bind fun plateType => Prog.writesOnly_newId.bind fun id => ?_
  refine Prog.writesOnly_getTime.bind fun createdAt => ?_
  split
  · exact (Prog.writesOnly_flush .refused).bind fun _ => trivial
  · refine (Prog.writesOnly_flush (.newVehicle hwet _)).bind fun _ => ?_
    refine Prog.WritesOnly.bind ?_ fun _ => (writesOnly_maybePermit _).bind fun _ => trivial
    refine (writesOnly_valueOf _).bind fun date => Prog.writesOnly_newId.bind fun refId => ?_
    cases date with
    | malformed message => exact Prog.writesOnly_flush .refused
    | empty => exact Prog.writesOnly_flush (.newKey hwet _)
    | date t => exact Prog.writesOnly_flush (.newKey hwet _)

theorem writesOnly_flushVehicle (hwet : row.dryRun = false) (old new : Vehicle) :
    (flushVehicle old new).WritesOnly (RowStmt row.dryRun) := by
  unfold flushVehicle
  split
  · trivial
  · exact Prog.writesOnly_flush (.oldVehicle hwet _)

theorem writesOnly_refreshRef (hwet : row.dryRun = false) (refId : ℕ) (changed : Bool) :
    (refreshRef cfg row.record refId changed).WritesOnly (RowStmt row.dryRun) := by
  unfold refreshRef
  split
  · refine (writesOnly_valueOf _).bind fun date => ?_
    cases date with
    | malformed message => exact Prog.writesOnly_flush .refused
    | empty => exact Prog.writesOnly_flush (.oldKey hwet _ _)
    | date t => exact Prog.writesOnly_flush (.oldKey hwet _ _)
  · trivial

theorem writesOnly_refreshFromSheet (hwet : row.dryRun = false) (refId : ℕ) (v : Vehicle) :
    (refreshFromSheet cfg row refId v).WritesOnly (RowStmt row.dryRun) := by
  unfold refreshFromSheet
  split
  · exact (Prog.writesOnly_flush .refused).bind fun _ => trivial
  · refine (writesOnly_flushVehicle hwet _ _).bind fun _ => (writesOnly_valueOf _).bind fun year => ?_
    refine (writesOnly_flushVehicle hwet _ _).bind fun _ => ?_
    exact (writesOnly_refreshRef hwet _ _).bind fun _ => (writesOnly_maybePermit _).bind fun _ => trivial

theorem writesOnly_upsertVehicle : (upsertVehicle cfg row).WritesOnly (RowStmt row.dryRun) := by
  have hskip (conflictType message : String) : ((addConflict row conflictType message).bind
      fun _ => .ret RowResult.skipped).WritesOnly (RowStmt row.dryRun) :=
    (writesOnly_addConflict _ _).bind fun _ => trivial
  refine (Prog.writesOnly_select _).bind fun ref => ?_
  cases ref with
  | none =>
    dsimp only
    unfold upsertNew
    split
    · exact (Prog.writesOnly_flush .refused).bind fun _ => trivial
    · refine (Prog.writesOnly_select _).bind fun existing => ?_
      split
      · exact hskip _ _
      · split
        · trivial
        · exact writesOnly_createFromSheet (Bool.eq_false_iff.2 ‹_›) _
  | some ref =>
    refine (Prog.writesOnly_select _).bind fun vehicle => ?_
    cases vehicle with
    | none => exact hskip _ _
    | some v =>
      dsimp only
      split
      · exact hskip _ _
      · split
        · trivial
        · exact writesOnly_refreshFromSheet (Bool.eq_false_iff.2 ‹_›) _ _

end

/-! ## The effect of a row -/

variable {cfg : Config} {clk : ℕ → ℤ} {row : SyncRow} {w : Session Store}

/-- A normal end in which the view and the identifiers are related to those at the start. -/
def Leaves {α : Type} (P : α → Store → ℕ → Prop) : α → Session Store → Prop :=
  fun a w' => P a w'.view w'.nextId

theorem parsedDate_leaves {α : Type} {value : Cell} {k : ParsedDate → Handler α}
    {Q : α → Session Store → Prop} (h : ∀ date, (k date).wp clk (Prog.returned Q) w) :
    ((parsedDate cfg value).bind k).wp clk (Prog.returned Q) w := by
  unfold parsedDate valueOf
  cases parseAnyDate cfg value with
  | none => exact Prog.wp_raise trivial
  | some date => exact h date

theorem valueOf_leaves {α β : Type} {value : Option β} {k : β → Handler α}
    {Q : α → Session Store → Prop} (h : ∀ b, value = some b → (k b).wp clk (Prog.returned Q) w) :
    ((valueOf value).bind k).wp clk (Prog.returned Q) w := by
  cases value with
  | none => exact Prog.wp_raise trivial
  | some b => exact h b rfl

/-- Nothing comes back from a query that the store refuses. -/
theorem refused_leaves {α : Type} {k : Unit → Handler α} {Q : α → Session Store → Prop} :
    ((Prog.flush refusedQuery).bind k).wp clk (Prog.returned Q) w :=
  Prog.wp_returned_flush fun h => absurd h (Option.some_ne_none _)

theorem addConflict_leaves (hdry : row.dryRun = false) (conflictType message : String) :
    (addConflict row conflictType message).wp clk (Prog.returned (Leaves fun _ s' n' =>
      s' = (insertSyncConflict (rowConflict row w.nextId conflictType message)).apply w.view ∧
        n' = w.nextId + 1)) w := by
  simp only [addConflict, hdry, Bool.false_eq_true, if_false]
  exact Prog.wp_newId (Prog.wp_returned_flush_last fun _ => ⟨rfl, rfl⟩)

theorem maybePermit_leaves (cfg : Config) (clk : ℕ → ℤ) (hdry : row.dryRun = false) (v : Vehicle) :
    (maybePermit cfg v row).wp clk
      (Prog.returned (Leaves fun _ => PermitEffect row v w.view w.nextId)) w := by
  unfold maybePermit
  cases htype : permitTypeOf row.record with
  | none => exact Prog.wp_raise trivial
  | some permitType =>
    by_cases hempty : permitType = ""
    · subst hempty
      exact Prog.wp_ret (.none htype)
    · simp only [hempty, if_false]
      refine Prog.wp_returned_select ?_
      simp only [hdry, Bool.false_eq_true, if_false]
      cases hpermits : permitsOfVehicle v.id w.view with
      | nil =>
        refine parsedDate_leaves fun validFrom => parsedDate_leaves fun validUntil => ?_
        refine Prog.wp_newId (Prog.wp_getTime (Prog.wp_returned_flush_last fun _ => ?_))
        exact .issued htype hempty hpermits
      | cons p rest =>
        refine Prog.wp_newId (Prog.wp_returned_flush_last fun _ => ?_)
        exact .kept htype hempty (by simp [hpermits])

theorem createFromSheet_leaves (hdry : row.dryRun = false) {plate : Option String}
    (unkeyed : refByKey row.key w.view = none) (read : row.record.plate cfg = some plate)
    (free : vehicleWithPlate plate w.view = none) :
    (createFromSheet cfg row plate).wp clk
      (Prog.returned (Leaves (RowEffect cfg row w.view w.nextId))) w := by
  refine valueOf_leaves fun year hyear => valueOf_leaves fun vehicleType _ => ?_
  refine valueOf_leaves fun plateType _ => Prog.wp_newId (Prog.wp_getTime ?_)
  cases hrow : sheetVehicle cfg row.key row.record plate year vehicleType plateType w.nextId
      (clk w.tick) with
  | none => exact refused_leaves
  | some v =>
    obtain rfl := (sheetVehicle_some hrow).2
    have harrival : Arrival cfg row w.view w.nextId v :=
      ⟨unkeyed, ⟨_, _, _, _, hyear, hrow⟩, read, free⟩
    refine Prog.wp_returned_flush fun _ => ?_
    unfold insertSheetRef
    simp only [Prog.bind_eq, Prog.bind_assoc]
    refine parsedDate_leaves fun date => Prog.wp_newId ?_
    rw [harrival.id_eq]
    have hsent (value : Option ℤ) :=
      maybePermit_leaves (w := { w with
        view := (insertExternalRef (row.ref w.nextId value)).apply ((insertVehicle v).apply w.view)
        nextId := w.nextId + 1 + 1, tick := w.tick + 1 }) cfg clk hdry v
    have hdone (value : Option ℤ) := Prog.wp_returned_bind (hsent value)
      (f := fun _ => (Prog.ret .created : Handler RowResult))
      (S := Leaves (RowEffect cfg row w.view w.nextId)) fun _ w' hw' =>
        Prog.wp_ret (RowEffect.created harrival hw')
    cases date with
    | malformed message => exact refused_leaves
    | empty => exact Prog.wp_returned_flush fun _ => hdone _
    | date t => exact Prog.wp_returned_flush fun _ => hdone _

/-- Both flushes of a vehicle together write what changed of it. -/
theorem writeVehicle_leaves {α : Type} {v withTexts v' : Vehicle} {k : Unit → Handler α}
    {Q : α → Session Store → Prop} (hid : withTexts.id = v'.id) (hkept : v = v' → v = withTexts)
    (h : ((k ()).wp clk (Prog.returned Q)
      { w with view := if v = v' then w.view else (updateVehicle v').apply w.view })) :
    ((flushVehicle v withTexts).bind fun _ => (flushVehicle withTexts v').bind k).wp clk
      (Prog.returned Q) w := by
  unfold flushVehicle
  by_cases htexts : v = withTexts
  · subst htexts
    rw [if_pos rfl]
    by_cases hsame : v = v'
    · subst hsame
      rw [if_pos rfl] at h ⊢
      exact h
    · rw [if_neg hsame] at h ⊢
      exact Prog.wp_returned_flush fun _ => h
  · rw [if_neg htexts]
    rw [if_neg fun hsame => htexts (hkept hsame)] at h
    refine Prog.wp_returned_flush fun _ => ?_
    by_cases hsame : withTexts = v'
    · subst hsame
      rw [if_pos rfl]
      exact h
    · rw [if_neg hsame]
      refine Prog.wp_returned_flush fun _ => ?_
      -- the second UPDATE writes the row over
      have htwice : (updateVehicle v').apply ((updateVehicle withTexts).apply w.view) =
          (updateVehicle v').apply w.view := by
        have hrows := updateWhere_overwrite (p := fun u : Vehicle => u.id == v'.id) (b := withTexts)
          (beq_iff_eq.2 hid) v' w.view.vehicles
        simp only [updateVehicle, hid, hrows]
      rw [htwice]
      exact h

theorem refreshFromSheet_leaves (hdry : row.dryRun = false) {ref : VehicleExternalRef} {v : Vehicle}
    (keyed : refByKey row.key w.view = some ref)
    (found : vehicleById ref.vehicleId w.view = some v)
    (agrees : row.record.plate cfg = some (some v.plateNormalized)) :
    (refreshFromSheet cfg row ref.id v).wp clk
      (Prog.returned (Leaves (RowEffect cfg row w.view w.nextId))) w := by
  unfold refreshFromSheet
  cases htexts : refreshTexts row.record v with
  | none => exact refused_leaves
  | some withTexts =>
    cases hyear : yearOf cfg (row.record.cell "year") with
    | none =>
      refine Prog.wp_returned_bind (Prog.wp_trivial _) fun _ _ _ => ?_
      exact Prog.wp_raise trivial
    | some year =>
      have hrefreshed : refreshedVehicle cfg row.record v = some { withTexts with
          year := if year.isSome then year else v.year
          isActive := parseBool cfg (row.record.cell "is_active") v.isActive } := by
        simp [refreshedVehicle, htexts, hyear]
      have hkept : v = { withTexts with
          year := if year.isSome then year else v.year
          isActive := parseBool cfg (row.record.cell "is_active") v.isActive } → v = withTexts := by
        simp only [refreshTexts, Option.bind_eq_bind, Option.bind_eq_some_iff, Option.pure_def,
          Option.some.injEq] at htexts
        obtain ⟨brand, -, model, -, color, -, rfl⟩ := htexts
        intro hsame
        cases v
        simp only [Vehicle.mk.injEq] at hsame ⊢
        tauto
      refine writeVehicle_leaves rfl hkept ?_
      generalize hv' : ({ withTexts with
          year := if year.isSome then year else v.year
          isActive := parseBool cfg (row.record.cell "is_active") v.isActive } : Vehicle) = v' at *
      -- the date of the key is written with the vehicle
      have hlast (date : Option ℤ) := Prog.wp_returned_bind (maybePermit_leaves
        (w := { w with view := writeRefreshed v v' ref.id date w.view }) cfg clk hdry v')
        (f := fun _ => (Prog.ret .updated : Handler RowResult))
        (S := Leaves (RowEffect cfg row w.view w.nextId)) fun _ w' hw' =>
          Prog.wp_ret (RowEffect.updated keyed found agrees hrefreshed hw')
      unfold refreshRef
      by_cases hsame : v = v'
      · simp only [writeRefreshed, if_pos hsame] at hlast ⊢
        rw [if_neg (by simp [hsame])]
        exact hlast none
      · simp only [writeRefreshed, if_neg hsame] at hlast ⊢
        rw [if_pos (by simpa using hsame)]
        simp only [Prog.bind_eq, Prog.bind_assoc]
        refine parsedDate_leaves fun date => ?_
        cases date with
        | malformed message => exact refused_leaves
        | empty => exact Prog.wp_returned_flush fun _ => hlast _
        | date t => exact Prog.wp_returned_flush fun _ => hlast _

theorem upsertVehicle_leaves (hdry : row.dryRun = false) :
    (upsertVehicle cfg row).wp clk
      (Prog.returned (Leaves (RowEffect cfg row w.view w.nextId))) w := by
  -- a row that is put aside has one conflict written
  have hsettled {conflictType message : String}
      (h : ∀ conflictType message, RowEffect cfg row w.view w.nextId .skipped
        ((insertSyncConflict (rowConflict row w.nextId conflictType message)).apply w.view)
        (w.nextId + 1)) : ((addConflict row conflictType message).bind fun _ =>
          (Prog.ret .skipped : Handler RowResult)).wp clk
        (Prog.returned (Leaves (RowEffect cfg row w.view w.nextId))) w := by
    refine Prog.wp_returned_bind (addConflict_leaves hdry _ _) fun _ w' hw' => Prog.wp_ret ?_
    obtain ⟨hview, hnext⟩ := hw'
    show RowEffect cfg row w.view w.nextId .skipped w'.view w'.nextId
    rw [hview, hnext]
    exact h _ _
  refine Prog.wp_returned_select ?_
  cases hkey : refByKey row.key w.view with
  | none =>
    dsimp only
    unfold upsertNew
    cases hread : row.record.plate cfg with
    | none => exact refused_leaves
    | some plate =>
      refine Prog.wp_returned_select ?_
      cases hthere : vehicleWithPlate plate w.view with
      | some v =>
        exact hsettled fun _ _ => .known hkey hread hthere
      | none =>
        rw [if_neg (by simp), if_neg (by simp [hdry])]
        exact createFromSheet_leaves hdry hkey hread hthere
  | some ref =>
    dsimp only
    unfold upsertKnown
    refine Prog.wp_returned_select ?_
    cases hfound : vehicleById ref.vehicleId w.view with
    | none =>
      exact hsettled fun _ _ => .gone hkey hfound
    | some v =>
      dsimp only
      split
      · exact hsettled fun _ _ => .mismatch hkey hfound ‹_›
      · rename_i hagrees
        rw [if_neg (by simp [hdry])]
        exact refreshFromSheet_leaves hdry hkey hfound (not_not.1 hagrees)

end ParkingSystem
