import ParkingSystem.Registry.SheetRules

/-!
# Conflicts of the Sheet

A row of the sheet that the synchronisation cannot settle waits as a PENDING conflict, until a
human applies it or skips it. Applying it runs `_upsert_vehicle` once more.
-/

namespace ParkingSystem

open PyText Plate Table Transaction

/-! ## The endpoint -/

/-- The columns that resolving a conflict writes. -/
structure Resolution where
  status : String
  resolvedBy : ℕ
  resolvedAt : ℤ
  resolutionNote : Option String

/-- The row once the columns are written. -/
def Resolution.on (u : Resolution) (c : VehicleSyncConflict) : VehicleSyncConflict :=
  { c with status := u.status, resolvedBy := some u.resolvedBy, resolvedAt := some u.resolvedAt
           resolutionNote := u.resolutionNote }

/-- UPDATE of a conflict. -/
def updateSyncConflict (id : ℕ) (u : Resolution) : Stmt where
  label := .registry .updateSyncConflict
  locks := [.syncConflictRow id]
  check _ := none
  apply s := { s with syncConflicts := updateWhere (fun c => c.id == id) u.on s.syncConflicts }

/-- `db.get(VehicleSyncConflict, id)`. -/
def conflictById (id : ℕ) (s : Store) : Option VehicleSyncConflict :=
  s.syncConflicts.find? fun c => c.id == id

/-- The body of a request. -/
structure ConflictResolve where
  action : String := "SKIP"
  note : Option String := none

/-- A request by a user, who may have the permission for it. -/
structure ConflictRequest where
  conflictId : ℕ
  user : ℕ
  mayEdit : Bool
  body : ConflictResolve

/-- The answer to a request. -/
structure ConflictResponse where
  id : ℕ
  status : String
  applied : Bool

/-- `body.action.upper()`. -/
def ConflictRequest.action (r : ConflictRequest) : String := upperString r.body.action

/-- The row that a conflict keeps; the key of a conflict over a permit is empty. -/
def VehicleSyncConflict.row (c : VehicleSyncConflict) : SyncRow :=
  { runId := c.runId, rowNumber := c.rowNumber
    key := (if c.sourceSystem.getD "" = "" then "OPS" else c.sourceSystem.getD "",
      c.externalVehicleId.getD "")
    record := c.incoming, dryRun := false }

/-- The part of a request that applies the row, where it has a key and passes the checks now. -/
def applyConflict (cfg : Config) (r : ConflictRequest) (c : VehicleSyncConflict) : Handler Bool :=
  if r.action = "APPLY" ∧ c.row.key.2 ≠ "" then
    match validateRow cfg c.incoming with
    | none => Prog.raise .typeError
    | some [] => do
      let result ← upsertVehicle cfg c.row
      return result != .skipped
    | some _ => return false
  else return false

/-- `resolve_conflict`. -/
def resolveConflict (cfg : Config) (r : ConflictRequest) : Handler ConflictResponse :=
  if !r.mayEdit then
    Prog.raise (.forbidden "مجوز ویرایش خودرو برای همگام‌سازی لازم است")
  else do
    let found ← .select (conflictById r.conflictId)
    match found with
    | none => Prog.raise .notFound
    | some c =>
      if !(["APPLY", "SKIP"].contains r.action) then
        Prog.raise (.forbidden "عملیات نامعتبر (APPLY/SKIP)")
      else do
        let applied ← applyConflict cfg r c
        let status := if r.action = "APPLY" ∧ applied = true then "RESOLVED_APPLIED"
          else "RESOLVED_SKIPPED"
        let resolvedAt ← Prog.getTime
        Prog.flush (updateSyncConflict c.id
          { status, resolvedBy := r.user, resolvedAt, resolutionNote := r.body.note })
        Prog.commitTx
        return { id := c.id, status, applied }

/-! ## What a request does -/

/-- Whether a request on a conflict that is there goes through. -/
def ConflictRequest.carriedOut (r : ConflictRequest) : Bool :=
  r.mayEdit && ["APPLY", "SKIP"].contains r.action

/-- Whether a request runs the row of a conflict again. -/
def ConflictRequest.applies (cfg : Config) (r : ConflictRequest) (c : VehicleSyncConflict) : Bool :=
  r.action == "APPLY" && c.row.key.2 != "" && validateRow cfg c.incoming == some []

/-- What a request makes of the row of a conflict: nothing, or what `_upsert_vehicle` does. -/
inductive Reapplied (cfg : Config) (r : ConflictRequest) (c : VehicleSyncConflict) (s : Store)
    (n : ℕ) : Bool → Store → Prop where
  | left (inert : r.applies cfg c = false) : Reapplied cfg r c s n false s
  | run {result s' n'} (applies : r.applies cfg c = true)
      (row : RowEffect cfg c.row s n result s' n') : Reapplied cfg r c s n (result != .skipped) s'

/-- The status of a conflict that was resolved. -/
def resolvedStatus (applied : Bool) : String :=
  if applied then "RESOLVED_APPLIED" else "RESOLVED_SKIPPED"

/-- What a request answers and leaves. -/
inductive ConflictEffect (cfg : Config) (r : ConflictRequest) (s : Store) (n : ℕ) :
    Except (Exc AppError) ConflictResponse → Store → Prop where
  | refused {e} : ConflictEffect cfg r s n (.error e) s
  | resolved {c applied s' u} (carried : r.carriedOut = true)
      (found : conflictById r.conflictId s = some c) (row : Reapplied cfg r c s n applied s')
      (status : u.status = resolvedStatus applied) : ConflictEffect cfg r s n
        (.ok { id := c.id, status := resolvedStatus applied, applied })
        ((updateSyncConflict c.id u).apply s')

variable {cfg : Config} {clk : ℕ → ℤ} {r : ConflictRequest} {w : Session Store}

theorem applyConflict_wp (c : VehicleSyncConflict) :
    (applyConflict cfg r c).wp clk (fun out w' => w'.committed = w.committed ∧
      Prog.returned (fun applied w' => Reapplied cfg r c w.view w.nextId applied w'.view ∧
        (applied = true → r.action = "APPLY")) out w') w := by
  unfold applyConflict
  by_cases hrun : r.action = "APPLY" ∧ c.row.key.2 ≠ ""
  · rw [if_pos hrun]
    cases hvalid : validateRow cfg c.incoming with
    | none => exact Prog.wp_raise ⟨rfl, trivial⟩
    | some errs =>
      cases errs with
      | cons err errs =>
        exact Prog.wp_ret ⟨rfl, .left (by simp [ConflictRequest.applies, hvalid]), nofun⟩
      | nil =>
        have happlies : r.applies cfg c = true := by
          simp [ConflictRequest.applies, hrun.1, hrun.2, hvalid]
        refine Prog.wp_bind ((upsertVehicle_leaves (w := w) rfl).of_writesOnly
          writesOnly_upsertVehicle |>.mono fun out w' hend => ?_)
        cases out with
        | error e => exact ⟨hend.2, trivial⟩
        | ok result => exact Prog.wp_ret ⟨hend.2, .run happlies hend.1, fun _ => hrun.1⟩
  · rw [if_neg hrun]
    refine Prog.wp_ret ⟨rfl, .left ?_, nofun⟩
    rw [not_and_or, not_not] at hrun
    rcases hrun with haction | hkey
    · simp [ConflictRequest.applies, haction]
    · simp [ConflictRequest.applies, hkey]

/-- **A request**: it is refused, or it writes the conflict with what became of its row. -/
theorem resolveConflict_wp (hview : w.view = w.committed) :
    (resolveConflict cfg r).wp clk (fun out w' =>
      ConflictEffect cfg r w.committed w.nextId out w'.committed) w := by
  unfold resolveConflict
  cases hmay : r.mayEdit with
  | false => exact Prog.wp_raise .refused
  | true =>
    refine Prog.wp_select (fun _ => .refused) fun _ => ?_
    rw [hview]
    cases hfound : conflictById r.conflictId w.committed with
    | none => exact Prog.wp_raise .refused
    | some c =>
      dsimp only
      cases haction : ["APPLY", "SKIP"].contains r.action with
      | false => exact Prog.wp_raise .refused
      | true =>
        simp only [Bool.not_true, Bool.false_eq_true, if_false]
        refine Prog.wp_bind ((applyConflict_wp c).mono fun out w₁ hend => ?_)
        obtain ⟨hsame, hend⟩ := hend
        rw [hview] at hend
        cases out with
        | error e =>
          show ConflictEffect cfg r w.committed w.nextId _ w₁.committed
          rw [hsame]
          exact .refused
        | ok applied =>
          obtain ⟨hrow, happlied⟩ := hend
          have hstatus : (if r.action = "APPLY" ∧ applied = true then "RESOLVED_APPLIED"
              else "RESOLVED_SKIPPED") = resolvedStatus applied := by
            unfold resolvedStatus
            cases applied with
            | false => simp
            | true => simp [happlied rfl]
          rw [← hsame]
          refine Prog.wp_getTime (Prog.wp_flush (fun _ => .refused) (fun _ _ _ => .refused) ?_)
          refine fun _ _ => Prog.wp_commit (fun _ => .refused) fun _ => Prog.wp_ret ?_
          simp only [hstatus, hsame]
          exact .resolved (by rw [ConflictRequest.carriedOut, hmay, haction]; rfl) hfound hrow rfl

/-! ## Invariants -/

section

variable {allowed : String × String → SheetRecord → Prop} {I : Store → ℕ → Prop}

/-- **A request** keeps what the statements of a row and the change of a conflict keep. -/
theorem keepsRow_resolveConflict (hI : SheetInvariant cfg allowed I)
    (hresolved : ∀ s n id u, I s n → I ((updateSyncConflict id u).apply s) n)
    (hallowed : ∀ c ∈ conflictById r.conflictId w.view, r.carriedOut = true →
      r.applies cfg c = true → allowed c.row.key c.incoming) (h : Prog.Stored I w) : KeepsRow clk I (resolveConflict cfg r) w := by
  unfold resolveConflict
  cases hmay : r.mayEdit with
  | false => exact Prog.wp_held_raise h
  | true =>
    refine Prog.wp_held_select h ?_
    cases hfound : conflictById r.conflictId w.view with
    | none => exact Prog.wp_held_raise h
    | some c =>
      dsimp only
      cases haction : ["APPLY", "SKIP"].contains r.action with
      | false => exact Prog.wp_held_raise h
      | true =>
        have hcarried : r.carriedOut = true := by
          rw [ConflictRequest.carriedOut, hmay, haction]
          rfl
        have happly : KeepsRow clk I (applyConflict cfg r c) w := by
          unfold applyConflict
          split
          · rename_i hrun
            cases hvalid : validateRow cfg c.incoming with
            | none => exact Prog.wp_held_raise h
            | some errs =>
              cases errs with
              | cons err errs => exact keepsRow_ret h _
              | nil =>
                have happlies : r.applies cfg c = true := by
                  simp [ConflictRequest.applies, hrun.1, hrun.2, hvalid]
                exact (keepsRow_upsertVehicle hI (hallowed c hfound hcarried happlies) h).bind
                  fun _ _ h' => keepsRow_ret h' _
          · exact keepsRow_ret h _
        refine happly.bind fun applied w₁ h₁ => Prog.wp_getTime ?_
        refine Prog.wp_stored_flush h₁.ticked fun _ => ?_
        have hsent := hresolved w₁.view w₁.nextId c.id
        refine KeepsRow.bind (Prog.wp_stored_commit_last ?_ trivial) fun _ _ h₂ => keepsRow_ret h₂ _
        exact ⟨h₁.committed, hsent _ h₁.view⟩

end

end ParkingSystem
