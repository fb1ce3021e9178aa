import ParkingSystem.Registry.Requests

/-!
# The Conflict Queue

What resolving a conflict is to do to the queue: one conflict fewer is PENDING, the row was applied
where the conflict says so, and a conflict that is settled stays as it is.

## What goes wrong

Nothing asks for the status of a conflict, so that it can be resolved again. A row that is applied
while it is still in dispute puts a new conflict into the queue, beside the one that is resolved.
-/

namespace ParkingSystem

open PyText Plate Table Transaction

/-! ## The law of the queue -/

/-- How many conflicts wait. -/
def pendingConflicts (s : Store) : ℕ := s.syncConflicts.countP fun c => c.status == "PENDING"

/-- On the way from `s` to `s'` the row of a conflict created its vehicle or updated it. -/
def AppliedRow (cfg : Config) (c : VehicleSyncConflict) (s : Store) (n : ℕ) (s' : Store) : Prop :=
  ∃ result s₁ n₁ u, result ≠ RowResult.skipped ∧ RowEffect cfg c.row s n result s₁ n₁ ∧
    s' = (updateSyncConflict c.id u).apply s₁

/-- What a request that was answered is to have done. -/
structure Settles (cfg : Config) (r : ConflictRequest) (a : ConflictResponse) (s : Store) (n : ℕ)
    (s' : Store) (c c' : VehicleSyncConflict) : Prop where
  found : conflictById r.conflictId s = some c
  waited : c.status = "PENDING"
  fewer : pendingConflicts s' + 1 = pendingConflicts s
  after : conflictById r.conflictId s' = some c'
  status : c'.status = a.status ∧ (a.status = "RESOLVED_APPLIED" ∨ a.status = "RESOLVED_SKIPPED")
  applied : c'.status = "RESOLVED_APPLIED" → AppliedRow cfg c s n s'

/-- What a request on a conflict is to do: it leaves everything as it is, or settles the conflict. -/
def ResolveLaw (cfg : Config) (r : ConflictRequest) (s : Store) (n : ℕ) (s' : Store) :
    Except (Exc AppError) ConflictResponse → Prop
  | .error _ => s' = s
  | .ok a => ∃ c c', Settles cfg r a s n s' c c'

/-- **The law**: what is settled stays, and resolving settles what waits. -/
structure QueueLaw (cfg : Config) (clk : ℕ → ℤ) (req : RegistryRequest) (w : Session Store) :
    Prop where
  stays : ∀ id, ∀ c ∈ conflictById id w.committed, c.status ≠ "PENDING" →
    conflictById id ((req.handler cfg).after clk w).committed = some c
  resolves : ∀ r, req = .resolveConflict r → ResolveLaw cfg r w.committed w.nextId
    ((req.handler cfg).after clk w).committed
    ((resolveConflict cfg r).exec clk (.fresh w.committed w.nextId w.tick)).1

/-- The condition: a request that goes through finds a conflict that waits, and a row that it
applies is not in dispute any more. -/
def RegistryRequest.Unsettled (cfg : Config) : RegistryRequest → Session Store → Prop
  | .resolveConflict r, w => r.carriedOut = true → ∀ c ∈ conflictById r.conflictId w.committed,
      c.status = "PENDING" ∧
        (r.applies cfg c = true → disputed cfg c.row.key c.incoming w.committed = false)
  | _, _ => True

/-! ## Rows -/

section

variable {cfg : Config} {row : SyncRow} {s s' : Store} {n n' : ℕ}

/-- Permits are no conflicts, unless the vehicle has one already. -/
theorem PermitEffect.syncConflicts {v : Vehicle} (h : PermitEffect row v s n s' n')
    (hfree : permitDisputed row.record v.id s = false) : s'.syncConflicts = s.syncConflicts := by
  cases h with
  | none => rfl
  | issued => rfl
  | kept named nonempty there => simp [permitDisputed, named, nonempty, there] at hfree

theorem writeRefreshed_tables (v v' : Vehicle) (refId : ℕ) (date : Option ℤ) (s : Store) :
    (writeRefreshed v v' refId date s).syncConflicts = s.syncConflicts ∧
      (writeRefreshed v v' refId date s).permits = s.permits := by
  unfold writeRefreshed
  split <;> exact ⟨rfl, rfl⟩

/-- A row that is not in dispute writes no conflict. -/
theorem RowEffect.syncConflicts {result : RowResult} (h : RowEffect cfg row s n result s' n')
    (hdrawn : Drawn s n) (hfree : disputed cfg row.key row.record s = false) :
    s'.syncConflicts = s.syncConflicts := by
  unfold disputed at hfree
  cases h with
  | known unkeyed read there => simp [unkeyed, read, there] at hfree
  | gone keyed lost => simp [keyed, lost] at hfree
  | mismatch keyed found differs => simp [keyed, found, differs] at hfree
  | created arrival permit =>
    refine permit.syncConflicts ?_
    -- the vehicle is new: no permit names it
    have hnone : permitsOfVehicle n s = [] := hdrawn.permitsOfVehicle_eq_nil
    rw [permitDisputed, arrival.id_eq]
    simp [permitsOfVehicle, insertExternalRef, insertVehicle] at hnone ⊢
    tauto
  | @updated ref v v' date _ _ keyed found agrees refreshed permit =>
    rw [keyed] at hfree
    simp only [found, agrees, bne_self_eq_false, Bool.false_or] at hfree
    obtain ⟨hconflicts, hpermits⟩ := writeRefreshed_tables v v' ref.id date s
    refine (permit.syncConflicts ?_).trans hconflicts
    rw [permitDisputed, permitsOfVehicle, hpermits, (refreshedVehicle_some refreshed).1]
    exact hfree

end

/-! ## Requests -/

variable {cfg : Config} {clk : ℕ → ℤ} {w : Session Store}

theorem conflictById_id {id : ℕ} {s : Store} {c : VehicleSyncConflict}
    (h : conflictById id s = some c) : c.id = id := by
  simpa using List.find?_some h

/-- The sheet adds conflicts and changes none. -/
theorem sheetInvariant_conflictById (id : ℕ) (c : VehicleSyncConflict) :
    SheetInvariant cfg (fun _ _ => True) fun s _ => conflictById id s = some c where
  drew _ _ h := h
  conflict s _ c' h _ _ := by
    show (s.syncConflicts ++ [c']).find? _ = some c
    rw [List.find?_append, show s.syncConflicts.find? _ = some c from h]
    rfl
  vehicle _ _ _ _ h _ _ := h
  key _ _ _ _ _ h _ _ := h
  refreshed _ _ _ _ _ h _ _ _ _ _ := h
  dated _ _ _ _ h := h
  permit _ _ _ _ _ _ _ _ h _ _ := h
  opened _ _ _ h _ := h
  closed _ _ _ h := h

/-- Only resolving changes a conflict. -/
theorem conflictById_kept (req : RegistryRequest) (hother : ∀ r, req ≠ .resolveConflict r)
    {id : ℕ} {c : VehicleSyncConflict} (h : conflictById id w.committed = some c) :
    conflictById id ((req.handler cfg).after clk w).committed = some c := by
  have hstored : Prog.Stored (fun s _ => conflictById id s = some c)
      (.fresh w.committed w.nextId w.tick) := Prog.stored_fresh h
  cases req with
  | createVehicle body =>
    have hmade : KeepsRow clk (fun s _ => conflictById id s = some c) (createVehicle cfg body)
        (.fresh w.committed w.nextId w.tick) :=
      keepsRow_createVehicle (fun _ _ h => h) body (fun _ _ _ _ => h) hstored
    exact hmade.discard.after_stored
  | modifyVehicle vehicleId body =>
    exact (keepsRow_modifyVehicle vehicleId body (fun _ _ => h) hstored).discard.after_stored
  | createPermit body user =>
    exact (keepsRow_createPermit (fun _ _ h => h) body user (fun _ _ _ => h)
      hstored).discard.after_stored
  | syncRun sheet trigger dryRun =>
    exact (keepsRow_syncRun (sheetInvariant_conflictById id c) sheet trigger dryRun
      (fun _ _ _ _ _ => trivial) hstored).discard.after_stored
  | resolveConflict r => exact absurd rfl (hother r)

/-- A conflict that waits is resolved: one fewer waits, and the others are as they were. -/
theorem resolved_conflicts {s s₁ : Store} {n : ℕ} (hok : RegistryOk s n)
    (hsame : s₁.syncConflicts = s.syncConflicts) {c : VehicleSyncConflict}
    (hfound : conflictById c.id s = some c) (hwaits : c.status = "PENDING") (u : Resolution)
    (hstatus : u.status ≠ "PENDING") :
    pendingConflicts ((updateSyncConflict c.id u).apply s₁) + 1 = pendingConflicts s ∧
      conflictById c.id ((updateSyncConflict c.id u).apply s₁) = some (u.on c) ∧
      ∀ id, ∀ c' ∈ conflictById id s, c'.status ≠ "PENDING" →
        conflictById id ((updateSyncConflict c.id u).apply s₁) = some c' := by
  have hid (c : VehicleSyncConflict) : (u.on c).id = c.id := rfl
  refine ⟨?_, ?_, fun id c' hc' hsettled => ?_⟩
  · show (updateWhere (fun b => b.id == c.id) u.on s₁.syncConflicts).countP _ + 1 = _
    rw [hsame]
    exact countP_updateWhere_key hok.conflicts.distinct (List.mem_of_find?_eq_some hfound)
      (by simp [hwaits]) (by simpa [Resolution.on] using hstatus)
  · show (updateWhere (fun b => b.id == c.id) u.on s₁.syncConflicts).find? _ = _
    rw [hsame, find?_updateWhere_self hid, show s.syncConflicts.find? _ = some c from hfound]
    rfl
  · -- the conflict that is settled is another one
    have hne : c.id ≠ id := by
      rintro rfl
      rw [hfound, Option.mem_some_iff] at hc'
      exact hsettled (hc' ▸ hwaits)
    show (updateWhere (fun b => b.id == c.id) u.on s₁.syncConflicts).find? _ = _
    rw [hsame, find?_updateWhere_of_ne hid hne]
    exact hc'

theorem resolveConflict_effect (cfg : Config) (clk : ℕ → ℤ) (r : ConflictRequest)
    (w : Session Store) : ConflictEffect cfg r w.committed w.nextId
      ((resolveConflict cfg r).exec clk (.fresh w.committed w.nextId w.tick)).1
      ((RegistryRequest.handler cfg (.resolveConflict r)).after clk w).committed := by
  rw [RegistryRequest.handler, Prog.after_bind_ret]
  exact (resolveConflict_wp (w := .fresh w.committed w.nextId w.tick) rfl).ends

/-- What a request leaves of the queue under its condition. -/
theorem ConflictEffect.law {r : ConflictRequest} {s s' : Store} {n : ℕ}
    {out : Except (Exc AppError) ConflictResponse} (h : ConflictEffect cfg r s n out s')
    (hok : RegistryOk s n) (hreq : r.carriedOut = true → ∀ c ∈ conflictById r.conflictId s,
      c.status = "PENDING" ∧ (r.applies cfg c = true → disputed cfg c.row.key c.incoming s = false)) :
    (∀ id, ∀ c ∈ conflictById id s, c.status ≠ "PENDING" → conflictById id s' = some c) ∧
      ResolveLaw cfg r s n s' out := by
  cases h with
  | refused => exact ⟨fun _ _ hc _ => hc, rfl⟩
  | @resolved c applied s₁ u carried found rowLeft status =>
    obtain ⟨hwaits, hfree⟩ := hreq carried c found
    have hid := conflictById_id found
    have hsame : s₁.syncConflicts = s.syncConflicts := by
      cases rowLeft with
      | left => rfl
      | run applies effect => exact effect.syncConflicts hok.drawn (hfree applies)
    have hstatus : u.status ≠ "PENDING" := by
      rw [status]
      cases applied <;> decide
    obtain ⟨hfewer, hafter, hstays⟩ :=
      resolved_conflicts hok hsame (hid.symm ▸ found) hwaits u hstatus
    refine ⟨hstays, c, u.on c, found, hwaits, hfewer, hid ▸ hafter, ⟨status, ?_⟩, fun happlied => ?_⟩
    · cases applied
      · exact Or.inr rfl
      · exact Or.inl rfl
    · have happlied : u.status = "RESOLVED_APPLIED" := happlied
      rw [status] at happlied
      cases rowLeft with
      | left => exact absurd happlied (by decide)
      | @run result s₁ n₁ applies effect =>
        refine ⟨result, s₁, n₁, u, ?_, effect, rfl⟩
        rintro rfl
        exact absurd happlied (by decide)

/-- **Step**: a request under its condition keeps the law. -/
theorem queueLaw_of_unsettled (req : RegistryRequest) (hok : RegistryOk w.committed w.nextId)
    (hreq : req.Unsettled cfg w) : QueueLaw cfg clk req w := by
  by_cases hresolve : ∃ r, req = .resolveConflict r
  swap
  · have hother : ∀ r, req ≠ .resolveConflict r := fun r h => hresolve ⟨r, h⟩
    exact ⟨fun id c hc _ => conflictById_kept req hother hc, fun r h => absurd h (hother r)⟩
  obtain ⟨r, rfl⟩ := hresolve
  obtain ⟨hstays, hlaw⟩ := (resolveConflict_effect cfg clk r w).law hok hreq
  refine ⟨hstays, fun r' hr' => ?_⟩
  cases hr'
  exact hlaw

/-- **The conflict queue**: along every sequence of requests on the registry whose resolutions find
a conflict that waits, and apply no row that is still in dispute, each resolution takes one conflict
out of the queue, and what is settled stays. -/
theorem conflictQueue_run (cfg : Config) (clk : ℕ → ℤ) (reqs : List RegistryRequest)
    (w : Session Store) (hstart : RegistryOk w.committed w.nextId)
    (hreqs : Prog.EachMeets clk (RegistryRequest.handler cfg) (RegistryRequest.Unsettled cfg) reqs
      w) :
    Prog.EachMeets clk (RegistryRequest.handler cfg) (QueueLaw cfg clk) reqs w :=
  hreqs.imp_of_invariant (I := fun w => RegistryOk w.committed w.nextId)
    (fun req _ hok hreq => queueLaw_of_unsettled req hok hreq)
    (fun req w hok _ => req.registryOk cfg clk w hok) hstart

/-! ### A row that is still in dispute -/

/-- The conflict of a row whose plate a vehicle has under no key. -/
def disputedPlate : VehicleSyncConflict :=
  { id := 2, runId := none, rowNumber := some 2, externalVehicleId := some "E1"
    sourceSystem := some "OPS", conflictType := "PLATE_MISMATCH", message := ""
    incoming := [("external_vehicle_id", .str "E1"), ("plate_raw", .str "12ب345-67")] }

/-- The database of the conflict. -/
def disputedQueue : Session Store :=
  .fresh { knownPlate with syncConflicts := [disputedPlate] } 3 0

/-- The conflict is resolved with an action. -/
def resolveDisputed (action : String) : ConflictRequest :=
  { conflictId := 2, user := 9, mayEdit := true, body := { action } }

theorem disputedQueue_ok : RegistryOk disputedQueue.committed disputedQueue.nextId where
  drawn := knownPlate_drawn.mono (Nat.le_succ 2) |>.congr rfl rfl
  vehicles := ⟨by decide, by decide⟩
  keys := drawnOnce_nil 3
  conflicts := ⟨by decide, by decide⟩

theorem conflictQueue_run_skipped :
    Prog.EachMeets (fun _ => 0) (RegistryRequest.handler {}) (QueueLaw {} fun _ => 0)
      [.resolveConflict (resolveDisputed "SKIP")] disputedQueue := by
  refine conflictQueue_run {} (fun _ => 0) [.resolveConflict (resolveDisputed "SKIP")] disputedQueue
    disputedQueue_ok ⟨fun _ c hc => ?_, trivial⟩
  cases hc
  exact ⟨rfl, fun happlies => absurd happlies (by decide)⟩

/-- **Applying the row leaves as many conflicts waiting**: its plate is in dispute as before, and
the row is put aside once more. -/
theorem disputedQueue_grows : ¬ ∀ (cfg : Config) (clk : ℕ → ℤ) (reqs : List RegistryRequest)
    (w : Session Store), RegistryOk w.committed w.nextId →
    Prog.EachMeets clk (RegistryRequest.handler cfg) (QueueLaw cfg clk) reqs w := by
  intro hall
  have hlaw := (hall {} (fun _ => 0) [.resolveConflict (resolveDisputed "APPLY")] disputedQueue
    disputedQueue_ok).1.resolves _ rfl
  obtain ⟨c, c', hsettles⟩ := hlaw
  have hfewer := hsettles.fewer
  have hone : pendingConflicts ((RegistryRequest.handler {}
    (.resolveConflict (resolveDisputed "APPLY"))).after (fun _ => 0) disputedQueue).committed = 1 := by
    decide +kernel
  rw [hone] at hfewer
  exact absurd hfewer (by decide)

end ParkingSystem
