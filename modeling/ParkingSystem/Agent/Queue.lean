import ParkingSystem.Agent.Decision
import ParkingSystem.Gate.Sync

/-!
# The Agent and Its Queue

The agent's own database and the code that works on it: an event the server did not answer is
decided offline and queued; the queue is uploaded in batches; a row leaves the queue once the
server reported its event without an error.
-/

namespace ParkingSystem

open PyValue Table Transaction

/-! ## The local database -/

/-- A row of `pending_events`. -/
structure PendingRow where
  id : ℕ
  idempotencyKey : String
  payload : PlateDetected
  createdAt : ℤ

/-- The tables of the agent; the log of recent events is only shown. -/
structure AgentDB where
  pending : List PendingRow := []
  nextId : ℕ := 1
  snapshot : Option Snapshot := none
  openEntries : List String := []

namespace AgentDB

/-- `add_pending`: INSERT OR IGNORE, the key is unique. -/
def addPending (key : String) (payload : PlateDetected) (now : ℤ) (db : AgentDB) : AgentDB :=
  if db.pending.any fun row => row.idempotencyKey == key then db
  else { db with
    pending := db.pending ++ [⟨db.nextId, key, payload, now⟩]
    nextId := db.nextId + 1 }

/-- `pending_events`: the oldest hundred. -/
def pendingEvents (db : AgentDB) : List PendingRow :=
  (orderBy PendingRow.createdAt db.pending).take 100

/-- `remove_pending`. -/
def removePending (id : ℕ) (db : AgentDB) : AgentDB :=
  { db with pending := db.pending.filter fun row => row.id != id }

/-- `save_snapshot`. -/
def saveSnapshot (snap : Snapshot) (db : AgentDB) : AgentDB := { db with snapshot := some snap }

/-- `log_event`, as far as it keeps the plates that are inside. -/
def logEvent (plate : String) (decision : Decision) (direction : String) (db : AgentDB) :
    AgentDB :=
  if decision == .allow || decision == .allowWithWarning || decision == .offlineAllow then
    if direction = "IN" then { db with openEntries := plate :: db.openEntries.filter (· != plate) }
    else if direction = "OUT" then { db with openEntries := db.openEntries.filter (· != plate) }
    else db
  else db

@[simp] theorem logEvent_pending (plate : String) (decision : Decision) (direction : String)
    (db : AgentDB) : (logEvent plate decision direction db).pending = db.pending := by
  unfold logEvent
  split_ifs <;> rfl

end AgentDB

/-! ## Handling an event -/

/-- A reading of a plate: the text, what the agent's own `normalize_plate` makes of it, and
when. -/
structure PlateReading where
  plateRaw : String
  normalized : Option String
  sourceEventId : String
  direction : String
  capturedAt : ℤ

/-- The payload of an event at a gate. -/
def PlateReading.payload (gateCode : String) (r : PlateReading) : PlateDetected :=
  { gateCode, direction := r.direction, plateRaw := r.plateRaw, sourceEventId := r.sourceEventId
    capturedAt := some r.capturedAt, confidence := some (195 / 2) }

/-- What the agent acts on and answers. -/
structure AgentAnswer where
  decision : Decision
  reason : Json
  barrier : BarrierAction
  online : Bool
  plateNormalized : Option String
  sourceEventId : String

/-- `decision_info.get("decision_reason") or ""`. -/
def reasonOr (reason : Json) : Json := if reason.truthy then reason else .str ""

/-- The offline decision of the agent on its own database. -/
def AgentDB.decide (r : PlateReading) (now : ℤ) (db : AgentDB) : OfflineDecision :=
  offlineDecide db.snapshot r.normalized r.direction
    (db.openEntries.contains (r.normalized.getD "")) now

/-- The payload that is queued: with the decision that was made on it. -/
def PlateReading.queued (gateCode : String) (r : PlateReading) (decision : Decision) :
    PlateDetected := { r.payload gateCode with clientDecision := some decision.text }

/-- `handle_plate_event`: the answer of the server where there is one, else the agent's own,
which is queued. -/
def handlePlateEvent (gateCode : String) (r : PlateReading) (now : ℤ)
    (online : Option GateResponse) (db : AgentDB) : AgentAnswer × AgentDB :=
  match online with
  | some resp =>
    (⟨resp.decision, reasonOr resp.decisionReason, resp.barrierAction, true, r.normalized,
        r.sourceEventId⟩,
      db.logEvent (r.normalized.getD r.plateRaw) resp.decision r.direction)
  | none =>
    let d := db.decide r now
    let db := db.addPending (gateCode ++ ":" ++ r.sourceEventId) (r.queued gateCode d.decision) now
    (⟨d.decision, .str d.reason, d.barrier, false, r.normalized, r.sourceEventId⟩,
      db.logEvent (r.normalized.getD r.plateRaw) d.decision r.direction)

/-! ## Uploading -/

/-- `processed.get(source_event_id)`: the last report of a source counts. -/
def processed (results : List SyncResult) (sourceEventId : String) : Option SyncResult :=
  results.reverse.find? fun r => r.sourceEventId == sourceEventId

/-- `info and "error" not in info`. -/
def confirmed (results : List SyncResult) (row : PendingRow) : Bool :=
  (processed results row.payload.sourceEventId).any fun r => r.outcome.isAnswered

theorem confirmed_iff {results : List SyncResult} {row : PendingRow} :
    confirmed results row = true → ∃ r ∈ results,
      r.sourceEventId = row.payload.sourceEventId ∧ r.outcome.isAnswered = true := by
  intro h
  obtain ⟨r, hr, hanswered⟩ := (Option.any_eq_true _ _).1 h
  have hmem := List.mem_of_find?_eq_some hr
  have hsource := List.find?_some hr
  exact ⟨r, List.mem_reverse.1 hmem, beq_iff_eq.1 hsource, hanswered⟩

/-! ## The queue -/

/-- The rows of a gate's queue: each is queued under the key the server will use for it, and
no two under the same. -/
structure QueueOk (gateCode : String) (rows : List PendingRow) : Prop where
  gate : ∀ row ∈ rows, row.payload.gateCode = gateCode
  key : ∀ row ∈ rows, row.idempotencyKey = row.payload.key
  unique : (rows.map PendingRow.idempotencyKey).Nodup

namespace QueueOk

variable {gateCode : String} {rows : List PendingRow}

theorem nil : QueueOk gateCode [] := by constructor <;> simp

theorem sublist {rows' : List PendingRow} (h : QueueOk gateCode rows) (hs : rows'.Sublist rows) :
    QueueOk gateCode rows' where
  gate row hrow := h.gate row (hs.subset hrow)
  key row hrow := h.key row (hs.subset hrow)
  unique := h.unique.sublist (hs.map _)

theorem perm {rows' : List PendingRow} (h : QueueOk gateCode rows) (hp : rows'.Perm rows) :
    QueueOk gateCode rows' where
  gate row hrow := h.gate row (hp.mem_iff.1 hrow)
  key row hrow := h.key row (hp.mem_iff.1 hrow)
  unique := (hp.map _).nodup_iff.2 h.unique

/-- The keys of a batch of rows. -/
theorem batch_nodup (h : QueueOk gateCode rows) :
    ((rows.map PendingRow.payload).map PlateDetected.key).Nodup := by
  have hkeys : (rows.map PendingRow.payload).map PlateDetected.key =
      rows.map PendingRow.idempotencyKey := by
    rw [List.map_map]
    exact List.map_congr_left fun row hrow => (h.key row hrow).symm
  exact hkeys ▸ h.unique

end QueueOk

/-- The queue of an agent. -/
abbrev AgentDB.Ok (gateCode : String) (db : AgentDB) : Prop := QueueOk gateCode db.pending

namespace AgentDB

variable {gateCode : String} {db : AgentDB}

theorem Ok.pendingEvents (h : db.Ok gateCode) : QueueOk gateCode db.pendingEvents :=
  (h.perm (perm_orderBy _ _)).sublist (List.take_sublist _ _)

theorem Ok.removePending (h : db.Ok gateCode) (id : ℕ) : (db.removePending id).Ok gateCode :=
  h.sublist List.filter_sublist

theorem Ok.addPending (h : db.Ok gateCode) (payload : PlateDetected)
    (hgate : payload.gateCode = gateCode) (now : ℤ) :
    (db.addPending payload.key payload now).Ok gateCode := by
  unfold AgentDB.addPending
  split
  · exact h
  · rename_i hnew
    simp only [List.any_eq_true, beq_iff_eq, not_exists, not_and] at hnew
    refine ⟨fun row hrow => ?_, fun row hrow => ?_, ?_⟩
    · rcases List.mem_append.1 hrow with hrow | hrow
      · exact h.gate row hrow
      · obtain rfl := List.mem_singleton.1 hrow
        exact hgate
    · rcases List.mem_append.1 hrow with hrow | hrow
      · exact h.key row hrow
      · obtain rfl := List.mem_singleton.1 hrow
        rfl
    · rw [List.map_append, List.nodup_append]
      refine ⟨h.unique, List.nodup_singleton _, fun a ha key hkey heq => ?_⟩
      obtain rfl := List.mem_singleton.1 hkey
      obtain ⟨row, hrow, rfl⟩ := List.mem_map.1 ha
      exact hnew row hrow heq

/-- **Handling an event** keeps the queue in order. -/
theorem Ok.handlePlateEvent (h : db.Ok gateCode) (r : PlateReading) (now : ℤ)
    (online : Option GateResponse) : (handlePlateEvent gateCode r now online db).2.Ok gateCode := by
  unfold ParkingSystem.handlePlateEvent AgentDB.Ok
  split
  · rw [logEvent_pending]
    exact h
  · rw [logEvent_pending]
    exact h.addPending (r.queued gateCode (db.decide r now).decision) rfl now

end AgentDB

end ParkingSystem
