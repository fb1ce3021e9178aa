import ParkingSystem.Gate.Audit

/-!
# Events from the Agents

The two endpoints a gate agent sends events to. `POST /events/plate-detected` processes one
event; `POST /sync` processes a batch in one session, oldest first, and reports each event on
its own: an exception is reported, and the session goes on as it is, without a rollback.
-/

namespace ParkingSystem

open Plate PyValue Table Transaction

/-! ## Requests -/

/-- `PlateDetectedRequest`. -/
structure PlateDetected where
  gateCode : String
  direction : String := "IN"
  plateRaw : String
  sourceEventId : String
  deviceId : Option String := none
  capturedAt : Option ℤ := none
  confidence : Option ℚ := none
  rawPayload : Option Json := none
  clientDecision : Option String := none
  driverRequest : Option String := none

/-- The lengths the schema allows. -/
def PlateDetected.valid (p : PlateDetected) : Bool :=
  decide (1 ≤ p.plateRaw.length ∧ p.plateRaw.length ≤ 64) &&
    decide (1 ≤ p.sourceEventId.length ∧ p.sourceEventId.length ≤ 64)

/-- The event of a request. -/
def PlateDetected.event (p : PlateDetected) : PlateEvent :=
  { gateCode := p.gateCode, direction := p.direction, plateRaw := p.plateRaw
    sourceEventId := p.sourceEventId, deviceId := p.deviceId, capturedAt := p.capturedAt
    confidence := p.confidence, rawPayload := p.rawPayload, clientDecision := p.clientDecision
    driverRequest := p.driverRequest }

/-- The event of a request that was decided offline. -/
def PlateDetected.offlineEvent (p : PlateDetected) : PlateEvent :=
  { p.event with offlineCreated := true }

/-- `f"{gate.code}:{source_event_id}"`. -/
def PlateDetected.key (p : PlateDetected) : String := p.gateCode ++ ":" ++ p.sourceEventId

@[simp] theorem PlateDetected.event_key (p : PlateDetected) : p.event.key = p.key := rfl

@[simp] theorem PlateDetected.offlineEvent_key (p : PlateDetected) : p.offlineEvent.key = p.key :=
  rfl

/-! ## Endpoints -/

/-- `plate_detected`. -/
def plateDetected (cfg : Config) (body : PlateDetected) : Handler GateResponse :=
  if body.valid then processPlateEvent cfg body.event else Prog.raise (.unprocessable "body")

/-- What a batch reports of one event. -/
inductive SyncOutcome where
  | answered (decision : Decision) (needsReview duplicate : Bool)
  | failed (exc : Exc AppError)
  deriving DecidableEq, Repr

structure SyncResult where
  sourceEventId : String
  outcome : SyncOutcome
  deriving DecidableEq, Repr

/-- `"error" not in info`. -/
def SyncOutcome.isAnswered : SyncOutcome → Bool
  | .answered _ _ _ => true
  | .failed _ => false

/-- The report on one event. -/
def SyncResult.of (p : PlateDetected) : Except (Exc AppError) GateResponse → SyncResult
  | .ok resp =>
    { sourceEventId := p.sourceEventId
      outcome := .answered resp.decision resp.needsReview resp.duplicate }
  | .error exc => { sourceEventId := p.sourceEventId, outcome := .failed exc }

/-- Process the events of a batch in order. -/
def syncAll (cfg : Config) : List PlateDetected → Handler (List SyncResult)
  | [] => return []
  | p :: ps => do
    let resp ← (processPlateEvent cfg p.offlineEvent).attempt
    let results ← syncAll cfg ps
    return SyncResult.of p resp :: results

/-- `captured_at or datetime.now()`, for every event. -/
def captureTimes : List PlateDetected → Handler (List (ℤ × PlateDetected))
  | [] => return []
  | p :: ps => do
    let now ← Prog.getTime
    let rest ← captureTimes ps
    return (p.capturedAt.getD now, p) :: rest

/-- `sync_offline`. -/
def syncOffline (cfg : Config) (events : List PlateDetected) : Handler (List SyncResult) :=
  if events.all PlateDetected.valid then do
    let timed ← captureTimes events
    syncAll cfg ((orderBy Prod.fst timed).map Prod.snd)
  else Prog.raise (.unprocessable "body")

/-! ## The audit trail of a batch -/

section

variable {ρ : Regime Store Label} {K : List String} {pend : Store → Store} {b : Bool}
  {H : Held Lock} {s : Store}

/-- What a batch ends with: every event it reports as answered is stored, where the run is
guarded and the events have keys of their own. -/
structure SyncPost (backed : Prop) (ps : List PlateDetected)
    (res : Except (Exc AppError) (List SyncResult)) (pend : Store → Store) (b : Bool)
    (H : Held Lock) (s : Store) : Prop where
  uncommitted : ∃ K, Uncommitted K pend b H s
  stored : backed → ∀ results, res = .ok results → ∀ r ∈ results, r.outcome.isAnswered = true →
    ∃ p ∈ ps, p.sourceEventId = r.sourceEventId ∧ p.key ∈ eventKeys s

/-- The keys of a batch are its own: no two events share one, and none is uncommitted. -/
def OwnKeys (K : List String) (ps : List PlateDetected) : Prop :=
  (ps.map PlateDetected.key).Nodup ∧ ∀ p ∈ ps, p.key ∉ K

theorem OwnKeys.tail {p : PlateDetected} {ps : List PlateDetected} (h : OwnKeys K (p :: ps)) :
    OwnKeys (p.key :: K) ps := by
  obtain ⟨hnodup, hK⟩ := h
  rw [List.map_cons, List.nodup_cons] at hnodup
  refine ⟨hnodup.2, fun q hq => ?_⟩
  rw [List.mem_cons, not_or]
  exact ⟨fun heq => hnodup.1 (heq ▸ List.mem_map_of_mem hq), hK q (List.mem_cons_of_mem p hq)⟩

/-- **The audit trail of a batch**: by induction on the batch, with the keys of the events
before as those that may be uncommitted. -/
theorem audits_syncAll (cfg : Config) (ps : List PlateDetected)
    (hu : Uncommitted K pend b H s) :
    Audits ρ (SyncPost (Guarded ρ ∧ OwnKeys K ps) ps) (syncAll cfg ps) pend b H s := by
  induction ps generalizing K pend b H s with
  | nil =>
    refine fun s' hR => ⟨⟨K, hu.stable hR⟩, fun _ results hres => ?_⟩
    cases hres
    simp
  | cons p ps ih =>
    refine Prog.Safe.bind AuditRely.refl
      (audits_processPlateEvent cfg p.offlineEvent hu).attempt ?_ ?_
    · rintro resp pend₁ b₁ H₁ s₁ ⟨_, ⟨⟩, hQ⟩
      -- the first answer stays backed while the rest of the batch is processed
      have hfirst : Guarded ρ ∧ OwnKeys K (p :: ps) →
          (SyncResult.of p resp).outcome.isAnswered = true → p.key ∈ eventKeys s₁ := by
        intro hbacked hanswered
        cases resp with
        | error exc => cases hanswered
        | ok resp =>
          obtain ⟨ev, hev, hkey, _⟩ :=
            hQ.stored ⟨hbacked.1, hbacked.2.2 p List.mem_cons_self⟩ resp rfl rfl
          exact List.mem_map.2 ⟨ev, hev, hkey⟩
      have hrest := (ih hQ.uncommitted).carry
        (F := fun s => Guarded ρ ∧ OwnKeys K (p :: ps) →
          (SyncResult.of p resp).outcome.isAnswered = true → p.key ∈ eventKeys s)
        (fun _ _ _ hR h hb ha => hR.key_mem (h hb ha))
        (fun _ _ _ hG h hb ha => List.map_subset _ hG.grows (h hb ha)) hfirst
      refine Prog.Safe.bind AuditRely.refl hrest ?_ ?_
      · rintro results pend₂ b₂ H₂ s₂ ⟨hpost, hkept⟩ s₃ hR₃
        obtain ⟨K₂, hK₂⟩ := hpost.uncommitted
        refine ⟨⟨K₂, hK₂.stable hR₃⟩, fun hbacked results' hres r hr hanswered => ?_⟩
        cases hres
        rcases List.mem_cons.1 hr with rfl | hr
        · refine ⟨p, List.mem_cons_self, ?_, hR₃.key_mem (hkept hbacked hanswered)⟩
          cases resp <;> rfl
        · obtain ⟨q, hq, hsource, hstored⟩ :=
            hpost.stored ⟨hbacked.1, hbacked.2.tail⟩ results rfl r hr hanswered
          exact ⟨q, List.mem_cons_of_mem p hq, hsource, hR₃.key_mem hstored⟩
      · rintro exc pend₂ b₂ H₂ s₂ ⟨hpost, _⟩
        exact ⟨hpost.uncommitted, fun _ results hres => by cases hres⟩
    · rintro exc pend₁ b₁ H₁ s₁ ⟨_, ⟨⟩, _⟩

theorem returns_captureTimes (ps : List PlateDetected) :
    (captureTimes ps).Returns fun timed => timed.map Prod.snd = ps := by
  induction ps with
  | nil => rfl
  | cons p ps ih =>
    refine Prog.returns_bind fun now => ih.bind fun rest hrest => ?_
    show p :: rest.map Prod.snd = p :: ps
    rw [hrest]

theorem readOnly_captureTimes (ps : List PlateDetected) : (captureTimes ps).ReadOnly := by
  induction ps with
  | nil => trivial
  | cons p ps ih => exact Prog.writesOnly_getTime.bind fun _ => ih.bind fun _ => trivial

/-- The order in which a batch is processed does not matter. -/
theorem audits_syncOffline (cfg : Config) (events : List PlateDetected) (s : Store) :
    Audits ρ (SyncPost (Guarded ρ ∧ (events.map PlateDetected.key).Nodup) events)
      (syncOffline cfg events) id false {} s := by
  have hfailed {exc : Exc AppError} {left : List AccessEvent} {pend : Store → Store} {b : Bool}
      {H : Held Lock} {s : Store} (h : Pending left pend b H s) :
      SyncPost (Guarded ρ ∧ (events.map PlateDetected.key).Nodup) events (.error exc) pend b H s :=
    ⟨⟨_, left, h, List.Subset.refl _⟩, fun _ results hres => by cases hres⟩
  have hstart : Pending [] id false {} s := fun _ => appends_nil s
  unfold syncOffline
  split
  · have htimes := (returns_captureTimes events).safe
      (audits_neutral (ρ := ρ) (readOnly_captureTimes events).writesOnly hstart)
    refine Prog.Safe.bind AuditRely.refl htimes ?_ fun exc _ _ _ _ hQ => hfailed hQ.1
    rintro timed pend₁ b₁ H₁ s₁ ⟨h₁, hsnd⟩
    have hperm : ((orderBy Prod.fst timed).map Prod.snd).Perm events :=
      (perm_orderBy _ _).map Prod.snd |>.trans (.of_eq (hsnd timed rfl))
    refine (audits_syncAll (K := []) cfg _ ⟨[], h₁, by simp⟩).mono fun res _ _ _ _ hQ => ?_
    refine ⟨hQ.uncommitted, fun hbacked results hres r hr hanswered => ?_⟩
    have hown : OwnKeys [] ((orderBy Prod.fst timed).map Prod.snd) :=
      ⟨(hperm.map _).nodup_iff.2 hbacked.2, by simp⟩
    obtain ⟨p, hp, hstored⟩ := hQ.stored ⟨hbacked.1, hown⟩ results hres r hr hanswered
    exact ⟨p, hperm.mem_iff.1 hp, hstored⟩
  · exact fun s' hR => hfailed (hstart.stable hR)

end

end ParkingSystem
