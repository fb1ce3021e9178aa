import ParkingSystem.Gate.Sync

/-!
# The Audit Trail in Every Run

Any number of plate events and batches at once, one statement at a time, the rest of the
system changing everything but the access events at will.
-/

namespace ParkingSystem

open Plate PyValue Table Transaction

/-! ## Requests and answers -/

inductive GateRequest where
  | plateEvent (e : PlateEvent)
  | sync (events : List PlateDetected)

inductive GateAnswer where
  | response (resp : GateResponse)
  | results (results : List SyncResult)

/-- The handler of a request. -/
def GateRequest.handler (cfg : Config) : GateRequest → Handler GateAnswer
  | plateEvent e => (processPlateEvent cfg e).bind fun resp => .ret (.response resp)
  | sync events => (syncOffline cfg events).bind fun results => .ret (.results results)

/-- The requests arrive at a store. -/
def gateWorld {ι : Type} (cfg : Config) (requests : ι → GateRequest) (s : Store) :
    World ι Store Lock Label AppError GateAnswer := .start s fun i => (requests i).handler cfg

/-- Gate requests under a condition on their statements. -/
def gateRegime (allowed : Label → Store → Prop) : Regime Store Label where
  isFresh s n := n ∉ s.ids
  allowed := allowed
  env s s' := s'.events = s.events

/-- What holds of the statements of every event holds of those of a request. -/
theorem GateRequest.allWrites_of {P : Stmt → Prop} (cfg : Config) (h : ∀ e, CoversEvent P e)
    (q : GateRequest) : (q.handler cfg).AllWrites P := by
  have hall (ps : List PlateDetected) : (syncAll cfg ps).AllWrites P := by
    induction ps with
    | nil => trivial
    | cons p ps ih =>
      exact ((h p.offlineEvent).processPlateEvent cfg).attempt.bind fun _ =>
        ih.bind fun _ => trivial
  cases q with
  | plateEvent e => exact ((h e).processPlateEvent cfg).bind fun _ => trivial
  | sync events =>
    refine Prog.AllWrites.bind ?_ fun _ => trivial
    unfold syncOffline
    split
    · exact (readOnly_captureTimes events).writesOnly.allWrites.bind fun _ => hall _
    · trivial

/-! ## What an answer is worth -/

/-- The answer is backed by the store: an event that was answered, or reported as answered, is
stored under its key. -/
def Honoured (s : Store) : GateRequest → GateAnswer → Prop
  | .plateEvent e, .response resp => e.dryRun = false → StoredAs e resp.barrierAction s
  | .sync events, .results results => (events.map PlateDetected.key).Nodup →
    ∀ r ∈ results, r.outcome.isAnswered = true →
      ∃ p ∈ events, p.sourceEventId = r.sourceEventId ∧ p.key ∈ eventKeys s
  | _, _ => True

theorem Honoured.grows {s s' : Store} (hgrows : s.events ⊆ s'.events) {q : GateRequest}
    {a : GateAnswer} (h : Honoured s q a) : Honoured s' q a := by
  unfold Honoured at h ⊢
  split
  · exact fun hwet => (h hwet).grows hgrows
  · intro hnodup r hr hanswered
    obtain ⟨p, hp, hsource, hkey⟩ := h hnodup r hr hanswered
    exact ⟨p, hp, hsource, List.map_subset _ hgrows hkey⟩
  · trivial

/-- The postcondition of a request. -/
def gatePost (ρ : Regime Store Label) {ι : Type} (requests : ι → GateRequest) (i : ι) :
    Post Store Lock AppError GateAnswer :=
  fun res _ _ _ s => Guarded ρ → ∀ a, res = .ok a → Honoured s (requests i) a

theorem gateContract {ι : Type} (allowed : Label → Store → Prop) (requests : ι → GateRequest) :
    World.Contract (gateRegime allowed) AuditRely AuditGuarantee
      (gatePost (gateRegime allowed) requests) where
  refl := AuditRely.refl
  trans := AuditRely.trans
  env _ _ h H := .of_same h H
  guarantee _ _ _ _ hd hG :=
    -- a key that one transaction locked is not locked by another
    ⟨hG.grows, fun key hl => hG.free key fun hl' => hd.locks _ hl' hl, hG.unique⟩
  aborted _ _ _ _ hres := by cases hres
  closed _ _ _ _ _ _ _ hQ hR hguard a hres := (hQ hguard a hres).grows hR.grows

/-- **Step**: every request is safe for the audit trail, at whatever store it arrives. -/
theorem GateRequest.audits (cfg : Config) {ρ : Regime Store Label} {ι : Type}
    (requests : ι → GateRequest) (i : ι) (s : Store) :
    Audits ρ (gatePost ρ requests i) ((requests i).handler cfg) id false {} s := by
  unfold gatePost
  cases hq : requests i with
  | plateEvent e =>
    refine Prog.Safe.bind AuditRely.refl
      (audits_processPlateEvent cfg e (uncommitted_nil [] false s)) ?_ ?_
    · rintro resp _ _ _ s₁ hQ s₂ hR hguard a ⟨⟩ hwet
      exact (hQ.stored ⟨hguard, by simp⟩ resp rfl hwet).grows hR.grows
    · rintro exc _ _ _ _ _ _ _ ⟨⟩
  | sync events =>
    refine Prog.Safe.bind AuditRely.refl (audits_syncOffline cfg events s) ?_ ?_
    · rintro results _ _ _ s₁ hQ s₂ hR hguard a ⟨⟩ hnodup r hr hanswered
      obtain ⟨p, hp, hsource, hkey⟩ := hQ.stored ⟨hguard, hnodup⟩ results rfl r hr hanswered
      exact ⟨p, hp, hsource, hR.key_mem hkey⟩
    · rintro exc _ _ _ _ _ _ _ ⟨⟩

/-- **Run**: the connections stay safe, the stored events grow, and no key gets a second one. -/
theorem gate_run {ι : Type} [DecidableEq ι] (cfg : Config) (allowed : Label → Store → Prop)
    (requests : ι → GateRequest) {s : Store} {w : World ι Store Lock Label AppError GateAnswer}
    (hrun : World.Run (gateRegime allowed) (gateWorld cfg requests s) w) :
    World.Ok (gateRegime allowed) AuditRely AuditGuarantee
      (gatePost (gateRegime allowed) requests) w ∧ AuditRely {} s w.committed :=
  (World.Ok.init fun i => GateRequest.audits cfg requests i s).run
    (gateContract allowed requests) hrun

/-- In a guarded run every answer is backed. -/
theorem gate_honoured {ι : Type} [DecidableEq ι] (cfg : Config)
    (requests : ι → GateRequest) {s : Store} {w : World ι Store Lock Label AppError GateAnswer}
    (hrun : World.Run (gateRegime NoOpenSession) (gateWorld cfg requests s) w) {i : ι}
    {a : GateAnswer} (ha : (w.conns i).prog.result? = some a) :
    Honoured w.committed (requests i) a :=
  (gate_run cfg NoOpenSession requests hrun).1.returned (gateContract _ _) ha
    (fun _ _ h => h) a rfl

instance : ∀ (l : Label) (v : Store), Decidable (NoOpenSession l v)
  | .insertSession (some plate), v => inferInstanceAs (Decidable (openSessions plate v = []))
  | .insertSession none, _ | .insertRecognition _, _ | .insertEvent _, _ | .updateSession, _
  | .insertCharge, _ | .updateCharge _, _ | .insertPayment, _ | .insertAllocation, _
  | .insertAdjustment _, _ | .updateAdjustment _, _ | .updatePermit _, _ | .insertOccupancy, _
  | .updateOccupancy, _ | .lockSpace, _ | .updateSpace, _ | .insertAssignment, _
  | .updateAssignment, _ | .insertRule, _ | .updateRule _ _, _ | .insertTariff _, _
  | .updateTariff _ _, _ | .updateViolation, _
  | .updateAppeal, _ | .registry _, _ | .identity _, _ => inferInstanceAs (Decidable True)

instance (allowed : Label → Store → Prop) (s : Store) (n : ℕ) :
    Decidable ((gateRegime allowed).isFresh s n) := inferInstanceAs (Decidable (n ∉ s.ids))

instance (l : Label) (v : Store) : Decidable ((gateRegime NoOpenSession).allowed l v) :=
  inferInstanceAs (Decidable (NoOpenSession l v))

instance (l : Label) (v : Store) : Decidable ((gateRegime fun _ _ => True).allowed l v) :=
  inferInstanceAs (Decidable True)

/-- One gate, and one rule that admits every plate. -/
def guestStore : Store :=
  { gates := [{ id := "g1", code := "G1", name := "North" }]
    rules := [{ id := 1, name := "guests", conditions := [], status := "ACTIVE"
                actions := [[("action", .str "allow_with_warning")]] }] }

/-- The plate comes in, and comes in again. -/
def guestEvents : Fin 2 → GateRequest
  | 0 => .plateEvent { gateCode := "G1", plateRaw := "12ب34567", sourceEventId := "1" }
  | 1 => .plateEvent { gateCode := "G1", plateRaw := "12ب34567", sourceEventId := "2" }

/-- What a schedule of the two entries leads to. -/
def afterGuests (allowed : Label → Store → Prop)
    [∀ l v, Decidable ((gateRegime allowed).allowed l v)] (sched : List (Fin 2 × ℕ × ℤ)) :
    Option (World (Fin 2) Store Lock Label AppError GateAnswer) :=
  World.runSchedule (gateRegime allowed) sched 10 (gateWorld {} guestEvents guestStore)

/-- A connection was answered with an open barrier. -/
def isOpened {ι : Type} (w : World ι Store Lock Label AppError GateAnswer) (i : ι) : Bool :=
  match (w.conns i).prog.result? with
  | some (.response resp) => resp.barrierAction == .opened
  | _ => false

theorem isOpened_iff {ι : Type} {w : World ι Store Lock Label AppError GateAnswer} {i : ι} :
    isOpened w i = true ↔ ∃ resp, (w.conns i).prog.result? = some (.response resp) ∧
      resp.barrierAction = .opened := by
  unfold isOpened
  split
  · rename_i resp hret
    simp [hret]
  · rename_i hret
    simp only [Bool.false_eq_true, false_iff, not_exists, not_and]
    exact fun resp hresp => absurd hresp (hret resp)

end ParkingSystem
