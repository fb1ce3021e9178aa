import ParkingSystem.Gate.AuditRun
import ParkingSystem.Identity.Administrators
import ParkingSystem.Library.PyText

/-!
# Operators at the Gate

What is done by hand: an operator lets a plate pass, or opens the barrier. Both ask for a
permission first, and the check, the decision and the INSERT are statements of their own, between
which the rights of the operator may change.

## What the check is worth

An event done by hand names its operator, and the operator was active, and had the permission, at
some moment of the run before. Not necessarily at the moment of the INSERT.
-/

namespace ParkingSystem

open Plate PyText Table Transaction

/-! ## Rights -/

/-- `user_has_permission`. -/
def hasPermission (userId : ℕ) (permCode : String) : Handler Bool := do
  let admin ← .select (userIsAdmin userId)
  if admin then return true else .select (userHasPermission userId permCode)

/-- `_enforce_user_permission`; `enforced` is `ENFORCE_GATE_PERMISSIONS`. -/
def enforceUserPermission (enforced : Bool) (userId : ℕ) (permCode : String) : Handler Unit :=
  if !enforced then return ()
  else do
    let admin ← .select (userIsAdmin userId)
    if admin then return ()
    else do
      let has ← hasPermission userId permCode
      if has then return () else Prog.raise (.forbidden "دسترسی مجاز نیست")

/-- `get_current_user`, once the token was checked. -/
def activeUser (currentUser : ℕ) : Handler User := do
  let found ← .select (userById currentUser)
  match found with
  | none => Prog.raise (.unauthorized "کاربر یافت نشد یا غیرفعال است")
  | some u =>
    if !u.isActive then Prog.raise (.unauthorized "کاربر یافت نشد یا غیرفعال است")
    else return u

/-! ## What is done by hand -/

structure ManualAccess where
  gateCode : String
  plateRaw : String
  eventType : String := "MANUAL_ENTRY"
  reason : Option String := none

/-- The event of a passage by hand, at a millisecond. -/
def ManualAccess.event (body : ManualAccess) (operator : ℕ) (millis : ℤ) : PlateEvent :=
  { gateCode := body.gateCode
    direction := if isInfix "ENTRY".toList body.eventType.toList then "IN" else "OUT"
    plateRaw := body.plateRaw, sourceEventId := "manual-" ++ toString millis
    isManual := true, operatorId := some operator }

/-- `access_manual`. -/
def accessManual (cfg : Config) (enforced : Bool) (body : ManualAccess) (currentUser : ℕ)
    (millis : ℤ) : Handler GateResponse := do
  let user ← activeUser currentUser
  enforceUserPermission enforced user.id "gate.manual_access"
  processPlateEvent cfg (body.event user.id millis)

structure BarrierOpen where
  gateCode : String
  accessEventId : Option String := none
  reason : String := "OPERATOR_MANUAL_OPEN"

/-- The row of a barrier opened by hand. -/
def BarrierOpen.row (body : BarrierOpen) (gate : Gate) (operator : ℕ) (now millis : ℤ) (id : ℕ) :
    AccessEvent :=
  { id, plateRecognitionEventId := none, gateId := gate.id, vehicleId := none
    plateNormalized := none, eventType := .barrierOpen, eventTime := now, permitId := none
    decision := .allow, decisionReason := .str body.reason, operatorId := some operator
    isManual := true, offlineCreated := false
    idempotencyKey := "barrier-" ++ gate.id ++ "-" ++ toString millis, syncedAt := none }

/-- `barrier_open`. -/
def barrierOpen (enforced : Bool) (body : BarrierOpen) (currentUser : ℕ) (millis : ℤ) :
    Handler ℕ := do
  let user ← activeUser currentUser
  enforceUserPermission enforced user.id "gate.barrier_open"
  let gate ← .select (gateByCode body.gateCode)
  match gate with
  | none => Prog.raise .notFound
  | some gate => do
    let now ← Prog.getTime
    let id ← Prog.newId
    Prog.flush (insertEvent (body.row gate user.id now millis id))
    Prog.commitTx
    return id

/-- A request to the gates. -/
inductive GateOperation where
  | detected (body : PlateDetected)
  | sync (events : List PlateDetected)
  | manual (body : ManualAccess) (user : ℕ) (millis : ℤ)
  | barrier (body : BarrierOpen) (user : ℕ) (millis : ℤ)

/-- The handler of a request; the answer does not matter here. -/
def GateOperation.handler (cfg : Config) (enforced : Bool) : GateOperation → Handler Unit
  | detected body => (plateDetected cfg body).bind fun _ => .ret ()
  | sync events => (syncOffline cfg events).bind fun _ => .ret ()
  | manual body user millis => (accessManual cfg enforced body user millis).bind fun _ => .ret ()
  | barrier body user millis => (barrierOpen enforced body user millis).bind fun _ => .ret ()

/-! ## Who may -/

/-- The user is an administrator or has the permission. -/
def MayDo (user : ℕ) (permCode : String) (s : Store) : Prop :=
  userIsAdmin user s = true ∨ userHasPermission user permCode s = true

/-- The permission that an event done by hand asks for. -/
def AccessEvent.permCode (ev : AccessEvent) : String :=
  if ev.eventType = .barrierOpen then "gate.barrier_open" else "gate.manual_access"

/-- Whoever is active or may do something is known to be, and every event done by hand that is not
of `left` names an operator of whom it is known; the permission counts where it is enforced. -/
structure Vouched (enforced : Bool) (Active : ℕ → Prop) (May : ℕ → String → Prop)
    (left : List AccessEvent) (s : Store) : Prop where
  active : ∀ v, ActiveUser v s → Active v
  may : ∀ v permCode, MayDo v permCode s → May v permCode
  events : ∀ ev ∈ s.events, ev ∈ left ∨ (ev.isManual = true →
    ∃ v, ev.operatorId = some v ∧ Active v ∧ (enforced = true → May v ev.permCode))

section

variable {enforced : Bool} {Active : ℕ → Prop} {May : ℕ → String → Prop}
  {left : List AccessEvent} {s s' : Store}

/-- An update of other tables. -/
theorem Vouched.congr (h : Vouched enforced Active May left s) (husers : s'.users = s.users)
    (hroles : s'.roles = s.roles) (hlinks : s'.userRoles = s.userRoles)
    (hperms : s'.permissions = s.permissions) (hgrants : s'.rolePermissions = s.rolePermissions)
    (hevents : s'.events = s.events) : Vouched enforced Active May left s' where
  active v hv := by
    rw [ActiveUser, husers] at hv
    exact h.active v hv
  may v permCode hv := by
    rw [MayDo, userIsAdmin, userHasPermission, hroles, hlinks, hperms, hgrants] at hv
    exact h.may v permCode hv
  events ev hev := h.events ev (hevents ▸ hev)

/-- The INSERT of an event whose operator, if it is done by hand, is known. -/
theorem Vouched.insert (h : Vouched enforced Active May left s) {ev : AccessEvent}
    (hev : ev.isManual = true →
      ∃ v, ev.operatorId = some v ∧ Active v ∧ (enforced = true → May v ev.permCode)) :
    Vouched enforced Active May left ((insertEvent ev).apply s) where
  active := h.active
  may := h.may
  events ev' hev' := by
    rcases List.mem_append.1 hev' with hold | hnew
    · exact h.events ev' hold
    · rw [List.mem_singleton.1 hnew]
      exact .inr hev

/-- A statement that keeps the operators known. -/
abbrev KeepsVouched (enforced : Bool) (Active : ℕ → Prop) (May : ℕ → String → Prop)
    (left : List AccessEvent) (st : Stmt) : Prop :=
  ∀ s, Vouched enforced Active May left s → Vouched enforced Active May left (st.apply s)

theorem permCode_eventRow (e : PlateEvent) (r : Reading) (v : Verdict) (id : ℕ) :
    (eventRow e r v id).permCode = "gate.manual_access" := by
  refine if_neg fun hopened => ?_
  -- no passage has the type of a barrier opened by hand
  have htype : eventTypeFor e.direction e.isManual v.decision = .barrierOpen := hopened
  unfold eventTypeFor at htype
  split at htype <;> split at htype <;> try split at htype
  all_goals cases htype

/-- A plate event whose operator, if it is done by hand, is known. -/
theorem coversEvent_vouched {e : PlateEvent} (he : e.isManual = true → ∃ v,
    e.operatorId = some v ∧ Active v ∧ (enforced = true → May v "gate.manual_access")) :
    CoversEvent (KeepsVouched enforced Active May left) e where
  reading h := by
    cases h
    exact fun _ h => h.congr rfl rfl rfl rfl rfl rfl
  decision h := by cases h <;> exact fun _ h => h.congr rfl rfl rfl rfl rfl rfl
  event r v id s h := by
    refine h.insert fun hmanual => ?_
    obtain ⟨operator, hoperator, hknown⟩ := he hmanual
    rw [permCode_eventRow]
    exact ⟨operator, hoperator, hknown⟩
  entry h := by
    cases h with
    | space h => cases h <;> exact fun _ h => h.congr rfl rfl rfl rfl rfl rfl
    | _ => exact fun _ h => h.congr rfl rfl rfl rfl rfl rfl
  exit h := by
    cases h with
    | space h => cases h <;> exact fun _ h => h.congr rfl rfl rfl rfl rfl rfl
    | _ => exact fun _ h => h.congr rfl rfl rfl rfl rfl rfl

/-! ## What requests keep -/

/-- Requests and the rest of the system move the store along this. -/
def vouchR (enforced : Bool) (Active : ℕ → Prop) (May : ℕ → String → Prop)
    (left : List AccessEvent) : Interference Store Lock :=
  fun _ s s' => Vouched enforced Active May left s → Vouched enforced Active May left s'

variable {ρ : Regime Store Label} {α : Type} {H : Held Lock}

/-- A request all of whose statements keep the operators known. -/
theorem safe_of_vouched {p : Handler α} (h : p.AllWrites (KeepsVouched enforced Active May left)) :
    p.Safe ρ (vouchR enforced Active May left) (vouchR enforced Active May left) anyEnd id false
      H s :=
  h.safe (E := fun pend => ∀ s, Vouched enforced Active May left s →
      Vouched enforced Active May left (pend s)) (fun _ h => h)
    (fun _ hst _ hpend s hs => hst _ (hpend s hs)) (fun _ hpend _ s => hpend s) fun _ h => h

/-- The check of the permission: what follows it knows the operator. -/
theorem safe_enforced {user : ℕ} {permCode : String} {k : Unit → Handler α}
    (hs : Vouched enforced Active May left s)
    (hk : ∀ s', Vouched enforced Active May left s' → (enforced = true → May user permCode) →
      (k ()).Safe ρ (vouchR enforced Active May left) (vouchR enforced Active May left) anyEnd id
        false H s') :
    ((enforceUserPermission enforced user permCode).bind k).Safe ρ
      (vouchR enforced Active May left) (vouchR enforced Active May left) anyEnd id false H s := by
  have hlive {P : Prop} : false = true → P := fun h => absurd h Bool.false_ne_true
  have hraise (s' : Store) : ((Prog.raise (.forbidden "دسترسی مجاز نیست") : Handler Unit).bind k).Safe
      ρ (vouchR enforced Active May left) (vouchR enforced Active May left) anyEnd id false H s' :=
    Prog.safe_throw fun _ _ => trivial
  unfold enforceUserPermission
  split
  case isTrue hoff => exact hk s hs fun hon => by simp [hon] at hoff
  case isFalse =>
    rw [Prog.bind_eq, Prog.bind_assoc]
    refine Prog.safe_select hlive fun _ s₁ hR₁ => ?_
    have hs₁ := hR₁ hs
    split
    case isTrue hadmin => exact hk s₁ hs₁ fun _ => hs₁.may _ _ (.inl hadmin)
    case isFalse =>
      -- `user_has_permission` looks for the role ADMIN once more
      rw [hasPermission, Prog.bind_eq, Prog.bind_eq, Prog.bind_assoc, Prog.bind_assoc]
      refine Prog.safe_select hlive fun _ s₂ hR₂ => ?_
      have hs₂ := hR₂ hs₁
      split
      case isTrue hadmin => exact hk s₂ hs₂ fun _ => hs₂.may _ _ (.inl hadmin)
      case isFalse =>
        refine Prog.safe_select hlive fun _ s₃ hR₃ => ?_
        have hs₃ := hR₃ hs₂
        split
        case isTrue hgrant => exact hk s₃ hs₃ fun _ => hs₃.may _ _ (.inr hgrant)
        case isFalse => exact hraise s₃

/-- Both checks. -/
theorem safe_operator {currentUser : ℕ} {permCode : String} {k : User → Handler α}
    (hs : Vouched enforced Active May left s)
    (hk : ∀ u s', Active u.id → (enforced = true → May u.id permCode) →
      (k u).Safe ρ (vouchR enforced Active May left) (vouchR enforced Active May left) anyEnd id
        false H s') :
    ((activeUser currentUser).bind fun u =>
      (enforceUserPermission enforced u.id permCode).bind fun _ => k u).Safe ρ
      (vouchR enforced Active May left) (vouchR enforced Active May left) anyEnd id false H s := by
  rw [activeUser, Prog.bind_eq, Prog.bind_assoc]
  refine Prog.safe_select (fun hb => absurd hb Bool.false_ne_true) fun _ s₁ hR₁ => ?_
  have hs₁ := hR₁ hs
  cases hfound : userById currentUser s₁ with
  | none =>
    simp only [id, hfound]
    exact Prog.safe_throw fun _ _ => trivial
  | some u =>
    simp only [id, hfound]
    split
    case isTrue => exact Prog.safe_throw fun _ _ => trivial
    case isFalse hactive =>
      have huser : ActiveUser u.id s₁ :=
        ⟨u, List.mem_of_find?_eq_some hfound, rfl, by simpa using hactive⟩
      exact safe_enforced hs₁ fun s' _ hmay => hk u s' (hs₁.active _ huser) hmay

theorem GateOperation.safe (cfg : Config) (q : GateOperation)
    (hs : Vouched enforced Active May left s) :
    (q.handler cfg enforced).Safe ρ (vouchR enforced Active May left)
      (vouchR enforced Active May left) anyEnd id false H s := by
  have hcamera (body : PlateDetected) (h : body.event.isManual = true) : False :=
    absurd h Bool.false_ne_true
  cases q with
  | detected body =>
    refine safe_of_vouched (Prog.AllWrites.bind ?_ fun _ => trivial)
    unfold plateDetected
    split
    · exact (coversEvent_vouched fun h => (hcamera body h).elim).processPlateEvent cfg
    · trivial
  | sync events =>
    have hall (ps : List PlateDetected) :
        (syncAll cfg ps).AllWrites (KeepsVouched enforced Active May left) := by
      induction ps with
      | nil => trivial
      | cons p ps ih =>
        have hone : CoversEvent (KeepsVouched enforced Active May left) p.offlineEvent :=
          coversEvent_vouched fun h => (hcamera p h).elim
        exact (hone.processPlateEvent cfg).attempt.bind fun _ => ih.bind fun _ => trivial
    refine safe_of_vouched (Prog.AllWrites.bind ?_ fun _ => trivial)
    unfold syncOffline
    split
    · exact (readOnly_captureTimes events).writesOnly.allWrites.bind fun _ => hall _
    · trivial
  | manual body user millis =>
    rw [GateOperation.handler, accessManual, Prog.bind_eq, Prog.bind_assoc]
    simp only [Prog.bind_eq, Prog.bind_assoc]
    refine safe_operator hs fun u s' hactive hmay => safe_of_vouched ?_
    have hcovers : CoversEvent (KeepsVouched enforced Active May left) (body.event u.id millis) :=
      coversEvent_vouched fun _ => ⟨u.id, rfl, hactive, hmay⟩
    exact (hcovers.processPlateEvent cfg).bind fun _ => trivial
  | barrier body user millis =>
    rw [GateOperation.handler, barrierOpen, Prog.bind_eq, Prog.bind_assoc]
    simp only [Prog.bind_eq, Prog.bind_assoc]
    refine safe_operator hs fun u s' hactive hmay => safe_of_vouched ?_
    refine (Prog.writesOnly_select _).allWrites.bind fun gate => ?_
    cases gate with
    | none => trivial
    | some gate =>
      refine Prog.AllWrites.bind ?_ fun _ => trivial
      refine Prog.writesOnly_getTime.allWrites.bind fun now => ?_
      refine Prog.writesOnly_newId.allWrites.bind fun id => ?_
      have hinsert : KeepsVouched enforced Active May left
          (insertEvent (body.row gate u.id now millis id)) :=
        fun _ h => h.insert fun _ => ⟨u.id, rfl, hactive, hmay⟩
      exact (Prog.writesOnly_flush hinsert).allWrites.bind fun _ =>
        Prog.allWrites_commitTx.bind fun _ => trivial

end

/-! ## Every run -/

/-- The requests arrive at a store. -/
def operationWorld {ι : Type} (cfg : Config) (enforced : Bool) (requests : ι → GateOperation)
    (s : Store) : World ι Store Lock Label AppError Unit :=
  .start s fun i => (requests i).handler cfg enforced

/-- Gate requests; in between everybody else may change everything, rights included, but adds no
event done by hand. -/
def operationRegime : Regime Store Label where
  isFresh s n := n ∉ s.ids
  allowed _ _ := True
  env s s' := ∀ ev ∈ s'.events, ev ∈ s.events ∨ ev.isManual = false

/-- The same requests, the rest of the system keeping the operators known. -/
def vouchRegime (enforced : Bool) (Active : ℕ → Prop) (May : ℕ → String → Prop)
    (left : List AccessEvent) : Regime Store Label :=
  { operationRegime with
    env s s' := Vouched enforced Active May left s → Vouched enforced Active May left s' }

section

variable {ι : Type} [DecidableEq ι] {cfg : Config} {enforced : Bool}
  {requests : ι → GateOperation} {s : Store} {w : World ι Store Lock Label AppError Unit}
  {Active : ℕ → Prop} {May : ℕ → String → Prop}

omit [DecidableEq ι] in
theorem vouchContract (enforced : Bool) (Active : ℕ → Prop) (May : ℕ → String → Prop)
    (left : List AccessEvent) : World.Contract (vouchRegime enforced Active May left)
      (vouchR enforced Active May left) (vouchR enforced Active May left)
      (fun _ : ι => (anyEnd : Post Store Lock AppError Unit)) where
  refl _ _ h := h
  trans _ _ _ _ h h' hs := h' (h hs)
  env _ _ h _ := h
  guarantee _ _ _ _ _ h := h
  aborted _ _ := trivial
  closed _ _ _ _ _ _ _ _ _ := trivial

/-- What was known at some moment of a run is known: then the rest of the system keeps the
operators known, whatever it does to their rights. -/
theorem operation_run (hrun : World.Run operationRegime (operationWorld cfg enforced requests s) w)
    (hactive : ∀ w₁, World.Run operationRegime (operationWorld cfg enforced requests s) w₁ →
      World.Run operationRegime w₁ w → ∀ v, ActiveUser v w₁.committed → Active v)
    (hmay : ∀ w₁, World.Run operationRegime (operationWorld cfg enforced requests s) w₁ →
      World.Run operationRegime w₁ w → ∀ v permCode, MayDo v permCode w₁.committed →
        May v permCode) :
    World.Run (vouchRegime enforced Active May s.events)
      (operationWorld cfg enforced requests s) w := by
  induction hrun with
  | refl => exact .refl
  | @tail w₁ w₂ hpre hstep ih =>
    have ih := ih (fun w₀ h h' => hactive w₀ h (h'.tail hstep))
      fun w₀ h h' => hmay w₀ h (h'.tail hstep)
    refine ih.tail (hstep.mono_env fun henv hs => ?_)
    have hhere := hpre.tail hstep
    refine ⟨hactive _ hhere .refl, hmay _ hhere .refl, fun ev hev => ?_⟩
    rcases henv ev hev with hold | hauto
    · exact hs.events ev hold
    · exact .inr fun hmanual => absurd (hmanual.symm.trans hauto) Bool.false_ne_true.symm

/-- **By whose hand**: in every interleaving of requests to the gates, whatever else is committed
in between, an event done by hand names an operator who was an active user at some moment of the
run, and, where permissions are enforced, was an administrator or had the permission for it at some
moment. -/
theorem manual_authorized (cfg : Config) (enforced : Bool) (requests : ι → GateOperation)
    (s : Store) (w : World ι Store Lock Label AppError Unit)
    (hrun : World.Run operationRegime (operationWorld cfg enforced requests s) w)
    (ev : AccessEvent) (hev : ev ∈ w.committed.events) (hnew : ev ∉ s.events)
    (hmanual : ev.isManual = true) :
    ∃ v, ev.operatorId = some v ∧
      (∃ w₁, World.Run operationRegime (operationWorld cfg enforced requests s) w₁ ∧
        World.Run operationRegime w₁ w ∧ ActiveUser v w₁.committed) ∧
      (enforced = true →
        ∃ w₂, World.Run operationRegime (operationWorld cfg enforced requests s) w₂ ∧
          World.Run operationRegime w₂ w ∧ MayDo v ev.permCode w₂.committed) := by
  let Active (v : ℕ) : Prop :=
    ∃ w₁, World.Run operationRegime (operationWorld cfg enforced requests s) w₁ ∧
      World.Run operationRegime w₁ w ∧ ActiveUser v w₁.committed
  let May (v : ℕ) (permCode : String) : Prop :=
    ∃ w₂, World.Run operationRegime (operationWorld cfg enforced requests s) w₂ ∧
      World.Run operationRegime w₂ w ∧ MayDo v permCode w₂.committed
  have hknown : World.Run (vouchRegime enforced Active May s.events)
      (operationWorld cfg enforced requests s) w :=
    operation_run hrun (fun w₁ h h' v hv => ⟨w₁, h, h', hv⟩)
      fun w₁ h h' v permCode hv => ⟨w₁, h, h', hv⟩
  -- at the start the rights are those of the start, and every event is left from before
  have hstart : Vouched enforced Active May s.events s :=
    ⟨fun v hv => ⟨_, .refl, hrun, hv⟩, fun v permCode hv => ⟨_, .refl, hrun, hv⟩,
      fun _ hev => .inl hev⟩
  have hok := World.Ok.init (ρ := vouchRegime enforced Active May s.events)
    (Q := fun _ => anyEnd) fun i => (requests i).safe cfg hstart
  have hvouched := (hok.run (vouchContract enforced Active May s.events) hknown).2 hstart
  exact (hvouched.events ev hev).resolve_left hnew hmanual

end

/-! ### Two guards -/

instance (s : Store) (n : ℕ) : Decidable (operationRegime.isFresh s n) :=
  inferInstanceAs (Decidable (n ∉ s.ids))

instance (l : Label) (v : Store) : Decidable (operationRegime.allowed l v) :=
  inferInstanceAs (Decidable True)

/-- One gate and two guards, of whom the first may open the barrier. -/
def guardStore : Store :=
  { gates := [{ id := "g1", code := "G1", name := "North" }]
    users := [{ id := 1, username := "first", passwordHash := "" },
      { id := 2, username := "second", passwordHash := "" }]
    roles := [{ id := 3, code := "GUARD", title := "Guard" }], userRoles := [⟨1, 3⟩]
    permissions := [{ id := 4, code := "gate.barrier_open" }], rolePermissions := [⟨3, 4⟩] }

/-- Both open it. -/
def guardRequests : Fin 2 → GateOperation :=
  World.pair (.barrier { gateCode := "G1" } 2 500) (.barrier { gateCode := "G1" } 1 600)

/-- The barrier was opened by the guard who may. -/
theorem manual_authorized_guards :
    ∃ w : World (Fin 2) Store Lock Label AppError Unit, ∃ ev ∈ w.committed.events,
      World.Run operationRegime (operationWorld {} true guardRequests guardStore) w ∧
      w.committed.events.length = 1 ∧ ev.isManual = true ∧
      ∃ v, ev.operatorId = some v ∧
        (∃ w₁, World.Run operationRegime (operationWorld {} true guardRequests guardStore) w₁ ∧
          World.Run operationRegime w₁ w ∧ ActiveUser v w₁.committed) ∧
        ∃ w₂, World.Run operationRegime (operationWorld {} true guardRequests guardStore) w₂ ∧
          World.Run operationRegime w₂ w ∧ MayDo v ev.permCode w₂.committed := by
  have hrun : (World.runSchedule operationRegime [(0, 4, 0), (1, 9, 0), (0, 1, 0)] 10
      (operationWorld {} true guardRequests guardStore)).any (fun w =>
        w.committed.events.length == 1 && w.committed.events.all AccessEvent.isManual) = true := by
    decide +kernel
  obtain ⟨w, hw, hboth⟩ := (Option.any_eq_true _ _).1 hrun
  simp only [Bool.and_eq_true, beq_iff_eq, List.all_eq_true] at hboth
  obtain ⟨ev, hev⟩ := List.exists_mem_of_length_pos (by omega : 0 < w.committed.events.length)
  have hsteps := World.runSchedule_run hw
  obtain ⟨v, hoperator, hactive, hmay⟩ := manual_authorized {} true guardRequests guardStore w
    hsteps ev hev List.not_mem_nil (hboth.2 ev hev)
  exact ⟨w, ev, hev, hsteps, hboth.1, hboth.2 ev hev, v, hoperator, hactive, hmay rfl⟩

end ParkingSystem
