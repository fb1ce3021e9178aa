import ParkingSystem.Gate.Operators
import ParkingSystem.Gate.Refusal
import ParkingSystem.Record.Requests

/-!
# The Record in Every Run

The endpoints that write the tables of the record, any number of them at once, one statement at a
time. Nobody asks for locks or for a guard here: the record grows along each statement, so it grows
along all of them, however they interleave.

## Who is left out

The endpoints that only add a type of violation or a notification are part of the rest of the
system, which may let the record grow as it likes. The simulator and the scenario tools delete rows:
a run is one of a system where nobody uses them.
-/

namespace ParkingSystem

open Plate Transaction

/-- What the system is run with. -/
structure SystemConfig where
  plates : Config := {}
  auth : AuthConfig
  storage : Storage
  enforceGatePermissions : Bool := true

/-- A request that may write the record. -/
inductive SystemRequest where
  | gate (q : GateOperation)
  | plateEvent (e : PlateEvent)
  | plateReview (recognitionId : ℕ) (r : PlateReviewRequest)
  | payment (body : PaymentCreate) (user : Option ℕ)
  | adjustment (body : AdjustmentCreate) (user : Option ℕ)
  | approveAdjustment (adjustmentId : ℕ) (user : Option ℕ)
  | tariff (q : TariffRequest)
  | violation (body : ViolationCreate) (user : Option ℕ)
  | fine (body : FineCreate) (user : ℕ)
  | confirmViolation (violationId : ℕ) (user : Option ℕ)
  | cancelViolation (violationId : ℕ) (user : Option ℕ)
  | appeal (violationId : ℕ)
  | reviewAppeal (appealId : ℕ) (result : String) (note : Option String) (user : Option ℕ)
  | upload (body : FileUpload)
  | rule (q : RuleRequest)
  | assign (body : ParkingAssignmentCreate)
  | closeAssignment (assignmentId : ℕ)
  | vacate (occupancyId : ℕ)
  | mark (q : MarkRequest)
  | registry (q : RegistryRequest)
  | restriction (body : RestrictionCreate) (user : Option ℕ)
  | deletion (d : Deletion)
  | token (q : TokenRequest)
  | changePassword (credentials : Option String) (currentPassword newPassword : String)
  | staff (sent : SentRequest)

/-- A handler without its answer. -/
def unanswered {α : Type} (p : Handler α) : Handler Unit := p.bind fun _ => .ret ()

/-- The handler of a request. -/
def SystemRequest.handler (sys : SystemConfig) : SystemRequest → Handler Unit
  | gate q => q.handler sys.plates sys.enforceGatePermissions
  | plateEvent e => unanswered (processPlateEvent sys.plates e)
  | plateReview recognitionId r => unanswered (resolvePlateReview sys.plates recognitionId r)
  | payment body user => unanswered (createPayment sys.plates body user)
  | adjustment body user => unanswered (createAdjustment body user)
  | approveAdjustment adjustmentId user =>
    unanswered (ParkingSystem.approveAdjustment sys.plates adjustmentId user)
  | tariff q => q.handler sys.plates
  | violation body user => unanswered (createViolation sys.plates body user)
  | fine body user => unanswered (createFine sys.plates body user)
  | confirmViolation violationId user =>
    unanswered (ParkingSystem.confirmViolation violationId user)
  | cancelViolation violationId user => unanswered (ParkingSystem.cancelViolation violationId user)
  | appeal violationId => unanswered (createAppeal violationId)
  | reviewAppeal appealId result note user =>
    unanswered (ParkingSystem.reviewAppeal appealId result note user)
  | upload body => unanswered (uploadFile sys.storage body)
  | rule q => unanswered q.handler
  | assign body => unanswered (createAssignment body)
  | closeAssignment assignmentId => ParkingSystem.closeAssignment assignmentId
  | vacate occupancyId => vacateOccupancy occupancyId
  | mark q => q.handler
  | registry q => q.handler sys.plates
  | restriction body user => unanswered (createRestriction sys.plates body user)
  | deletion d => d.handler
  | token q => unanswered (q.handler sys.auth)
  | changePassword credentials currentPassword newPassword =>
    ParkingSystem.changePassword sys.auth credentials currentPassword newPassword
  | staff sent => sent.handler sys.auth.hasher

/-! ## Every request -/

theorem records_enforceUserPermission (enforced : Bool) (userId : ℕ) (permCode : String) :
    Records (enforceUserPermission enforced userId permCode) := by
  have hhas : Records (hasPermission userId permCode) := by
    refine (records_select _).bind fun admin => ?_
    split
    · trivial
    · exact records_select _
  unfold enforceUserPermission
  split
  · trivial
  · refine (records_select _).bind fun admin => ?_
    split
    · trivial
    · refine hhas.bind fun has => ?_
      split
      · trivial
      · trivial

theorem records_activeUser (currentUser : ℕ) : Records (activeUser currentUser) := by
  refine (records_select _).bind fun found => ?_
  cases found with
  | none => trivial
  | some u =>
    dsimp only
    split
    · trivial
    · trivial

theorem records_gateOperation (cfg : Config) (enforced : Bool) (q : GateOperation) :
    Records (q.handler cfg enforced) := by
  cases q with
  | detected body =>
    refine Prog.AllWrites.bind ?_ fun _ => trivial
    unfold plateDetected
    split
    · exact records_processPlateEvent cfg _
    · trivial
  | sync events => exact (records_syncOffline cfg events).bind fun _ => trivial
  | manual body user millis =>
    have hmanual : Records (accessManual cfg enforced body user millis) :=
      (records_activeUser user).bind fun u => (records_enforceUserPermission _ _ _).bind fun _ =>
        records_processPlateEvent cfg _
    exact hmanual.bind fun _ => trivial
  | barrier body user millis =>
    have hbarrier : Records (barrierOpen enforced body user millis) := by
      refine (records_activeUser user).bind fun u =>
        (records_enforceUserPermission _ _ _).bind fun _ => (records_select _).bind fun gate => ?_
      cases gate with
      | none => trivial
      | some gate =>
        exact records_getTime.bind fun _ => records_newId.bind fun _ =>
          (records_flush (keepsRecord_insertEvent _)).bind fun _ => records_commitTx.bind fun _ =>
            trivial
    exact hbarrier.bind fun _ => trivial

theorem records_registryRequest (cfg : Config) (q : RegistryRequest) :
    Records (q.handler cfg) := by
  cases q with
  | createVehicle body => exact (records_createVehicle cfg body).bind fun _ => trivial
  | modifyVehicle vehicleId body =>
    exact (records_modifyVehicle cfg vehicleId body).bind fun _ => trivial
  | createPermit body user => exact (records_createPermit cfg body user).bind fun _ => trivial
  | syncRun sheet trigger dryRun =>
    exact (records_syncRun cfg sheet trigger dryRun).bind fun _ => trivial
  | resolveConflict r => exact (records_resolveConflict cfg r).bind fun _ => trivial

theorem records_changePassword (auth : AuthConfig) (credentials : Option String)
    (currentPassword newPassword : String) :
    Records (changePassword auth credentials currentPassword newPassword) := by
  unfold changePassword
  split
  · trivial
  · refine (records_getCurrentUser auth credentials).bind fun u => ?_
    split
    · trivial
    · exact records_newId.bind fun _ => (records_flushUser _ _).bind fun _ => records_commitTx

/-- **Step**: whatever a request sends lets the record grow. -/
theorem SystemRequest.records (sys : SystemConfig) (q : SystemRequest) :
    Records (q.handler sys) := by
  have hdrop {α : Type} {p : Handler α} (h : Records p) : Records (unanswered p) :=
    h.bind fun _ => trivial
  cases q with
  | gate q => exact records_gateOperation sys.plates _ q
  | plateEvent e => exact hdrop (records_processPlateEvent sys.plates e)
  | plateReview recognitionId r => exact hdrop (records_resolvePlateReview sys.plates recognitionId r)
  | payment body user => exact hdrop (records_createPayment sys.plates body user)
  | adjustment body user => exact hdrop (records_createAdjustment body user)
  | approveAdjustment adjustmentId user =>
    exact hdrop (records_approveAdjustment sys.plates adjustmentId user)
  | tariff q => exact (q.allWrites sys.plates).mono fun _ h => h.keepsRecord
  | violation body user => exact hdrop (records_createViolation sys.plates body user)
  | fine body user => exact hdrop (records_createFine sys.plates body user)
  | confirmViolation violationId user => exact hdrop (records_confirmViolation violationId user)
  | cancelViolation violationId user => exact hdrop (records_cancelViolation violationId user)
  | appeal violationId => exact hdrop (records_createAppeal violationId)
  | reviewAppeal appealId result note user =>
    exact hdrop (records_reviewAppeal appealId result note user)
  | upload body => exact hdrop (records_uploadFile sys.storage body)
  | rule q => exact hdrop (records_ruleRequest q)
  | assign body => exact hdrop ((allWrites_createAssignment body).mono fun _ h => h.keepsRecord)
  | closeAssignment assignmentId =>
    exact (allWrites_closeAssignment assignmentId).mono fun _ h => h.keepsRecord
  | vacate occupancyId => exact records_vacateOccupancy occupancyId
  | mark q => exact records_markRequest q
  | registry q => exact records_registryRequest sys.plates q
  | restriction body user => exact hdrop (records_createRestriction sys.plates body user)
  | deletion d => exact records_deletion d
  | token q => exact hdrop (records_tokenRequest sys.auth q)
  | changePassword credentials currentPassword newPassword =>
    exact records_changePassword sys.auth credentials currentPassword newPassword
  | staff sent => exact records_staffRequest sys.auth.hasher sent

/-! ## Every run -/

/-- The requests arrive at a store. -/
def systemWorld {ι : Type} (sys : SystemConfig) (requests : ι → SystemRequest) (s : Store) :
    World ι Store Lock Label AppError Unit := .start s fun i => (requests i).handler sys

/-- **The record only grows**: in every interleaving of any requests, between any two moments, the
rows of the record stay where they are and say what they said, and what was closed, vacated, paid,
approved, read or revoked stays so, if the rest of the system leaves it so. -/
theorem record_grows {ι : Type} [DecidableEq ι] (sys : SystemConfig) (ρ : Regime Store Label)
    (henv : ∀ s s', ρ.env s s' → s.record.Grows s'.record) (requests : ι → SystemRequest)
    (s : Store) (w w' : World ι Store Lock Label AppError Unit)
    (hrun : World.Run ρ (systemWorld sys requests s) w) (hrun' : World.Run ρ w w') :
    w.committed.record.Grows w'.committed.record :=
  World.run_moves (R := fun s s' => s.record.Grows s'.record) (fun s => .refl s.record)
    (fun _ _ _ h h' => h.trans h') (fun i => (requests i).records sys) henv hrun hrun'

/-! ### A stay -/

/-- Nobody else writes. -/
def aloneRegime : Regime Store Label where
  isFresh s n := n ∉ s.ids
  allowed _ _ := True
  env _ _ := False

instance (s : Store) (n : ℕ) : Decidable (aloneRegime.isFresh s n) :=
  inferInstanceAs (Decidable (n ∉ s.ids))

instance (l : Label) (v : Store) : Decidable (aloneRegime.allowed l v) :=
  inferInstanceAs (Decidable True)

/-- A system without secrets. -/
def openSystem : SystemConfig where
  auth :=
    { jwt := { encode := TokenPayload.type, decode := fun _ _ => none }
      hasher := { hash := fun _ text => text, verify := fun text hashed => text == hashed } }
  storage :=
    { bucket := "files", objectKey := fun name _ _ _ => name, sha256 := fun _ => ""
      putObject := fun _ _ _ => true }

/-- The resident comes in and goes out. -/
def stayRequests : Fin 2 → SystemRequest :=
  World.pair (.plateEvent { gateCode := "G1", plateRaw := "12ب34567", sourceEventId := "1" })
    (.plateEvent
      { gateCode := "G1", plateRaw := "12ب34567", sourceEventId := "2", direction := "OUT" })

/-- The record after the entry, and after the exit. -/
theorem record_grows_stay :
    ∃ w w', World.Run aloneRegime (systemWorld openSystem stayRequests residentStore) w ∧
      World.Run aloneRegime w w' ∧
      (w.committed.events.length = 1 ∧ w'.committed.events.length = 2) ∧
      (w.committed.sessions.all ParkingSession.isClosed = false ∧
        w'.committed.sessions.all ParkingSession.isClosed = true) ∧
      w.committed.record.Grows w'.committed.record := by
  have hrun : (World.runSchedule aloneRegime [(0, 35, 0)] 10
      (systemWorld openSystem stayRequests residentStore)).any (fun w =>
        (World.runSchedule aloneRegime [(1, 50, 7200)] 45 w).any fun w' =>
          (w.committed.events.length == 1 && w'.committed.events.length == 2) &&
            (w.committed.sessions.all ParkingSession.isClosed == false &&
              w'.committed.sessions.all ParkingSession.isClosed == true)) = true := by
    decide +kernel
  obtain ⟨w, hw, hrest⟩ := (Option.any_eq_true _ _).1 hrun
  obtain ⟨w', hw', hboth⟩ := (Option.any_eq_true _ _).1 hrest
  simp only [Bool.and_eq_true, beq_iff_eq] at hboth
  have hsteps := World.runSchedule_run hw
  have hsteps' := World.runSchedule_run hw'
  exact ⟨w, w', hsteps, hsteps', hboth.1, hboth.2,
    record_grows openSystem aloneRegime (fun _ _ h => h.elim) stayRequests residentStore w w'
      hsteps hsteps'⟩

end ParkingSystem
