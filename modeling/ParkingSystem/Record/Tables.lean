import ParkingSystem.Finance.TariffAdmin
import ParkingSystem.Gate.PlateReview
import ParkingSystem.Gate.Process
import ParkingSystem.Identity.Staff
import ParkingSystem.Library.Growth
import ParkingSystem.Notifications
import ParkingSystem.Registry.Conflicts
import ParkingSystem.Violations.Offline
import ParkingSystem.Violations.StateMachine

/-!
# The Record

The tables that say what happened: what the cameras read, who passed, who stayed, what it cost,
what was paid, who decided what. For each row the columns that say it, without those that an
UPDATE writes later, and the one thing that cannot be undone.

## What may change in a row

- a reading gets a review, a violation and an appeal a decision, a conflict a resolution;
- a session is closed, an occupancy vacated, a notification read, a token revoked, a charge paid or
  voided, an adjustment approved: none of it is taken back;
- an access event, a payment, an allocation, a file and an audit row never change.
-/

namespace ParkingSystem

open Table Transaction

/-! ## Rows as they came -/

/-- What the camera sent. -/
def PlateRecognitionEvent.asRead (p : PlateRecognitionEvent) : PlateRecognitionEvent :=
  { p with
    reviewStatus := .needsReview, plateCorrected := none, plateCorrectedNormalized := none
    correctedBy := none, correctedAt := none, correctionNote := none }

/-- Who came in, and when. -/
def ParkingSession.asEntered (r : ParkingSession) : ParkingSession :=
  { id := r.id, vehicleId := r.vehicleId, plateNormalized := r.plateNormalized
    entryEventId := r.entryEventId, entryAt := r.entryAt }

def ParkingSession.isClosed (r : ParkingSession) : Bool := r.status == .closed

def ParkingOccupancy.asTaken (o : ParkingOccupancy) : ParkingOccupancy :=
  { o with vacatedAt := none, status := .occupied }

def ParkingOccupancy.isVacated (o : ParkingOccupancy) : Bool := o.status == .vacated

/-- The prices of a tariff and the time it is for. -/
def Tariff.asSet (t : Tariff) : Tariff :=
  { t with status := "", approvedBy := none, approvedAt := none }

/-- What is owed, and for what. -/
def Charge.asMade (c : Charge) : Charge := { c with paidAmount := 0, status := .unpaid }

def Charge.isSettled (c : Charge) : Bool := c.status != .unpaid

def FinancialAdjustment.asRequested (a : FinancialAdjustment) : FinancialAdjustment :=
  { a with status := .pending, approvedBy := none, approvedAt := none }

def FinancialAdjustment.isApproved (a : FinancialAdjustment) : Bool := a.status == .approved

def Violation.asRegistered (v : Violation) : Violation :=
  { v with status := "", reviewedBy := none, reviewedAt := none }

def ViolationAppeal.asSubmitted (a : ViolationAppeal) : ViolationAppeal :=
  { a with status := "", reviewResult := none, reviewedBy := none, reviewedAt := none }

def VehicleSyncConflict.asFound (c : VehicleSyncConflict) : VehicleSyncConflict :=
  { c with status := "", resolvedBy := none, resolvedAt := none, resolutionNote := none }

def RefreshToken.asIssued (t : RefreshToken) : RefreshToken := { t with revokedAt := none }

def RefreshToken.isRevoked (t : RefreshToken) : Bool := t.revokedAt.isSome

def Notification.asSent (n : Notification) : Notification := { n with readAt := none }

def Notification.isRead (n : Notification) : Bool := n.readAt.isSome

/-- Who a user is. -/
def User.key (u : User) : ℕ × String := (u.id, u.username)

/-! ## The record -/

/-- The tables of the record. -/
structure Record where
  recognitions : List PlateRecognitionEvent
  events : List AccessEvent
  sessions : List ParkingSession
  occupancies : List ParkingOccupancy
  tariffs : List Tariff
  charges : List Charge
  payments : List Payment
  allocations : List PaymentAllocation
  adjustments : List FinancialAdjustment
  violationTypes : List ViolationType
  violations : List Violation
  appeals : List ViolationAppeal
  syncRuns : List VehicleSyncRun
  syncConflicts : List VehicleSyncConflict
  plateReviewAudits : List PlateReviewAudit
  users : List User
  refreshTokens : List RefreshToken
  notifications : List Notification
  files : List FileRecord

/-- The record of a store. -/
def Store.record (s : Store) : Record where
  recognitions := s.recognitions
  events := s.events
  sessions := s.sessions
  occupancies := s.occupancies
  tariffs := s.tariffs
  charges := s.charges
  payments := s.payments
  allocations := s.allocations
  adjustments := s.adjustments
  violationTypes := s.violationTypes
  violations := s.violations
  appeals := s.appeals
  syncRuns := s.syncRuns
  syncConflicts := s.syncConflicts
  plateReviewAudits := s.plateReviewAudits
  users := s.users
  refreshTokens := s.refreshTokens
  notifications := s.notifications
  files := s.files

/-- A row that has nothing to be done with it. -/
def neverDone {α : Type} (_ : α) : Bool := false

/-- The record only grows: rows stay where they are and say what they said, and what was done is
still done. -/
structure Record.Grows (r r' : Record) : Prop where
  recognitions : Table.Grows PlateRecognitionEvent.asRead neverDone r.recognitions r'.recognitions
  events : Table.Grows id neverDone r.events r'.events
  sessions : Table.Grows ParkingSession.asEntered ParkingSession.isClosed r.sessions r'.sessions
  occupancies :
    Table.Grows ParkingOccupancy.asTaken ParkingOccupancy.isVacated r.occupancies r'.occupancies
  tariffs : Table.Grows Tariff.asSet neverDone r.tariffs r'.tariffs
  charges : Table.Grows Charge.asMade Charge.isSettled r.charges r'.charges
  payments : Table.Grows id neverDone r.payments r'.payments
  allocations : Table.Grows id neverDone r.allocations r'.allocations
  adjustments : Table.Grows FinancialAdjustment.asRequested FinancialAdjustment.isApproved
    r.adjustments r'.adjustments
  violationTypes : Table.Grows id neverDone r.violationTypes r'.violationTypes
  violations : Table.Grows Violation.asRegistered neverDone r.violations r'.violations
  appeals : Table.Grows ViolationAppeal.asSubmitted neverDone r.appeals r'.appeals
  syncRuns : Table.Grows VehicleSyncRun.id neverDone r.syncRuns r'.syncRuns
  syncConflicts :
    Table.Grows VehicleSyncConflict.asFound neverDone r.syncConflicts r'.syncConflicts
  plateReviewAudits : Table.Grows id neverDone r.plateReviewAudits r'.plateReviewAudits
  users : Table.Grows User.key neverDone r.users r'.users
  refreshTokens :
    Table.Grows RefreshToken.asIssued RefreshToken.isRevoked r.refreshTokens r'.refreshTokens
  notifications :
    Table.Grows Notification.asSent Notification.isRead r.notifications r'.notifications
  files : Table.Grows id neverDone r.files r'.files

theorem Record.Grows.refl (r : Record) : r.Grows r where
  recognitions := .refl _ _ _
  events := .refl _ _ _
  sessions := .refl _ _ _
  occupancies := .refl _ _ _
  tariffs := .refl _ _ _
  charges := .refl _ _ _
  payments := .refl _ _ _
  allocations := .refl _ _ _
  adjustments := .refl _ _ _
  violationTypes := .refl _ _ _
  violations := .refl _ _ _
  appeals := .refl _ _ _
  syncRuns := .refl _ _ _
  syncConflicts := .refl _ _ _
  plateReviewAudits := .refl _ _ _
  users := .refl _ _ _
  refreshTokens := .refl _ _ _
  notifications := .refl _ _ _
  files := .refl _ _ _

theorem Record.Grows.trans {r r' r'' : Record} (h : r.Grows r') (h' : r'.Grows r'') :
    r.Grows r'' where
  recognitions := h.recognitions.trans h'.recognitions
  events := h.events.trans h'.events
  sessions := h.sessions.trans h'.sessions
  occupancies := h.occupancies.trans h'.occupancies
  tariffs := h.tariffs.trans h'.tariffs
  charges := h.charges.trans h'.charges
  payments := h.payments.trans h'.payments
  allocations := h.allocations.trans h'.allocations
  adjustments := h.adjustments.trans h'.adjustments
  violationTypes := h.violationTypes.trans h'.violationTypes
  violations := h.violations.trans h'.violations
  appeals := h.appeals.trans h'.appeals
  syncRuns := h.syncRuns.trans h'.syncRuns
  syncConflicts := h.syncConflicts.trans h'.syncConflicts
  plateReviewAudits := h.plateReviewAudits.trans h'.plateReviewAudits
  users := h.users.trans h'.users
  refreshTokens := h.refreshTokens.trans h'.refreshTokens
  notifications := h.notifications.trans h'.notifications
  files := h.files.trans h'.files

/-! ## Statements -/

/-- A statement along which the record grows, whatever the store. -/
def KeepsRecord (st : Stmt) : Prop := ∀ s : Store, s.record.Grows (st.apply s).record

/-- A statement on other tables. -/
theorem keepsRecord_of_eq {st : Stmt} (h : ∀ s : Store, (st.apply s).record = s.record) :
    KeepsRecord st := by
  intro s
  rw [h s]
  exact .refl _

/-! ### Readings and passages -/

theorem keepsRecord_insertRecognition (p : PlateRecognitionEvent) :
    KeepsRecord (insertRecognition p) := fun s =>
  { Record.Grows.refl s.record with recognitions := .append _ _ _ _ }

theorem ReviewUpdate.on_asRead (u : ReviewUpdate) (p : PlateRecognitionEvent) :
    (u.on p).asRead = p.asRead := by
  unfold ReviewUpdate.on
  split <;> rfl

theorem keepsRecord_updateRecognition (id : ℕ) (u : ReviewUpdate) :
    KeepsRecord (updateRecognition id u) := fun s =>
  { Record.Grows.refl s.record with
    recognitions := .update rfl u.on_asRead fun _ h => h }

theorem keepsRecord_insertPlateReviewAudit (audit : PlateReviewAudit) :
    KeepsRecord (insertPlateReviewAudit audit) := fun s =>
  { Record.Grows.refl s.record with plateReviewAudits := .append _ _ _ _ }

theorem keepsRecord_insertEvent (ev : AccessEvent) : KeepsRecord (insertEvent ev) := fun s =>
  { Record.Grows.refl s.record with events := .append _ _ _ _ }

theorem keepsRecord_insertSession (n : NewSession) : KeepsRecord (insertSession n) := fun s =>
  { Record.Grows.refl s.record with sessions := .append _ _ _ _ }

/-- The UPDATE of a session keeps its status or closes it. -/
def ParkingSession.Proceeds (loaded new : ParkingSession) : Prop :=
  new.status = loaded.status ∨ new.status = .closed

theorem ParkingSession.Proceeds.written {loaded new : ParkingSession} (h : loaded.Proceeds new)
    (r : ParkingSession) (hr : r.isClosed = true) : (loaded.written new r).isClosed = true := by
  have hclosed : r.status = .closed := by simpa [ParkingSession.isClosed] using hr
  have hstatus : (loaded.written new r).status = .closed := by
    show changed loaded.status new.status r.status = .closed
    rcases h with hsame | hnew
    · rw [hsame, changed_same, hclosed]
    · rw [hnew, hclosed]
      unfold changed
      split <;> rfl
  simp [ParkingSession.isClosed, hstatus]

theorem keepsRecord_updateSession {loaded new : ParkingSession} (h : loaded.Proceeds new) :
    KeepsRecord (updateSession loaded new) := fun s =>
  { Record.Grows.refl s.record with sessions := .update rfl (fun _ => rfl) h.written }

theorem keepsRecord_insertOccupancy (o : ParkingOccupancy) : KeepsRecord (insertOccupancy o) :=
  fun s => { Record.Grows.refl s.record with occupancies := .append _ _ _ _ }

theorem keepsRecord_vacate (id : ℕ) (now : ℤ) : KeepsRecord (vacate id now) := fun s =>
  { Record.Grows.refl s.record with occupancies := .update rfl (fun _ => rfl) fun _ _ => rfl }

/-! ### Money -/

theorem keepsRecord_insertTariff (t : Tariff) : KeepsRecord (insertTariff t) := fun s =>
  { Record.Grows.refl s.record with tariffs := .append _ _ _ _ }

theorem keepsRecord_updateTariff (loaded : Tariff) (u : TariffUpdate) :
    KeepsRecord (updateTariff loaded u) := fun s =>
  { Record.Grows.refl s.record with tariffs := .update rfl (fun _ => rfl) fun _ h => h }

theorem keepsRecord_insertCharge (c : Charge) : KeepsRecord (insertCharge c) := fun s =>
  { Record.Grows.refl s.record with charges := .append _ _ _ _ }

/-- The UPDATE of a charge does not make it UNPAID. -/
def Charge.Proceeds (loaded new : Charge) : Prop :=
  new.status = loaded.status ∨ new.status ≠ .unpaid

theorem Charge.Proceeds.written {loaded new : Charge} (h : loaded.Proceeds new) (c : Charge)
    (hc : c.isSettled = true) : (loaded.written new c).isSettled = true := by
  have hsettled : c.status ≠ .unpaid := by simpa [Charge.isSettled] using hc
  have hstatus : (loaded.written new c).status ≠ .unpaid := by
    show changed loaded.status new.status c.status ≠ .unpaid
    rcases h with hsame | hnew
    · rwa [hsame, changed_same]
    · unfold changed
      split
      · exact hsettled
      · exact hnew
  simpa [Charge.isSettled] using hstatus

theorem Charge.proceeds_settle (loaded c : Charge) (h : c.status = loaded.status) :
    loaded.Proceeds c.settle := by
  unfold Charge.settle
  split
  · exact Or.inr nofun
  · exact Or.inl h

theorem keepsRecord_updateCharge {loaded new : Charge} (h : loaded.Proceeds new) :
    KeepsRecord (updateCharge loaded new) := fun s =>
  { Record.Grows.refl s.record with charges := .update rfl (fun _ => rfl) h.written }

theorem keepsRecord_creditCharge (adjustmentId : ℕ) {loaded new : Charge}
    (h : loaded.Proceeds new) : KeepsRecord (creditCharge adjustmentId loaded new) := fun s =>
  { Record.Grows.refl s.record with charges := .update rfl (fun _ => rfl) h.written }

theorem keepsRecord_insertPayment (p : Payment) : KeepsRecord (insertPayment p) := fun s =>
  { Record.Grows.refl s.record with payments := .append _ _ _ _ }

theorem keepsRecord_insertAllocation (a : PaymentAllocation) :
    KeepsRecord (insertAllocation a) := fun s =>
  { Record.Grows.refl s.record with allocations := .append _ _ _ _ }

theorem keepsRecord_insertAdjustment (a : FinancialAdjustment) :
    KeepsRecord (insertAdjustment a) := fun s =>
  { Record.Grows.refl s.record with adjustments := .append _ _ _ _ }

theorem keepsRecord_approveStmt (loaded : FinancialAdjustment) (user : Option ℕ) (now : ℤ) :
    KeepsRecord (approveStmt loaded user now) := fun s =>
  { Record.Grows.refl s.record with adjustments := .update rfl (fun _ => rfl) fun _ _ => rfl }

/-! ### Violations -/

theorem keepsRecord_insertViolationType (t : ViolationType) :
    KeepsRecord (insertViolationType t) := fun s =>
  { Record.Grows.refl s.record with violationTypes := .append _ _ _ _ }

theorem keepsRecord_insertViolation (v : Violation) : KeepsRecord (insertViolation v) := fun s =>
  { Record.Grows.refl s.record with violations := .append _ _ _ _ }

theorem keepsRecord_updateViolation (id : ℕ) (status : String) (user : Option ℕ) (now : ℤ) :
    KeepsRecord (updateViolation id status user now) := fun s =>
  { Record.Grows.refl s.record with violations := .update rfl (fun _ => rfl) fun _ h => h }

theorem keepsRecord_insertAppeal (a : ViolationAppeal) : KeepsRecord (insertAppeal a) := fun s =>
  { Record.Grows.refl s.record with appeals := .append _ _ _ _ }

theorem keepsRecord_updateAppeal (id : ℕ) (status : String) (note : Option String)
    (user : Option ℕ) (now : ℤ) : KeepsRecord (updateAppeal id status note user now) := fun s =>
  { Record.Grows.refl s.record with appeals := .update rfl (fun _ => rfl) fun _ h => h }

theorem keepsRecord_insertFile (f : FileRecord) : KeepsRecord (insertFile f) := fun s =>
  { Record.Grows.refl s.record with files := .append _ _ _ _ }

/-! ### The registry -/

theorem keepsRecord_insertSyncRun (run : VehicleSyncRun) : KeepsRecord (insertSyncRun run) :=
  fun s => { Record.Grows.refl s.record with syncRuns := .append _ _ _ _ }

theorem keepsRecord_updateSyncRun (run : VehicleSyncRun) : KeepsRecord (updateSyncRun run) := by
  intro s
  -- the row that is written has the identifier of the row it replaces
  have hrows : updateWhere (fun r => r.id == run.id) (fun _ => run) s.syncRuns =
      updateWhere (fun r => r.id == run.id) (fun r => { run with id := r.id }) s.syncRuns := by
    refine List.map_congr_left fun r _ => ?_
    by_cases h : r.id = run.id
    · simp [h]
    · simp [h]
  exact { Record.Grows.refl s.record with
    syncRuns := .update hrows (fun _ => rfl) fun _ h => h }

theorem keepsRecord_insertSyncConflict (c : VehicleSyncConflict) :
    KeepsRecord (insertSyncConflict c) := fun s =>
  { Record.Grows.refl s.record with syncConflicts := .append _ _ _ _ }

theorem keepsRecord_updateSyncConflict (id : ℕ) (u : Resolution) :
    KeepsRecord (updateSyncConflict id u) := fun s =>
  { Record.Grows.refl s.record with syncConflicts := .update rfl (fun _ => rfl) fun _ h => h }

/-! ### Users -/

theorem keepsRecord_insertUser (u : User) : KeepsRecord (insertUser u) := fun s =>
  { Record.Grows.refl s.record with users := .append _ _ _ _ }

theorem keepsRecord_updateUser (id : ℕ) (u : UserUpdate) : KeepsRecord (updateUser id u) := fun s =>
  { Record.Grows.refl s.record with users := .update rfl (fun _ => rfl) fun _ h => h }

theorem keepsRecord_updateProfile (id : ℕ) (fullName mobile : Option String) :
    KeepsRecord (updateProfile id fullName mobile) := fun s =>
  { Record.Grows.refl s.record with users := .update rfl (fun _ => rfl) fun _ h => h }

theorem keepsRecord_insertToken (exchanged : Option ℕ) (t : RefreshToken) :
    KeepsRecord (insertToken exchanged t) := fun s =>
  { Record.Grows.refl s.record with refreshTokens := .append _ _ _ _ }

theorem keepsRecord_revokeToken (t : RefreshToken) (now : ℤ) : KeepsRecord (revokeToken t now) :=
  fun s =>
    { Record.Grows.refl s.record with
      refreshTokens := .update rfl (fun _ => rfl) fun _ _ => rfl }

theorem keepsRecord_revokeTokens (userId : ℕ) (tokens : List ℕ) (now : ℤ) :
    KeepsRecord (revokeTokens userId tokens now) := fun s =>
  { Record.Grows.refl s.record with
    refreshTokens := .update rfl (fun _ => rfl) fun _ _ => rfl }

theorem keepsRecord_markNotifications (p : Notification → Bool) (locks : List Lock) (now : ℤ) :
    KeepsRecord (markNotifications p locks now) := fun s =>
  { Record.Grows.refl s.record with
    notifications := .update rfl (fun _ => rfl) fun _ _ => rfl }

end ParkingSystem
