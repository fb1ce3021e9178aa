import ParkingSystem.Assignments
import ParkingSystem.Finance.ActiveTariff
import ParkingSystem.Gate.AuditRun
import ParkingSystem.Identity.Administrators
import ParkingSystem.Identity.Issued
import ParkingSystem.Record.Tables
import ParkingSystem.Registry.Deletions
import ParkingSystem.Registry.Requests
import ParkingSystem.Registry.SheetRules
import ParkingSystem.RulePublication

/-!
# What Requests Leave of the Record

For every request that writes to the database: each statement it may send lets the record grow,
whatever the store it is applied to. Nothing is asked of what the request read before, so that it
does not matter what others commit in between.

## The two conditions

The UPDATE of a session keeps its status or closes it, and the UPDATE of a charge does not make it
UNPAID; the other statements let the record grow as they are.
-/

namespace ParkingSystem

open Plate PyText PyValue Table Transaction

/-- Every statement of a request lets the record grow. -/
abbrev Records {α : Type} (p : Handler α) : Prop := p.AllWrites KeepsRecord

theorem records_select {α : Type} (f : Store → α) : Records (Prog.select f : Handler α) :=
  (Prog.writesOnly_select f).allWrites

theorem records_flush {st : Stmt} (h : KeepsRecord st) : Records (Prog.flush st) :=
  (Prog.writesOnly_flush h).allWrites

theorem records_newId : Records (Prog.newId : Handler ℕ) := Prog.writesOnly_newId.allWrites

theorem records_getTime : Records (Prog.getTime : Handler ℤ) := Prog.writesOnly_getTime.allWrites

theorem records_commitTx : Records (Prog.commitTx : Handler Unit) := Prog.allWrites_commitTx

theorem records_of_readOnly {α : Type} {p : Handler α} (h : p.ReadOnly) : Records p :=
  h.writesOnly.allWrites

/-! ## Exits -/

theorem keepsRecord_sendDirty (d : Dirty) {c : Charge} (h : d.loaded.Proceeds c) :
    ∀ st ∈ sendDirty d c, KeepsRecord st := by
  intro st hst
  rcases List.mem_cons.1 hst with rfl | hst
  · exact keepsRecord_updateCharge h
  · obtain ⟨a, -, rfl⟩ := List.mem_map.1 hst
    exact keepsRecord_insertAllocation a

theorem keepsRecord_flushDirty (d : Dirty) : (flushDirty d).WritesOnly KeepsRecord := by
  unfold flushDirty
  split
  · trivial
  · have hsame : d.loaded.Proceeds d.charge := .inl rfl
    exact (writesOnly_flushAll (keepsRecord_sendDirty d hsame)).bind fun _ => trivial

theorem keepsRecord_settleLoop (ps : List Payment) (d : Dirty) (creditUsed : ℤ) :
    (settleLoop ps d creditUsed).WritesOnly KeepsRecord := by
  induction ps generalizing d creditUsed with
  | nil => trivial
  | cons p ps ih =>
    refine (keepsRecord_flushDirty d).bind fun charge => ?_
    refine (Prog.writesOnly_select _).bind fun allocated => ?_
    dsimp only
    split
    · exact ih _ _
    · split
      · trivial
      · exact Prog.writesOnly_newId.bind fun _ => ih _ _

theorem keepsRecord_finishSettlement (session : ParkingSession) (graceMinutes : ℤ) (d : Dirty)
    (creditUsed : ℤ) :
    (finishSettlement session graceMinutes d creditUsed).WritesOnly KeepsRecord := by
  unfold finishSettlement
  split
  · trivial
  · refine (writesOnly_flushAll fun st hst => ?_).bind fun _ => trivial
    rcases List.mem_append.1 hst with hst | hst
    · exact keepsRecord_sendDirty d (Charge.proceeds_settle _ d.charge rfl) st hst
    · -- the session that is paid with its charge keeps its status
      split at hst
      · obtain rfl := List.mem_singleton.1 hst
        exact keepsRecord_updateSession (.inl rfl)
      · cases hst

theorem keepsRecord_settleExitWithPrepaidCredit (session : ParkingSession)
    (now graceMinutes : ℤ) :
    (settleExitWithPrepaidCredit session now graceMinutes).WritesOnly KeepsRecord := by
  unfold settleExitWithPrepaidCredit
  split
  · trivial
  · refine (Prog.writesOnly_select _).bind fun charge => ?_
    cases charge with
    | none => trivial
    | some charge =>
      dsimp only
      split
      · trivial
      · split
        · trivial
        · split
          · trivial
          · exact (Prog.writesOnly_select _).bind fun payments =>
              (keepsRecord_settleLoop payments _ 0).bind fun _ =>
                keepsRecord_finishSettlement session graceMinutes _ _

theorem keepsRecord_closeSessionAmounts (cfg : Config) {loaded session : ParkingSession}
    (h : session.status = loaded.status) :
    (closeSessionAmounts cfg loaded session).WritesOnly KeepsRecord := by
  have hstayed (now : ℤ) : KeepsRecord (updateSession loaded (session.stayed now)) :=
    keepsRecord_updateSession (.inl h)
  exact Prog.writesOnly_getTime.bind fun now =>
    (Prog.writesOnly_flush (hstayed now)).bind fun _ =>
      (Prog.writesOnly_select _).bind fun _ =>
        (readOnly_resolveTariffPolicy cfg).writesOnly.bind fun _ =>
          (readOnly_newCharge _ _).writesOnly.bind fun _ => trivial

theorem keepsRecord_flushClosing {c : Closing} (h : c.loaded.Proceeds c.session) :
    (flushClosing c).WritesOnly KeepsRecord := by
  refine writesOnly_flushAll fun st hst => ?_
  rcases List.mem_cons.1 hst with rfl | hst
  · exact keepsRecord_updateSession h
  · obtain ⟨n, -, rfl⟩ := List.mem_map.1 hst
    exact keepsRecord_insertCharge n.charge

theorem keepsRecord_settleExit (cfg : Config) {c : Closing} (h : c.loaded.Proceeds c.session)
    (now : ℤ) : (settleExit cfg c now).WritesOnly KeepsRecord := by
  refine (keepsRecord_flushClosing h).attempt.bind fun _ => ?_
  split
  · exact (readOnly_exitGrace cfg).writesOnly.bind fun grace =>
      (keepsRecord_settleExitWithPrepaidCredit _ _ grace).attempt.bind fun _ => trivial
  · trivial

theorem keepsRecord_exitDecision (cfg : Config) (plate : String) (now : ℤ) :
    (exitDecision cfg plate now).WritesOnly KeepsRecord := by
  refine (Prog.writesOnly_select _).bind fun session => ?_
  cases session with
  | none => trivial
  | some session =>
    refine (readOnly_resolveExitPolicy cfg).writesOnly.bind fun policy => ?_
    refine (readOnly_exitPreview cfg _ _ _ _).writesOnly.bind fun preview => ?_
    cases preview with
    | some amounts => trivial
    | none =>
      exact (keepsRecord_closeSessionAmounts cfg (by rfl)).bind fun closing =>
        (keepsRecord_settleExit cfg (.inr rfl) now).bind fun _ => trivial

/-! ## Gate events -/

theorem keepsRecord_updatePermit (p : AccessPermit) : KeepsRecord (updatePermit p) :=
  keepsRecord_of_eq fun _ => rfl

theorem keepsRecord_entryDecision (cfg : Config) (plate gateId : String) (now : ℤ) :
    (entryDecision cfg plate gateId now).WritesOnly KeepsRecord := by
  refine (Prog.writesOnly_select _).bind fun permit => ?_
  cases permit with
  | error reason => trivial
  | ok p =>
    refine (Prog.writesOnly_select _).bind fun sessions => ?_
    split
    · trivial
    · refine (readOnly_checkYardCapacity cfg).writesOnly.bind fun full => ?_
      cases full with
      | some reason => trivial
      | none =>
        exact (Prog.writesOnly_flush (keepsRecord_updatePermit p)).bind fun _ => trivial

theorem keepsRecord_baseDecision (cfg : Config) (direction gateId : String)
    (normalized : Option String) (vehicle : Option Vehicle) (now : ℤ) :
    (baseDecision cfg direction gateId normalized vehicle now).WritesOnly KeepsRecord := by
  unfold baseDecision
  split
  · trivial
  · trivial
  · split
    · trivial
    · refine (Prog.writesOnly_select _).bind fun restriction => ?_
      split
      · trivial
      · split
        · exact keepsRecord_exitDecision cfg _ now
        · exact keepsRecord_entryDecision cfg _ gateId now

theorem ReadingStmt.keepsRecord {st : Stmt} (h : ReadingStmt st) : KeepsRecord st := by
  cases h with
  | recognition p => exact keepsRecord_insertRecognition p

theorem SpaceStmt.keepsRecord {st : Stmt} (h : SpaceStmt st) : KeepsRecord st := by
  cases h with
  | lock id => exact keepsRecord_of_eq fun _ => rfl
  | update id status => exact keepsRecord_of_eq fun _ => rfl

theorem EntryStmt.keepsRecord {st : Stmt} (h : EntryStmt st) : KeepsRecord st := by
  cases h with
  | session n => exact keepsRecord_insertSession n
  | occupancy o => exact keepsRecord_insertOccupancy o
  | space h => exact h.keepsRecord

theorem ExitStmt.keepsRecord {st : Stmt} (h : ExitStmt st) : KeepsRecord st := by
  cases h with
  | occupancy id now => exact keepsRecord_vacate id now
  | space h => exact h.keepsRecord

theorem records_finishEvent (e : PlateEvent) (r : Reading) (v : Verdict) :
    Records (finishEvent e r v) := by
  have hrespond (event : AccessEvent) (id : Option ℕ) (parking : Option ParkingInfo)
      (warnings : List Warning) : Records (respond e r v event id parking warnings) :=
    records_of_readOnly (readOnly_respond e r v _ _ _ _)
  have hrecord : Records (recordEvent e r v) :=
    records_newId.bind fun id => (records_flush (keepsRecord_insertEvent _)).bind fun _ =>
      ((writesOnly_recordEntry e r v id).mono fun _ h => h.keepsRecord).allWrites.bind fun _ =>
        ((writesOnly_recordExit e r v).mono fun _ h => h.keepsRecord).allWrites.bind fun _ =>
          records_commitTx.bind fun _ => trivial
  unfold finishEvent
  split
  · exact hrespond _ _ _ _
  · refine hrecord.attempt.bind fun recorded => ?_
    split
    · exact hrespond _ _ _ _
    · exact allWrites_recoverConflict e r
    · trivial

/-- **Events at a gate**, manual ones and dry runs among them. -/
theorem records_processPlateEvent (cfg : Config) (e : PlateEvent) :
    Records (processPlateEvent cfg e) := by
  refine records_getTime.bind fun now => (records_select _).bind fun gate => ?_
  cases gate with
  | none => trivial
  | some gate =>
    refine (records_select _).bind fun existing => ?_
    cases existing with
    | some event => exact records_of_readOnly (readOnly_duplicateResponse _ _ _)
    | none =>
      have hread := (writesOnly_readPlate cfg e gate now).mono fun _ h => h.keepsRecord
      refine hread.allWrites.bind fun r => ?_
      have hdecide : (decideEvent cfg e r).WritesOnly KeepsRecord :=
        (keepsRecord_baseDecision cfg _ _ _ _ _).bind fun base =>
          (readOnly_laterLayers cfg e r base).writesOnly
      exact hdecide.allWrites.bind fun v => records_finishEvent e r v

theorem records_syncOffline (cfg : Config) (events : List PlateDetected) :
    Records (syncOffline cfg events) := by
  have hall (ps : List PlateDetected) : Records (syncAll cfg ps) := by
    induction ps with
    | nil => trivial
    | cons p ps ih =>
      exact (records_processPlateEvent cfg _).attempt.bind fun _ => ih.bind fun _ => trivial
  unfold syncOffline
  split
  · exact (records_of_readOnly (readOnly_captureTimes events)).bind fun _ => hall _
  · trivial

/-! ## Money -/

theorem records_newAllocations (paymentId : ℕ) (allocs : List (Charge × ℤ)) :
    Records (newAllocations paymentId allocs) := by
  induction allocs with
  | nil => trivial
  | cons a allocs ih => exact records_newId.bind fun _ => ih.bind fun _ => trivial

theorem records_allocatePayment (payment : Payment) : Records (allocatePayment payment) := by
  have hall (allocs : List (Charge × ℤ)) (rows : List PaymentAllocation) :
      ∀ st ∈ allocs.map (fun p => updateCharge p.1 (p.1.paidBy p.2)) ++ rows.map insertAllocation,
        KeepsRecord st := by
    intro st hst
    rcases List.mem_append.1 hst with hst | hst
    · obtain ⟨⟨c, a⟩, -, rfl⟩ := List.mem_map.1 hst
      exact keepsRecord_updateCharge (Charge.proceeds_settle _ _ rfl)
    · obtain ⟨a, -, rfl⟩ := List.mem_map.1 hst
      exact keepsRecord_insertAllocation a
  exact (records_flush (keepsRecord_insertPayment payment)).bind fun _ =>
    (records_select _).bind fun _ => (records_newAllocations _ _).bind fun rows =>
      (writesOnly_flushAll (hall _ rows)).allWrites.bind fun _ =>
        records_commitTx.bind fun _ => trivial

theorem records_createNewPayment (cfg : Config) (body : PaymentCreate) (user : Option ℕ)
    (reference : String) : Records (createNewPayment cfg body user reference) := by
  have hpayer : Records (payerVehicle body (body.plate cfg)) := by
    unfold payerVehicle
    split
    · exact records_select _
    · trivial
  have hconflict : Records (paymentConflict reference) := by
    refine Prog.AllWrites.bind trivial fun _ => (records_select _).bind fun dup => ?_
    cases dup with
    | some p => trivial
    | none => trivial
  refine hpayer.bind fun _ => records_newId.bind fun _ => records_getTime.bind fun _ => ?_
  refine (records_allocatePayment _).attempt.bind fun done => ?_
  split
  · trivial
  · exact hconflict
  · trivial

theorem records_createPayment (cfg : Config) (body : PaymentCreate) (user : Option ℕ) :
    Records (createPayment cfg body user) := by
  have hgenerated : Records generatedReference :=
    records_getTime.bind fun _ => records_newId.bind fun _ => trivial
  unfold createPayment createCleanPayment
  split
  · refine (records_select _).bind fun existing => ?_
    cases existing with
    | some p => trivial
    | none => exact records_createNewPayment _ _ _ _
  · exact hgenerated.bind fun _ => records_createNewPayment _ _ _ _

theorem records_createAdjustment (body : AdjustmentCreate) (user : Option ℕ) :
    Records (createAdjustment body user) := by
  unfold createAdjustment
  split
  · trivial
  · exact records_newId.bind fun _ => (records_flush (keepsRecord_insertAdjustment _)).bind fun _ =>
      records_commitTx.bind fun _ => trivial

theorem records_applyAdjustment (a : FinancialAdjustment) : Records (applyAdjustment a) := by
  unfold applyAdjustment
  split
  · refine (records_select _).bind fun charge => ?_
    cases charge with
    | none => trivial
    | some c =>
      dsimp only
      split
      · exact records_flush (keepsRecord_creditCharge _ (Charge.proceeds_settle _ _ rfl))
      · trivial
  · trivial

theorem records_approveAdjustment (cfg : Config) (adjustmentId : ℕ) (user : Option ℕ) :
    Records (approveAdjustment cfg adjustmentId user) := by
  refine (records_select _).bind fun found => ?_
  cases found with
  | none => trivial
  | some a =>
    dsimp only
    split
    · trivial
    · refine (records_of_readOnly (readOnly_resolveSelfApprovalPolicy cfg)).bind fun policy => ?_
      split
      · trivial
      · exact records_getTime.bind fun now =>
          (records_flush (keepsRecord_approveStmt a user now)).bind fun _ =>
            (records_applyAdjustment a).bind fun _ => records_commitTx.bind fun _ => trivial

theorem TariffStmt.keepsRecord {st : Stmt} (h : TariffStmt st) : KeepsRecord st := by
  cases h with
  | insert t => exact keepsRecord_insertTariff t
  | update t u _ => exact keepsRecord_updateTariff t u

/-! ## Violations -/

theorem records_storeViolation (v : Violation) : Records (storeViolation v) := by
  have hstore : Records (do
      Prog.flush (insertViolation v)
      Prog.commitTx
      return ({ id := v.id, amount := v.penaltyAmount } : IssueResponse)) :=
    (records_flush (keepsRecord_insertViolation v)).bind fun _ =>
      records_commitTx.bind fun _ => trivial
  refine hstore.attempt.bind fun done => ?_
  split
  · trivial
  · refine Prog.AllWrites.bind trivial fun _ => (records_select _).bind fun existing => ?_
    cases existing with
    | some u => trivial
    | none => trivial
  · trivial

theorem records_createViolation (cfg : Config) (body : ViolationCreate) (user : Option ℕ) :
    Records (createViolation cfg body user) := by
  unfold createViolation
  split
  · refine (records_select _).bind fun existing => ?_
    cases existing with
    | some v => trivial
    | none =>
      refine (records_select _).bind fun vtype => ?_
      cases vtype with
      | none => trivial
      | some t =>
        dsimp only
        split
        · trivial
        · exact (records_select _).bind fun _ => records_newId.bind fun _ =>
            records_getTime.bind fun _ => records_storeViolation _
  · trivial

theorem records_createFine (cfg : Config) (body : FineCreate) (user : ℕ) :
    Records (createFine cfg body user) := by
  have htype : Records anyViolationType := by
    refine (records_select _).bind fun found => ?_
    cases found with
    | some t => trivial
    | none =>
      exact records_newId.bind fun _ => (records_flush (keepsRecord_insertViolationType _)).bind
        fun _ => records_select _
  have hcolumn (data : FineData) (c : Column) : Records (fillColumn user data c) := by
    unfold fillColumn
    split
    · trivial
    · split
      · refine htype.bind fun found => ?_
        cases found with
        | some t => trivial
        | none => trivial
      · split
        · trivial
        · split
          · trivial
          · trivial
          · exact records_getTime.bind fun _ => trivial
          · exact records_newId.bind fun _ => trivial
  have hcolumns (columns : List Column) (data : FineData) :
      Records (fillColumns user data columns) := by
    induction columns generalizing data with
    | nil => trivial
    | cons c columns ih => exact (hcolumn data c).bind fun _ => ih _
  exact (records_select _).bind fun _ => (hcolumns _ _).bind fun _ => records_newId.bind fun _ =>
    (records_flush (keepsRecord_insertViolation _)).bind fun _ =>
      records_commitTx.bind fun _ => trivial

/-- An unpaid charge is voided. -/
theorem Charge.proceeds_void (c : Charge) : c.Proceeds { c with status := .voided } := .inr nofun

theorem records_voidUnpaidCharge (violationId : ℕ) : Records (voidUnpaidCharge violationId) := by
  refine (records_select _).bind fun charge => ?_
  cases charge with
  | none => trivial
  | some c =>
    dsimp only
    split
    · exact (records_flush (keepsRecord_updateCharge c.proceeds_void)).bind fun _ => trivial
    · trivial

theorem records_confirmViolation (violationId : ℕ) (user : Option ℕ) :
    Records (confirmViolation violationId user) := by
  have hcharge (v : Violation) : Records (chargeViolation v) := by
    refine (records_select _).bind fun existing => ?_
    split
    · exact records_newId.bind fun _ => records_getTime.bind fun _ =>
        records_flush (keepsRecord_insertCharge _)
    · trivial
  refine (records_select _).bind fun found => ?_
  cases found with
  | none => trivial
  | some v =>
    dsimp only
    split
    · trivial
    · split
      · trivial
      · exact records_getTime.bind fun now =>
          (records_flush (keepsRecord_updateViolation v.id _ user now)).bind fun _ =>
            (hcharge v).bind fun _ => records_commitTx.bind fun _ => trivial

theorem records_cancelViolation (violationId : ℕ) (user : Option ℕ) :
    Records (cancelViolation violationId user) := by
  have hpaid (id : ℕ) (voided : Bool) : Records (paidCharge id voided) := by
    unfold paidCharge
    split
    · trivial
    · exact (records_select _).bind fun _ => trivial
  refine (records_select _).bind fun found => ?_
  cases found with
  | none => trivial
  | some v =>
    dsimp only
    split
    · trivial
    · split
      · trivial
      · exact records_getTime.bind fun now =>
          (records_flush (keepsRecord_updateViolation v.id _ user now)).bind fun _ =>
            (records_voidUnpaidCharge v.id).bind fun voided => (hpaid v.id voided).bind fun _ =>
              records_commitTx.bind fun _ => trivial

theorem records_createAppeal (violationId : ℕ) : Records (createAppeal violationId) := by
  refine (records_select _).bind fun found => ?_
  cases found with
  | none => trivial
  | some v =>
    dsimp only
    split
    · trivial
    · exact records_newId.bind fun _ => (records_flush (keepsRecord_insertAppeal _)).bind fun _ =>
        records_commitTx.bind fun _ => trivial

theorem records_reviewAppeal (appealId : ℕ) (result : String) (note : Option String)
    (user : Option ℕ) : Records (reviewAppeal appealId result note user) := by
  have haccept (violationId : ℕ) : Records (acceptAppeal violationId user) := by
    refine (records_select _).bind fun found => ?_
    cases found with
    | none => trivial
    | some v =>
      dsimp only
      split
      · exact records_getTime.bind fun now =>
          (records_flush (keepsRecord_updateViolation v.id _ user now)).bind fun _ =>
            records_voidUnpaidCharge v.id
      · trivial
  refine (records_select _).bind fun found => ?_
  cases found with
  | none => trivial
  | some appeal =>
    dsimp only
    split
    · trivial
    · split
      · trivial
      · refine records_getTime.bind fun now =>
          (records_flush (keepsRecord_updateAppeal appeal.id _ note user now)).bind fun _ => ?_
        split
        · exact (haccept appeal.violationId).bind fun _ => records_commitTx.bind fun _ => trivial
        · exact records_commitTx.bind fun _ => trivial

theorem records_uploadFile (storage : Storage) (body : FileUpload) :
    Records (uploadFile storage body) := by
  refine (records_select _).bind fun existing => ?_
  cases existing with
  | some f => trivial
  | none =>
    dsimp only
    split
    · trivial
    · split
      · trivial
      · split
        · trivial
        · refine records_getTime.bind fun _ => records_newId.bind fun _ => ?_
          split
          · trivial
          · exact records_newId.bind fun _ => (records_flush (keepsRecord_insertFile _)).bind
              fun _ => records_commitTx.bind fun _ => trivial

/-! ## Settings and the yard -/

theorem records_ruleRequest (q : RuleRequest) : Records q.handler := by
  have hsave (loaded : EntryExitRule) (u : RuleUpdate) : Records (saveRule loaded u) := by
    have hsend : Records (sendChanges loaded u) := by
      unfold sendChanges
      split
      · trivial
      · exact records_flush (keepsRecord_of_eq fun _ => rfl)
    exact hsend.bind fun _ => records_commitTx.bind fun _ => trivial
  have hwith (ruleId : ℕ) {k : EntryExitRule → Handler String} (hk : ∀ r, Records (k r)) :
      Records (withRule ruleId k) := by
    refine (records_select _).bind fun rule => ?_
    cases rule with
    | none => trivial
    | some r => exact hk r
  cases q with
  | update ruleId body => exact hwith ruleId fun r => hsave r _
  | publish ruleId user => exact hwith ruleId fun r => records_getTime.bind fun _ => hsave r _
  | disable ruleId => exact hwith ruleId fun r => hsave r _

theorem AssignmentStmt.keepsRecord {st : Stmt} (h : AssignmentStmt st) : KeepsRecord st := by
  cases h with
  | lock id => exact keepsRecord_of_eq fun _ => rfl
  | insert a => exact keepsRecord_of_eq fun _ => rfl
  | update id status => exact keepsRecord_of_eq fun _ => rfl

theorem records_vacateOccupancy (occupancyId : ℕ) : Records (vacateOccupancy occupancyId) := by
  refine (records_select _).bind fun occupancy => ?_
  cases occupancy with
  | none => trivial
  | some o =>
    have hfree := (writesOnly_freeSpace o.parkingSpaceId).mono fun _ h => h.keepsRecord
    exact records_getTime.bind fun now => (records_flush (keepsRecord_vacate o.id now)).bind
      fun _ => hfree.allWrites.bind fun _ => records_commitTx

theorem records_markRequest (q : MarkRequest) : Records q.handler := by
  cases q with
  | read user notificationId =>
    refine (records_select _).bind fun found => ?_
    cases found with
    | none => trivial
    | some n =>
      dsimp only
      split
      · trivial
      · split
        · exact records_getTime.bind fun _ =>
            (records_flush (keepsRecord_markNotifications _ _ _)).bind fun _ => records_commitTx
        · trivial
  | readAll user =>
    exact records_getTime.bind fun _ => (records_select _).bind fun _ =>
      (records_flush (keepsRecord_markNotifications _ _ _)).bind fun _ => records_commitTx

theorem records_resolvePlateReview (cfg : Config) (recognitionId : ℕ) (r : PlateReviewRequest) :
    Records (resolvePlateReview cfg recognitionId r) := by
  unfold resolvePlateReview
  split
  · trivial
  · refine (records_select _).bind fun found => ?_
    cases found with
    | none => trivial
    | some p =>
      dsimp only
      split
      · trivial
      · split
        · trivial
        · exact records_getTime.bind fun _ => records_newId.bind fun _ =>
            (records_flush (keepsRecord_updateRecognition _ _)).bind fun _ =>
              (records_flush (keepsRecord_insertPlateReviewAudit _)).bind fun _ =>
                records_commitTx.bind fun _ => trivial

/-! ## The registry -/

theorem RowStmt.keepsRecord {dryRun : Bool} {st : Stmt} (h : RowStmt dryRun st) :
    KeepsRecord st := by
  cases h with
  | refused => exact keepsRecord_of_eq fun _ => rfl
  | conflict _ c => exact keepsRecord_insertSyncConflict c
  | newVehicle _ v => exact keepsRecord_of_eq fun _ => rfl
  | oldVehicle _ v => exact keepsRecord_of_eq fun _ => rfl
  | newKey _ ref => exact keepsRecord_of_eq fun _ => rfl
  | oldKey _ id date => exact keepsRecord_of_eq fun _ => rfl
  | permit _ p => exact keepsRecord_of_eq fun _ => rfl

theorem records_createVehicle (cfg : Config) (body : VehicleCreate) :
    Records (createVehicle cfg body) := by
  unfold createVehicle
  split
  · refine (records_select _).bind fun existing => ?_
    split
    · trivial
    · exact (records_select _).bind fun _ => records_newId.bind fun _ =>
        records_getTime.bind fun _ => (records_flush (keepsRecord_of_eq fun _ => rfl)).bind
          fun _ => records_commitTx.bind fun _ => trivial
  · trivial

theorem records_modifyVehicle (cfg : Config) (vehicleId : ℕ) (body : VehicleUpdate) :
    Records (modifyVehicle cfg vehicleId body) := by
  unfold modifyVehicle
  split
  · refine (records_select _).bind fun found => ?_
    cases found with
    | none => trivial
    | some v =>
      refine (records_select _).bind fun taken => ?_
      split
      · trivial
      · refine (records_select _).bind fun region => ?_
        dsimp only
        split
        · trivial
        · exact (records_flush (keepsRecord_of_eq fun _ => rfl)).bind fun _ =>
            records_commitTx.bind fun _ => trivial
  · trivial

theorem records_createPermit (cfg : Config) (body : PermitCreate) (user : Option ℕ) :
    Records (createPermit cfg body user) := by
  refine (records_select _).bind fun plate => ?_
  split
  · trivial
  · exact records_newId.bind fun _ => records_getTime.bind fun _ =>
      (records_flush (keepsRecord_of_eq fun _ => rfl)).bind fun _ =>
        records_commitTx.bind fun _ => trivial

theorem records_createRestriction (cfg : Config) (body : RestrictionCreate) (user : Option ℕ) :
    Records (createRestriction cfg body user) :=
  (records_select _).bind fun _ => records_newId.bind fun _ =>
    (records_flush (keepsRecord_of_eq fun _ => rfl)).bind fun _ =>
      records_commitTx.bind fun _ => trivial

theorem records_syncRun (cfg : Config) (sheet : Option Sheet) (trigger : String) (dryRun : Bool) :
    Records (syncRun cfg sheet trigger dryRun) := by
  have hvalue {α : Type} (value : Option α) : Records (valueOf value) :=
    (writesOnly_valueOf value).allWrites
  have hopen (startedAt : ℤ) : Records (openSyncRun trigger startedAt dryRun) := by
    unfold openSyncRun
    split
    · trivial
    · exact records_newId.bind fun _ => (records_flush (keepsRecord_insertSyncRun _)).bind
        fun _ => trivial
  have hclose (run : VehicleSyncRun) : Records (closeSyncRun run dryRun) := by
    unfold closeSyncRun
    split
    · trivial
    · exact (records_flush (keepsRecord_updateSyncRun run)).bind fun _ => records_commitTx
  have hrows (runId : Option ℕ) (records : List SheetRecord) :
      Records (syncRows cfg runId dryRun 2 records {}) :=
    ((writesOnly_syncRows runId dryRun 2 records {}).mono fun _ h => h.keepsRecord).allWrites
  have hbody (run : VehicleSyncRun) (runId : Option ℕ) :
      Records (syncBody cfg sheet run runId dryRun) :=
    (hvalue sheet).bind fun sheet => (hrows runId sheet.records).bind fun _ =>
      records_getTime.bind fun _ => (hclose _).bind fun _ => trivial
  refine records_getTime.bind fun startedAt => (hopen startedAt).bind fun run => ?_
  refine (hbody run.1 run.2).attempt.bind fun done => ?_
  cases done with
  | ok outcome => trivial
  | error exc => exact records_getTime.bind fun _ => (hclose _).bind fun _ => trivial

theorem records_resolveConflict (cfg : Config) (r : ConflictRequest) :
    Records (resolveConflict cfg r) := by
  have happly (c : VehicleSyncConflict) : Records (applyConflict cfg r c) := by
    unfold applyConflict
    split
    · split
      · trivial
      · have hrow : (upsertVehicle cfg c.row).WritesOnly KeepsRecord :=
          writesOnly_upsertVehicle.mono fun _ h => h.keepsRecord
        exact hrow.allWrites.bind fun _ => trivial
      · trivial
    · trivial
  unfold resolveConflict
  split
  · trivial
  · refine (records_select _).bind fun found => ?_
    cases found with
    | none => trivial
    | some c =>
      dsimp only
      split
      · trivial
      · exact (happly c).bind fun _ => records_getTime.bind fun _ =>
          (records_flush (keepsRecord_updateSyncConflict _ _)).bind fun _ =>
            records_commitTx.bind fun _ => trivial

/-- **Deletions**: what is deleted is not of the record. -/
theorem records_deletion (d : Deletion) : Records d.handler := by
  have hcount (id : ℕ) (keys : List ForeignKey) : Records (countReferences id keys) := by
    induction keys with
    | nil => trivial
    | cons key keys ih => exact (records_select _).bind fun _ => ih.bind fun _ => trivial
  have hguarded {g : DeletionGuard} (id : ℕ) (h : KeepsRecord (deleteRow g id)) :
      Records (guardedDelete g id) := by
    refine (records_select _).bind fun found => ?_
    split
    · refine (hcount id _).bind fun counts => ?_
      split
      · trivial
      · exact (records_flush h).bind fun _ => records_commitTx
    · trivial
  have hloop (rows : List Vehicle) (seen : List String) (report : DedupeReport) :
      Records (dedupeLoop rows seen report) := by
    induction rows generalizing seen report with
    | nil => trivial
    | cons v rest ih =>
      unfold dedupeLoop
      split
      · refine (hcount v.id _).bind fun counts => ?_
        split
        · exact ih _ _
        · exact (records_flush (keepsRecord_of_eq fun _ => rfl)).bind fun _ => ih _ _
      · exact ih _ _
  cases d with
  | tower towerId => exact hguarded towerId (keepsRecord_of_eq fun _ => rfl)
  | unit unitId => exact hguarded unitId (keepsRecord_of_eq fun _ => rfl)
  | person personId => exact hguarded personId (keepsRecord_of_eq fun _ => rfl)
  | duplicates =>
    have hscript : Records dedupeVehicles :=
      (records_select _).bind fun rows => (hloop rows [] {}).bind fun _ =>
        records_commitTx.bind fun _ => trivial
    exact hscript.bind fun _ => trivial

/-! ## Users -/

theorem records_flushUser (id : ℕ) (u : UserUpdate) : Records (flushUser id u) := by
  unfold flushUser
  split
  · trivial
  · exact records_flush (keepsRecord_updateUser id u)

theorem records_revokeAll (userId : ℕ) : Records (revokeAll userId) :=
  records_getTime.bind fun _ => (records_select _).bind fun _ =>
    records_flush (keepsRecord_revokeTokens _ _ _)

theorem records_withUser (userId : ℕ) {change : User → Handler Unit}
    (h : ∀ u, Records (change u)) : Records (withUser userId change) := by
  refine (records_select _).bind fun found => ?_
  cases found with
  | none => trivial
  | some u => exact (h u).bind fun _ => records_commitTx

theorem records_issueTokens (auth : AuthConfig) (user : User) (client : ClientInfo) {dirty : Stmt}
    (h : KeepsRecord dirty) (exchanged : Option ℕ) :
    Records (issueTokens auth user client dirty exchanged) :=
  records_getTime.bind fun _ => records_newId.bind fun _ => records_newId.bind fun _ =>
    records_getTime.bind fun _ => records_getTime.bind fun _ => records_newId.bind fun _ =>
      (records_flush h).bind fun _ => (records_flush (keepsRecord_insertToken _ _)).bind fun _ =>
        records_commitTx.bind fun _ => trivial

theorem records_login (auth : AuthConfig) (username password : String) (client : ClientInfo) :
    Records (login auth username password client) := by
  have hauthenticate : Records (authenticate auth username password) := by
    refine (records_select _).bind fun found => ?_
    cases found with
    | none => trivial
    | some u =>
      dsimp only
      split
      · exact (records_flush (keepsRecord_updateUser _ _)).bind fun _ =>
          records_commitTx.bind fun _ => trivial
      · split
        · trivial
        · split
          · trivial
          · exact records_getTime.bind fun _ => trivial
  exact hauthenticate.bind fun found =>
    records_issueTokens auth found.1 client (keepsRecord_updateUser _ _) none

theorem records_rotateRefresh (auth : AuthConfig) (text : String) (client : ClientInfo) :
    Records (rotateRefresh auth text client) := by
  have hpayload : Records (refreshPayload auth text) := by
    refine records_getTime.bind fun now => ?_
    split
    · trivial
    · split
      · trivial
      · trivial
  refine hpayload.bind fun payload => (records_select _).bind fun stored => ?_
  cases stored with
  | none => trivial
  | some t =>
    dsimp only
    split
    · trivial
    · refine (records_select _).bind fun user => ?_
      cases user with
      | none => trivial
      | some u =>
        dsimp only
        split
        · trivial
        · exact records_getTime.bind fun now =>
            records_issueTokens auth u client (keepsRecord_revokeToken t now) _

theorem records_activateUser (userId : ℕ) : Records (activateUser userId) :=
  records_withUser userId fun _ => records_flushUser _ _

theorem records_deactivateUser (userId admin : ℕ) : Records (deactivateUser userId admin) := by
  unfold deactivateUser
  split
  · trivial
  · exact records_withUser userId fun _ =>
      (records_flushUser _ _).bind fun _ => records_revokeAll _

theorem records_accountRequest (auth : AuthConfig) (q : AccountRequest) :
    Records (q.handler auth) := by
  cases q with
  | login username password client =>
    exact (records_login auth username password client).bind fun _ => trivial
  | refresh token client => exact (records_rotateRefresh auth token client).bind fun _ => trivial
  | activate userId => exact (records_activateUser userId).bind fun _ => trivial
  | deactivate userId admin => exact (records_deactivateUser userId admin).bind fun _ => trivial
  | unlock userId =>
    exact (records_withUser userId fun _ => records_flushUser _ _).bind fun _ => trivial
  | resetPassword userId newPassword =>
    have hreset : Records (resetPassword auth userId newPassword) := by
      unfold resetPassword
      split
      · trivial
      · exact records_withUser userId fun _ => records_newId.bind fun _ =>
          (records_flushUser _ _).bind fun _ => records_revokeAll _
    exact hreset.bind fun _ => trivial

theorem records_getCurrentUser (auth : AuthConfig) (credentials : Option String) :
    Records (getCurrentUser auth credentials) := by
  cases credentials with
  | none => trivial
  | some header =>
    refine records_getTime.bind fun now => ?_
    split
    · trivial
    · split
      · trivial
      · refine (records_select _).bind fun found => ?_
        cases found with
        | none => trivial
        | some u =>
          dsimp only
          split
          · trivial
          · trivial

theorem records_tokenRequest (auth : AuthConfig) (q : TokenRequest) : Records (q.handler auth) := by
  cases q with
  | account request => exact records_accountRequest auth request
  | logout credentials text =>
    have hrevoke : Records (revokePresented auth text) := by
      refine records_getTime.bind fun now => ?_
      split
      · trivial
      · refine (records_select _).bind fun stored => ?_
        cases stored with
        | none => trivial
        | some t =>
          dsimp only
          split
          · trivial
          · exact records_getTime.bind fun now =>
              (records_flush (keepsRecord_revokeToken t now)).bind fun _ => records_commitTx
    have hlogout : Records (logout auth credentials text) :=
      (records_getCurrentUser auth credentials).bind fun _ => hrevoke.attempt.bind fun _ => trivial
    exact hlogout.bind fun _ => trivial

theorem records_staffRequest (hasher : PasswordHasher) (sent : SentRequest) :
    Records (sent.handler hasher) := by
  have hgive (userId : ℕ) (roles : List Role) : Records (giveRoles userId roles) :=
    (writesOnly_giveRoles userId roles fun _ _ => keepsRecord_of_eq fun _ => rfl).allWrites
  have hpermissions (roleId : ℕ) (pcodes : List String) : Records (givePermissions roleId pcodes) :=
    (writesOnly_givePermissions roleId pcodes fun _ => keepsRecord_of_eq fun _ => rfl).allWrites
  have htake (roleId : ℕ) : Records (takePermissions roleId) :=
    (writesOnly_takePermissions roleId fun _ => keepsRecord_of_eq fun _ => rfl).allWrites
  have hpayload (u : User) : Records (userPayload u) := (writesOnly_userPayload u).allWrites
  have hroles (roleCodes : List String) : Records (requestedRoles roleCodes) :=
    (writesOnly_requestedRoles roleCodes).allWrites
  have hbody : Records (sent.request.body hasher sent.currentUser) := by
    cases sent.request with
    | createUser body =>
      have hcreate : Records (createUser hasher body) := by
        unfold createUser
        split
        · trivial
        · split
          · trivial
          · refine (records_select _).bind fun existing => ?_
            split
            · trivial
            · exact (hroles _).bind fun roles => records_newId.bind fun _ =>
                records_newId.bind fun id => (records_flush (keepsRecord_insertUser _)).bind
                  fun _ => (hgive id roles).bind fun _ => records_commitTx.bind fun _ => hpayload _
      exact hcreate.bind fun _ => trivial
    | updateUser userId fullName mobile =>
      have hupdate : Records (updateUserProfile userId fullName mobile) := by
        refine (records_select _).bind fun found => ?_
        cases found with
        | none => trivial
        | some u =>
          have hflush : Records (flushProfile u fullName mobile) := by
            unfold flushProfile
            split
            · trivial
            · exact records_flush (keepsRecord_updateProfile _ _ _)
          exact hflush.bind fun _ => records_commitTx.bind fun _ => hpayload _
      exact hupdate.bind fun _ => trivial
    | assignRoles userId roleCodes =>
      have hassign : Records (assignRoles userId roleCodes) := by
        refine (records_select _).bind fun found => ?_
        cases found with
        | none => trivial
        | some u =>
          exact (hroles _).bind fun roles => (records_select _).bind fun _ =>
            (records_flush (keepsRecord_of_eq fun _ => rfl)).bind fun _ =>
              (hgive u.id roles).bind fun _ => records_commitTx.bind fun _ => hpayload u
      exact hassign.bind fun _ => trivial
    | activate userId => exact records_activateUser userId
    | deactivate userId => exact records_deactivateUser userId sent.currentUser
    | createRole body =>
      have hcreate : Records (createRole body) := by
        unfold createRole
        dsimp only
        split
        · trivial
        · refine (records_select _).bind fun dup => ?_
          split
          · trivial
          · exact records_newId.bind fun id =>
              (records_flush (keepsRecord_of_eq fun _ => rfl)).bind fun _ =>
                (hpermissions id _).bind fun _ => records_commitTx.bind fun _ => trivial
      exact hcreate.bind fun _ => trivial
    | updateRole roleId body =>
      refine (records_select _).bind fun found => ?_
      cases found with
      | none => trivial
      | some r =>
        have hflush (title description : Option String) : Records (flushRole r title description) := by
          unfold flushRole
          split
          · trivial
          · exact records_flush (keepsRecord_of_eq fun _ => rfl)
        have hreplace (pcodes : Option (List String)) : Records (replacePermissions r.id pcodes) := by
          cases pcodes with
          | none => trivial
          | some pcodes => exact (htake r.id).bind fun _ => hpermissions r.id pcodes
        exact (hflush _ _).bind fun _ => (hreplace _).bind fun _ => records_commitTx
    | deleteRole roleId =>
      refine (records_select _).bind fun found => ?_
      cases found with
      | none => trivial
      | some r =>
        dsimp only
        split
        · trivial
        · refine (records_select _).bind fun usersCount => ?_
          split
          · trivial
          · exact (htake r.id).bind fun _ => (records_select _).bind fun _ =>
              (records_flush (keepsRecord_of_eq fun _ => rfl)).bind fun _ =>
                (records_flush (keepsRecord_of_eq fun _ => rfl)).bind fun _ => records_commitTx
  exact (records_of_readOnly (readOnly_requirePermission _ _)).bind fun _ => hbody

end ParkingSystem
