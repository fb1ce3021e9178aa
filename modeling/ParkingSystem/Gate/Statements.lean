import ParkingSystem.Gate.Process

/-!
# What the Gate Sends

For every part of `process_plate_event`, the statements it may send. A property of a part is
then a property of its statements: which tables they leave alone, which constraint may refuse
them.
-/

namespace ParkingSystem

open Table Transaction

/-! ## Reading parts of the gate -/

theorem readOnly_exitPreview (cfg : Config) (policy : String) (session : ParkingSession)
    (duration now : ℤ) : (exitPreview cfg policy session duration now).ReadOnly := by
  unfold exitPreview
  split
  · exact (Prog.writesOnly_select _).bind fun _ =>
      (readOnly_resolveTariffPolicy cfg).bind fun _ => trivial
  · trivial

theorem readOnly_vehicleByPlate (plate : Option String) : (vehicleByPlate plate).ReadOnly := by
  cases plate with
  | none => trivial
  | some plate => exact Prog.writesOnly_select _

theorem readOnly_unitInfo (vehicle : Option Vehicle) : (unitInfo vehicle).ReadOnly := by
  cases vehicle with
  | none => trivial
  | some v => exact readOnly_vehicleUnitInfo v

theorem readOnly_duplicateResponse (event : AccessEvent) (gate : Gate) (extra : List Warning) :
    (duplicateResponse event gate extra).ReadOnly := by
  have hvehicle : (eventVehicle event).ReadOnly := by
    unfold eventVehicle
    cases event.vehicleId with
    | none => trivial
    | some id => exact Prog.writesOnly_select _
  exact hvehicle.bind fun v => (readOnly_unitInfo v).bind fun _ => trivial

theorem readOnly_conflictSession (e : PlateEvent) (r : Reading) :
    (conflictSession e r).ReadOnly := by
  unfold conflictSession
  split
  · split
    · exact Prog.writesOnly_select _
    · trivial
  · trivial

theorem readOnly_shownSpace (e : PlateEvent) (r : Reading) (parking : Option ParkingInfo) :
    (shownSpace e r parking).ReadOnly := by
  unfold shownSpace
  split
  · exact (readOnly_findAssignedSpace _).bind fun _ => trivial
  · trivial

theorem readOnly_respond (e : PlateEvent) (r : Reading) (v : Verdict) (event : AccessEvent)
    (id : Option ℕ) (parking : Option ParkingInfo) (warnings : List Warning) :
    (respond e r v event id parking warnings).ReadOnly :=
  (readOnly_unitInfo _).bind fun _ => (readOnly_shownSpace e r parking).bind fun _ => trivial

theorem readOnly_laterLayers (cfg : Config) (e : PlateEvent) (r : Reading)
    (base : BaseDecision) : (laterLayers cfg e r base).ReadOnly :=
  Prog.writesOnly_getTime.bind fun _ =>
    (readOnly_applyRulesForEvent cfg _ _).attempt.bind fun _ => trivial

/-- An answer says what an event says. -/
structure AnswersFor (event : AccessEvent) (id : Option ℕ) (resp : GateResponse) : Prop where
  id : resp.accessEventId = id
  decision : resp.decision = event.decision
  barrier : resp.barrierAction = barrierActionFor event.decision

theorem returns_duplicateResponse (event : AccessEvent) (gate : Gate) (extra : List Warning) :
    (duplicateResponse event gate extra).Returns (AnswersFor event (some event.id)) :=
  Prog.returns_bind fun _ => Prog.returns_bind fun _ => ⟨rfl, rfl, rfl⟩

theorem returns_respond (e : PlateEvent) (r : Reading) (v : Verdict) (event : AccessEvent)
    (id : Option ℕ) (parking : Option ParkingInfo) (warnings : List Warning) :
    (respond e r v event id parking warnings).Returns (AnswersFor event id) :=
  Prog.returns_bind fun _ => Prog.returns_bind fun _ => ⟨rfl, rfl, rfl⟩

/-! ## Statements by part -/

/-- The statement that stores a recognition. -/
inductive ReadingStmt : Stmt → Prop
  | recognition (p : PlateRecognitionEvent) : ReadingStmt (insertRecognition p)

/-- The statements of a settlement: a charge that is paid, what it is paid from, and a session
that is PAID with its charge. -/
inductive SettleStmt : Stmt → Prop
  | charge (loaded new : Charge) : SettleStmt (updateCharge loaded new)
  | allocation (a : PaymentAllocation) : SettleStmt (insertAllocation a)
  | paid (session : ParkingSession) :
    SettleStmt (updateSession session { session with paymentStatus := .paid })

/-- The statements of the decision: those of a closing, of its settlement, and the counter of
a permit. -/
inductive DecisionStmt : Stmt → Prop
  | session (loaded new : ParkingSession) : DecisionStmt (updateSession loaded new)
  | newCharge (n : NewCharge) : DecisionStmt (insertCharge n.charge)
  | charge (loaded new : Charge) : DecisionStmt (updateCharge loaded new)
  | allocation (a : PaymentAllocation) : DecisionStmt (insertAllocation a)
  | permit (p : AccessPermit) : DecisionStmt (updatePermit p)

theorem SettleStmt.decision {st : Stmt} (h : SettleStmt st) : DecisionStmt st := by
  cases h with
  | charge loaded new => exact .charge loaded new
  | allocation a => exact .allocation a
  | paid session => exact .session _ _

/-- The statements of the space of an occupancy. -/
inductive SpaceStmt : Stmt → Prop
  | lock (id : ℕ) : SpaceStmt (lockSpace id)
  | update (id : ℕ) (status : String) : SpaceStmt (updateSpace id status)

/-- The statements that record an entry. -/
inductive EntryStmt : Stmt → Prop
  | session (n : NewSession) : EntryStmt (insertSession n)
  | occupancy (o : ParkingOccupancy) : EntryStmt (insertOccupancy o)
  | space {st : Stmt} (h : SpaceStmt st) : EntryStmt st

/-- The statements that record an exit. -/
inductive ExitStmt : Stmt → Prop
  | occupancy (id : ℕ) (now : ℤ) : ExitStmt (vacate id now)
  | space {st : Stmt} (h : SpaceStmt st) : ExitStmt st

theorem writesOnly_readPlate (cfg : Config) (e : PlateEvent) (gate : Gate) (now : ℤ) :
    (readPlate cfg e gate now).WritesOnly ReadingStmt := by
  unfold readPlate
  refine (readOnly_evaluateCapture cfg _ _ _).writesOnly.bind fun envelope => ?_
  have hstore (normalized : Option String) (review : ReviewStatus) :
      (storeRecognition e gate normalized now envelope review).WritesOnly ReadingStmt := by
    unfold storeRecognition
    split
    · trivial
    · exact Prog.writesOnly_newId.bind fun _ =>
        (Prog.writesOnly_flush (.recognition _)).bind fun _ => trivial
  exact (hstore _ _).bind fun _ => (readOnly_vehicleByPlate _).writesOnly.bind fun _ => trivial

theorem writesOnly_flushAll {P : Stmt → Prop} {sts : List Stmt} (h : ∀ st ∈ sts, P st) :
    (flushAll sts).WritesOnly P := by
  induction sts with
  | nil => trivial
  | cons st sts ih =>
    exact (Prog.writesOnly_flush (h st List.mem_cons_self)).bind fun _ =>
      ih fun st' hst' => h st' (List.mem_cons_of_mem st hst')

theorem settleStmt_sendDirty (d : Dirty) (c : Charge) :
    ∀ st ∈ sendDirty d c, SettleStmt st := by
  intro st hst
  rcases List.mem_cons.1 hst with rfl | hst
  · exact .charge _ _
  · obtain ⟨a, _, rfl⟩ := List.mem_map.1 hst
    exact .allocation a

theorem writesOnly_flushDirty (d : Dirty) : (flushDirty d).WritesOnly SettleStmt := by
  unfold flushDirty
  split
  · trivial
  · exact (writesOnly_flushAll (settleStmt_sendDirty d _)).bind fun _ => trivial

theorem writesOnly_settleLoop (ps : List Payment) (d : Dirty) (creditUsed : ℤ) :
    (settleLoop ps d creditUsed).WritesOnly SettleStmt := by
  induction ps generalizing d creditUsed with
  | nil => trivial
  | cons p ps ih =>
    refine (writesOnly_flushDirty d).bind fun charge => ?_
    refine (Prog.writesOnly_select _).bind fun allocated => ?_
    dsimp only
    split
    · exact ih _ _
    · split
      · trivial
      · exact Prog.writesOnly_newId.bind fun _ => ih _ _

theorem writesOnly_finishSettlement (session : ParkingSession) (graceMinutes : ℤ) (d : Dirty)
    (creditUsed : ℤ) :
    (finishSettlement session graceMinutes d creditUsed).WritesOnly SettleStmt := by
  unfold finishSettlement
  split
  · trivial
  · refine (writesOnly_flushAll fun st hst => ?_).bind fun _ => trivial
    rcases List.mem_append.1 hst with hst | hst
    · exact settleStmt_sendDirty d _ st hst
    · -- the session is PAID with its charge, or left alone
      split at hst
      · obtain rfl := List.mem_singleton.1 hst
        exact .paid _
      · cases hst

theorem writesOnly_settleExitWithPrepaidCredit (session : ParkingSession)
    (now graceMinutes : ℤ) :
    (settleExitWithPrepaidCredit session now graceMinutes).WritesOnly SettleStmt := by
  unfold settleExitWithPrepaidCredit
  split
  · trivial
  · refine (Prog.writesOnly_select _).bind fun charge => ?_
    cases charge with
    | none => trivial
    | some charge =>
      dsimp only
      split
      · trivial
      · split
        · trivial
        · split
          · trivial
          · exact (Prog.writesOnly_select _).bind fun payments =>
              (writesOnly_settleLoop payments _ 0).bind fun _ =>
                writesOnly_finishSettlement session graceMinutes _ _

theorem writesOnly_closeSessionAmounts (cfg : Config) (loaded session : ParkingSession) :
    (closeSessionAmounts cfg loaded session).WritesOnly DecisionStmt :=
  Prog.writesOnly_getTime.bind fun _ =>
    (Prog.writesOnly_flush (.session _ _)).bind fun _ =>
      (Prog.writesOnly_select _).bind fun _ =>
        (readOnly_resolveTariffPolicy cfg).writesOnly.bind fun _ =>
          (readOnly_newCharge _ _).writesOnly.bind fun _ => trivial

theorem writesOnly_flushClosing (c : Closing) : (flushClosing c).WritesOnly DecisionStmt := by
  refine writesOnly_flushAll fun st hst => ?_
  rcases List.mem_cons.1 hst with rfl | hst
  · exact .session _ _
  · obtain ⟨n, _, rfl⟩ := List.mem_map.1 hst
    exact .newCharge n

theorem writesOnly_settleExit (cfg : Config) (c : Closing) (now : ℤ) :
    (settleExit cfg c now).WritesOnly DecisionStmt := by
  refine (writesOnly_flushClosing c).attempt.bind fun _ => ?_
  split
  · exact (readOnly_exitGrace cfg).writesOnly.bind fun grace =>
      ((writesOnly_settleExitWithPrepaidCredit _ _ grace).mono fun _ h =>
        h.decision).attempt.bind fun _ => trivial
  · trivial

theorem writesOnly_exitDecision (cfg : Config) (plate : String) (now : ℤ) :
    (exitDecision cfg plate now).WritesOnly DecisionStmt := by
  refine (Prog.writesOnly_select _).bind fun session => ?_
  cases session with
  | none => trivial
  | some session =>
    refine (readOnly_resolveExitPolicy cfg).writesOnly.bind fun policy => ?_
    refine (readOnly_exitPreview cfg _ _ _ _).writesOnly.bind fun preview => ?_
    cases preview with
    | some amounts => trivial
    | none =>
      exact (writesOnly_closeSessionAmounts cfg _ _).bind fun closing =>
        (writesOnly_settleExit cfg closing.closed now).bind fun _ => trivial

theorem writesOnly_entryDecision (cfg : Config) (plate gateId : String) (now : ℤ) :
    (entryDecision cfg plate gateId now).WritesOnly DecisionStmt := by
  refine (Prog.writesOnly_select _).bind fun permit => ?_
  cases permit with
  | error reason => trivial
  | ok p =>
    refine (Prog.writesOnly_select _).bind fun sessions => ?_
    split
    · trivial
    · refine (readOnly_checkYardCapacity cfg).writesOnly.bind fun full => ?_
      cases full with
      | some reason => trivial
      | none => exact (Prog.writesOnly_flush (.permit p)).bind fun _ => trivial

theorem writesOnly_baseDecision (cfg : Config) (direction gateId : String)
    (normalized : Option String) (vehicle : Option Vehicle) (now : ℤ) :
    (baseDecision cfg direction gateId normalized vehicle now).WritesOnly DecisionStmt := by
  unfold baseDecision
  split
  · trivial
  · trivial
  · split
    · trivial
    · refine (Prog.writesOnly_select _).bind fun restriction => ?_
      split
      · trivial
      · split
        · exact writesOnly_exitDecision cfg _ now
        · exact writesOnly_entryDecision cfg _ gateId now

theorem writesOnly_decideEvent (cfg : Config) (e : PlateEvent) (r : Reading) :
    (decideEvent cfg e r).WritesOnly DecisionStmt :=
  (writesOnly_baseDecision cfg _ _ _ _ _).bind fun base =>
    (readOnly_laterLayers cfg e r base).writesOnly

theorem writesOnly_takeSpace (space : ParkingSpace) :
    (takeSpace space).WritesOnly SpaceStmt := by
  refine (Prog.writesOnly_flush (.lock _)).bind fun _ => ?_
  refine (Prog.writesOnly_select _).bind fun row => ?_
  split_ifs
  · trivial
  all_goals first
    | trivial
    | exact (Prog.writesOnly_flush (.update _ _)).bind fun _ => trivial

theorem writesOnly_occupySpace (e : PlateEvent) (r : Reading) (eventId : ℕ) :
    (occupySpace e r eventId).WritesOnly EntryStmt := by
  refine (readOnly_findAssignedSpace _).writesOnly.bind fun space => ?_
  refine Prog.writesOnly_newId.bind fun _ => ?_
  refine (Prog.writesOnly_flush (.occupancy _)).bind fun _ => ?_
  cases space with
  | none => trivial
  | some space => exact (writesOnly_takeSpace space).mono fun _ => .space

theorem writesOnly_recordEntry (e : PlateEvent) (r : Reading) (v : Verdict) (eventId : ℕ) :
    (recordEntry e r v eventId).WritesOnly EntryStmt := by
  unfold recordEntry
  split
  · exact Prog.writesOnly_newId.bind fun _ => (Prog.writesOnly_flush (.session _)).bind fun _ =>
      writesOnly_occupySpace e r eventId
  · trivial

theorem writesOnly_freeSpace (id : Option ℕ) : (freeSpace id).WritesOnly SpaceStmt := by
  cases id with
  | none => trivial
  | some id =>
    refine (Prog.writesOnly_select _).bind fun space => ?_
    split
    · exact Prog.writesOnly_flush (.update _ _)
    · trivial

theorem writesOnly_recordExit (e : PlateEvent) (r : Reading) (v : Verdict) :
    (recordExit e r v).WritesOnly ExitStmt := by
  unfold recordExit
  split
  · cases r.vehicle with
    | none => trivial
    | some vehicle =>
      refine (Prog.writesOnly_select _).bind fun occupancy => ?_
      cases occupancy with
      | none => trivial
      | some o =>
        exact (Prog.writesOnly_flush (.occupancy _ _)).bind fun _ =>
          (writesOnly_freeSpace _).mono fun _ => .space
  · trivial

/-! ## The whole handler -/

/-- The statements of `process_plate_event`. -/
inductive GateStmt : Stmt → Prop
  | reading {st : Stmt} (h : ReadingStmt st) : GateStmt st
  | decision {st : Stmt} (h : DecisionStmt st) : GateStmt st
  | event (ev : AccessEvent) : GateStmt (insertEvent ev)
  | entry {st : Stmt} (h : EntryStmt st) : GateStmt st
  | exit {st : Stmt} (h : ExitStmt st) : GateStmt st

/-- What holds of every statement of an event: of its readings, decisions and bookkeeping, and of
the INSERT of its own row. -/
structure CoversEvent (P : Stmt → Prop) (e : PlateEvent) : Prop where
  reading : ∀ {st}, ReadingStmt st → P st
  decision : ∀ {st}, DecisionStmt st → P st
  event : ∀ r v id, P (insertEvent (eventRow e r v id))
  entry : ∀ {st}, EntryStmt st → P st
  exit : ∀ {st}, ExitStmt st → P st

section Covers

variable {P : Stmt → Prop} {e : PlateEvent}

theorem CoversEvent.recordEvent (h : CoversEvent P e) (r : Reading) (v : Verdict) :
    (recordEvent e r v).AllWrites P := by
  refine Prog.AllWrites.bind (fun _ => trivial) fun id => ?_
  refine (Prog.writesOnly_flush (h.event r v id)).allWrites.bind fun _ => ?_
  have hentry := (writesOnly_recordEntry e r v id).mono fun _ => h.entry
  have hexit := (writesOnly_recordExit e r v).mono fun _ => h.exit
  exact hentry.allWrites.bind fun _ => hexit.allWrites.bind fun _ =>
    Prog.allWrites_commitTx.bind fun _ => trivial

theorem allWrites_recoverConflict (e : PlateEvent) (r : Reading) :
    (recoverConflict e r).AllWrites P := by
  have hdup (event : AccessEvent) : (duplicateResponse event r.gate
      [.text "CONCURRENT_CONFLICT"]).AllWrites P :=
    (readOnly_duplicateResponse _ _ _).writesOnly.allWrites
  refine Prog.AllWrites.bind trivial fun _ => ?_
  refine (Prog.writesOnly_select _).allWrites.bind fun dup => ?_
  cases dup with
  | some event => exact hdup event
  | none =>
    refine (readOnly_conflictSession e r).writesOnly.allWrites.bind fun session => ?_
    cases session <;> trivial

theorem CoversEvent.finishEvent (h : CoversEvent P e) (r : Reading) (v : Verdict) :
    (finishEvent e r v).AllWrites P := by
  have hrespond (event : AccessEvent) (id : Option ℕ) (parking : Option ParkingInfo)
      (warnings : List Warning) : (respond e r v event id parking warnings).AllWrites P :=
    (readOnly_respond e r v _ _ _ _).writesOnly.allWrites
  unfold ParkingSystem.finishEvent
  split
  · exact hrespond _ _ _ _
  · refine (h.recordEvent r v).attempt.bind fun recorded => ?_
    split
    · exact hrespond _ _ _ _
    · exact allWrites_recoverConflict e r
    · trivial

/-- **What the gate sends for an event.** -/
theorem CoversEvent.processPlateEvent (h : CoversEvent P e) (cfg : Config) :
    (processPlateEvent cfg e).AllWrites P := by
  refine Prog.AllWrites.bind (fun _ => trivial) fun now => ?_
  refine (Prog.writesOnly_select _).allWrites.bind fun gate => ?_
  cases gate with
  | none => trivial
  | some gate =>
    refine (Prog.writesOnly_select _).allWrites.bind fun existing => ?_
    cases existing with
    | some event => exact (readOnly_duplicateResponse _ _ _).writesOnly.allWrites
    | none =>
      have hread := (writesOnly_readPlate cfg e gate now).mono fun _ => h.reading
      refine hread.allWrites.bind fun r => ?_
      have hdecide := (writesOnly_decideEvent cfg e r).mono fun _ => h.decision
      exact hdecide.allWrites.bind fun v => h.finishEvent r v

end Covers

theorem coversEvent_gateStmt (e : PlateEvent) : CoversEvent GateStmt e :=
  { reading := .reading, decision := .decision, event := fun _ _ _ => .event _
    entry := .entry, exit := .exit }

/-- **What the gate sends.** -/
theorem allWrites_processPlateEvent (cfg : Config) (e : PlateEvent) :
    (processPlateEvent cfg e).AllWrites GateStmt := (coversEvent_gateStmt e).processPlateEvent cfg

end ParkingSystem
