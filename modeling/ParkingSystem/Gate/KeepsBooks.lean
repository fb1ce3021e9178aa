import ParkingSystem.Finance.KeepsBooks
import ParkingSystem.Gate.Statements

/-!
# The Gate Keeps the Books

Whatever a plate event leads to, the handler keeps the books: the only statements of the gate
on the ledger's tables are those of a closing and of its settlement, and what the handler does
after a failure it swallowed happens on a broken transaction.
-/

namespace ParkingSystem

open Table Transaction

section

variable {ρ : Regime Store Label} {R : Interference Store Lock} {strict : Prop}

/-! ## The decision -/

theorem ledgerSafe_settleExit (hM : LedgerMode ρ R strict) (cfg : Config) (c : Closing)
    (now : ℤ) : LedgerSafe ρ R strict (settleExit cfg c now) := by
  refine (ledgerSafe_flushClosing hM c).attempt.bind hM fun _ => ?_
  split
  · exact (ledgerSafe_readOnly hM (readOnly_exitGrace cfg)).bind hM fun grace =>
      (ledgerSafe_settleExitWithPrepaidCredit hM c.session now grace).attempt.bind hM fun _ =>
        ledgerSafe_ret hM _
  · exact ledgerSafe_ret hM _

theorem ledgerSafe_closeExit (hM : LedgerMode ρ R strict) (cfg : Config) (policy : String)
    (session : ParkingSession) (duration now : ℤ) :
    LedgerSafe ρ R strict (closeExit cfg policy session duration now) :=
  (ledgerSafe_closeSessionAmounts hM cfg session _).bind hM fun closing =>
    (ledgerSafe_settleExit hM cfg closing.closed now).bind hM fun _ => ledgerSafe_ret hM _

theorem ledgerSafe_exitDecision (hM : LedgerMode ρ R strict) (cfg : Config) (plate : String)
    (now : ℤ) : LedgerSafe ρ R strict (exitDecision cfg plate now) := by
  refine (ledgerSafe_select hM _).bind hM fun session => ?_
  cases session with
  | none => exact ledgerSafe_ret hM _
  | some session =>
    refine (ledgerSafe_readOnly hM (readOnly_resolveExitPolicy cfg)).bind hM fun policy => ?_
    refine (ledgerSafe_readOnly hM (readOnly_exitPreview cfg _ _ _ _)).bind hM fun preview => ?_
    cases preview with
    | some amounts => exact ledgerSafe_ret hM _
    | none => exact ledgerSafe_closeExit hM cfg policy session _ now

theorem ledgerSafe_entryDecision (hM : LedgerMode ρ R strict) (cfg : Config)
    (plate gateId : String) (now : ℤ) :
    LedgerSafe ρ R strict (entryDecision cfg plate gateId now) := by
  refine (ledgerSafe_select hM _).bind hM fun permit => ?_
  cases permit with
  | error reason => exact ledgerSafe_ret hM _
  | ok p =>
    refine (ledgerSafe_select hM _).bind hM fun sessions => ?_
    split
    · exact ledgerSafe_ret hM _
    · refine (ledgerSafe_readOnly hM (readOnly_checkYardCapacity cfg)).bind hM fun full => ?_
      cases full with
      | some reason => exact ledgerSafe_ret hM _
      | none =>
        have hpermit : LedgerSafe ρ R strict (Prog.flush (updatePermit p)) :=
          ledgerSafe_flush hM fun _ => ⟨rfl, rfl, rfl, rfl, rfl⟩
        exact hpermit.bind hM fun _ => ledgerSafe_ret hM _

theorem ledgerSafe_baseDecision (hM : LedgerMode ρ R strict) (cfg : Config)
    (direction gateId : String) (normalized : Option String) (vehicle : Option Vehicle)
    (now : ℤ) :
    LedgerSafe ρ R strict (baseDecision cfg direction gateId normalized vehicle now) := by
  unfold baseDecision
  split
  · exact ledgerSafe_ret hM _
  · exact ledgerSafe_ret hM _
  · split
    · exact ledgerSafe_ret hM _
    · refine (ledgerSafe_select hM _).bind hM fun restriction => ?_
      split
      · exact ledgerSafe_ret hM _
      · split
        · exact ledgerSafe_exitDecision hM cfg _ now
        · exact ledgerSafe_entryDecision hM cfg _ gateId now

/-! ## Recording and answering -/

/-- The statements of a reading are on other tables. -/
theorem ReadingStmt.ledgerSame {st : Stmt} (h : ReadingStmt st) (x : Store) :
    LedgerSame x (st.apply x) := by
  cases h
  exact ⟨rfl, rfl, rfl, rfl, rfl⟩

theorem SpaceStmt.ledgerSame {st : Stmt} (h : SpaceStmt st) (x : Store) :
    LedgerSame x (st.apply x) := by
  cases h <;> exact ⟨rfl, rfl, rfl, rfl, rfl⟩

/-- So are those of an entry. -/
theorem EntryStmt.ledgerSame {st : Stmt} (h : EntryStmt st) (x : Store) :
    LedgerSame x (st.apply x) := by
  cases h with
  | session n => exact ⟨rfl, rfl, rfl, rfl, rfl⟩
  | occupancy o => exact ⟨rfl, rfl, rfl, rfl, rfl⟩
  | space h => exact h.ledgerSame x

/-- So are those of an exit. -/
theorem ExitStmt.ledgerSame {st : Stmt} (h : ExitStmt st) (x : Store) :
    LedgerSame x (st.apply x) := by
  cases h with
  | occupancy id now => exact ⟨rfl, rfl, rfl, rfl, rfl⟩
  | space h => exact h.ledgerSame x

theorem ledgerSafe_recordEvent (hM : LedgerMode ρ R strict) (e : PlateEvent) (r : Reading)
    (v : Verdict) : LedgerSafe ρ R strict (recordEvent e r v) := by
  refine (ledgerSafe_newId hM).bind hM fun id => ?_
  refine LedgerSafe.bind hM (ledgerSafe_flush hM fun _ => ⟨rfl, rfl, rfl, rfl, rfl⟩) fun _ => ?_
  have hentry : LedgerSafe ρ R strict (recordEntry e r v id) :=
    ledgerSafe_of_writesOnly hM ((writesOnly_recordEntry e r v id).mono fun _ h => h.ledgerSame)
  have hexit : LedgerSafe ρ R strict (recordExit e r v) :=
    ledgerSafe_of_writesOnly hM ((writesOnly_recordExit e r v).mono fun _ h => h.ledgerSame)
  exact hentry.bind hM fun _ => hexit.bind hM fun _ =>
    (ledgerSafe_commit hM).bind hM fun _ => ledgerSafe_ret hM _

theorem ledgerSafe_recoverConflict (hM : LedgerMode ρ R strict) (e : PlateEvent) (r : Reading) :
    LedgerSafe ρ R strict (recoverConflict e r) := by
  refine (ledgerSafe_rollback hM).bind hM fun _ => ?_
  refine (ledgerSafe_select hM _).bind hM fun dup => ?_
  cases dup with
  | some event => exact ledgerSafe_readOnly hM (readOnly_duplicateResponse _ _ _)
  | none =>
    refine (ledgerSafe_readOnly hM (readOnly_conflictSession e r)).bind hM fun session => ?_
    cases session with
    | some session => exact ledgerSafe_ret hM _
    | none => exact ledgerSafe_throw hM _

theorem ledgerSafe_finishEvent (hM : LedgerMode ρ R strict) (e : PlateEvent) (r : Reading)
    (v : Verdict) : LedgerSafe ρ R strict (finishEvent e r v) := by
  unfold finishEvent
  split
  · exact ledgerSafe_readOnly hM (readOnly_respond e r v _ _ _ _)
  · refine (ledgerSafe_recordEvent hM e r v).attempt.bind hM fun recorded => ?_
    split
    · exact ledgerSafe_readOnly hM (readOnly_respond e r v _ _ _ _)
    · exact ledgerSafe_recoverConflict hM e r
    · exact ledgerSafe_throw hM _

/-- **The gate keeps the books.** -/
theorem ledgerSafe_processPlateEvent (hM : LedgerMode ρ R strict) (cfg : Config)
    (e : PlateEvent) : LedgerSafe ρ R strict (processPlateEvent cfg e) := by
  refine (ledgerSafe_getTime hM).bind hM fun now => ?_
  refine (ledgerSafe_select hM _).bind hM fun gate => ?_
  cases gate with
  | none => exact ledgerSafe_throw hM _
  | some gate =>
    refine (ledgerSafe_select hM _).bind hM fun existing => ?_
    cases existing with
    | some event => exact ledgerSafe_readOnly hM (readOnly_duplicateResponse _ _ _)
    | none =>
      have hread : LedgerSafe ρ R strict (readPlate cfg e gate now) := ledgerSafe_of_writesOnly hM
        ((writesOnly_readPlate cfg e gate now).mono fun _ h => h.ledgerSame)
      refine hread.bind hM fun r => ?_
      exact ((ledgerSafe_baseDecision hM cfg _ _ _ _ _).bind hM fun base =>
        ledgerSafe_readOnly hM (readOnly_laterLayers cfg e r base)).bind hM fun v =>
          ledgerSafe_finishEvent hM e r v

end

end ParkingSystem
