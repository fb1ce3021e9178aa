import ParkingSystem.Finance.ActiveTariff
import ParkingSystem.Finance.LongerStay
import ParkingSystem.Finance.StayPayments
import ParkingSystem.Gate.Passage
import ParkingSystem.Gate.PrepaidSettlement

/-!
# Stays Along a Run

What an event of the gate leaves of the two copies of being paid. An exit closes its session with
a charge that is not PAID, or FREE without one, and the settlement of an exit marks both copies; so
events keep the copies in step along every run, with payments and approvals that settle no stay.
-/

namespace ParkingSystem

open PyValue Table Transaction

/-! ## The settlement of an exit -/

section

variable {clk : ℕ → ℤ} {n : ℕ} {session : ParkingSession} {charge : Charge} {w w' : Session Store}

/-- Statements that leave everything the invariant speaks of. -/
def LeavesStays (st : Stmt) : Prop := ∀ s, SameStays s (st.apply s)

theorem leavesStays_sendDirty (d : Dirty) : ∀ st ∈ sendDirty d d.charge, LeavesStays st := by
  intro st hst s
  rcases List.mem_cons.1 hst with rfl | hst
  · have hstatus : d.charge.status = d.loaded.status := rfl
    exact sameStays_updateCharge hstatus s
  · obtain ⟨a, -, rfl⟩ := List.mem_map.1 hst
    exact .of_tables rfl rfl rfl

theorem leavesStays_flushDirty (d : Dirty) : (flushDirty d).WritesOnly LeavesStays := by
  unfold flushDirty
  split
  · trivial
  · exact (writesOnly_flushAll (leavesStays_sendDirty d)).bind fun _ => trivial

/-- The loop over the payments writes what is paid, and no status. -/
theorem leavesStays_settleLoop (ps : List Payment) (d : Dirty) (creditUsed : ℤ) :
    (settleLoop ps d creditUsed).WritesOnly LeavesStays := by
  induction ps generalizing d creditUsed with
  | nil => trivial
  | cons p ps ih =>
    refine (leavesStays_flushDirty d).bind fun charge => ?_
    refine (Prog.writesOnly_select _).bind fun allocated => ?_
    dsimp only
    split
    · exact ih _ _
    · split
      · trivial
      · exact Prog.writesOnly_newId.bind fun _ => ih _ _

/-- It goes on with the charge it started with. -/
theorem returns_settleLoop (ps : List Payment) (d : Dirty) (creditUsed : ℤ) :
    (settleLoop ps d creditUsed).Returns fun out =>
      out.1.loaded.key = d.loaded.key ∧ out.1.loaded.status = d.loaded.status := by
  have hsent (d : Dirty) :
      (flushDirty d).Returns fun c => c.key = d.loaded.key ∧ c.status = d.loaded.status := by
    unfold flushDirty
    split
    · exact ⟨rfl, rfl⟩
    · exact Prog.returns_bind fun _ => ⟨rfl, rfl⟩
  induction ps generalizing d creditUsed with
  | nil => exact ⟨rfl, rfl⟩
  | cons p ps ih =>
    refine (hsent d).bind fun charge hcharge => ?_
    have hnext (d' : Dirty) (used : ℤ) (hloaded : d'.loaded = charge) :
        (settleLoop ps d' used).Returns fun out =>
          out.1.loaded.key = d.loaded.key ∧ out.1.loaded.status = d.loaded.status :=
      (ih d' used).mono fun out hout => by
        rw [hout.1, hout.2, hloaded]
        exact hcharge
    refine Prog.returns_bind fun allocated => ?_
    dsimp only
    split
    · exact hnext _ _ rfl
    · split
      · exact hcharge
      · exact Prog.returns_bind fun _ => hnext _ _ rfl

theorem sendDirty_tables (d : Dirty) (new : Charge) (s : Store) :
    (applyAll (sendDirty d new) s).sessions = s.sessions ∧
      (applyAll (sendDirty d new) s).charges = chargeWritten d.loaded new s ∧
      (applyAll (sendDirty d new) s).tariffs = s.tariffs := by
  unfold sendDirty
  cases d.allocation with
  | none => exact ⟨rfl, rfl, rfl⟩
  | some a => exact ⟨rfl, rfl, rfl⟩

/-- The end of a settlement that went through. -/
theorem staysKept_finished {d : Dirty} {s : Store} (h : StaysKept n s)
    (hkey : d.loaded.key ∈ s.chargeKeys) (hlink : d.loaded.parkingSessionId = some session.id)
    (hunpaid : d.loaded.status = .unpaid) (hpay : session.paymentStatus = .unpaid) :
    StaysKept n (applyAll (sendDirty d d.charge.settle ++
      if decide (chargeOutstanding d.charge ≤ 0) then
        [updateSession session { session with paymentStatus := .paid }] else []) s) := by
  obtain ⟨hsessions, hcharges, htariffs⟩ := sendDirty_tables d d.charge.settle s
  rw [applyAll_append]
  by_cases hcovered : chargeOutstanding d.charge ≤ 0
  · -- both copies are marked
    rw [decide_eq_true hcovered, if_pos rfl]
    have hpaid : d.charge.settle.status = .paid := by rw [Charge.settle, if_pos hcovered]
    refine h.settle hkey hlink hunpaid hpaid hpay ?_ hcharges htariffs
    exact congrArg _ hsessions
  · rw [decide_eq_false hcovered, if_neg Bool.false_ne_true]
    have hsame : d.charge.settle.status = d.loaded.status := by
      rw [Charge.settle, if_neg hcovered]
      rfl
    exact h.congr (h.same_chargeWritten hkey (fun _ => hsame) hsessions hcharges htariffs)

theorem unpaidSessionCharge_link {id : ℕ} {s : Store} (h : unpaidSessionCharge id s = some charge) :
    charge.parkingSessionId = some id := by
  have hmem := List.mem_of_mem_head? h
  simp only [mem_orderByDesc, List.mem_filter, Bool.and_eq_true, beq_iff_eq] at hmem
  exact hmem.2.1

/-- **The settlement of one charge** keeps the copies in step, on a transaction that stays alive. -/
theorem wp_settleCharge (since grace : ℤ) (h : StaysKept n w.view)
    (hkey : charge.key ∈ w.view.chargeKeys) (hlink : charge.parkingSessionId = some session.id)
    (hunpaid : charge.status = .unpaid) (hpay : session.paymentStatus = .unpaid) :
    (settleCharge session since grace charge).wp clk
      (fun _ w' => w'.broken = false → StaysKept n w'.view) w := by
  refine Prog.wp_select (fun _ _ => h) fun _ => ?_
  let ps := gracePayments session.plateNormalized since w.view
  have hrel := (leavesStays_settleLoop ps { loaded := charge, allocation := none } 0).exec_rel
    SameStays.refl (fun _ _ _ => SameStays.trans) (fun _ hst => hst) clk w
  rcases hloop : (settleLoop ps { loaded := charge, allocation := none } 0).exec clk w with
    ⟨res, w₁⟩
  rw [hloop] at hrel
  have hkept : StaysKept n w₁.view := h.congr hrel.2
  refine Prog.wp_bind (Prog.wp_of_exec hloop ?_)
  cases res with
  | error e => exact fun _ => hkept
  | ok out =>
    obtain ⟨hdkey, hdstatus⟩ := (returns_settleLoop ps _ 0).exec_ok hloop
    have hdlink : out.1.loaded.parkingSessionId = some session.id :=
      (congrArg Prod.snd hdkey).trans hlink
    show (finishSettlement session grace out.1 out.2).wp clk _ w₁
    unfold finishSettlement
    split
    · exact Prog.wp_ret fun _ => hkept
    · rcases hsend : (flushAll _).exec clk w₁ with ⟨sent, w₂⟩
      have hfinished : w₂.broken = false → StaysKept n w₂.view := fun hlive => by
        rw [exec_flushAll_live hsend hlive]
        refine staysKept_finished hkept ?_ hdlink (hdstatus.trans hunpaid) hpay
        rw [hrel.2.keys, hdkey]
        exact hkey
      refine Prog.wp_bind (Prog.wp_of_exec hsend ?_)
      cases sent with
      | error e => exact hfinished
      | ok u => exact Prog.wp_ret hfinished

/-- **The settlement of an exit**, whichever way it ends. -/
theorem staysKept_settleExit {now grace : ℤ}
    {res : Except (Exc AppError) (Option Settlement)} (h : StaysKept n w.view)
    (hpay : session.paymentStatus = .unpaid)
    (hexec : (settleExitWithPrepaidCredit session now grace).exec clk w = (res, w'))
    (hlive : w'.broken = false) : StaysKept n w'.view := by
  have hwp : (settleExitWithPrepaidCredit session now grace).wp clk
      (fun _ w' => w'.broken = false → StaysKept n w'.view) w := by
    unfold settleExitWithPrepaidCredit
    split
    · exact Prog.wp_ret fun _ => h
    · refine Prog.wp_select (fun _ _ => h) fun _ => ?_
      cases hcharge : unpaidSessionCharge session.id w.view with
      | none => exact Prog.wp_ret fun _ => h
      | some charge =>
        obtain ⟨hmem, hunpaid⟩ := unpaidSessionCharge_mem hcharge
        have hlink := unpaidSessionCharge_link hcharge
        dsimp only
        split
        · exact Prog.wp_ret fun _ => h
        · split
          · exact Prog.wp_raise fun _ => h
          · split
            · exact Prog.wp_ret fun _ => h
            · exact wp_settleCharge _ grace h (List.mem_map.2 ⟨charge, hmem, rfl⟩) hlink hunpaid
                hpay
  exact hwp.of_exec hexec hlive

end

/-! ## The closing before it -/

section

variable {cfg : Config} {clk : ℕ → ℤ} {n : ℕ} {session : ParkingSession} {now : ℤ}
  {w w' : Session Store}

theorem stayAmounts_nonneg {s : Store} (h : StaysKept n s) (cfg : Config)
    (session : ParkingSession) (closedAt : ℤ) : 0 ≤ (stayAmounts cfg session closedAt s).final := by
  rw [stayAmounts]
  cases hactive : activeTariff closedAt s with
  | none => exact le_rfl
  | some t =>
    obtain ⟨hhourly, hmax⟩ := h.tariffs t (activeTariff_mem hactive).1
    exact final_nonneg hhourly hmax _

/-- **A closed session**, once its charge was accepted. -/
theorem staysKept_closedStore {s : Store} (h : StaysKept n s) (hmem : session ∈ s.sessions)
    (hopen : session.status = .opened) (closedAt : ℤ) (id : ℕ) (createdAt : ℤ)
    (hnew : 0 < (stayAmounts cfg session closedAt s).final → id ∉ s.chargeKeys.map Prod.fst) :
    StaysKept n (closedStore cfg session now closedAt id createdAt s) := by
  have hcost := stayAmounts_nonneg h cfg session closedAt
  let final := (stayAmounts cfg session closedAt s).final
  let charge := (newChargeOn session final id createdAt).map NewCharge.charge
  have hself := closeRow_self cfg session now closedAt s
  have hcharge {c : Charge} (hc : c ∈ charge) :
      0 < final ∧ c.id = id ∧ c.parkingSessionId = some session.id ∧ c.status = .unpaid := by
    obtain ⟨new, hnew, rfl⟩ := Option.mem_map.1 hc
    unfold newChargeOn at hnew
    split at hnew
    · obtain rfl := Option.some.inj hnew
      exact ⟨‹_›, rfl, rfl, rfl⟩
    · cases hnew
  refine @StaysKept.close n s _ h session hmem hopen (closeRow cfg session now closedAt s)
    (closeRow_id cfg session now closedAt s) ?_ ?_ charge (fun hnone => ?_) (fun c hc => ?_)
    (fun c hc => ?_) rfl ?_ rfl
  · rw [hself]
    rfl
  · rw [hself, closedSession]
    dsimp only
    split <;> simp
  · -- no charge was made, so there was nothing to pay
    have hfree : final = 0 := by
      by_contra hne
      have hpos : 0 < final := by omega
      simp [charge, newChargeOn, hpos] at hnone
    rw [hself, closedSession]
    exact if_pos hfree
  · obtain ⟨-, -, hlink, hunpaid⟩ := hcharge hc
    exact ⟨hlink, by simp [hunpaid]⟩
  · obtain ⟨hpos, rfl, -⟩ := hcharge hc
    exact hnew hpos
  · exact congrArg (s.charges ++ ·) (Option.toList_map ..).symm

/-- The first statement of a list that went through. -/
theorem exec_flushAll_cons_live {st : Stmt} {sts : List Stmt} {res : Except (Exc AppError) Unit}
    (h : (flushAll (st :: sts)).exec clk w = (res, w')) (hlive : w'.broken = false) :
    st.check w.view = none ∧
      (flushAll sts).exec clk { w with view := st.apply w.view } = (res, w') := by
  have hw : w.broken = false := by
    cases hb : w.broken with
    | false => rfl
    | true =>
      have hall : (flushAll (st :: sts)).WritesOnly fun _ => True :=
        writesOnly_flushAll fun _ _ => trivial
      have hbroken := (hall.exec_broken clk hb).1
      rw [h, hlive] at hbroken
      cases hbroken
  cases hcheck : st.check w.view with
  | none => exact ⟨rfl, (Prog.exec_bind_of_ok (Prog.exec_flush_done clk st hw hcheck)).symm.trans h⟩
  | some rej =>
    have hrej := (Prog.exec_bind_of_error (f := fun _ => flushAll sts)
      (Prog.exec_flush_rejected clk st hw hcheck)).symm.trans h
    cases hrej
    cases hlive

/-- A new charge that went through has an identifier of its own. -/
theorem exec_flushClosing_new {c : Closing} {res : Except (Exc AppError) Unit}
    (h : (flushClosing c).exec clk w = (res, w')) (hlive : w'.broken = false) {new : NewCharge}
    (hnew : c.charge = some new) : new.charge.id ∉ w.view.chargeKeys.map Prod.fst := by
  obtain ⟨-, h⟩ := exec_flushAll_cons_live h hlive
  rw [hnew] at h
  obtain ⟨hcheck, -⟩ := exec_flushAll_cons_live h hlive
  intro hmem
  rw [Store.chargeKeys, List.map_map] at hmem
  obtain ⟨r, hr, hid⟩ := List.mem_map.1 hmem
  simp only [insertCharge] at hcheck
  split at hcheck
  · cases hcheck
  · split at hcheck
    · cases hcheck
    · rename_i hany
      exact hany (List.any_eq_true.2 ⟨r, hr, beq_iff_eq.2 hid⟩)

/-- **An exit that closed its session** keeps the copies in step. -/
theorem staysKept_closeExit {policy : String} {duration : ℤ} {base : BaseDecision}
    (h : StaysKept n w.view) (hmem : session ∈ w.view.sessions) (hopen : session.status = .opened)
    (hexec : (closeExit cfg policy session duration now).exec clk w = (.ok base, w'))
    (hlive : w'.broken = false) : StaysKept n w'.view := by
  obtain ⟨c, w₁, hclose, hexec⟩ := Prog.exec_bind_ok hexec
  obtain ⟨rfl, hview₁, -⟩ := exec_closeSessionAmounts_ok hclose
  obtain ⟨⟨status, warnings⟩, w₂, hsettle, hexec⟩ := Prog.exec_bind_ok hexec
  obtain rfl : w₂ = w' := congrArg Prod.snd hexec
  let closing := (closingOn cfg { session with exitAt := some now } (clk w.tick) w.nextId
    (clk (w.tick + 1)) w.view).closed
  have hsettle : (settleExit cfg closing now).exec clk w₁ = (.ok (status, warnings), w₂) := hsettle
  have hsettle := (Prog.exec_bind_of_ok
    (Prog.exec_attempt clk (flushClosing closing) w₁)).symm.trans hsettle
  rcases hflush : (flushClosing closing).exec clk w₁ with ⟨sent, w₃⟩
  simp only [hflush] at hsettle
  have hclosed (hlive₃ : w₃.broken = false) : StaysKept n w₃.view := by
    have hview : w₃.view = closedStore cfg session now (clk w.tick) w.nextId (clk (w.tick + 1))
        w.view := by
      rw [exec_flushAll_live hflush hlive₃, hview₁]
      exact applyAll_closing session now (clk w.tick) w.nextId (clk (w.tick + 1)) w.view
    rw [hview]
    refine staysKept_closedStore h hmem hopen _ _ _ fun hpos => ?_
    have hsome : closing.charge = some
        { charge := { id := w.nextId, parkingSessionId := some session.id
                      amount := (stayAmounts cfg session (clk w.tick) w.view).final
                      createdAt := clk (w.tick + 1) }
          positive := hpos, nothingPaid := rfl, unpaid := rfl } := dif_pos hpos
    have hnew := exec_flushClosing_new hflush hlive₃ hsome
    rwa [hview₁] at hnew
  split at hsettle
  · -- the settlement starts from the closed session
    rename_i hpay
    obtain ⟨grace, w₄, hgrace, hsettle⟩ := Prog.exec_bind_ok hsettle
    have hsettle := (Prog.exec_bind_of_ok (Prog.exec_attempt clk
      (settleExitWithPrepaidCredit closing.session now grace) w₄)).symm.trans hsettle
    obtain rfl := congrArg Prod.snd hsettle
    have hread := (readOnly_exitGrace cfg).exec_readOnly clk w₃
    rw [hgrace] at hread
    have hlive₄ := exec_settling (writesOnly_settleExitWithPrepaidCredit _ now grace) rfl hlive
    refine staysKept_settleExit ?_ hpay rfl hlive
    rw [hread.2.1]
    exact hclosed (hread.2.2.symm.trans hlive₄.1)
  · obtain rfl : w₃ = w₂ := congrArg Prod.snd hsettle
    exact hclosed hlive

end

/-! ## Events -/

section

variable {cfg : Config} {clk : ℕ → ℤ} {e : PlateEvent} {n : ℕ}

/-- Recording an event adds a session at most. -/
theorem recordedStore_finance (e : PlateEvent) (r : Reading) (v : Verdict) (n : ℕ) (s : Store) :
    (recordedStore e r v n s).charges = s.charges ∧
      (recordedStore e r v n s).tariffs = s.tariffs := by
  by_cases hopens : opensSession e v
  · rw [recordedStore_opens hopens, entryStore]
    unfold spaceTaken
    split
    · exact ⟨rfl, rfl⟩
    · split <;> exact ⟨rfl, rfl⟩
  · by_cases hreleases : releases e v
    · rw [recordedStore_releases hreleases]
      unfold exitStore spaceFreed
      split
      · exact ⟨rfl, rfl⟩
      · split
        · exact ⟨rfl, rfl⟩
        · split <;> exact ⟨rfl, rfl⟩
    · rw [recordedStore_neither hopens hreleases]
      exact ⟨rfl, rfl⟩

/-- **A decision** keeps the copies in step, on a transaction that stays alive. -/
theorem Decided.staysKept {gate : Gate} {w w₁ w₂ : Session Store} {base : BaseDecision}
    {v : Verdict} (h : Decided cfg clk e gate w base w₁ v w₂) (hlive : w₂.broken = false)
    (hkept : StaysKept n w.view) : StaysKept n w₂.view := by
  obtain ⟨rs, hview⟩ := atDecision_view cfg e gate clk w
  have hrun := h.run
  have hstart : StaysKept n (e.atDecision cfg gate clk w).view := by
    rw [hview]
    exact hkept.congr (.of_tables rfl rfl rfl)
  rw [h.view]
  cases hcase : e.branch cfg gate clk w with
  | fixed d =>
    rw [hcase] at hrun
    obtain rfl : e.atDecision cfg gate clk w = w₁ := congrArg Prod.snd hrun
    exact hstart
  | entryCounts p =>
    rw [hcase] at hrun
    obtain ⟨_, w', hflush, hret⟩ := Prog.exec_bind_ok hrun
    obtain ⟨_, _, rfl⟩ := Prog.exec_flush_ok hflush
    obtain rfl := congrArg Prod.snd hret
    exact hstart.congr (.of_tables rfl rfl rfl)
  | exitCloses policy session =>
    rw [hcase] at hrun
    obtain ⟨_, _, _, _, hsession⟩ := baseCase_closes hcase
    obtain ⟨hmem, -, hopen⟩ := latestOpenSession_mem hsession
    exact staysKept_closeExit hstart (by rw [hview]; exact hmem) hopen hrun (h.broken ▸ hlive)

/-- **An event** keeps the copies in step. -/
theorem staysKept_processPlateEvent (e : PlateEvent) {w : Session Store}
    (h : StaysKept w.nextId w.committed) :
    StaysKept ((processPlateEvent cfg e).after clk w).nextId
      ((processPlateEvent cfg e).after clk w).committed := by
  have hn := Prog.exec_nextId_le clk (processPlateEvent cfg e) (.fresh w.committed w.nextId w.tick)
  rcases hexec : (processPlateEvent cfg e).exec clk (.fresh w.committed w.nextId w.tick) with
    ⟨exc | resp, w'⟩
  all_goals
    rw [Prog.after_of_exec hexec]
    rw [hexec] at hn
  · have hsame := processPlateEvent_error hexec
    show StaysKept w'.nextId w'.committed
    rw [hsame]
    exact h.mono hn
  · show StaysKept w'.nextId w'.committed
    cases hkey : eventByKey e.key w.committed with
    | some event =>
      have hsame : w'.committed = w.committed := (processPlateEvent_duplicate rfl hkey hexec).1
      rw [hsame]
      exact h.mono hn
    | none =>
      obtain ⟨gate, base, w₁, v, w₂, hdecided, hending⟩ :=
        processPlateEvent_ok rfl rfl hkey hexec
      have hunchanged (hsame : w'.committed = w₂.committed) : StaysKept w'.nextId w'.committed := by
        rw [hsame, hdecided.committed]
        exact h.mono hn
      cases hending with
      | dry _ _ hcommitted => exact hunchanged hcommitted
      | conflict _ _ _ _ _ hcommitted => exact hunchanged hcommitted
      | stored _ hlive _ hcommitted hsession hdrawn =>
        have hkept : StaysKept w.nextId w₂.view := hdecided.staysKept hlive h
        obtain ⟨hcharges, htariffs⟩ := recordedStore_finance e
          (e.readingIn cfg gate clk (.fresh w.committed w.nextId w.tick)) v w₂.nextId w₂.view
        rw [hcommitted]
        by_cases hopens : opensSession e v
        · have hrows := @recordedStore_sessions_opens e (e.readingIn cfg gate clk
            (.fresh w.committed w.nextId w.tick)) v w₂.nextId w₂.view hopens
          have hlast := hdrawn hopens
          have hfirst : w.nextId ≤ w₂.nextId := hdecided.drawn
          cases hplate : (entrySession e (e.readingIn cfg gate clk
            (.fresh w.committed w.nextId w.tick)) w₂.nextId (w₂.nextId + 1)).plate with
          | none =>
            rw [hplate] at hrows
            refine (hkept.mono hn).congr (.of_tables ?_ hcharges htariffs)
            simpa using hrows
          | some plate =>
            -- the new session has the second of the identifiers that were drawn
            rw [hplate] at hrows
            refine hkept.open ?_ ?_ rfl (fun hpaid => by cases hpaid) hrows hcharges htariffs
            · show w.nextId ≤ w₂.nextId + 1
              omega
            · show w₂.nextId + 1 < w'.nextId
              omega
        · refine (hkept.mono hn).congr (.of_tables ?_ hcharges htariffs)
          exact recordedStore_sessions hopens

end

/-! ## Runs -/

/-- A request that has to do with stays or with what is paid. -/
inductive StayRequest where
  | plateEvent (e : PlateEvent)
  | createPayment (body : PaymentCreate) (user : Option ℕ)
  | createAdjustment (body : AdjustmentCreate) (user : Option ℕ)
  | approveAdjustment (adjustmentId : ℕ) (user : Option ℕ)

namespace StayRequest

/-- The handler of a request, without its answer. -/
def handler (cfg : Config) : StayRequest → Handler Unit
  | plateEvent e => (processPlateEvent cfg e).bind fun _ => .ret ()
  | createPayment body user => (ParkingSystem.createPayment cfg body user).bind fun _ => .ret ()
  | createAdjustment body user => (ParkingSystem.createAdjustment body user).bind fun _ => .ret ()
  | approveAdjustment adjustmentId user =>
    (ParkingSystem.approveAdjustment cfg adjustmentId user).bind fun _ => .ret ()

/-- A request that pays no stay in full beside its session. -/
def Apart (cfg : Config) (clk : ℕ → ℤ) : StayRequest → Session Store → Prop
  | createPayment body user, w => ¬ body.PaysStay cfg clk user w
  | approveAdjustment adjustmentId user, w => ¬ ApprovesStay cfg adjustmentId user w.committed
  | _, _ => True

end StayRequest

/-- **Step**: a request that pays no stay in full keeps the copies in step. -/
theorem staysKept_after (cfg : Config) (clk : ℕ → ℤ) (req : StayRequest) {w : Session Store}
    (hapart : req.Apart cfg clk w) (h : StaysKept w.nextId w.committed) :
    StaysKept ((req.handler cfg).after clk w).nextId ((req.handler cfg).after clk w).committed := by
  cases req with
  | plateEvent e =>
    rw [StayRequest.handler, Prog.after_bind_ret]
    exact staysKept_processPlateEvent e h
  | createPayment body user =>
    rw [StayRequest.handler, Prog.after_bind_ret]
    exact staysKept_createPayment cfg clk body user h hapart
  | createAdjustment body user =>
    rw [StayRequest.handler, Prog.after_bind_ret]
    exact staysKept_createAdjustment body user h
  | approveAdjustment adjustmentId user =>
    rw [StayRequest.handler, Prog.after_bind_ret]
    exact staysKept_approveAdjustment adjustmentId user h hapart

/-- **Stays in step**: along every run of events, payments and approvals in which none of them pays
a stay in full beside its session, a CLOSED session and its charge say the same of being paid. -/
theorem stays_in_step (cfg : Config) (clk : ℕ → ℤ) (requests : List StayRequest)
    (w : Session Store) (hw : StaysKept w.nextId w.committed)
    (hrequests : Prog.EachMeets clk (StayRequest.handler cfg) (StayRequest.Apart cfg clk)
      requests w) :
    InStep (Prog.afterEach clk (StayRequest.handler cfg) requests w).committed :=
  (Prog.EachMeets.invariant (I := fun w => StaysKept w.nextId w.committed)
    (fun req _ hapart h => staysKept_after cfg clk req hapart h) hrequests hw).inStep

/-! ### An hour, and who pays it -/

/-- A car that is inside, an hour of which costs 1000. -/
def leavingYard : Store :=
  { hourlyYard with
    sessions := [{ id := 4, vehicleId := some 1, plateNormalized := "12B345IR67"
                   entryEventId := none, entryAt := 0 }] }

/-- It leaves, and pays this much afterwards. -/
def leaveAndPay (amount : ℤ) (h : 0 < amount) : List StayRequest :=
  [.plateEvent { gateCode := "G1", direction := "OUT", plateRaw := "12ب34567"
                 sourceEventId := "1" },
    .createPayment { plateRaw := some "12ب34567", amount, referenceNumber := some "R1"
                     positive := h } none]

theorem staysKept_leavingYard : StaysKept 10 leavingYard := by
  refine ⟨⟨?_, ?_, ?_, ?_⟩, ?_, ?_, ?_, ?_, ?_⟩ <;> decide

/-- The charge of the hour. -/
def hourCharge : Charge :=
  { id := 11, parkingSessionId := some 4, amount := 1000, createdAt := 3600000000 }

/-- A part of the price leaves the copies in step. -/
theorem stays_in_step_part :
    InStep (Prog.afterEach (fun _ => 3600000000) (StayRequest.handler {})
      (leaveAndPay 400 (by decide)) (.fresh leavingYard 10 0)).committed := by
  refine stays_in_step {} (fun _ => 3600000000) (leaveAndPay 400 (by decide))
    (.fresh leavingYard 10 0) staysKept_leavingYard ⟨trivial, ?_, trivial⟩
  rintro ⟨-, c, -, before, after, hdebts, -, hcovered⟩
  -- the hour is all that the plate owes
  have hone : allocationQuery (some "12B345IR67") (Prog.afterEach (fun _ => 3600000000)
      (StayRequest.handler {}) ((leaveAndPay 400 (by decide)).take 1)
      (.fresh leavingYard 10 0)).committed = [hourCharge] := by decide +kernel
  have hdebts : [hourCharge] = before ++ c :: after := hone.symm.trans hdebts
  cases before with
  | nil =>
    obtain rfl : hourCharge = c := (List.cons.inj hdebts).1
    revert hcovered
    decide
  | cons b before =>
    have hlength := congrArg List.length hdebts
    simp at hlength

/-- **A stay that is paid in full after the exit**: its charge is PAID, its session is not. -/
theorem paid_charge_unpaid_session :
    ¬ ∀ (cfg : Config) (clk : ℕ → ℤ) (requests : List StayRequest) (w : Session Store),
      StaysKept w.nextId w.committed →
      InStep (Prog.afterEach clk (StayRequest.handler cfg) requests w).committed := by
  intro h
  have hstep := h {} (fun _ => 3600000000) (leaveAndPay 1000 (by decide)) (.fresh leavingYard 10 0)
    staysKept_leavingYard
  revert hstep
  decide +kernel

end ParkingSystem
