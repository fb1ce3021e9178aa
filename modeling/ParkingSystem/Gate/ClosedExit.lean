import ParkingSystem.Gate.Outcome

/-!
# What an Exit Leaves

A closed session carries the instant of the request, not of the event, as its exit, and a
duration and a price taken from the clock once more; the settlement that may follow changes
what is paid and nothing else.
-/

namespace ParkingSystem

open PyValue Table Transaction

/-! ## Settlements -/

/-- A session without what a settlement changes. -/
def ParkingSession.unsettled (r : ParkingSession) : ParkingSession :=
  { r with paymentStatus := .unpaid }

/-- A charge without what a settlement changes. -/
def Charge.unsettled (c : Charge) : Charge := { c with paidAmount := 0, status := .unpaid }

/-- A store without what a settlement changes. -/
def Store.unsettled (s : Store) : Store :=
  { s with
    sessions := s.sessions.map ParkingSession.unsettled
    charges := s.charges.map Charge.unsettled
    allocations := [] }

theorem SettleStmt.unsettled {st : Stmt} (h : SettleStmt st) (s : Store) :
    (st.apply s).unsettled = s.unsettled := by
  cases h with
  | charge loaded new =>
    have hmap : (updateWhere (fun r => r.id == loaded.id) (loaded.written new) s.charges).map
        Charge.unsettled = s.charges.map Charge.unsettled := 
      map_updateWhere (f := loaded.written new) (fun _ => rfl) _
    simp [Store.unsettled, updateCharge, hmap]
  | allocation a => rfl
  | paid session =>
    have hmap : (updateWhere (fun r => r.id == session.id)
        (session.written { session with paymentStatus := .paid }) s.sessions).map
          ParkingSession.unsettled = s.sessions.map ParkingSession.unsettled :=
      map_updateWhere (fun r => by simp [ParkingSession.written, ParkingSession.unsettled]) _
    simp [Store.unsettled, updateSession, hmap]

/-! ## Closing -/

/-- A session as it is closed on a store, at `now` by the request and at `closedAt` by the
pricing. -/
def closedSession (cfg : Config) (session : ParkingSession) (now closedAt : ℤ) (s : Store) :
    ParkingSession :=
  { (session.stayed closedAt).priced (activeTariff closedAt s)
      (stayAmounts cfg session closedAt s) with
    exitAt := some now
    status := .closed
    paymentStatus := if (stayAmounts cfg session closedAt s).final = 0 then .free else .unpaid }

/-- What closing makes of the rows of a session. -/
def closeRow (cfg : Config) (session : ParkingSession) (now closedAt : ℤ) (s : Store)
    (r : ParkingSession) : ParkingSession :=
  let left := { session with exitAt := some now }
  (left.stayed closedAt).written (closedSession cfg session now closedAt s)
    (session.written (left.stayed closedAt) r)

@[simp] theorem closeRow_id (cfg : Config) (session : ParkingSession) (now closedAt : ℤ)
    (s : Store) (r : ParkingSession) : (closeRow cfg session now closedAt s r).id = r.id := rfl

@[simp] theorem closeRow_plate (cfg : Config) (session : ParkingSession) (now closedAt : ℤ)
    (s : Store) (r : ParkingSession) :
    (closeRow cfg session now closedAt s r).plateNormalized = r.plateNormalized := rfl

/-- The row that was loaded becomes the closed session. -/
theorem closeRow_self (cfg : Config) (session : ParkingSession) (now closedAt : ℤ) (s : Store) :
    closeRow cfg session now closedAt s session = closedSession cfg session now closedAt s := by
  simp [closeRow, closedSession, ParkingSession.written, ParkingSession.stayed,
    ParkingSession.priced]

/-- An OPEN session is closed whatever row it was. -/
theorem closeRow_status (cfg : Config) {session : ParkingSession} (hopen : session.status = .opened)
    (now closedAt : ℤ) (s : Store) (r : ParkingSession) :
    (closeRow cfg session now closedAt s r).status = .closed := by
  simp [closeRow, closedSession, ParkingSession.written, ParkingSession.stayed,
    ParkingSession.priced, hopen, changed]

/-- The store once a session was closed and its charge made. -/
def closedStore (cfg : Config) (session : ParkingSession) (now closedAt : ℤ) (id : ℕ)
    (createdAt : ℤ) (s : Store) : Store :=
  { s with
    sessions := updateWhere (fun r => r.id == session.id)
      (closeRow cfg session now closedAt s) s.sessions
    charges := s.charges ++
      (newChargeOn session (stayAmounts cfg session closedAt s).final id createdAt).toList.map
        NewCharge.charge }

section

variable {cfg : Config} {clk : ℕ → ℤ}

/-- What the closing and the charge send comes to. -/
theorem applyAll_closing (session : ParkingSession) (now closedAt : ℤ) (id : ℕ) (createdAt : ℤ)
    (s : Store) :
    let c := (closingOn cfg { session with exitAt := some now } closedAt id createdAt s).closed
    applyAll (updateSession c.loaded c.session :: c.charge.toList.map fun n => insertCharge n.charge)
      ((updateSession session (({ session with exitAt := some now } : ParkingSession).stayed
        closedAt)).apply s) = closedStore cfg session now closedAt id createdAt s := by
  intro c
  have hcharges (ns : List NewCharge) (x : Store) :
      applyAll (ns.map fun n => insertCharge n.charge) x =
        { x with charges := x.charges ++ ns.map NewCharge.charge } := by
    induction ns generalizing x with
    | nil => simp
    | cons n ns ih =>
      rw [List.map_cons, applyAll_cons, ih]
      simp [insertCharge]
  have hrows := updateWhere_updateWhere (p := fun r : ParkingSession => r.id == session.id)
    (f := session.written (({ session with exitAt := some now } : ParkingSession).stayed closedAt))
    (g := c.loaded.written c.session) (fun _ => rfl) s.sessions
  rw [applyAll_cons, hcharges]
  exact congrArg (fun rows => ({ s with
    sessions := rows, charges := s.charges ++ c.charge.toList.map NewCharge.charge } : Store)) hrows

/-- Sending statements that left the transaction alive, sent them all. -/
theorem exec_flushAll_live {sts : List Stmt} {w w' : Session Store}
    {res : Except (Exc AppError) Unit} (h : (flushAll sts).exec clk w = (res, w'))
    (hlive : w'.broken = false) : w'.view = applyAll sts w.view := by
  induction sts generalizing w with
  | nil =>
    cases h
    rfl
  | cons st sts ih =>
    have hw : w.broken = false := by
      cases hb : w.broken with
      | false => rfl
      | true =>
        have hall : (flushAll (st :: sts)).WritesOnly fun _ => True :=
          writesOnly_flushAll fun _ _ => trivial
        have hbroken := (hall.exec_broken clk hb).1
        rw [h, hlive] at hbroken
        cases hbroken
    cases hcheck : st.check w.view with
    | none => exact ih ((Prog.exec_bind_of_ok (Prog.exec_flush_done clk st hw hcheck)).symm.trans h)
    | some rej =>
      have hrej := (Prog.exec_bind_of_error (f := fun _ => flushAll sts)
        (Prog.exec_flush_rejected clk st hw hcheck)).symm.trans h
      cases hrej
      cases hlive

/-- A settlement that left the transaction alive found it alive, and settled at most. -/
theorem exec_settling {α : Type} {p : Handler α} (hp : p.WritesOnly SettleStmt)
    {w w' : Session Store} {res : Except (Exc AppError) α} (h : p.exec clk w = (res, w'))
    (hlive : w'.broken = false) :
    w.broken = false ∧ w'.view.unsettled = w.view.unsettled := by
  constructor
  · cases hb : w.broken with
    | false => rfl
    | true =>
      have hbroken := (hp.exec_broken clk hb).1
      rw [h, hlive] at hbroken
      cases hbroken
  · have hrel := hp.exec_rel (R := fun s s' => s'.unsettled = s.unsettled) (fun _ => rfl)
      (by intro s₁ s₂ s₃ h₁ h₂; exact h₂.trans h₁) (fun _ hst s => hst.unsettled s) clk w
    rw [h] at hrel
    exact hrel.2

theorem exec_settleExit_live {c : Closing} {now : ℤ} {w w' : Session Store}
    {res : Except (Exc AppError) (PaymentStatus × List Warning)}
    (h : (settleExit cfg c now).exec clk w = (res, w')) (hlive : w'.broken = false) :
    w'.view.unsettled = (applyAll (updateSession c.loaded c.session ::
      c.charge.toList.map fun n => insertCharge n.charge) w.view).unsettled := by
  have h := (Prog.exec_bind_of_ok (Prog.exec_attempt clk (flushClosing c) w)).symm.trans h
  rcases hflush : (flushClosing c).exec clk w with ⟨sent, w₁⟩
  simp only [hflush] at h
  have hsettles : w₁.broken = false ∧ w'.view.unsettled = w₁.view.unsettled := by
    split at h
    · refine exec_settling ?_ h hlive
      exact (readOnly_exitGrace cfg).writesOnly.bind fun grace =>
        (writesOnly_settleExitWithPrepaidCredit _ _ grace).attempt.bind fun _ => trivial
    · exact exec_settling (p := .ret _) trivial h hlive
  rw [hsettles.2, exec_flushAll_live hflush hsettles.1]

/-- **An exit that closed its session**, on a transaction that is still alive: up to a
settlement the store is the closed one. -/
theorem exec_closeExit_ok {policy : String} {session : ParkingSession} {duration now : ℤ}
    {w w' : Session Store} {base : BaseDecision}
    (h : (closeExit cfg policy session duration now).exec clk w = (.ok base, w'))
    (hlive : w'.broken = false) :
    base.decision = .allow ∧ base.reason = "EXIT_SESSION_CLOSED" ∧
      w'.view.unsettled = (closedStore cfg session now (clk w.tick) w.nextId (clk (w.tick + 1))
        w.view).unsettled := by
  obtain ⟨c, w₁, hclose, h⟩ := Prog.exec_bind_ok h
  obtain ⟨rfl, hview₁, _⟩ := exec_closeSessionAmounts_ok hclose
  obtain ⟨⟨status, warnings⟩, w₂, hsettle, h⟩ := Prog.exec_bind_ok h
  obtain ⟨rfl, rfl⟩ : _ = base ∧ w₂ = w' :=
    ⟨Except.ok.inj (congrArg Prod.fst h), congrArg Prod.snd h⟩
  refine ⟨rfl, rfl, ?_⟩
  rw [exec_settleExit_live hsettle hlive, hview₁, ← applyAll_closing]
  rfl

end

end ParkingSystem
