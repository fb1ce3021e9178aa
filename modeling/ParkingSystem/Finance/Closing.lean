import ParkingSystem.Finance.Tariff

/-!
# Closing a Session

`close_session_amounts` prices a session and makes its charge; `settle_exit_with_prepaid_credit`
pays the charge from recent payments of the same plate that still have credit.

## The session as a unit of work

Attribute changes of loaded rows and new rows stay in memory until the next query sends them
(autoflush). The programs keep them as values and flush them right before that query. An
UPDATE writes only the columns whose value differs from the loaded one.
-/

namespace ParkingSystem

open Table Transaction

/-! ## Statements -/

/-- A column after an UPDATE: written only when it changed since the row was loaded. -/
def changed {α : Type} [DecidableEq α] (loaded new current : α) : α :=
  if new = loaded then current else new

@[simp] theorem changed_self {α : Type} [DecidableEq α] (loaded new : α) :
    changed loaded new loaded = new := by
  unfold changed
  split
  · exact Eq.symm ‹_›
  · rfl

@[simp] theorem changed_same {α : Type} [DecidableEq α] (loaded current : α) :
    changed loaded loaded current = current := by
  simp [changed]

/-- The columns of a session that closing it writes. -/
def ParkingSession.written (loaded new r : ParkingSession) : ParkingSession :=
  { r with
    exitAt := changed loaded.exitAt new.exitAt r.exitAt
    durationSeconds := changed loaded.durationSeconds new.durationSeconds r.durationSeconds
    status := changed loaded.status new.status r.status
    tariffId := changed loaded.tariffId new.tariffId r.tariffId
    baseAmount := changed loaded.baseAmount new.baseAmount r.baseAmount
    discountAmount := changed loaded.discountAmount new.discountAmount r.discountAmount
    penaltyAmount := changed loaded.penaltyAmount new.penaltyAmount r.penaltyAmount
    finalAmount := changed loaded.finalAmount new.finalAmount r.finalAmount
    paymentStatus := changed loaded.paymentStatus new.paymentStatus r.paymentStatus }

@[simp] theorem ParkingSession.written_id (loaded new r : ParkingSession) :
    (ParkingSession.written loaded new r).id = r.id := rfl

@[simp] theorem ParkingSession.written_plate (loaded new r : ParkingSession) :
    (ParkingSession.written loaded new r).plateNormalized = r.plateNormalized := rfl

/-- UPDATE of a session. Closing it removes it from the index of open sessions, so an insert
of the same plate waits for the transaction. -/
def updateSession (loaded new : ParkingSession) : Stmt where
  label := .updateSession
  locks := [.sessionRow loaded.id, .openPlate loaded.plateNormalized]
  check _ :=
    if new.durationSeconds.all fitsInt && fitsBigInt new.baseAmount &&
        fitsBigInt new.discountAmount && fitsBigInt new.penaltyAmount &&
        fitsBigInt new.finalAmount then none
    else some .data
  apply s := { s with
    sessions := updateWhere (fun r => r.id == loaded.id) (loaded.written new) s.sessions }

/-- INSERT of a charge. -/
def insertCharge (c : Charge) : Stmt where
  label := .insertCharge
  locks := [.chargeRow c.id]
  check s :=
    if !fitsBigInt c.amount then some .data
    else if s.charges.any fun r => r.id == c.id then some .integrity
    else none
  apply s := { s with charges := s.charges ++ [c] }

/-- The columns of a charge that a payment writes. -/
def Charge.written (loaded new r : Charge) : Charge :=
  { r with
    paidAmount := changed loaded.paidAmount new.paidAmount r.paidAmount
    status := changed loaded.status new.status r.status }

@[simp] theorem Charge.written_id (loaded new r : Charge) :
    (Charge.written loaded new r).id = r.id := rfl

@[simp] theorem Charge.written_amount (loaded new r : Charge) :
    (Charge.written loaded new r).amount = r.amount := rfl

/-- UPDATE of a charge. -/
def updateCharge (loaded new : Charge) : Stmt where
  label := .updateCharge loaded
  locks := [.chargeRow loaded.id]
  check _ := none
  apply s := { s with
    charges := updateWhere (fun r => r.id == loaded.id) (loaded.written new) s.charges }

/-- INSERT of an allocation. -/
def insertAllocation (a : PaymentAllocation) : Stmt where
  label := .insertAllocation
  locks := []
  check _ := none
  apply s := { s with allocations := s.allocations ++ [a] }

/-! ## Pricing -/

/-- The tariffs in the order they are tried: priority first, then the latest. -/
def activeTariffs (s : Store) : List Tariff :=
  orderByDesc Tariff.priority (orderByDesc Tariff.createdAt
    (s.tariffs.filter fun t => t.status == "ACTIVE"))

/-- Whether a tariff is in force. -/
def Tariff.inForce (now : ℤ) (t : Tariff) : Bool :=
  !(t.validFrom.any fun f => now < f) && !(t.validUntil.any fun u => u < now)

/-- The tariff in force on a store. -/
def activeTariff (now : ℤ) (s : Store) : Option Tariff :=
  (activeTariffs s).find? (Tariff.inForce now)

/-- `get_active_tariff`. -/
def getActiveTariff (now : ℤ) : Handler (Option Tariff) := .select (activeTariff now)

/-- Whole seconds from one instant to another, never negative. -/
def secondsBetween (entryAt now : ℤ) : ℤ := max 0 ((now - entryAt) / 1000000)

/-- The session priced with some amounts. -/
def ParkingSession.priced (session : ParkingSession) (tariff : Option Tariff)
    (amounts : Amounts) : ParkingSession :=
  { session with
    tariffId := tariff.map Tariff.id
    baseAmount := amounts.base
    penaltyAmount := amounts.penalty
    discountAmount := amounts.discount
    finalAmount := amounts.final }

/-- A charge about to be inserted: there is something to pay, and nothing is paid yet. -/
structure NewCharge where
  charge : Charge
  positive : 0 < charge.amount
  nothingPaid : charge.paidAmount = 0
  unpaid : charge.status = .unpaid

/-- A priced session over the row as it was last sent, the new charge that goes with it, and
the amounts. -/
structure Closing where
  loaded : ParkingSession
  session : ParkingSession
  charge : Option NewCharge
  amounts : Amounts

/-- The new charge of a session, if there is anything to pay. -/
def newCharge (session : ParkingSession) (final : ℤ) : Handler (Option NewCharge) :=
  if h : 0 < final then do
    let id ← Prog.newId
    let createdAt ← Prog.getTime
    return some
      { charge := { id, parkingSessionId := some session.id, amount := final, createdAt }
        positive := h, nothingPaid := rfl, unpaid := rfl }
  else return none

theorem readOnly_newCharge (session : ParkingSession) (final : ℤ) :
    (newCharge session final).ReadOnly := by
  unfold newCharge
  split
  · exact Prog.writesOnly_newId.bind fun _ => Prog.writesOnly_getTime.bind fun _ => trivial
  · trivial

/-- `close_session_amounts`, on a session loaded as `loaded` and changed in memory since. The
first query sends the changes made so far; the priced session and the charge are left to the
caller's next query. -/
def closeSessionAmounts (cfg : Config) (loaded session : ParkingSession) : Handler Closing := do
  let now ← Prog.getTime
  let duration := secondsBetween session.entryAt now
  let session := { session with durationSeconds := some duration }
  Prog.flush (updateSession loaded session)
  let tariff ← getActiveTariff now
  let policy ← resolveTariffPolicy cfg
  let amounts := calculateAmounts cfg.tehran tariff duration (some session.entryAt) policy
  let charge ← newCharge session amounts.final
  return { loaded := session, session := session.priced tariff amounts, charge, amounts }

/-- What a session costs when it is closed at an instant. -/
def stayAmounts (cfg : Config) (session : ParkingSession) (closedAt : ℤ) (s : Store) : Amounts :=
  calculateAmounts cfg.tehran (activeTariff closedAt s) (secondsBetween session.entryAt closedAt)
    (some session.entryAt) (tariffPolicy cfg s)

/-- A session with the duration it has when it is closed at an instant. -/
def ParkingSession.stayed (session : ParkingSession) (closedAt : ℤ) : ParkingSession :=
  { session with durationSeconds := some (secondsBetween session.entryAt closedAt) }

/-- The new charge of a session, with its identifier and its creation time. -/
def newChargeOn (session : ParkingSession) (final : ℤ) (id : ℕ) (createdAt : ℤ) :
    Option NewCharge :=
  if h : 0 < final then
    some { charge := { id, parkingSessionId := some session.id, amount := final, createdAt }
           positive := h, nothingPaid := rfl, unpaid := rfl }
  else none

/-- A closing on a store. -/
def closingOn (cfg : Config) (session : ParkingSession) (closedAt : ℤ) (id : ℕ) (createdAt : ℤ)
    (s : Store) : Closing :=
  { loaded := session.stayed closedAt
    session := (session.stayed closedAt).priced (activeTariff closedAt s)
      (stayAmounts cfg session closedAt s)
    charge := newChargeOn session (stayAmounts cfg session closedAt s).final id createdAt
    amounts := stayAmounts cfg session closedAt s }

theorem exec_newCharge (clk : ℕ → ℤ) (session : ParkingSession) (final : ℤ) (w : Session Store) :
    ∃ w', (newCharge session final).exec clk w =
        (.ok (newChargeOn session final w.nextId (clk w.tick)), w') ∧
      w'.committed = w.committed ∧ w'.view = w.view ∧ w'.broken = w.broken := by
  unfold newCharge newChargeOn
  split
  · exact ⟨{ w with nextId := w.nextId + 1, tick := w.tick + 1 }, rfl, rfl, rfl, rfl⟩
  · exact ⟨w, rfl, rfl, rfl, rfl⟩

/-- **Closing a session**, where its duration is accepted. -/
theorem exec_closeSessionAmounts (cfg : Config) {clk : ℕ → ℤ} {loaded session : ParkingSession}
    {w : Session Store} (hw : w.broken = false)
    (hcheck : (updateSession loaded (session.stayed (clk w.tick))).check w.view = none) :
    ∃ w', (closeSessionAmounts cfg loaded session).exec clk w =
        (.ok (closingOn cfg session (clk w.tick) w.nextId (clk (w.tick + 1)) w.view), w') ∧
      w'.committed = w.committed ∧
      w'.view = (updateSession loaded (session.stayed (clk w.tick))).apply w.view ∧
      w'.broken = false := by
  have hw₁ : ({ w with tick := w.tick + 1 } : Session Store).broken = false := hw
  have hw₂ : ({ w with
    view := (updateSession loaded (session.stayed (clk w.tick))).apply w.view
    tick := w.tick + 1 } : Session Store).broken = false := hw
  obtain ⟨w', hcharge, hcommitted, hview, hbroken⟩ := exec_newCharge clk
    (session.stayed (clk w.tick)) (stayAmounts cfg session (clk w.tick) w.view).final { w with
      view := (updateSession loaded (session.stayed (clk w.tick))).apply w.view
      tick := w.tick + 1 }
  refine ⟨w', ?_, hcommitted, hview, hbroken.trans hw⟩
  refine (Prog.exec_bind_of_ok (Prog.exec_getTime clk w)).trans ?_
  refine (Prog.exec_bind_of_ok (Prog.exec_flush_done clk _ hw₁ hcheck)).trans ?_
  refine (Prog.exec_bind_of_ok (Prog.exec_select clk _ hw₂)).trans ?_
  refine (Prog.exec_bind_of_ok (reads_resolveTariffPolicy cfg clk _ hw₂)).trans ?_
  exact (Prog.exec_bind_of_ok hcharge).trans rfl

/-- A closing that returned is the closing on the view. -/
theorem exec_closeSessionAmounts_ok {cfg : Config} {clk : ℕ → ℤ}
    {loaded session : ParkingSession} {w w' : Session Store} {c : Closing}
    (h : (closeSessionAmounts cfg loaded session).exec clk w = (.ok c, w')) :
    c = closingOn cfg session (clk w.tick) w.nextId (clk (w.tick + 1)) w.view ∧
      w'.view = (updateSession loaded (session.stayed (clk w.tick))).apply w.view ∧
      w'.broken = false := by
  have hpeel := (Prog.exec_bind_of_ok (Prog.exec_getTime clk w)).symm.trans h
  obtain ⟨_, _, hflush, _⟩ := Prog.exec_bind_ok hpeel
  obtain ⟨hw, hcheck, _⟩ := Prog.exec_flush_ok hflush
  obtain ⟨w₁, hexec, _, hview, hbroken⟩ := exec_closeSessionAmounts cfg (w := w) hw hcheck
  obtain ⟨hc, rfl⟩ := Prod.mk.inj (hexec.symm.trans h)
  exact ⟨(Except.ok.inj hc).symm, hview, hbroken⟩

/-- Send a list of statements. -/
def flushAll : List Stmt → Handler Unit
  | [] => return ()
  | st :: sts => do
    Prog.flush st
    flushAll sts

theorem flushAll_append {α : Type} (sts sts' : List Stmt) (k : Unit → Handler α) :
    (flushAll (sts ++ sts')).bind k = (flushAll sts).bind fun _ => (flushAll sts').bind k := by
  induction sts with
  | nil => rfl
  | cons st sts ih =>
    simp only [List.cons_append, flushAll, Prog.bind_eq, Prog.bind_assoc, ih]

/-- What a list of statements does. -/
def applyAll (sts : List Stmt) (s : Store) : Store := sts.foldl (fun s st => st.apply s) s

@[simp] theorem applyAll_nil (s : Store) : applyAll [] s = s := rfl

@[simp] theorem applyAll_cons (st : Stmt) (sts : List Stmt) (s : Store) :
    applyAll (st :: sts) s = applyAll sts (st.apply s) := rfl

/-- Statements that nothing refuses all go through. -/
theorem exec_flushAll (clk : ℕ → ℤ) {sts : List Stmt} (h : ∀ st ∈ sts, ∀ s, st.check s = none)
    {w : Session Store} (hw : w.broken = false) :
    (flushAll sts).exec clk w = (.ok (), { w with view := applyAll sts w.view }) := by
  induction sts generalizing w with
  | nil => rfl
  | cons st sts ih =>
    rw [flushAll, Prog.bind_eq,
      Prog.exec_bind_of_ok (Prog.exec_flush_done clk st hw (h st List.mem_cons_self w.view))]
    exact ih (fun st' hst' => h st' (List.mem_cons_of_mem st hst')) hw

/-- Send a closed session and its charge. -/
def flushClosing (c : Closing) : Handler Unit :=
  flushAll (updateSession c.loaded c.session ::
    c.charge.toList.map fun n => insertCharge n.charge)

/-! ## Settling with prepaid credit -/

/-- The latest unpaid charge of a session. -/
def unpaidSessionCharge (sessionId : ℕ) (s : Store) : Option Charge :=
  (orderByDesc Charge.createdAt (s.charges.filter fun c =>
    c.parkingSessionId == some sessionId && c.status == .unpaid)).head?

/-- The payments of a plate within the grace period, latest first, at most twenty. -/
def gracePayments (plate : String) (since : ℤ) (s : Store) : List Payment :=
  (orderByDesc Payment.paidAt (s.payments.filter fun p =>
    p.plateNormalized == some plate && p.paymentStatus == "COMPLETED" && since ≤ p.paidAt)).take 20

/-- What a payment's allocations add up to. -/
def allocatedSum (paymentId : ℕ) (s : Store) : ℤ :=
  ((s.allocations.filter fun a => a.paymentId == paymentId).map PaymentAllocation.amount).sum

/-- PAID once nothing is outstanding. -/
def Charge.settle (c : Charge) : Charge :=
  if chargeOutstanding c ≤ 0 then { c with status := .paid } else c

@[simp] theorem Charge.settle_id (c : Charge) : c.settle.id = c.id := by
  unfold Charge.settle
  split <;> rfl

@[simp] theorem Charge.settle_paidAmount (c : Charge) : c.settle.paidAmount = c.paidAmount := by
  unfold Charge.settle
  split <;> rfl

/-- A charge as it was last sent, and the allocation made since, which is not sent yet. -/
structure Dirty where
  loaded : Charge
  allocation : Option PaymentAllocation

/-- What the allocation adds. -/
def Dirty.added (d : Dirty) : ℤ := (d.allocation.map PaymentAllocation.amount).getD 0

/-- The charge in memory: the allocation is already added. -/
def Dirty.charge (d : Dirty) : Charge :=
  { d.loaded with paidAmount := d.loaded.paidAmount + d.added }

/-- A charge and its new allocation, if any. -/
def sendDirty (d : Dirty) (charge : Charge) : List Stmt :=
  updateCharge d.loaded charge :: d.allocation.toList.map insertAllocation

/-- Send the pending change, if any, and go on with the charge. -/
def flushDirty (d : Dirty) : Handler Charge :=
  if d.allocation.isNone then return d.loaded
  else do
    flushAll (sendDirty d d.charge)
    return d.charge

/-- The loop over the payments; returns the state of the charge and the credit used. -/
def settleLoop : List Payment → Dirty → ℤ → Handler (Dirty × ℤ)
  | [], d, creditUsed => return (d, creditUsed)
  | p :: ps, d, creditUsed => do
    let charge ← flushDirty d
    let allocated ← .select (allocatedSum p.id)
    let credit := paymentUnallocatedCredit p allocated
    if credit ≤ 0 then settleLoop ps { loaded := charge, allocation := none } creditUsed
    else
      let outstanding := chargeOutstanding charge
      if outstanding ≤ 0 then return ({ loaded := charge, allocation := none }, creditUsed)
      else do
        let alloc := min credit outstanding
        let id ← Prog.newId
        let allocation : PaymentAllocation :=
          { id, paymentId := p.id, chargeId := charge.id, amount := alloc }
        settleLoop ps { loaded := charge, allocation := some allocation } (creditUsed + alloc)

/-- What a settlement did. -/
structure Settlement where
  creditUsed : ℤ
  chargeId : ℕ
  settled : Bool
  graceMinutes : ℤ
  deriving DecidableEq, Repr

/-- The first instant `datetime` can hold. -/
def minInstant : ℤ := -62135596800000000

/-- The end of the settlement: the charge's status, and the session's with it. -/
def finishSettlement (session : ParkingSession) (graceMinutes : ℤ) (d : Dirty)
    (creditUsed : ℤ) : Handler (Option Settlement) :=
  if creditUsed ≤ 0 then return none
  else do
    let settled := decide (chargeOutstanding d.charge ≤ 0)
    flushAll (sendDirty d d.charge.settle ++
      if settled then [updateSession session { session with paymentStatus := .paid }] else [])
    return some { creditUsed, chargeId := d.charge.id, settled, graceMinutes }

/-- The settlement of one charge from the payments of the grace period. -/
def settleCharge (session : ParkingSession) (since graceMinutes : ℤ) (charge : Charge) :
    Handler (Option Settlement) := do
  let payments ← .select (gracePayments session.plateNormalized since)
  let (d, creditUsed) ← settleLoop payments { loaded := charge, allocation := none } 0
  finishSettlement session graceMinutes d creditUsed

/-- `settle_exit_with_prepaid_credit`. -/
def settleExitWithPrepaidCredit (session : ParkingSession) (now graceMinutes : ℤ) :
    Handler (Option Settlement) :=
  if graceMinutes ≤ 0 ∨ session.finalAmount ≤ 0 then return none
  else do
    let charge ← .select (unpaidSessionCharge session.id)
    match charge with
    | none => return none
    | some charge =>
      if chargeOutstanding charge ≤ 0 then return none
      else
        let since := now - graceMinutes * 60000000
        if since < minInstant then Prog.raise .overflow
        else if session.plateNormalized = "" then return none
        else settleCharge session since graceMinutes charge

end ParkingSystem
