import ParkingSystem.Violations.StateMachine

/-!
# Refunds

A violation is cancelled by a request, or by an appeal that is accepted. Both void its charge while
it is UNPAID, and a charge that is partly paid still is. The request asks for a refund where the
charge is PAID; the appeal never does.
-/

namespace ParkingSystem

open PyText Table Transaction

/-! ## Voiding -/

/-- A charge after a cancellation, which went through or did not. -/
def Charge.afterCancel (cancelled : Bool) (c : Charge) : Charge :=
  if cancelled && voidableChargeStatus c.status then { c with status := .voided } else c

@[simp] theorem Charge.afterCancel_false (c : Charge) : c.afterCancel false = c := rfl

/-- Whether `_void_unpaid_charge` voids a charge. -/
def voids (id : ℕ) (s : Store) : Bool :=
  (chargeOfViolation id s).any fun c => voidableChargeStatus c.status

/-- What it leaves. -/
def voidedStore (id : ℕ) (s : Store) : Store :=
  match chargeOfViolation id s with
  | none => s
  | some c => if voidableChargeStatus c.status then
      (updateCharge c { c with status := .voided }).apply s else s

theorem exec_voidUnpaidCharge (clk : ℕ → ℤ) (id : ℕ) {w : Session Store} (hw : w.broken = false) :
    (voidUnpaidCharge id).exec clk w =
      (.ok (voids id w.view), { w with view := voidedStore id w.view }) := by
  rw [voidUnpaidCharge, Prog.bind_eq, Prog.exec_bind_of_ok (Prog.exec_select clk _ hw), voids,
    voidedStore]
  cases hfound : chargeOfViolation id w.view with
  | none => rfl
  | some c =>
    by_cases hvoidable : voidableChargeStatus c.status = true
    · simp only [hvoidable, if_true]
      refine (Prog.exec_bind_of_ok (Prog.exec_flush_done clk _ hw rfl)).trans ?_
      simp [hvoidable]
    · simp [hvoidable]

/-- The charge is voided where it is UNPAID, and left alone where it is not. -/
theorem chargeOfViolation_voidedStore (id : ℕ) (s : Store) :
    chargeOfViolation id (voidedStore id s) =
      (chargeOfViolation id s).map (Charge.afterCancel true) := by
  unfold voidedStore Charge.afterCancel
  cases hfound : chargeOfViolation id s with
  | none => exact hfound
  | some c =>
    simp only [Option.map_some, Bool.true_and]
    split
    · rename_i hvoidable
      have hunpaid : c.status = .unpaid := by simpa [voidableChargeStatus] using hvoidable
      rw [chargeOfViolation_eq] at hfound ⊢
      rw [violationCharges_void]
      cases hcharges : violationCharges id s with
      | nil =>
        rw [hcharges] at hfound
        cases hfound
      | cons d rest =>
        rw [hcharges] at hfound
        obtain rfl : d = c := Option.some.inj hfound
        rw [updateWhere_cons, if_pos (by simp), List.head?_cons]
        simp [Charge.written, changed, hunpaid]
    · exact hfound

/-! ## Cancelling -/

/-- The two ways to cancel a violation. -/
inductive Cancellation where
  | request (violationId : ℕ)
  | appeal (appealId : ℕ) (result : String) (note : Option String)
  deriving DecidableEq, Repr

def Cancellation.handler (user : Option ℕ) : Cancellation → Handler ViolationResponse
  | request violationId => cancelViolation violationId user
  | appeal appealId result note => reviewAppeal appealId result note user

/-- `db.get(ViolationAppeal, id)`. -/
def appealById (id : ℕ) (s : Store) : Option ViolationAppeal := s.appeals.find? fun a => a.id == id

/-- The violation it is about. -/
def Cancellation.violationId (s : Store) : Cancellation → Option ℕ
  | request violationId => some violationId
  | appeal appealId _ _ => (appealById appealId s).map ViolationAppeal.violationId

/-- Whether it goes through: the state machine lets the violation be cancelled, or the appeal is
open, is accepted, and the violation is not cancelled yet. -/
def Cancellation.cancels (v : Violation) (s : Store) : Cancellation → Bool
  | request _ => canTransition v.status "CANCELLED"
  | appeal appealId result _ => (appealById appealId s).any (fun a => a.status == "SUBMITTED") &&
      upperString result == "ACCEPTED" && (v.status == "REGISTERED" || v.status == "CONFIRMED")

/-- The money on a charge, if there is any, is accounted for: the charge of the violation keeps its
status, or the answer asks for a refund. -/
def MoneyAccounted (id : ℕ) (c : Charge)
    (ended : Except (Exc AppError) ViolationResponse × Session Store) : Prop :=
  0 < c.paidAmount →
    (chargeOfViolation id ended.2.committed).map Charge.status = some c.status ∨
      ∃ answer, ended.1 = .ok answer ∧ answer.paidChargeNeedsRefund = true

section

variable {id : ℕ} {v : Violation} {s : Store}

theorem exec_paidCharge (clk : ℕ → ℤ) (id : ℕ) (voided : Bool) {w : Session Store}
    (hw : w.broken = false) : (paidCharge id voided).exec clk w =
      (.ok (!voided && (chargeOfViolation id w.view).any fun c => c.status == .paid), w) := by
  unfold paidCharge
  cases voided with
  | true => rfl
  | false =>
    rw [if_neg (by decide), Prog.bind_eq, Prog.exec_bind_of_ok (Prog.exec_select clk _ hw)]
    rfl

/-- After the voiding, a charge is PAID where it was before. -/
theorem paid_voidedStore (id : ℕ) (s : Store) :
    (!voids id s && (chargeOfViolation id (voidedStore id s)).any fun c => c.status == .paid) =
      (chargeOfViolation id s).any fun c => c.status == .paid := by
  rw [chargeOfViolation_voidedStore, voids]
  cases chargeOfViolation id s with
  | none => rfl
  | some c =>
    rcases hstatus : c.status with _ | _ | _ <;> simp [voidableChargeStatus, Charge.afterCancel, hstatus]

/-- **A request that goes through** voids the charge that is UNPAID, and asks for a refund of the
one that is PAID. -/
theorem exec_cancelViolation (clk : ℕ → ℤ) (user : Option ℕ) {w : Session Store}
    (hw : w.broken = false) (hfound : violationById id w.view = some v)
    (hcancels : canTransition v.status "CANCELLED" = true) :
    ∃ answer w', (cancelViolation id user).exec clk w = (.ok answer, w') ∧
      chargeOfViolation id w'.committed = (chargeOfViolation id w.view).map (Charge.afterCancel true) ∧
      answer.paidChargeNeedsRefund =
        (chargeOfViolation id w.view).any fun c => c.status == .paid := by
  have hnot : v.status ≠ "CANCELLED" := by
    intro hcancelled
    rw [hcancelled] at hcancels
    exact absurd hcancels (by decide)
  obtain rfl := violationById_id hfound
  generalize hupdated : (updateViolation v.id "CANCELLED" user (clk w.tick)).apply w.view = s
  have hsame : chargeOfViolation v.id s = chargeOfViolation v.id w.view := by
    rw [← hupdated]
    rfl
  have hw₀ : ({ w with tick := w.tick + 1 } : Session Store).broken = false := hw
  have hw₁ : ({ w with view := s, tick := w.tick + 1 } : Session Store).broken = false := hw
  have hw₂ : ({ w with view := voidedStore v.id s, tick := w.tick + 1 } : Session Store).broken =
      false := hw
  have hexec : (cancelViolation v.id user).exec clk w =
      (.ok { status := "CANCELLED", chargeVoided := voids v.id s
             paidChargeNeedsRefund := !voids v.id s &&
               (chargeOfViolation v.id (voidedStore v.id s)).any fun c => c.status == .paid },
        { w with committed := voidedStore v.id s, view := voidedStore v.id s
                 tick := w.tick + 1 }) := by
    rw [cancelViolation, Prog.bind_eq, Prog.exec_bind_of_ok (Prog.exec_select clk _ hw), hfound]
    dsimp only
    rw [if_neg hnot, hcancels]
    refine (Prog.exec_bind_of_ok (Prog.exec_getTime clk w)).trans ?_
    refine (Prog.exec_bind_of_ok (Prog.exec_flush_done clk
      (updateViolation v.id "CANCELLED" user (clk w.tick)) hw₀ rfl)).trans ?_
    rw [hupdated]
    refine (Prog.exec_bind_of_ok (exec_voidUnpaidCharge clk v.id hw₁)).trans ?_
    refine (Prog.exec_bind_of_ok (exec_paidCharge clk v.id _ hw₂)).trans ?_
    exact (Prog.exec_bind_of_ok (Prog.exec_commitTx clk hw₂)).trans rfl
  refine ⟨_, _, hexec, ?_, ?_⟩
  · rw [← hsame]
    exact chargeOfViolation_voidedStore v.id s
  · rw [← hsame]
    exact paid_voidedStore v.id s

/-- A request that does not go through changes nothing. -/
theorem cancelViolation_refused (clk : ℕ → ℤ) (user : Option ℕ) {w : Session Store}
    (hw : w.broken = false) (hfound : violationById id w.view = some v)
    (hcancels : ¬ canTransition v.status "CANCELLED" = true) :
    ((cancelViolation id user).exec clk w).2 = w ∧
      ∀ answer, ((cancelViolation id user).exec clk w).1 = .ok answer →
        answer.paidChargeNeedsRefund = false := by
  rw [cancelViolation, Prog.bind_eq, Prog.exec_bind_of_ok (Prog.exec_select clk _ hw), hfound]
  dsimp only
  split
  · refine ⟨rfl, fun answer h => ?_⟩
    cases h
    rfl
  · rw [if_pos (by simpa using hcancels)]
    exact ⟨rfl, fun _ h => by cases h⟩

theorem exec_acceptAppeal (clk : ℕ → ℤ) (user : Option ℕ) {w : Session Store}
    (hw : w.broken = false) (hfound : violationById id w.view = some v) :
    ∃ voided w', (acceptAppeal id user).exec clk w = (.ok voided, w') ∧ w'.broken = false ∧
      chargeOfViolation id w'.view = (chargeOfViolation id w.view).map
        (Charge.afterCancel (v.status == "REGISTERED" || v.status == "CONFIRMED")) := by
  obtain rfl := violationById_id hfound
  have hw₀ : ({ w with tick := w.tick + 1 } : Session Store).broken = false := hw
  rw [acceptAppeal, Prog.bind_eq, Prog.exec_bind_of_ok (Prog.exec_select clk _ hw), hfound]
  dsimp only
  split
  · rename_i hopen
    refine ⟨_, _, (Prog.exec_bind_of_ok (Prog.exec_getTime clk w)).trans
      ((Prog.exec_bind_of_ok (Prog.exec_flush_done clk
        (updateViolation v.id "CANCELLED" user (clk w.tick)) hw₀ rfl)).trans
          (exec_voidUnpaidCharge clk v.id hw₀)), hw, ?_⟩
    have htrue : (v.status == "REGISTERED" || v.status == "CONFIRMED") = true := by simpa using hopen
    rw [htrue]
    exact chargeOfViolation_voidedStore v.id _
  · rename_i hclosed
    have hfalse : (v.status == "REGISTERED" || v.status == "CONFIRMED") = false := by
      simpa using hclosed
    refine ⟨_, _, rfl, hw, ?_⟩
    rw [hfalse]
    exact Option.map_id'.symm

/-- **A reviewed appeal** voids the charge that is UNPAID where it goes through, and never asks
for a refund. -/
theorem exec_reviewAppeal (clk : ℕ → ℤ) (appealId : ℕ) (result : String) (note : Option String)
    (user : Option ℕ) {w : Session Store} (hw : w.broken = false) (hview : w.committed = w.view)
    (hid : (Cancellation.appeal appealId result note).violationId w.view = some id)
    (hfound : violationById id w.view = some v) :
    (∀ answer, ((reviewAppeal appealId result note user).exec clk w).1 = .ok answer →
      answer.paidChargeNeedsRefund = false) ∧
      chargeOfViolation id ((reviewAppeal appealId result note user).exec clk w).2.committed =
        (chargeOfViolation id w.view).map (Charge.afterCancel
          ((Cancellation.appeal appealId result note).cancels v w.view)) := by
  obtain ⟨a, ha, rfl⟩ := Option.map_eq_some_iff.1 hid
  have hselect : (Prog.select (fun s : Store => s.appeals.find? fun a => a.id == appealId) :
      Handler (Option ViolationAppeal)).exec clk w = (.ok (some a), w) :=
    (Prog.exec_select clk _ hw).trans (by rw [← ha]; rfl)
  have hw₀ : ({ w with tick := w.tick + 1 } : Session Store).broken = false := hw
  have hnothing : chargeOfViolation a.violationId w.committed =
      (chargeOfViolation a.violationId w.view).map (Charge.afterCancel false) :=
    (congrArg (chargeOfViolation a.violationId) hview).trans Option.map_id'.symm
  rw [Cancellation.cancels, ha, Option.any_some]
  by_cases hopen : a.status = "SUBMITTED"
  · by_cases hresult : ["ACCEPTED", "REJECTED"].contains (upperString result) = true
    · -- the appeal is closed, which touches nothing that the charge depends on
      generalize hw₁ : ({ w with
        view := (updateAppeal a.id (upperString result) note user (clk w.tick)).apply w.view
        tick := w.tick + 1 } : Session Store) = w₁
      have hlive : w₁.broken = false := by rw [← hw₁]; exact hw
      have hclosed (k : Unit → Handler ViolationResponse) :
          ((Prog.getTime.bind fun now =>
            (Prog.flush (updateAppeal a.id (upperString result) note user now)).bind k)).exec clk w =
            (k ()).exec clk w₁ :=
        hw₁ ▸ (Prog.exec_bind_of_ok (Prog.exec_getTime clk w)).trans
          (Prog.exec_bind_of_ok (Prog.exec_flush_done clk _ hw₀ rfl))
      have hcharges : chargeOfViolation a.violationId w₁.view =
          chargeOfViolation a.violationId w.view := by rw [← hw₁]; rfl
      by_cases haccepted : upperString result = "ACCEPTED"
      · have hthere : violationById a.violationId w₁.view = some v := by rw [← hw₁]; exact hfound
        obtain ⟨voided, w₂, hexec, hw₂, hcharge⟩ := exec_acceptAppeal clk user hlive hthere
        have hrun : (reviewAppeal appealId result note user).exec clk w =
            (.ok { status := upperString result, chargeVoided := voided },
              { w₂ with committed := w₂.view }) := by
          rw [reviewAppeal, Prog.bind_eq, Prog.exec_bind_of_ok hselect]
          dsimp only
          rw [if_neg (not_not.2 hopen), if_neg (by rw [hresult]; decide)]
          refine (hclosed _).trans ?_
          rw [if_pos haccepted]
          refine (Prog.exec_bind_of_ok hexec).trans ?_
          exact (Prog.exec_bind_of_ok (Prog.exec_commitTx clk hw₂)).trans rfl
        rw [hrun, hopen, haccepted]
        refine ⟨fun answer h => by cases h; rfl, hcharge.trans ?_⟩
        rw [hcharges]
        rfl
      · have hrun : (reviewAppeal appealId result note user).exec clk w =
            (.ok { status := upperString result, chargeVoided := false },
              { w₁ with committed := w₁.view }) := by
          rw [reviewAppeal, Prog.bind_eq, Prog.exec_bind_of_ok hselect]
          dsimp only
          rw [if_neg (not_not.2 hopen), if_neg (by rw [hresult]; decide)]
          refine (hclosed _).trans ?_
          rw [if_neg haccepted]
          exact (Prog.exec_bind_of_ok (Prog.exec_commitTx clk hlive)).trans rfl
        rw [hrun, beq_eq_false_iff_ne.2 haccepted, Bool.and_false, Bool.false_and]
        refine ⟨fun answer h => by cases h; rfl, hcharges.trans ?_⟩
        exact Option.map_id'.symm
    · have hrun : (reviewAppeal appealId result note user).exec clk w =
          (.error (.app (.unprocessable "INVALID_APPEAL_RESULT")), w) := by
        rw [reviewAppeal, Prog.bind_eq, Prog.exec_bind_of_ok hselect]
        dsimp only
        rw [if_neg (not_not.2 hopen), if_pos (by simpa using hresult)]
        rfl
      have hnot : (upperString result == "ACCEPTED") = false := by
        rw [beq_eq_false_iff_ne]
        intro haccepted
        rw [haccepted] at hresult
        exact hresult (by decide)
      rw [hrun, hnot, Bool.and_false, Bool.false_and]
      exact ⟨fun _ h => (by cases h), hnothing⟩
  · have hrun : (reviewAppeal appealId result note user).exec clk w = (.error (.app .conflict), w) := by
      rw [reviewAppeal, Prog.bind_eq, Prog.exec_bind_of_ok hselect]
      dsimp only
      rw [if_pos hopen]
      rfl
    rw [hrun, beq_eq_false_iff_ne.2 hopen, Bool.false_and, Bool.false_and]
    exact ⟨fun _ h => (by cases h), hnothing⟩

/-- Either way: the charge is voided where it is UNPAID and the violation is cancelled, and a refund
is asked for only where the charge is PAID. -/
theorem exec_cancellation (clk : ℕ → ℤ) (user : Option ℕ) (request : Cancellation)
    {w : Session Store} (hw : w.broken = false) (hview : w.committed = w.view)
    (hid : request.violationId w.view = some id) (hfound : violationById id w.view = some v) :
    (∀ answer, ((request.handler user).exec clk w).1 = .ok answer →
      answer.paidChargeNeedsRefund = true →
        (chargeOfViolation id w.view).any (fun c => c.status == .paid) = true) ∧
      chargeOfViolation id ((request.handler user).exec clk w).2.committed =
        (chargeOfViolation id w.view).map (Charge.afterCancel (request.cancels v w.view)) := by
  cases request with
  | request violationId =>
    obtain rfl := Option.some.inj hid
    unfold Cancellation.handler Cancellation.cancels
    by_cases hcancels : canTransition v.status "CANCELLED" = true
    · obtain ⟨answer, w', hexec, hcharge, hrefund⟩ :=
        exec_cancelViolation clk user hw hfound hcancels
      rw [hexec, hcancels]
      refine ⟨fun answer' h hneeds => ?_, hcharge⟩
      cases h
      rw [← hrefund]
      exact hneeds
    · obtain ⟨hsame, hnone⟩ := cancelViolation_refused clk user hw hfound hcancels
      rw [hsame, Bool.eq_false_iff.2 hcancels]
      refine ⟨fun answer h hneeds => ?_, ?_⟩
      · rw [hnone answer h] at hneeds
        cases hneeds
      · exact (congrArg (chargeOfViolation violationId) hview).trans Option.map_id'.symm
  | appeal appealId result note =>
    obtain ⟨hrefund, hcharge⟩ := exec_reviewAppeal clk appealId result note user hw hview hid hfound
    refine ⟨fun answer h hneeds => ?_, hcharge⟩
    rw [hrefund answer h] at hneeds
    cases hneeds

/-- **The money on a charge is accounted for unless the charge is UNPAID** and the cancellation goes
through: for every violation that has a charge, and either way to cancel it. -/
theorem refund_iff (clk : ℕ → ℤ) (user : Option ℕ) (request : Cancellation) (s : Store)
    (nextId tick : ℕ) (id : ℕ) (v : Violation) (c : Charge)
    (hid : request.violationId s = some id) (hfound : violationById id s = some v)
    (hcharge : chargeOfViolation id s = some c) :
    MoneyAccounted id c ((request.handler user).exec clk (.fresh s nextId tick)) ↔
      ¬ (0 < c.paidAmount ∧ c.status = .unpaid ∧ request.cancels v s = true) := by
  obtain ⟨hrefund, hafter⟩ := exec_cancellation clk user request
    (w := Session.fresh s nextId tick) rfl rfl hid hfound
  rw [Session.fresh_view, hcharge] at hrefund hafter
  rw [MoneyAccounted, hafter]
  constructor
  · rintro haccounted ⟨hpaid, hunpaid, hcancels⟩
    rcases haccounted hpaid with hkept | ⟨answer, hok, hneeds⟩
    · rw [hcancels] at hkept
      simp [Charge.afterCancel, voidableChargeStatus, hunpaid] at hkept
    · have hany := hrefund answer hok hneeds
      rw [Option.any_some, hunpaid] at hany
      exact absurd hany (by decide)
  · intro hnot hpaid
    refine Or.inl ?_
    rw [Option.map_some, Option.map_some, Charge.afterCancel, if_neg]
    intro hvoided
    rw [Bool.and_eq_true] at hvoided
    exact hnot ⟨hpaid, by simpa [voidableChargeStatus] using hvoided.2, hvoided.1⟩

end

/-! ### A fine that is partly paid -/

/-- A violation that was confirmed, with its charge. -/
def finedStore (c : Charge) : Store where
  violations := [{ id := 1, plateNormalized := none, penaltyAmount := 100, status := "CONFIRMED" }]
  charges := [c]

/-- Its charge, of which something is paid. -/
def fine (paidAmount : ℤ) (status : ChargeStatus) : Charge :=
  { id := 2, violationId := some 1, chargeType := .violation, amount := 100, paidAmount, status
    createdAt := 0 }

theorem refund_iff_paid :
    MoneyAccounted 1 (fine 100 .paid) ((Cancellation.handler none (.request 1)).exec (fun _ => 0)
      (.fresh (finedStore (fine 100 .paid)) 3 0)) :=
  (refund_iff (fun _ => 0) none (.request 1) (finedStore (fine 100 .paid)) 3 0 1 _ (fine 100 .paid)
    rfl rfl rfl).2 fun h => absurd h.2.1 (by decide)

theorem partly_paid_voided :
    ¬ ∀ (clk : ℕ → ℤ) (user : Option ℕ) (request : Cancellation) (s : Store) (nextId tick id : ℕ)
      (v : Violation) (c : Charge), request.violationId s = some id → violationById id s = some v →
        chargeOfViolation id s = some c →
        MoneyAccounted id c ((request.handler user).exec clk (.fresh s nextId tick)) := by
  intro h
  rcases h (fun _ => 0) none (.request 1) (finedStore (fine 40 .unpaid)) 3 0 1 _ (fine 40 .unpaid)
    rfl rfl rfl (by decide) with hkept | ⟨answer, hok, hneeds⟩
  · exact absurd hkept (by decide)
  · cases hok
    exact absurd hneeds (by decide)

end ParkingSystem
