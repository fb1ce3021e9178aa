import ParkingSystem.Finance.Payments
import ParkingSystem.Gate.UnpaidExit
import ParkingSystem.Library.Waterfall

/-!
# Settling an Exit

`settle_exit_with_prepaid_credit` pours the credit of a plate's payments over the charge of its
exit, the latest payment first. Each payment gives its share of what is outstanding.

## Where it stops short

The query looks at twenty payments. Credit of a payment that is older than these is inside the
window but is not drawn on.
-/

namespace ParkingSystem

open Table Transaction Waterfall

/-! ## The pending change -/

/-- What is allocated of a payment in some rows. -/
def allocatedIn (rows : List PaymentAllocation) (paymentId : ℕ) : ℤ :=
  ((rows.filter fun a => a.paymentId == paymentId).map PaymentAllocation.amount).sum

theorem allocatedIn_append (rows news : List PaymentAllocation) (paymentId : ℕ) :
    allocatedIn (rows ++ news) paymentId = allocatedIn rows paymentId + allocatedIn news paymentId := by
  simp [allocatedIn]

/-- The allocations with the one that is not sent yet. -/
def Dirty.allocations (d : Dirty) (s : Store) : List PaymentAllocation :=
  s.allocations ++ d.allocation.toList

@[simp] theorem Dirty.charge_id (d : Dirty) : d.charge.id = d.loaded.id := rfl

theorem Dirty.charge_of_none {d : Dirty} (h : d.allocation = none) : d.charge = d.loaded := by
  simp [Dirty.charge, Dirty.added, h]

/-- An UPDATE of a charge that is in the table as it was loaded. -/
theorem chargeById_updateCharge {loaded : Charge} {s : Store} (new : Charge)
    (h : chargeById loaded.id s = some loaded) :
    chargeById loaded.id ((updateCharge loaded new).apply s) =
      some { loaded with paidAmount := new.paidAmount, status := new.status } := by
  have hfound := @find?_updateWhere_self Charge ℕ _ Charge.id (loaded.written new) (fun _ => rfl)
    loaded.id s.charges
  refine hfound.trans ?_
  rw [show s.charges.find? (fun c => c.id == loaded.id) = some loaded from h, Option.map_some]
  simp [Charge.written]

/-- What sending a charge and its allocation leaves. -/
theorem applyAll_sendDirty (d : Dirty) (new : Charge) {s : Store}
    (h : chargeById d.loaded.id s = some d.loaded) :
    chargeById d.loaded.id (applyAll (sendDirty d new) s) =
        some { d.loaded with paidAmount := new.paidAmount, status := new.status } ∧
      (applyAll (sendDirty d new) s).allocations = d.allocations s ∧
      (applyAll (sendDirty d new) s).sessions = s.sessions := by
  have hrow := chargeById_updateCharge new h
  unfold sendDirty Dirty.allocations
  cases d.allocation with
  | none => exact ⟨hrow, (List.append_nil _).symm, rfl⟩
  | some a => exact ⟨hrow, rfl, rfl⟩

theorem check_sendDirty (d : Dirty) (new : Charge) :
    ∀ st ∈ sendDirty d new, ∀ s, st.check s = none := by
  intro st hst s
  rcases List.mem_cons.1 hst with rfl | hst
  · rfl
  · obtain ⟨a, -, rfl⟩ := List.mem_map.1 hst
    rfl

/-- Before a query, the pending change is sent. -/
theorem exec_flushDirty (clk : ℕ → ℤ) {d : Dirty} {w : Session Store} (hw : w.broken = false)
    (h : chargeById d.loaded.id w.view = some d.loaded) :
    ∃ s, (flushDirty d).exec clk w = (.ok d.charge, { w with view := s }) ∧
      chargeById d.charge.id s = some d.charge ∧ s.allocations = d.allocations w.view ∧
      s.sessions = w.view.sessions := by
  unfold flushDirty
  split
  · rename_i hnone
    have hclean : d.allocation = none := by simpa using hnone
    rw [d.charge_of_none hclean]
    refine ⟨w.view, rfl, h, ?_, rfl⟩
    simp [Dirty.allocations, hclean]
  · obtain ⟨hrow, hallocations, hsessions⟩ := applyAll_sendDirty d d.charge h
    refine ⟨applyAll (sendDirty d d.charge) w.view, ?_, hrow, hallocations, hsessions⟩
    exact (Prog.exec_bind_of_ok (exec_flushAll clk (check_sendDirty d d.charge) hw)).trans rfl

/-! ## The loop -/

/-- What the payments give of an outstanding amount: who gives something, and how much. -/
def givenShares (s : Store) (ps : List Payment) (outstanding : ℤ) : List (ℕ × ℤ) :=
  ((ps.map Payment.id).zip (shares (ps.map (Payment.credit s)) outstanding)).filter fun x =>
    decide (0 < x.2)

/-- What they give together. -/
def givenTotal (s : Store) (ps : List Payment) (outstanding : ℤ) : ℤ :=
  (shares (ps.map (Payment.credit s)) outstanding).sum

section

variable {s : Store} {p : Payment} {ps : List Payment} {outstanding : ℤ}

theorem credits_nonneg (s : Store) (ps : List Payment) :
    ∀ x ∈ ps.map (Payment.credit s), 0 ≤ x := by
  intro x hx
  obtain ⟨p, -, rfl⟩ := List.mem_map.1 hx
  exact p.credit_nonneg s

theorem givenTotal_eq (h : 0 ≤ outstanding) :
    givenTotal s ps outstanding = min (ps.map (Payment.credit s)).sum outstanding :=
  sum_shares (credits_nonneg s ps) h

theorem givenTotal_cons : givenTotal s (p :: ps) outstanding = min (p.credit s) outstanding +
    givenTotal s ps (outstanding - min (p.credit s) outstanding) := rfl

theorem givenTotal_nonneg (h : 0 ≤ outstanding) : 0 ≤ givenTotal s ps outstanding := by
  rw [givenTotal_eq h]
  exact le_min (List.sum_nonneg (credits_nonneg s ps)) h

/-- A payment that gives nothing. -/
theorem givenShares_cons_of_nonpos (h : min (p.credit s) outstanding ≤ 0) :
    givenShares s (p :: ps) outstanding =
      givenShares s ps (outstanding - min (p.credit s) outstanding) :=
  List.filter_cons_of_neg (by simpa only [decide_eq_true_eq, not_lt] using h)

theorem givenShares_cons_of_pos (h : 0 < min (p.credit s) outstanding) :
    givenShares s (p :: ps) outstanding = (p.id, min (p.credit s) outstanding) ::
      givenShares s ps (outstanding - min (p.credit s) outstanding) :=
  List.filter_cons_of_pos (by simpa using h)

/-- Of nothing, nobody gives anything. -/
theorem given_zero (s : Store) (ps : List Payment) :
    givenShares s ps 0 = [] ∧ givenTotal s ps 0 = 0 := by
  induction ps with
  | nil => exact ⟨rfl, rfl⟩
  | cons p ps ih =>
    have hnone : min (p.credit s) 0 = 0 := min_eq_right (p.credit_nonneg s)
    rw [givenShares_cons_of_nonpos (le_of_eq hnone), givenTotal_cons, hnone, sub_zero, zero_add]
    exact ih

end

/-- How the loop ends: every payment has given its share. -/
structure LoopEnds (s₀ : Store) (ps : List Payment) (d : Dirty) (w : Session Store) (d' : Dirty)
    (w' : Session Store) (news : List PaymentAllocation) : Prop where
  broken : w'.broken = false
  charge : d'.charge = { d.charge with
    paidAmount := d.charge.paidAmount + givenTotal s₀ ps (chargeOutstanding d.charge) }
  row : chargeById d'.loaded.id w'.view = some d'.loaded
  allocations : d'.allocations w'.view = d.allocations w.view ++ news
  given : news.map (fun a => (a.paymentId, a.amount)) =
    givenShares s₀ ps (chargeOutstanding d.charge)
  charged : ∀ a ∈ news, a.chargeId = d.charge.id
  sessions : w'.view.sessions = w.view.sessions
  clean : d.allocation = none → givenTotal s₀ ps (chargeOutstanding d.charge) = 0 →
    d'.allocation = none

section

variable {s₀ : Store} {p : Payment} {ps : List Payment} {d d' : Dirty} {w w' : Session Store}
  {news : List PaymentAllocation} {s : Store}

/-- A charge with nothing pending. -/
def Dirty.sent (c : Charge) : Dirty := { loaded := c, allocation := none }

@[simp] theorem Dirty.charge_sent (c : Charge) : (Dirty.sent c).charge = c := Dirty.charge_of_none rfl

@[simp] theorem Dirty.allocations_sent (c : Charge) (s : Store) :
    (Dirty.sent c).allocations s = s.allocations := List.append_nil _

/-- A charge and the pending allocation of a payment. -/
def Dirty.giving (c : Charge) (id : ℕ) (p : Payment) (amount : ℤ) : Dirty :=
  { loaded := c, allocation := some { id, paymentId := p.id, chargeId := c.id, amount } }

/-- One payment of the loop, once its predecessor is sent. -/
theorem exec_settleLoop_cons (clk : ℕ → ℤ) {used : ℤ} (hw : w.broken = false)
    (hflush : (flushDirty d).exec clk w = (.ok d.charge, { w with view := s }))
    (hcredit : paymentUnallocatedCredit p (allocatedSum p.id s) = p.credit s₀) :
    (settleLoop (p :: ps) d used).exec clk w =
      (if p.credit s₀ ≤ 0 then settleLoop ps (.sent d.charge) used
      else if chargeOutstanding d.charge ≤ 0 then return (.sent d.charge, used)
      else do
        let id ← Prog.newId
        settleLoop ps
          (.giving d.charge id p (min (p.credit s₀) (chargeOutstanding d.charge)))
          (used + min (p.credit s₀) (chargeOutstanding d.charge))).exec clk { w with view := s } := by
  have hw₁ : ({ w with view := s } : Session Store).broken = false := hw
  rw [settleLoop, Prog.bind_eq, Prog.exec_bind_of_ok hflush]
  refine (Prog.exec_bind_of_ok (Prog.exec_select clk (allocatedSum p.id) hw₁)).trans ?_
  rw [← hcredit]
  rfl

/-- A payment without credit is passed over. -/
theorem LoopEnds.skip (hzero : min (p.credit s₀) (chargeOutstanding d.charge) = 0)
    (hallocations : s.allocations = d.allocations w.view) (hsessions : s.sessions = w.view.sessions)
    (h : LoopEnds s₀ ps (.sent d.charge) { w with view := s } d' w' news) :
    LoopEnds s₀ (p :: ps) d w d' w' news := by
  obtain ⟨hbroken, hcharge, hrow, hnews, hgiven, hcharged, hsame, hclean⟩ := h
  have htotal : givenTotal s₀ (p :: ps) (chargeOutstanding d.charge) =
      givenTotal s₀ ps (chargeOutstanding d.charge) := by
    rw [givenTotal_cons, hzero, zero_add, sub_zero]
  have hshares : givenShares s₀ (p :: ps) (chargeOutstanding d.charge) =
      givenShares s₀ ps (chargeOutstanding d.charge) := by
    rw [givenShares_cons_of_nonpos (le_of_eq hzero), hzero, sub_zero]
  rw [Dirty.charge_sent] at hcharge hgiven hcharged hclean
  rw [Dirty.allocations_sent, hallocations] at hnews
  rw [← htotal] at hcharge hclean
  exact ⟨hbroken, hcharge, hrow, hnews, hgiven.trans hshares.symm, hcharged, hsame.trans hsessions,
    fun _ => hclean rfl⟩

/-- The loop stops where nothing is outstanding. -/
theorem LoopEnds.stop (hpaid : chargeOutstanding d.charge = 0) (hw : w.broken = false)
    (hrow : chargeById d.charge.id s = some d.charge)
    (hallocations : s.allocations = d.allocations w.view) (hsessions : s.sessions = w.view.sessions) :
    LoopEnds s₀ (p :: ps) d w (.sent d.charge) { w with view := s } [] := by
  obtain ⟨hnobody, hnothing⟩ := given_zero s₀ (p :: ps)
  refine ⟨hw, ?_, hrow, ?_, ?_, by simp, hsessions, fun _ _ => rfl⟩
  · rw [hpaid, hnothing, add_zero, Dirty.charge_sent]
  · rw [Dirty.allocations_sent, hallocations, List.append_nil]
  · rw [hpaid, hnobody]
    rfl

/-- What is left outstanding when a payment gives its share. -/
theorem outstanding_giving (c : Charge) (id : ℕ) (p : Payment) {x : ℤ} (h₀ : 0 ≤ x)
    (h : x ≤ chargeOutstanding c) :
    chargeOutstanding (Dirty.giving c id p x).charge = chargeOutstanding c - x := by
  show max 0 (c.amount - (c.paidAmount + x)) = max 0 (c.amount - c.paidAmount) - x
  have hle : x ≤ max 0 (c.amount - c.paidAmount) := h
  omega

/-- A payment gives its share, and the rest goes on with what is left. -/
theorem LoopEnds.give {id : ℕ} {x : ℤ} (hx : min (p.credit s₀) (chargeOutstanding d.charge) = x)
    (hpos : 0 < x) (hallocations : s.allocations = d.allocations w.view)
    (hsessions : s.sessions = w.view.sessions) {n : ℕ}
    (h : LoopEnds s₀ ps (.giving d.charge id p x) { w with view := s, nextId := n } d' w' news) :
    LoopEnds s₀ (p :: ps) d w d' w'
      ({ id, paymentId := p.id, chargeId := d.charge.id, amount := x } :: news) := by
  have hle : x ≤ chargeOutstanding d.charge := hx ▸ min_le_right _ _
  obtain ⟨hbroken, hcharge, hrow, hnews, hgiven, hcharged, hsame, hclean⟩ := h
  rw [outstanding_giving d.charge id p (le_of_lt hpos) hle] at hcharge hgiven
  refine ⟨hbroken, ?_, hrow, ?_, ?_, ?_, hsame.trans hsessions, fun _ htotal => ?_⟩
  · rw [givenTotal_cons, hx, ← add_assoc]
    exact hcharge
  · rw [hnews, ← hallocations, Dirty.allocations, List.append_assoc]
    rfl
  · rw [givenShares_cons_of_pos (by omega), hx, List.map_cons, hgiven]
  · intro a ha
    rcases List.mem_cons.1 ha with rfl | ha
    · rfl
    · exact hcharged a ha
  · have hmore := @givenTotal_nonneg s₀ ps (chargeOutstanding d.charge - x) (by omega)
    rw [givenTotal_cons, hx] at htotal
    omega

end

/-- **The loop over the payments**, from what was allocated of them before. -/
theorem exec_settleLoop (clk : ℕ → ℤ) (s₀ : Store) (ps : List Payment)
    (hnodup : (ps.map Payment.id).Nodup) {d : Dirty} {used : ℤ} {w : Session Store}
    (hw : w.broken = false)
    (hsame : ∀ p ∈ ps, allocatedIn (d.allocations w.view) p.id = allocatedSum p.id s₀)
    (hrow : chargeById d.loaded.id w.view = some d.loaded) :
    ∃ d' w' news, (settleLoop ps d used).exec clk w =
        (.ok (d', used + givenTotal s₀ ps (chargeOutstanding d.charge)), w') ∧
      LoopEnds s₀ ps d w d' w' news := by
  induction ps generalizing d used w with
  | nil =>
    have hnothing : givenTotal s₀ [] (chargeOutstanding d.charge) = 0 := rfl
    refine ⟨d, w, [], ?_, hw, ?_, hrow, (List.append_nil _).symm, rfl, by simp, rfl, fun h _ => h⟩
    · rw [hnothing, add_zero]
      rfl
    · rw [hnothing, add_zero]
  | cons p ps ih =>
    obtain ⟨hp, hnodup⟩ := List.nodup_cons.1 hnodup
    obtain ⟨s, hflush, hsent, hallocations, hsessions⟩ := exec_flushDirty clk hw hrow
    have hrest : ∀ q ∈ p :: ps, allocatedIn s.allocations q.id = allocatedSum q.id s₀ :=
      hallocations ▸ hsame
    have hcredit : paymentUnallocatedCredit p (allocatedSum p.id s) = p.credit s₀ :=
      congrArg (paymentUnallocatedCredit p) (hrest p List.mem_cons_self)
    have hnonneg := p.credit_nonneg s₀
    have howes := chargeOutstanding_nonneg d.charge
    rw [exec_settleLoop_cons clk hw hflush hcredit]
    split
    · have hzero : min (p.credit s₀) (chargeOutstanding d.charge) = 0 := by omega
      obtain ⟨d', w', news, hexec, hends⟩ := @ih hnodup (.sent d.charge) used { w with view := s } hw
        (fun q hq => by
          rw [Dirty.allocations_sent]
          exact hrest q (List.mem_cons_of_mem p hq)) hsent
      refine ⟨d', w', news, ?_, hends.skip hzero hallocations hsessions⟩
      rw [hexec, Dirty.charge_sent, givenTotal_cons, hzero, zero_add, sub_zero]
    · split
      · have hpaid : chargeOutstanding d.charge = 0 := by omega
        refine ⟨.sent d.charge, { w with view := s }, [], ?_,
          LoopEnds.stop hpaid hw hsent hallocations hsessions⟩
        rw [hpaid, (given_zero s₀ (p :: ps)).2, add_zero]
        rfl
      · have hpos : 0 < min (p.credit s₀) (chargeOutstanding d.charge) := by omega
        have hle := min_le_right (p.credit s₀) (chargeOutstanding d.charge)
        generalize hx : min (p.credit s₀) (chargeOutstanding d.charge) = x at hpos hle
        obtain ⟨d', w', news, hexec, hends⟩ := @ih hnodup (.giving d.charge w.nextId p x) (used + x)
          { w with view := s, nextId := w.nextId + 1 } hw (fun q hq => by
            -- the pending allocation is another payment's
            have hne : (p.id == q.id) = false :=
              beq_eq_false_iff_ne.2 fun heq => hp (List.mem_map.2 ⟨q, hq, heq.symm⟩)
            rw [Dirty.allocations, allocatedIn_append, hrest q (List.mem_cons_of_mem p hq)]
            simp [allocatedIn, Dirty.giving, hne]) hsent
        refine ⟨d', w', _, ?_, hends.give hx hpos hallocations hsessions⟩
        rw [outstanding_giving d.charge w.nextId p (le_of_lt hpos) hle] at hexec
        rw [givenTotal_cons, hx, ← add_assoc]
        exact hexec

/-! ## What is given -/

section

variable {s : Store} {ps : List Payment} {outstanding : ℤ}

/-- The shares add up to the total. -/
theorem sum_givenShares (s : Store) (ps : List Payment) (h : 0 ≤ outstanding) :
    ((givenShares s ps outstanding).map Prod.snd).sum = givenTotal s ps outstanding := by
  induction ps generalizing outstanding with
  | nil => rfl
  | cons p ps ih =>
    have hle := min_le_right (p.credit s) outstanding
    have hnonneg := le_min (p.credit_nonneg s) h
    rw [givenTotal_cons]
    by_cases hpos : 0 < min (p.credit s) outstanding
    · rw [givenShares_cons_of_pos hpos, List.map_cons, List.sum_cons, ih (by omega)]
    · rw [givenShares_cons_of_nonpos (not_lt.1 hpos), ih (by omega)]
      omega

/-- Nobody gives more than its credit. -/
theorem givenShares_le (hnodup : (ps.map Payment.id).Nodup) (h : 0 ≤ outstanding) {id : ℕ} {c : ℤ}
    (hc : 0 ≤ c) (hcredit : ∀ p ∈ ps, p.id = id → p.credit s ≤ c) :
    (((givenShares s ps outstanding).filter fun x => x.1 == id).map Prod.snd).sum ≤ c := by
  induction ps generalizing outstanding with
  | nil => exact hc
  | cons p ps ih =>
    obtain ⟨hp, hnodup⟩ := List.nodup_cons.1 hnodup
    have hle := min_le_right (p.credit s) outstanding
    have hrest := @ih (outstanding - min (p.credit s) outstanding) hnodup (by omega)
      fun q hq => hcredit q (List.mem_cons_of_mem p hq)
    by_cases hpos : 0 < min (p.credit s) outstanding
    · rw [givenShares_cons_of_pos hpos]
      by_cases hid : p.id = id
      · -- the others have other identifiers
        have hnone : ((givenShares s ps (outstanding - min (p.credit s) outstanding)).filter
            fun x => x.1 == id) = [] := by
          refine List.filter_eq_nil_iff.2 fun x hx hsame => hp ?_
          have hmem := (List.of_mem_zip (List.mem_of_mem_filter hx : (x.1, x.2) ∈ _)).1
          rwa [beq_iff_eq.1 hsame, ← hid] at hmem
        rw [List.filter_cons_of_pos (by simpa using hid), hnone]
        have hown := hcredit p List.mem_cons_self hid
        have hshare := min_le_left (p.credit s) outstanding
        simp only [List.map_cons, List.map_nil, List.sum_cons, List.sum_nil]
        omega
      · rw [List.filter_cons_of_neg (by simpa using hid)]
        exact hrest
    · rw [givenShares_cons_of_nonpos (not_lt.1 hpos)]
      exact hrest

end

/-! ## The end -/

/-- `db.get(ParkingSession, id)`. -/
def sessionById (id : ℕ) (s : Store) : Option ParkingSession := s.sessions.find? fun r => r.id == id

/-- The charge and its session are PAID. -/
def MarkedPaid (session : ParkingSession) (charge : Charge) (s : Store) : Prop :=
  (chargeById charge.id s).map Charge.status = some .paid ∧
    (sessionById session.id s).map ParkingSession.paymentStatus = some .paid

theorem applyAll_append (sts sts' : List Stmt) (s : Store) :
    applyAll (sts ++ sts') s = applyAll sts' (applyAll sts s) := List.foldl_append

section

variable {session : ParkingSession} {charge : Charge} {w : Session Store}

/-- The session that is paid is in the table as it was loaded. -/
theorem sessionById_paid {s : Store} (h : sessionById session.id s = some session) :
    (sessionById session.id ((updateSession session { session with paymentStatus := .paid }).apply
      s)).map ParkingSession.paymentStatus = some .paid := by
  have hfound := @find?_updateWhere_self ParkingSession ℕ _ ParkingSession.id
    (session.written { session with paymentStatus := .paid }) (fun _ => rfl) session.id s.sessions
  have hpaid := congrArg (Option.map ParkingSession.paymentStatus) hfound
  refine hpaid.trans ?_
  rw [show s.sessions.find? (fun r => r.id == session.id) = some session from h]
  simp [ParkingSession.written]

/-- The payments of the query have keys of their own. -/
theorem nodup_gracePayments {s : Store} (h : (s.payments.map Payment.id).Nodup) (plate : String)
    (since : ℤ) : ((gracePayments plate since s).map Payment.id).Nodup := by
  refine List.Nodup.sublist ((List.take_sublist 20 _).map Payment.id) ?_
  rw [((perm_orderByDesc Payment.paidAt _).map Payment.id).nodup_iff]
  exact h.sublist (List.filter_sublist.map Payment.id)

/-- **The settlement of one charge**: the payments of the query give their shares, and the charge
and its session are PAID where these cover what is outstanding. -/
theorem exec_settleCharge (clk : ℕ → ℤ) (since grace : ℤ) (hw : w.broken = false)
    (hpayments : (w.view.payments.map Payment.id).Nodup)
    (hrow : chargeById charge.id w.view = some charge) (hunpaid : charge.status = .unpaid)
    (howes : 0 < chargeOutstanding charge) (hsession : sessionById session.id w.view = some session)
    (hfits : ∀ s, (updateSession session { session with paymentStatus := .paid }).check s = none) :
    ∃ res w' news, (settleCharge session since grace charge).exec clk w = (.ok res, w') ∧
      w'.view.allocations = w.view.allocations ++ news ∧ (∀ a ∈ news, a.chargeId = charge.id) ∧
      news.map (fun a => (a.paymentId, a.amount)) = givenShares w.view
        (gracePayments session.plateNormalized since w.view) (chargeOutstanding charge) ∧
      (MarkedPaid session charge w'.view ↔ chargeOutstanding charge ≤
        ((gracePayments session.plateNormalized since w.view).map (Payment.credit w.view)).sum) := by
  have hnodup := nodup_gracePayments hpayments session.plateNormalized since
  generalize hps : gracePayments session.plateNormalized since w.view = ps at hnodup
  obtain ⟨d, w₁, news, hloop, hends⟩ := @exec_settleLoop clk w.view ps hnodup (.sent charge) 0 w hw
    (fun p _ => by rw [Dirty.allocations_sent]; rfl) hrow
  obtain ⟨hw₁, hcharge, hrow₁, hnews, hgiven, hcharged, hsessions, hclean⟩ := hends
  rw [Dirty.charge_sent] at hloop hcharge hgiven hcharged hclean
  rw [Dirty.allocations_sent] at hnews
  rw [zero_add] at hloop
  have htotal := @givenTotal_eq w.view ps _ (le_of_lt howes)
  have hcredits := List.sum_nonneg (credits_nonneg w.view ps)
  generalize givenTotal w.view ps (chargeOutstanding charge) = total at *
  have hid : d.loaded.id = charge.id := by rw [← d.charge_id, hcharge]
  have hstart : (settleCharge session since grace charge).exec clk w =
      (finishSettlement session grace d total).exec clk w₁ := by
    rw [settleCharge, Prog.bind_eq, Prog.exec_bind_of_ok (Prog.exec_select clk _ hw), hps]
    exact Prog.exec_bind_of_ok hloop
  rw [hstart, finishSettlement]
  split
  · -- nobody gave anything
    have hnothing : total = 0 := by omega
    have hsent := hclean rfl hnothing
    have hsame : d.loaded = charge := by
      rw [← d.charge_of_none hsent, hcharge, hnothing, add_zero]
    refine ⟨none, w₁, news, rfl, ?_, hcharged, hgiven, ?_⟩
    · rw [← hnews, Dirty.allocations, hsent]
      exact (List.append_nil _).symm
    · refine iff_of_false (fun hmarked => ?_) (by omega)
      have hstatus := hmarked.1
      rw [← hsame, hrow₁, hsame, Option.map_some, hunpaid] at hstatus
      cases hstatus
  · rename_i hsome
    have hleft : chargeOutstanding d.charge = chargeOutstanding charge - total := by
      rw [hcharge]
      unfold chargeOutstanding at howes htotal ⊢
      dsimp only
      omega
    obtain ⟨hrow₂, hallocated, hsame⟩ := applyAll_sendDirty d d.charge.settle hrow₁
    have hsend (rest : List Stmt) (hrest : ∀ st ∈ rest, ∀ s, st.check s = none) :
        (flushAll (sendDirty d d.charge.settle ++ rest)).exec clk w₁ = (.ok (), { w₁ with
          view := applyAll rest (applyAll (sendDirty d d.charge.settle) w₁.view) }) := by
      rw [exec_flushAll clk (fun st hst => ?_) hw₁, applyAll_append]
      rcases List.mem_append.1 hst with hst | hst
      · exact check_sendDirty d _ st hst
      · exact hrest st hst
    dsimp only
    by_cases hcovered : chargeOutstanding d.charge ≤ 0
    · rw [decide_eq_true hcovered, if_pos rfl]
      refine ⟨_, _, news, (Prog.exec_bind_of_ok (hsend _ fun st hst => ?_)).trans rfl, ?_, hcharged,
        hgiven, iff_of_true ⟨?_, ?_⟩ (by omega)⟩
      · rw [List.mem_singleton.1 hst]
        exact hfits
      · exact hallocated.trans hnews
      · have hpaid : d.charge.settle.status = .paid := by rw [Charge.settle, if_pos hcovered]
        have hfound := congrArg (Option.map Charge.status) hrow₂
        rw [hid] at hfound
        exact hfound.trans (congrArg some hpaid)
      · refine sessionById_paid ?_
        rw [sessionById, hsame, hsessions]
        exact hsession
    · rw [decide_eq_false hcovered, if_neg Bool.false_ne_true]
      refine ⟨_, _, news, (Prog.exec_bind_of_ok (hsend [] (by simp))).trans rfl, ?_, hcharged, hgiven,
        iff_of_false (fun hmarked => ?_) (by omega)⟩
      · exact hallocated.trans hnews
      · have hstatus := hmarked.1
        have hfound := congrArg (Option.map Charge.status) hrow₂
        rw [hid] at hfound
        have hsettle : d.charge.settle.status = .unpaid := by
          rw [Charge.settle, if_neg hcovered, hcharge]
          exact hunpaid
        have hboth := hfound.symm.trans hstatus
        simp [hsettle] at hboth

end

/-! ## The settlement of an exit -/

/-- The credit of a plate inside a window. -/
def windowCredit (plate : String) (grace now : ℤ) (s : Store) : ℤ :=
  ((s.payments.filter (inGraceWindow plate grace now)).map (Payment.credit s)).sum

/-- What the settlement is meant to do with the charge of a session: no payment gives more than its
credit, nor all of them more than is outstanding; only completed payments of the plate inside the
window give something; the charge and the session are PAID exactly where the credit of these
payments covers what is outstanding. -/
structure PrepaidSettled (session : ParkingSession) (charge : Charge) (now grace : ℤ)
    (s s' : Store) (news : List PaymentAllocation) : Prop where
  allocations : s'.allocations = s.allocations ++ news
  charged : ∀ a ∈ news, a.chargeId = charge.id
  given_le : ∀ p ∈ s.payments, allocatedIn news p.id ≤ p.credit s
  total_le : (news.map PaymentAllocation.amount).sum ≤ chargeOutstanding charge
  source : ∀ a ∈ news, ∃ p ∈ s.payments, p.id = a.paymentId ∧
    inGraceWindow session.plateNormalized grace now p = true
  paid_iff : MarkedPaid session charge s' ↔
    chargeOutstanding charge ≤ windowCredit session.plateNormalized grace now s

/-- The settlement comes to the payments: something is outstanding, the session has a price and a
plate, and the window starts at an instant that can be written. -/
structure SettlementReached (session : ParkingSession) (charge : Charge) (now grace : ℤ) : Prop where
  owes : 0 < chargeOutstanding charge
  priced : 0 < session.finalAmount
  plate : session.plateNormalized ≠ ""
  window : minInstant ≤ now - grace * 60000000

/-- Where the credit of the window covers what is outstanding, the settlement comes to the payments
and that of the latest twenty covers it. -/
def LatestCover (session : ParkingSession) (charge : Charge) (now grace : ℤ) (s : Store) : Prop :=
  chargeOutstanding charge ≤ windowCredit session.plateNormalized grace now s →
    SettlementReached session charge now grace ∧
      chargeOutstanding charge ≤ ((gracePayments session.plateNormalized
        (now - grace * 60000000) s).map (Payment.credit s)).sum

/-- A stored session and its charge, by their keys, in a table of payments with keys of their
own. -/
structure StoredExit (session : ParkingSession) (charge : Charge) (s : Store) : Prop where
  charge_eq : unpaidSessionCharge session.id s = some charge
  session_eq : sessionById session.id s = some session
  charges : (s.charges.map Charge.id).Nodup
  payments : (s.payments.map Payment.id).Nodup
  fits : (updateSession session session).check s = none

section

variable {session : ParkingSession} {charge : Charge} {now grace : ℤ} {s : Store}

theorem StoredExit.unpaid (h : StoredExit session charge s) :
    charge ∈ s.charges ∧ charge.status = .unpaid := by
  have hmem := List.mem_of_mem_head? h.charge_eq
  rw [mem_orderByDesc, List.mem_filter, Bool.and_eq_true] at hmem
  exact ⟨hmem.1, beq_iff_eq.1 hmem.2.2⟩

theorem StoredExit.row (h : StoredExit session charge s) : chargeById charge.id s = some charge :=
  find?_key_of_mem h.charges h.unpaid.1

theorem StoredExit.not_marked (h : StoredExit session charge s) : ¬ MarkedPaid session charge s := by
  intro hmarked
  have hstatus := hmarked.1
  rw [h.row, Option.map_some, h.unpaid.2] at hstatus
  cases hstatus

/-- A settlement that is not reached gives nothing, and leaves the charge unpaid. -/
theorem StoredExit.unreached (h : StoredExit session charge s)
    (hstop : 0 < grace → ¬ SettlementReached session charge now grace) :
    (∃ news, PrepaidSettled session charge now grace s s news) ↔
      LatestCover session charge now grace s := by
  constructor
  · rintro ⟨news, hsettled⟩ hcovered
    exact absurd (hsettled.paid_iff.2 hcovered) h.not_marked
  · intro hlatest
    refine ⟨[], (List.append_nil _).symm, by simp, fun p _ => p.credit_nonneg s,
      chargeOutstanding_nonneg charge, by simp, iff_of_false h.not_marked fun hcovered => ?_⟩
    obtain ⟨hreached, -⟩ := hlatest hcovered
    refine hstop ?_ hreached
    -- a grace period of no minutes has no window
    by_contra hgrace
    have hnone : windowCredit session.plateNormalized grace now s = 0 := by
      have hempty : s.payments.filter (inGraceWindow session.plateNormalized grace now) = [] :=
        List.filter_eq_nil_iff.2 fun p _ => by simp [inGraceWindow, hgrace]
      rw [windowCredit, hempty]
      rfl
    have howes := hreached.owes
    omega

/-- The payments of the query are payments of the window. -/
theorem mem_gracePayments {p : Payment} (hgrace : 0 < grace)
    (h : p ∈ gracePayments session.plateNormalized (now - grace * 60000000) s) :
    p ∈ s.payments ∧ inGraceWindow session.plateNormalized grace now p = true := by
  rw [gracePayments_eq hgrace] at h
  exact List.mem_filter.1 (mem_orderByDesc.1 (List.mem_of_mem_take h))

section

variable {news : List PaymentAllocation} {outstanding : ℤ}
  (hgrace : 0 < grace)
  (hgiven : news.map (fun a => (a.paymentId, a.amount)) = givenShares s
    (gracePayments session.plateNormalized (now - grace * 60000000) s) outstanding)

include hgrace hgiven

/-- Who gave something is a payment of the window. -/
theorem source_of_given : ∀ a ∈ news, ∃ p ∈ s.payments, p.id = a.paymentId ∧
    inGraceWindow session.plateNormalized grace now p = true := by
  intro a ha
  have hmem : (a.paymentId, a.amount) ∈ givenShares s _ outstanding :=
    hgiven ▸ List.mem_map.2 ⟨a, ha, rfl⟩
  obtain ⟨p, hp, hid⟩ := List.mem_map.1 (List.of_mem_zip (List.mem_of_mem_filter hmem)).1
  obtain ⟨hstored, hwindow⟩ := mem_gracePayments hgrace hp
  exact ⟨p, hstored, hid, hwindow⟩

/-- No payment of the table gave more than its credit. -/
theorem allocatedIn_given_le (h : StoredExit session charge s) (hout : 0 ≤ outstanding)
    {p : Payment} (hp : p ∈ s.payments) : allocatedIn news p.id ≤ p.credit s := by
  have hcredit : ∀ q ∈ gracePayments session.plateNormalized (now - grace * 60000000) s,
      q.id = p.id → q.credit s ≤ p.credit s := fun q hq hid => by
    have hsame := List.inj_on_of_nodup_map h.payments (mem_gracePayments hgrace hq).1 hp hid
    exact le_of_eq (congrArg _ hsame)
  have hgave := givenShares_le (nodup_gracePayments h.payments _ _) hout (p.credit_nonneg s) hcredit
  rw [← hgiven] at hgave
  simpa [allocatedIn, List.filter_map, Function.comp_def] using hgave

omit hgrace in
/-- Together they gave no more than what was outstanding. -/
theorem sum_given_le (hout : 0 ≤ outstanding) :
    (news.map PaymentAllocation.amount).sum ≤ outstanding := by
  have htotal := sum_givenShares s (gracePayments session.plateNormalized (now - grace * 60000000) s)
    hout
  rw [← hgiven, givenTotal_eq hout, List.map_map] at htotal
  exact htotal.trans_le (min_le_right _ _)

end

/-- **The settlement of an exit** does what it is meant to do exactly where the latest twenty
payments cover what all of the window would: for every session with an unpaid charge, every
table of payments and allocations, and every grace period. -/
theorem prepaidSettled_iff (clk : ℕ → ℤ) (session : ParkingSession) (charge : Charge)
    (now grace : ℤ) (w : Session Store) (hw : w.broken = false)
    (h : StoredExit session charge w.view) :
    (∃ news, PrepaidSettled session charge now grace w.view
      ((settleExitWithPrepaidCredit session now grace).exec clk w).2.view news) ↔
      LatestCover session charge now grace w.view := by
  unfold settleExitWithPrepaidCredit
  split
  · rename_i hnone
    refine h.unreached fun hgrace hreached => ?_
    have hpriced := hreached.priced
    omega
  · rename_i hgrace
    rw [Prog.bind_eq, Prog.exec_bind_of_ok (Prog.exec_select clk _ hw), h.charge_eq]
    dsimp only
    split
    · rename_i hpaid
      exact h.unreached fun _ hreached => absurd hreached.owes (not_lt.2 hpaid)
    · rename_i howes
      split
      · rename_i hearly
        exact h.unreached fun _ hreached => absurd hreached.window (not_le.2 hearly)
      · rename_i hwindow
        split
        · rename_i hplate
          exact h.unreached fun _ hreached => absurd hplate hreached.plate
        · rename_i hplate
          have hpositive : 0 < grace := by omega
          have hout := chargeOutstanding_nonneg charge
          obtain ⟨res, w', news, hexec, hnews, hcharged, hgiven, hmarked⟩ :=
            @exec_settleCharge session charge w clk (now - grace * 60000000) grace hw h.payments h.row
              h.unpaid.2 (by omega) h.session_eq fun _ => h.fits
          have hsome := gracePayments_credit_le hpositive session.plateNormalized now w.view
          have hreached : SettlementReached session charge now grace :=
            ⟨by omega, by omega, hplate, by omega⟩
          rw [hexec]
          constructor
          · rintro ⟨_, hsettled⟩ hcovered
            exact ⟨hreached, hmarked.1 (hsettled.paid_iff.2 hcovered)⟩
          · intro hlatest
            have hpaid : MarkedPaid session charge w'.view ↔
                chargeOutstanding charge ≤ windowCredit session.plateNormalized grace now w.view :=
              hmarked.trans ⟨fun hcovered => hcovered.trans hsome, fun hcovered =>
                (hlatest hcovered).2⟩
            exact ⟨news, hnews, hcharged,
              fun p hp => allocatedIn_given_le hpositive hgiven h hout hp, sum_given_le hgiven hout,
              source_of_given hpositive hgiven, hpaid⟩

end

/-- A stay of an hour that cost 21. -/
def shortStay : ParkingSession :=
  { id := 1, vehicleId := none, plateNormalized := "12B34567", entryEventId := none, entryAt := 0
    exitAt := some 3600000000, status := .closed, finalAmount := 21 }

def shortStayCharge : Charge :=
  { id := 2, parkingSessionId := some 1, amount := 21, createdAt := 3600000000 }

/-- The stay, and a payment of each of these amounts a minute apart. -/
def prepaidIn (amounts : List ℤ) : Store :=
  { sessions := [shortStay]
    charges := [shortStayCharge]
    payments := amounts.mapIdx fun i amount =>
      { id := i, referenceNumber := "r", vehicleId := none, plateNormalized := some "12B34567"
        amount, paidAt := 60000000 * i, operatorId := none, notes := none } }

/-- Two payments that cover the charge settle it. -/
theorem prepaidSettled_iff_two :
    ∃ news, PrepaidSettled shortStay shortStayCharge 3600000000 60 (prepaidIn [15, 10])
      ((settleExitWithPrepaidCredit shortStay 3600000000 60).exec (fun n => n)
        (.fresh (prepaidIn [15, 10]) 9 0)).2.view news :=
  (prepaidSettled_iff (fun n => n) shortStay shortStayCharge 3600000000 60
    (.fresh (prepaidIn [15, 10]) 9 0) rfl
    ⟨rfl, rfl, by decide, by decide, rfl⟩).2 fun _ =>
      ⟨⟨by decide, by decide, by decide, by decide⟩, by decide +kernel⟩

/-- Twenty-one payments of 1 do not settle a charge of 21. -/
theorem twenty_first_unused :
    ¬ ∀ (clk : ℕ → ℤ) (session : ParkingSession) (charge : Charge) (now grace : ℤ)
      (w : Session Store), w.broken = false → session.status = .closed →
      StoredExit session charge w.view →
      ∃ news, PrepaidSettled session charge now grace w.view
        ((settleExitWithPrepaidCredit session now grace).exec clk w).2.view news := by
  intro hsettles
  obtain ⟨news, hsettled⟩ := hsettles (fun n => n) shortStay shortStayCharge 3600000000 60
    (.fresh (prepaidIn (List.replicate 21 1)) 29 0) rfl rfl
    ⟨rfl, rfl, by decide, by decide +kernel, rfl⟩
  have hcovered : chargeOutstanding shortStayCharge ≤
      windowCredit "12B34567" 60 3600000000 (prepaidIn (List.replicate 21 1)) := by decide +kernel
  have hmarked := (hsettled.paid_iff.2 hcovered).1
  have hleft : (chargeById 2 ((settleExitWithPrepaidCredit shortStay 3600000000 60).exec (fun n => n)
      (.fresh (prepaidIn (List.replicate 21 1)) 29 0)).2.view).map Charge.status =
        some .unpaid := by decide +kernel
  rw [show shortStayCharge.id = 2 from rfl, hleft] at hmarked
  cases hmarked

end ParkingSystem
