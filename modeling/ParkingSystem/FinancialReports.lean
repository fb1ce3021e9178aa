import ParkingSystem.Finance.Debts
import ParkingSystem.Reports

/-!
# Financial Reports

Three reports say how much is unpaid: the dashboard, the financial summary and the list of debts.
The dashboard adds up amounts, the other two what is outstanding, and each of these two reads a
part of the charges. The summary also splits what is not VOIDED into paid and unpaid, and puts a
partly paid charge on one side.
-/

namespace ParkingSystem

open PyText Table Transaction

/-! ## The summary of charges -/

/-- The running totals of the loop. -/
structure ChargeTally where
  activeUnpaid : ℤ := 0
  activeUnpaidCount : ℕ := 0
  activePaid : ℤ := 0
  activePaidCount : ℕ := 0
  voidedTotal : ℤ := 0
  voidedCount : ℕ := 0

/-- One charge of the loop. -/
def ChargeTally.add (t : ChargeTally) (c : Charge) : ChargeTally :=
  if c.status = .voided then
    { t with voidedCount := t.voidedCount + 1, voidedTotal := t.voidedTotal + c.amount }
  else if c.status = .paid ∨ chargeOutstanding c ≤ 0 then
    { t with
      activePaid := t.activePaid + (if c.status = .paid then c.paidAmount else c.amount)
      activePaidCount := t.activePaidCount + 1 }
  else
    { t with
      activeUnpaid := t.activeUnpaid + chargeOutstanding c
      activeUnpaidCount := t.activeUnpaidCount + 1 }

structure ActiveCharges where
  unpaidTotal : ℤ
  unpaidCount : ℕ
  paidTotal : ℤ
  paidCount : ℕ
  grandTotal : ℤ
  deriving DecidableEq, Repr

structure VoidedCharges where
  total : ℤ
  count : ℕ
  note : String
  deriving DecidableEq, Repr

structure ChargeSummary where
  voidedMode : String
  active : ActiveCharges
  voided : VoidedCharges
  deriving DecidableEq, Repr

/-- `summarize_charges_for_report`; a mode that is neither word is SEPARATE. -/
def summarizeChargesForReport (rows : List Charge) (voidedMode : String) : ChargeSummary :=
  let mode := policyWord ["SEPARATE", "EXCLUDE"] "SEPARATE" (.str voidedMode)
  let t := rows.foldl ChargeTally.add {}
  { voidedMode := mode
    active :=
      { unpaidTotal := t.activeUnpaid, unpaidCount := t.activeUnpaidCount
        paidTotal := t.activePaid, paidCount := t.activePaidCount
        grandTotal := t.activeUnpaid + t.activePaid }
    voided :=
      if mode = "SEPARATE" then
        { total := t.voidedTotal, count := t.voidedCount
          note := "VOIDED — نمایش جدا (D10: SEPARATE)" }
      else { total := 0, count := 0, note := "VOIDED — حذف از گزارش (D10: EXCLUDE)" } }

/-- `.limit(10000)`. -/
def summaryLimit : ℕ := 10000

/-- The charges of the summary, the latest first. -/
def summaryRows (s : Store) : List Charge :=
  (orderByDesc Charge.createdAt s.charges).take summaryLimit

/-- The mode of the request, where it names one, else the stored one. -/
def summaryMode (cfg : Config) (voided : Option String) : Handler String :=
  if upperString (voided.getD "") = "" then resolveVoidedReportMode cfg
  else return upperString (voided.getD "")

/-- `financial_summary`, its time apart. -/
def financialSummary (cfg : Config) (voided : Option String) : Handler ChargeSummary := do
  let mode ← summaryMode cfg voided
  let rows ← .select summaryRows
  return summarizeChargesForReport rows mode

/-! ## What is counted of a charge -/

/-- The charges that are not VOIDED. -/
def activeCharges (rows : List Charge) : List Charge := rows.filter fun c => c.status != .voided

/-- What of an active charge goes to the paid side. -/
def Charge.countedPaid (c : Charge) : ℤ :=
  if c.status = .paid then c.paidAmount else if chargeOutstanding c ≤ 0 then c.amount else 0

/-- What of an active charge goes to the unpaid side. -/
def Charge.countedUnpaid (c : Charge) : ℤ :=
  if c.status = .paid then 0 else chargeOutstanding c

section

variable {t : ChargeTally} {c : Charge}

/-- A VOIDED charge leaves both sides as they are. -/
theorem ChargeTally.add_voided (h : c.status = .voided) :
    (t.add c).activePaid = t.activePaid ∧ (t.add c).activeUnpaid = t.activeUnpaid := by
  rw [ChargeTally.add, if_pos h]
  exact ⟨rfl, rfl⟩

/-- Any other charge adds what is counted of it to the sides. -/
theorem ChargeTally.add_active (h : c.status ≠ .voided) :
    (t.add c).activePaid = t.activePaid + c.countedPaid ∧
      (t.add c).activeUnpaid = t.activeUnpaid + c.countedUnpaid := by
  have hnonneg := chargeOutstanding_nonneg c
  unfold ChargeTally.add Charge.countedPaid Charge.countedUnpaid
  rw [if_neg h]
  by_cases hpaid : c.status = .paid
  · simp [hpaid]
  · by_cases hsettled : chargeOutstanding c ≤ 0
    · -- nothing is outstanding, so nothing is missing on the unpaid side
      have hzero : chargeOutstanding c = 0 := by omega
      simp [hpaid, hzero]
    · simp [hpaid, hsettled]

end

/-- **The loop conserves the charges**: each side grows by what is counted of the active rows. -/
theorem foldl_tally (rows : List Charge) (t : ChargeTally) :
    (rows.foldl ChargeTally.add t).activePaid =
        t.activePaid + ((activeCharges rows).map Charge.countedPaid).sum ∧
      (rows.foldl ChargeTally.add t).activeUnpaid =
        t.activeUnpaid + ((activeCharges rows).map Charge.countedUnpaid).sum := by
  induction rows generalizing t with
  | nil => simp [activeCharges]
  | cons c rows ih =>
    obtain ⟨hpaid, hunpaid⟩ := ih (t.add c)
    rw [List.foldl_cons, hpaid, hunpaid]
    by_cases hvoided : c.status = .voided
    · obtain ⟨hsame, hsame'⟩ := @ChargeTally.add_voided t c hvoided
      have hactive : activeCharges (c :: rows) = activeCharges rows :=
        List.filter_cons_of_neg (by simp [hvoided])
      rw [hsame, hsame', hactive]
      exact ⟨rfl, rfl⟩
    · obtain ⟨hadded, hadded'⟩ := @ChargeTally.add_active t c hvoided
      have hactive : activeCharges (c :: rows) = c :: activeCharges rows :=
        List.filter_cons_of_pos (by simp [hvoided])
      rw [hadded, hadded', hactive, List.map_cons, List.map_cons, List.sum_cons, List.sum_cons,
        add_assoc, add_assoc]
      exact ⟨rfl, rfl⟩

theorem paidTotal_summary (rows : List Charge) (mode : String) :
    (summarizeChargesForReport rows mode).active.paidTotal =
      ((activeCharges rows).map Charge.countedPaid).sum :=
  (foldl_tally rows {}).1.trans (zero_add _)

theorem unpaidTotal_summary (rows : List Charge) (mode : String) :
    (summarizeChargesForReport rows mode).active.unpaidTotal =
      ((activeCharges rows).map Charge.countedUnpaid).sum :=
  (foldl_tally rows {}).2.trans (zero_add _)

/-! ## The summary and the ledger -/

/-- No charge is paid beyond its amount. -/
def Charge.Bounded (c : Charge) : Prop := 0 ≤ c.paidAmount ∧ c.paidAmount ≤ c.amount

/-- A PAID charge is paid in full, and any other in full or not at all. -/
def Charge.AllOrNothing (c : Charge) : Prop :=
  if c.status = .paid then c.paidAmount = c.amount
  else c.paidAmount = 0 ∨ c.paidAmount = c.amount

theorem Charge.Bounded.outstanding {c : Charge} (h : c.Bounded) :
    chargeOutstanding c = c.amount - c.paidAmount := by
  obtain ⟨-, hle⟩ := h
  unfold chargeOutstanding
  omega

/-- Neither side counts more than the ledger has. -/
theorem Charge.Bounded.counted_le {c : Charge} (h : c.Bounded) :
    c.countedPaid ≤ c.paidAmount ∧ c.countedUnpaid ≤ chargeOutstanding c := by
  have hout := h.outstanding
  obtain ⟨hnonneg, hle⟩ := h
  unfold Charge.countedPaid Charge.countedUnpaid
  split
  · omega
  · split
    · omega
    · omega

/-- Both sides are right about a charge that is paid in full or not at all, and only about such a
one. -/
theorem Charge.Bounded.counted_eq_iff {c : Charge} (h : c.Bounded) :
    c.countedPaid = c.paidAmount ∧ c.countedUnpaid = chargeOutstanding c ↔ c.AllOrNothing := by
  have hout := h.outstanding
  obtain ⟨hnonneg, hle⟩ := h
  unfold Charge.countedPaid Charge.countedUnpaid Charge.AllOrNothing
  by_cases hpaid : c.status = .paid
  · rw [if_pos hpaid, if_pos hpaid, if_pos hpaid]
    omega
  · rw [if_neg hpaid, if_neg hpaid, if_neg hpaid]
    split
    · omega
    · omega

/-- The summary gives the sums of the ledger over the charges that are not VOIDED, in every
mode. -/
def SummaryAgrees (rows : List Charge) : Prop :=
  ∀ mode,
    (summarizeChargesForReport rows mode).active.paidTotal =
      ((activeCharges rows).map Charge.paidAmount).sum ∧
    (summarizeChargesForReport rows mode).active.unpaidTotal =
      outstandingSum (activeCharges rows) ∧
    (summarizeChargesForReport rows mode).active.grandTotal =
      ((activeCharges rows).map Charge.amount).sum

/-- Of bounded charges, the paid and the outstanding make up the amounts. -/
theorem sum_amount {rows : List Charge} (h : ∀ c ∈ rows, c.Bounded) :
    (rows.map Charge.amount).sum = outstandingSum rows + (rows.map Charge.paidAmount).sum := by
  rw [outstandingSum, ← List.sum_map_add]
  refine congrArg List.sum (List.map_congr_left fun c hc => ?_)
  have hout := (h c hc).outstanding
  omega

theorem mem_activeCharges {rows : List Charge} {c : Charge} :
    c ∈ activeCharges rows ↔ c ∈ rows ∧ c.status ≠ .voided := by
  simp [activeCharges]

/-- The summary of bounded charges is the ledger's exactly where each is paid in full or not at
all. -/
theorem summaryAgrees_iff {rows : List Charge} (h : ∀ c ∈ rows, c.Bounded) :
    SummaryAgrees rows ↔ ∀ c ∈ rows, c.status ≠ .voided → c.AllOrNothing := by
  have hactive : ∀ c ∈ activeCharges rows, c.Bounded := fun c hc => h c (mem_activeCharges.1 hc).1
  have hpaid := sum_map_eq_iff_of_le fun c hc => (hactive c hc).counted_le.1
  have hunpaid := sum_map_eq_iff_of_le fun c hc => (hactive c hc).counted_le.2
  have hamounts := sum_amount hactive
  unfold SummaryAgrees
  simp only [paidTotal_summary, unpaidTotal_summary]
  constructor
  · intro hagree c hc hvoided
    obtain ⟨hpaid', hunpaid', -⟩ := hagree "SEPARATE"
    have hmem := mem_activeCharges.2 ⟨hc, hvoided⟩
    exact (h c hc).counted_eq_iff.1 ⟨hpaid.1 hpaid' c hmem, hunpaid.1 hunpaid' c hmem⟩
  · intro hall mode
    have hcounted : ∀ c ∈ activeCharges rows,
        c.countedPaid = c.paidAmount ∧ c.countedUnpaid = chargeOutstanding c := fun c hc =>
      (hactive c hc).counted_eq_iff.2
        (hall c (mem_activeCharges.1 hc).1 (mem_activeCharges.1 hc).2)
    have hpaid' := hpaid.2 fun c hc => (hcounted c hc).1
    have hunpaid' := hunpaid.2 fun c hc => (hcounted c hc).2
    refine ⟨hpaid', hunpaid', ?_⟩
    have hgrand : (summarizeChargesForReport rows mode).active.grandTotal =
        (summarizeChargesForReport rows mode).active.unpaidTotal +
          (summarizeChargesForReport rows mode).active.paidTotal := rfl
    rw [hgrand, paidTotal_summary, unpaidTotal_summary, hpaid', hunpaid', hamounts]
    rfl

/-! ## What is unpaid -/

/-- The unpaid charges of some rows. -/
def unpaidCharges (rows : List Charge) : List Charge := rows.filter fun c => c.status == .unpaid

theorem mem_unpaidCharges {rows : List Charge} {c : Charge} :
    c ∈ unpaidCharges rows ↔ c ∈ rows ∧ c.status = .unpaid := by
  simp [unpaidCharges]

theorem unpaidCharges_append (rows rows' : List Charge) :
    unpaidCharges (rows ++ rows') = unpaidCharges rows ++ unpaidCharges rows' :=
  List.filter_append _ _

/-- Of the three statuses, only UNPAID has something on the unpaid side. -/
theorem unpaidTotal_summary_eq (rows : List Charge) (mode : String) :
    (summarizeChargesForReport rows mode).active.unpaidTotal =
      outstandingSum (unpaidCharges rows) := by
  rw [unpaidTotal_summary]
  induction rows with
  | nil => rfl
  | cons c rows ih =>
    cases hstatus : c.status with
    | unpaid =>
      have hactive : activeCharges (c :: rows) = c :: activeCharges rows :=
        List.filter_cons_of_pos (by simp [hstatus])
      have hunpaid : unpaidCharges (c :: rows) = c :: unpaidCharges rows :=
        List.filter_cons_of_pos (by simp [hstatus])
      have hcounted : c.countedUnpaid = chargeOutstanding c := by
        simp [Charge.countedUnpaid, hstatus]
      rw [hactive, hunpaid, List.map_cons, List.sum_cons, ih, hcounted]
      rfl
    | paid =>
      have hactive : activeCharges (c :: rows) = c :: activeCharges rows :=
        List.filter_cons_of_pos (by simp [hstatus])
      have hunpaid : unpaidCharges (c :: rows) = unpaidCharges rows :=
        List.filter_cons_of_neg (by simp [hstatus])
      have hcounted : c.countedUnpaid = 0 := by simp [Charge.countedUnpaid, hstatus]
      rw [hactive, hunpaid, List.map_cons, List.sum_cons, ih, hcounted, zero_add]
    | voided =>
      have hactive : activeCharges (c :: rows) = activeCharges rows :=
        List.filter_cons_of_neg (by simp [hstatus])
      have hunpaid : unpaidCharges (c :: rows) = unpaidCharges rows :=
        List.filter_cons_of_neg (by simp [hstatus])
      rw [hactive, hunpaid, ih]

theorem exec_financialSummary (clk : ℕ → ℤ) (cfg : Config) (voided : Option String)
    {w : Session Store} (hw : w.broken = false) :
    ∃ r, (financialSummary cfg voided).exec clk w = (.ok r, w) ∧
      r.active.unpaidTotal = outstandingSum (unpaidCharges (summaryRows w.view)) := by
  have hmode : ∃ mode, (summaryMode cfg voided).exec clk w = (.ok mode, w) := by
    unfold summaryMode
    split
    · exact ⟨_, reads_resolveVoidedReportMode cfg clk w hw⟩
    · exact ⟨_, rfl⟩
  obtain ⟨mode, hmode⟩ := hmode
  refine ⟨summarizeChargesForReport (summaryRows w.view) mode, ?_, unpaidTotal_summary_eq _ _⟩
  rw [financialSummary, Prog.bind_eq, Prog.exec_bind_of_ok hmode]
  exact Prog.exec_bind_of_ok (Prog.exec_select clk _ hw)

/-- The total of the dashboard. -/
theorem unpaidTotal_dashboard (now : ℤ) (s : Store) :
    (dashboard now s).unpaidTotal = ((unpaidCharges s.charges).map Charge.amount).sum := rfl

/-! ## The three totals -/

/-- The dashboard, the summary and the list of all debts say the same. -/
def UnpaidTotalsAgree (cfg : Config) (voided : Option String) (clk : ℕ → ℤ) (now : ℤ)
    (w : Session Store) : Prop :=
  ∃ r d, (financialSummary cfg voided).exec clk w = (.ok r, w) ∧
    (listDebts cfg none).exec clk w = (.ok d, w) ∧
    r.active.unpaidTotal = (dashboard now w.view).unpaidTotal ∧
    d.totalUnpaid = (dashboard now w.view).unpaidTotal

/-- Nothing is paid of an unpaid charge, and one that costs something is in both queries. -/
structure UnpaidInFull (cfg : Config) (s : Store) : Prop where
  untouched : ∀ c ∈ s.charges, c.status = .unpaid → c.paidAmount = 0
  summarized : ∀ c ∈ (orderByDesc Charge.createdAt s.charges).drop summaryLimit,
    c.status = .unpaid → c.amount = 0
  listed : ∀ c ∈ (debtRows cfg none s).drop debtLimit, c.amount = 0

/-- What some bounded charges owe is the amount of these and others only if nothing is paid of
them, and the others cost nothing. -/
theorem outstandingSum_eq_iff {listed rest : List Charge} (hlisted : ∀ c ∈ listed, c.Bounded)
    (hrest : ∀ c ∈ rest, c.Bounded) :
    outstandingSum listed = ((listed ++ rest).map Charge.amount).sum ↔
      (∀ c ∈ listed, c.paidAmount = 0) ∧ ∀ c ∈ rest, c.amount = 0 := by
  have hpaid : ∀ x ∈ listed.map Charge.paidAmount, 0 ≤ x := by
    intro x hx
    obtain ⟨c, hc, rfl⟩ := List.mem_map.1 hx
    exact (hlisted c hc).1
  have hamount : ∀ x ∈ rest.map Charge.amount, 0 ≤ x := by
    intro x hx
    obtain ⟨c, hc, rfl⟩ := List.mem_map.1 hx
    exact (hrest c hc).1.trans (hrest c hc).2
  have hpaidSum := List.sum_nonneg hpaid
  have hamountSum := List.sum_nonneg hamount
  rw [List.map_append, List.sum_append, sum_amount hlisted]
  constructor
  · intro hsame
    have hnothing : (listed.map Charge.paidAmount).sum = 0 := by omega
    have hnone : (rest.map Charge.amount).sum = 0 := by omega
    exact ⟨fun c hc => List.all_zero_of_le_zero_le_of_sum_eq_zero hpaid hnothing
        (List.mem_map_of_mem hc),
      fun c hc => List.all_zero_of_le_zero_le_of_sum_eq_zero hamount hnone (List.mem_map_of_mem hc)⟩
  · rintro ⟨hnothing, hnone⟩
    have hpaidZero : (listed.map Charge.paidAmount).sum = 0 := List.sum_eq_zero fun x hx => by
      obtain ⟨c, hc, rfl⟩ := List.mem_map.1 hx
      exact hnothing c hc
    have hrestZero : (rest.map Charge.amount).sum = 0 := List.sum_eq_zero fun x hx => by
      obtain ⟨c, hc, rfl⟩ := List.mem_map.1 hx
      exact hnone c hc
    omega

section

variable {cfg : Config} {s : Store} (h : ∀ c ∈ s.charges, c.Bounded)

include h

/-- The summary of a store says what the dashboard does. -/
theorem summary_eq_dashboard_iff (now : ℤ) :
    outstandingSum (unpaidCharges (summaryRows s)) = (dashboard now s).unpaidTotal ↔
      (∀ c ∈ unpaidCharges (summaryRows s), c.paidAmount = 0) ∧
        ∀ c ∈ unpaidCharges ((orderByDesc Charge.createdAt s.charges).drop summaryLimit),
          c.amount = 0 := by
  have hperm : (unpaidCharges (orderByDesc Charge.createdAt s.charges)).Perm
      (unpaidCharges s.charges) := (perm_orderByDesc Charge.createdAt s.charges).filter _
  have hsplit : unpaidCharges (orderByDesc Charge.createdAt s.charges) =
      unpaidCharges (summaryRows s) ++
        unpaidCharges ((orderByDesc Charge.createdAt s.charges).drop summaryLimit) := by
    rw [← unpaidCharges_append, summaryRows, List.take_append_drop]
  rw [unpaidTotal_dashboard, ← (hperm.map Charge.amount).sum_eq, hsplit]
  refine outstandingSum_eq_iff (fun c hc => h c ?_) fun c hc => h c ?_
  · exact mem_orderByDesc.1 (List.mem_of_mem_take (mem_unpaidCharges.1 hc).1)
  · exact mem_orderByDesc.1 (List.mem_of_mem_drop (mem_unpaidCharges.1 hc).1)

/-- The list of all debts says what the dashboard does. -/
theorem debts_eq_dashboard_iff (now : ℤ) :
    outstandingSum (listedDebts cfg none s) = (dashboard now s).unpaidTotal ↔
      (∀ c ∈ listedDebts cfg none s, c.paidAmount = 0) ∧
        ∀ c ∈ (debtRows cfg none s).drop debtLimit, c.amount = 0 := by
  have hrows : debtRows cfg none s = orderBy Charge.createdAt (unpaidCharges s.charges) := by
    simp [debtRows, askedFor, unpaidCharges]
  have hperm := perm_orderBy Charge.createdAt (unpaidCharges s.charges)
  have hmem {c : Charge} (hc : c ∈ debtRows cfg none s) : c.Bounded := by
    rw [hrows] at hc
    exact h c (mem_unpaidCharges.1 (mem_orderBy.1 hc)).1
  have hsplit : orderBy Charge.createdAt (unpaidCharges s.charges) =
      listedDebts cfg none s ++ (debtRows cfg none s).drop debtLimit := by
    rw [← hrows, listedDebts, List.take_append_drop]
  rw [unpaidTotal_dashboard, ← (hperm.map Charge.amount).sum_eq, hsplit]
  exact outstandingSum_eq_iff (fun c hc => hmem (List.mem_of_mem_take hc))
    fun c hc => hmem (List.mem_of_mem_drop hc)

/-- Both at once: nothing is paid of what is unpaid, and nothing of value is left out. -/
theorem totals_iff (now : ℤ) :
    outstandingSum (unpaidCharges (summaryRows s)) = (dashboard now s).unpaidTotal ∧
        outstandingSum (listedDebts cfg none s) = (dashboard now s).unpaidTotal ↔
      UnpaidInFull cfg s := by
  rw [summary_eq_dashboard_iff h, debts_eq_dashboard_iff h]
  constructor
  · rintro ⟨⟨hsummary, hsummaryRest⟩, -, hlistRest⟩
    refine ⟨fun c hc hunpaid => ?_, fun c hc hunpaid =>
      hsummaryRest c (mem_unpaidCharges.2 ⟨hc, hunpaid⟩), hlistRest⟩
    -- a charge is in the summary, or costs nothing
    have hordered : c ∈ summaryRows s ++
        (orderByDesc Charge.createdAt s.charges).drop summaryLimit := by
      rw [summaryRows, List.take_append_drop]
      exact mem_orderByDesc.2 hc
    rcases List.mem_append.1 hordered with hc' | hc'
    · exact hsummary c (mem_unpaidCharges.2 ⟨hc', hunpaid⟩)
    · have hfree := hsummaryRest c (mem_unpaidCharges.2 ⟨hc', hunpaid⟩)
      obtain ⟨hnonneg, hle⟩ := h c hc
      omega
  · rintro ⟨huntouched, hsummarized, hlisted⟩
    refine ⟨⟨fun c hc => ?_, fun c hc => ?_⟩, fun c hc => ?_, hlisted⟩
    · obtain ⟨hmem, hunpaid⟩ := mem_unpaidCharges.1 hc
      exact huntouched c (mem_orderByDesc.1 (List.mem_of_mem_take hmem)) hunpaid
    · obtain ⟨hmem, hunpaid⟩ := mem_unpaidCharges.1 hc
      exact hsummarized c hmem hunpaid
    · have hmem := mem_orderBy.1 (List.mem_of_mem_take hc)
      rw [List.mem_filter, Bool.and_eq_true, beq_iff_eq] at hmem
      exact huntouched c hmem.1 hmem.2.1

end

/-- **The reports agree with the ledger** exactly where every charge is paid in full or not at
all, and, for the totals of a store, nothing is paid of an unpaid charge and the limits of the
queries leave nothing of value out. -/
theorem reportsAgree_iff (rows : List Charge) (hrows : ∀ c ∈ rows, c.Bounded) (cfg : Config)
    (voided : Option String) (clk : ℕ → ℤ) (now : ℤ) (w : Session Store) (hw : w.broken = false)
    (hcharges : ∀ c ∈ w.view.charges, c.Bounded) :
    SummaryAgrees rows ∧ UnpaidTotalsAgree cfg voided clk now w ↔
      (∀ c ∈ rows, c.status ≠ .voided → c.AllOrNothing) ∧ UnpaidInFull cfg w.view := by
  obtain ⟨r, hsummary, hr⟩ := exec_financialSummary clk cfg voided hw
  obtain ⟨d, hlist, hd⟩ := exec_listDebts clk cfg none hw
  rw [summaryAgrees_iff hrows, ← totals_iff hcharges now, ← hr, ← hd]
  refine and_congr_right fun _ => ⟨?_, fun hsame => ⟨r, d, hsummary, hlist, hsame⟩⟩
  rintro ⟨r', d', hsummary', hlist', hsame⟩
  cases hsummary.symm.trans hsummary'
  cases hlist.symm.trans hlist'
  exact hsame

/-- A charge of 900. -/
def charge900 (paid : ℤ) (status : ChargeStatus) : Charge :=
  { id := 1, parkingSessionId := some 2, amount := 900, paidAmount := paid, status, createdAt := 0 }

/-- One that is paid and one that is not. -/
theorem reportsAgree_iff_whole : SummaryAgrees [charge900 900 .paid, charge900 0 .unpaid] ∧
    UnpaidTotalsAgree {} none (fun n => n) 0 (.fresh { charges := [charge900 0 .unpaid] } 9 0) :=
  (reportsAgree_iff [charge900 900 .paid, charge900 0 .unpaid] (by simp [Charge.Bounded, charge900])
    {} none (fun n => n) 0 (.fresh { charges := [charge900 0 .unpaid] } 9 0) rfl
    (by simp [Charge.Bounded, charge900])).2
    ⟨by simp [Charge.AllOrNothing, charge900], by simp [charge900],
      by simp [summaryLimit, orderByDesc],
      by simp [debtRows, askedFor, debtLimit, orderBy, charge900]⟩

/-- What is paid of an unpaid charge is on no side of the summary. -/
theorem part_payment_uncounted :
    ¬ ∀ (rows : List Charge), (∀ c ∈ rows, c.Bounded) → ∀ (cfg : Config) (voided : Option String)
      (clk : ℕ → ℤ) (now : ℤ) (w : Session Store), w.broken = false →
      (∀ c ∈ w.view.charges, c.Bounded) →
      SummaryAgrees rows ∧ UnpaidTotalsAgree cfg voided clk now w := by
  intro hagree
  have hpart : ∀ c ∈ [charge900 400 .unpaid], c.Bounded := by simp [Charge.Bounded, charge900]
  obtain ⟨hsummary, -⟩ := hagree [charge900 400 .unpaid] hpart {} none (fun n => n) 0
    (.fresh { charges := [charge900 400 .unpaid] } 9 0) rfl hpart
  exact absurd (hsummary "SEPARATE").1 (by decide +kernel)

end ParkingSystem
