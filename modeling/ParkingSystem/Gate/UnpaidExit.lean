import ParkingSystem.Gate.Outcome

/-!
# Unpaid Exits under DENY

An exit has two ways to look at what its driver owes. The preview asks what the closing would
charge and refuses the exit when that is more than nothing. The settlement pays the charge from
recent payments of the plate that still have credit, once the session is closed.

## The order of the two

Under DENY the preview comes first, and it does not ask for credit. An exit that the settlement
would have paid is refused before the settlement is reached, so a payment inside the grace
window lets nobody out whose stay costs anything.
-/

namespace ParkingSystem

open PyValue Table Transaction

/-! ## Prepaid credit -/

/-- The grace period of an exit, in minutes, on a store. -/
def graceMinutes (cfg : Config) (s : Store) : ℤ :=
  policySetting "tariff_policy" ["EXIT_GRACE_MINUTES", "exit_grace_minutes"] Json.toInt
    cfg.exitGraceMinutes s

theorem reads_exitGrace (cfg : Config) : (exitGrace cfg).Reads (graceMinutes cfg) :=
  reads_getPolicySetting _ _ _ _

/-- Whether a payment counts for the exit of a plate: it is completed and inside the window. A
grace period of no minutes has no window. -/
def inGraceWindow (plate : String) (grace now : ℤ) (p : Payment) : Bool :=
  p.plateNormalized == some plate && p.paymentStatus == "COMPLETED" && decide (0 < grace) &&
    decide (now - grace * 60000000 ≤ p.paidAt)

/-- What a payment has left on a store. -/
def Payment.credit (s : Store) (p : Payment) : ℤ := paymentUnallocatedCredit p (allocatedSum p.id s)

theorem Payment.credit_nonneg (s : Store) (p : Payment) : 0 ≤ p.credit s := le_max_left _ _

/-- The credit of a plate inside its grace window. -/
def prepaidCredit (cfg : Config) (plate : String) (now : ℤ) (s : Store) : ℤ :=
  ((s.payments.filter (inGraceWindow plate (graceMinutes cfg s) now)).map (Payment.credit s)).sum

theorem prepaidCredit_nonneg (cfg : Config) (plate : String) (now : ℤ) (s : Store) :
    0 ≤ prepaidCredit cfg plate now s := by
  refine List.sum_nonneg fun amount h => ?_
  obtain ⟨p, -, rfl⟩ := List.mem_map.1 h
  exact p.credit_nonneg s

/-- The payments of the settlement are the latest twenty of the window. -/
theorem gracePayments_eq {grace : ℤ} (hgrace : 0 < grace) (plate : String) (now : ℤ) (s : Store) :
    gracePayments plate (now - grace * 60000000) s =
      (orderByDesc Payment.paidAt (s.payments.filter (inGraceWindow plate grace now))).take 20 := by
  have hwindow : (s.payments.filter fun p => p.plateNormalized == some plate &&
      p.paymentStatus == "COMPLETED" && now - grace * 60000000 ≤ p.paidAt) =
      s.payments.filter (inGraceWindow plate grace now) :=
    List.filter_congr fun p _ => by simp [inGraceWindow, hgrace]
  rw [gracePayments, hwindow]

/-- Their credit is some of the credit of the window. -/
theorem gracePayments_credit_le {grace : ℤ} (hgrace : 0 < grace) (plate : String) (now : ℤ)
    (s : Store) : ((gracePayments plate (now - grace * 60000000) s).map (Payment.credit s)).sum ≤
      ((s.payments.filter (inGraceWindow plate grace now)).map (Payment.credit s)).sum := by
  have hperm := (perm_orderByDesc Payment.paidAt
    (s.payments.filter (inGraceWindow plate grace now))).map (Payment.credit s)
  rw [gracePayments_eq hgrace, ← hperm.sum_eq, List.map_take]
  refine (List.take_sublist 20 _).sum_le_sum fun amount h => ?_
  obtain ⟨p, -, rfl⟩ := List.mem_map.1 h
  exact p.credit_nonneg s

/-! ## The law of the exit -/

/-- An exit under DENY of a registered, active and unrestricted plate with an open session. -/
structure DeniableExit (cfg : Config) (plate : String) (now : ℤ) (v : Vehicle)
    (session : ParkingSession) (s : Store) : Prop where
  policy : exitPolicy cfg s = "DENY"
  registered : vehicleOf plate s = some v
  active : v.isActive = true
  unrestricted : activeRestriction plate now s = none
  opened : latestOpenSession plate s = some session

/-- How the first layer ends for the exit of a plate. -/
def exitResult (cfg : Config) (clk : ℕ → ℤ) (gateId plate : String) (now : ℤ)
    (w : Session Store) : Except (Exc AppError) BaseDecision :=
  ((baseDecision cfg "OUT" gateId (some plate) (vehicleOf plate w.view) now).exec clk w).1

/-- The answer of an exit that is refused for what it costs. -/
def BaseDecision.unpaidBlocked (base : BaseDecision) : Prop :=
  base.decision = .deny ∧ base.reason = "EXIT_UNPAID_BLOCKED"

/-- What the exit is for: it is blocked exactly when it costs more than the plate has prepaid,
and whoever prepaid enough is let out. -/
structure ExitLaw (cfg : Config) (clk : ℕ → ℤ) (gateId plate : String) (now : ℤ)
    (session : ParkingSession) (w : Session Store) : Prop where
  blocked_iff : (∃ base, exitResult cfg clk gateId plate now w = .ok base ∧ base.unpaidBlocked) ↔
    prepaidCredit cfg plate now w.view < (stayAmounts cfg session now w.view).final
  letOut : (stayAmounts cfg session now w.view).final ≤ prepaidCredit cfg plate now w.view →
    ∀ base, exitResult cfg clk gateId plate now w = .ok base → base.decision = .allow

section

variable {cfg : Config} {plate : String} {now : ℤ} {v : Vehicle} {session : ParkingSession}
  {w : Session Store}

/-- The first layer is the exit branch. -/
theorem DeniableExit.exitResult (h : DeniableExit cfg plate now v session w.view)
    (hw : w.broken = false) (clk : ℕ → ℤ) (gateId : String) :
    exitResult cfg clk gateId plate now w =
      (((exitCase cfg plate now w.view).run cfg now).exec clk w).1 := by
  rw [ParkingSystem.exitResult, exec_baseDecision hw,
    baseCase_cleared ⟨rfl, h.registered, h.active, h.unrestricted⟩, if_pos rfl]

/-- An exit that costs something is blocked, whatever was paid. -/
theorem DeniableExit.blocked (h : DeniableExit cfg plate now v session w.view)
    (hw : w.broken = false) (clk : ℕ → ℤ) (gateId : String)
    (hcosts : 0 < (stayAmounts cfg session now w.view).final) :
    ∃ base, ParkingSystem.exitResult cfg clk gateId plate now w = .ok base ∧
      base.unpaidBlocked := by
  have hblocked : exitBlocked cfg session now w.view = true := by
    simp [exitBlocked, h.policy, hcosts]
  refine ⟨blockedExit session (secondsBetween session.entryAt now)
    (stayAmounts cfg session now w.view), ?_, rfl, rfl⟩
  rw [h.exitResult hw]
  simp [exitCase, h.opened, hblocked, BaseCase.run]

/-- An exit that costs nothing closes its session, and its only answer is an admission. -/
theorem DeniableExit.free (h : DeniableExit cfg plate now v session w.view)
    (hw : w.broken = false) (clk : ℕ → ℤ) (gateId : String)
    (hfree : (stayAmounts cfg session now w.view).final ≤ 0) {base : BaseDecision}
    (hbase : ParkingSystem.exitResult cfg clk gateId plate now w = .ok base) :
    base.decision = .allow := by
  have hblocked : exitBlocked cfg session now w.view = false := by
    simp [exitBlocked, hfree]
  rw [h.exitResult hw] at hbase
  simp only [exitCase, h.opened, hblocked, Bool.false_eq_true, if_false, BaseCase.run] at hbase
  rcases hexec : (closeExit cfg (exitPolicy cfg w.view) session
    (secondsBetween session.entryAt now) now).exec clk w with ⟨res, w'⟩
  rw [hexec] at hbase
  obtain rfl : res = .ok base := hbase
  obtain ⟨c, w₁, -, hrest⟩ := Prog.exec_bind_ok hexec
  obtain ⟨settled, w₂, -, hrest⟩ := Prog.exec_bind_ok hrest
  obtain rfl := Except.ok.inj (congrArg Prod.fst hrest)
  rfl

/-- Under DENY an exit is blocked exactly when it costs something. -/
theorem DeniableExit.blocked_iff_costs (h : DeniableExit cfg plate now v session w.view)
    (hw : w.broken = false) (clk : ℕ → ℤ) (gateId : String) :
    (∃ base, ParkingSystem.exitResult cfg clk gateId plate now w = .ok base ∧
      base.unpaidBlocked) ↔ 0 < (stayAmounts cfg session now w.view).final := by
  refine ⟨?_, h.blocked hw clk gateId⟩
  rintro ⟨base, hbase, hdeny, -⟩
  by_contra hfree
  rw [h.free hw clk gateId (not_lt.1 hfree) hbase] at hdeny
  cases hdeny

/-- **Unpaid exits under DENY**: the law of the exit holds exactly where the stay costs nothing,
or more than the plate has prepaid. -/
theorem exitLaw_iff (h : DeniableExit cfg plate now v session w.view) (hw : w.broken = false)
    (clk : ℕ → ℤ) (gateId : String) :
    ExitLaw cfg clk gateId plate now session w ↔
      ¬ (0 < (stayAmounts cfg session now w.view).final ∧
        (stayAmounts cfg session now w.view).final ≤ prepaidCredit cfg plate now w.view) := by
  have hcosts := h.blocked_iff_costs hw clk gateId
  constructor
  · rintro ⟨hlaw, -⟩ ⟨hpos, hpaid⟩
    exact absurd (hlaw.1 (hcosts.2 hpos)) (not_lt.2 hpaid)
  · intro hcase
    have hcredit := prepaidCredit_nonneg cfg plate now w.view
    refine ⟨hcosts.trans ⟨fun hpos => ?_, fun hmore => lt_of_le_of_lt hcredit hmore⟩,
      fun hpaid base hbase => ?_⟩
    · by_contra hpaid
      exact hcase ⟨hpos, not_lt.1 hpaid⟩
    · -- who owes nothing is all that the credit covers
      refine h.free hw clk gateId ?_ hbase
      by_contra hpos
      exact hcase ⟨not_le.1 hpos, hpaid⟩

end

/-! ## A driver who prepaid -/

/-- A registered driver. -/
def prepaidDriver : Vehicle :=
  { id := 1, plateRaw := "12B34567", plateNormalized := "12B34567", createdAt := 0 }

/-- A stay that is still open. -/
def prepaidStay : ParkingSession :=
  { id := 2, vehicleId := some 1, plateNormalized := "12B34567", entryEventId := none
    entryAt := 0 }

/-- An hour costs 1000, and the driver paid five minutes before two hours were over. -/
def prepaidYard (paid : ℤ) : Store :=
  { appSettings := [{ key := "gate_policy", value := .obj [("EXIT_UNPAID_POLICY", .str "DENY")] }]
    vehicles := [prepaidDriver]
    sessions := [prepaidStay]
    tariffs := [{ id := 3, title := "hourly", hourlyAmount := 1000, createdAt := 0 }]
    payments := [{ id := 4, referenceNumber := "r", vehicleId := some 1
                   plateNormalized := some "12B34567", amount := paid, paidAt := 6900000000
                   operatorId := none, notes := none }] }

theorem deniable_prepaidYard (paid : ℤ) :
    DeniableExit {} "12B34567" 7200000000 prepaidDriver prepaidStay (prepaidYard paid) :=
  ⟨show exitPolicy {} (prepaidYard 0) = "DENY" by decide +kernel, by rfl, rfl, by rfl, by rfl⟩

/-- Two hours cost 2000; with 500 prepaid the law holds. -/
theorem exitLaw_iff_short :
    ExitLaw {} (fun n => n) "G" "12B34567" 7200000000 prepaidStay (.fresh (prepaidYard 500) 9 0) :=
  (exitLaw_iff (w := .fresh (prepaidYard 500) 9 0) (deniable_prepaidYard 500) rfl
    (fun n => n) "G").2 (by decide +kernel)

/-- A driver who prepaid the two hours five minutes ago is blocked. -/
theorem prepaid_blocked :
    ¬ ∀ (cfg : Config) (clk : ℕ → ℤ) (gateId plate : String) (now : ℤ) (v : Vehicle)
      (session : ParkingSession) (w : Session Store), w.broken = false →
      DeniableExit cfg plate now v session w.view →
      ExitLaw cfg clk gateId plate now session w := by
  intro hlaw
  have hdeniable := deniable_prepaidYard 2000
  have hyard := hlaw {} (fun n => n) "G" "12B34567" 7200000000 prepaidDriver prepaidStay
    (.fresh (prepaidYard 2000) 9 0) rfl hdeniable
  have hcosts : 0 < (stayAmounts {} prepaidStay 7200000000 (prepaidYard 2000)).final := by
    decide +kernel
  have hpaid : (stayAmounts {} prepaidStay 7200000000 (prepaidYard 2000)).final ≤
      prepaidCredit {} "12B34567" 7200000000 (prepaidYard 2000) := by decide +kernel
  obtain ⟨base, hbase, hblocked, -⟩ := hdeniable.blocked (w := .fresh (prepaidYard 2000) 9 0) rfl
    (fun n => n) "G" hcosts
  rw [hyard.letOut hpaid base hbase] at hblocked
  cases hblocked

end ParkingSystem
