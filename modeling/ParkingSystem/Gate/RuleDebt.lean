import ParkingSystem.Finance.Debts
import ParkingSystem.Gate.RuleIsolation

/-!
# Debt before the Rules

The context of the rules has a debt of its own: what the charges of the plate's sessions owe.
The list of debts counts the charges of the plate's violations too, and at most 500 charges. The
two come to the same exactly where the one difference makes up for the other.
-/

namespace ParkingSystem

open Plate Table Transaction

/-! ## The debt of the context -/

/-- `debt_amount` of a plate. -/
def debtAmount (plate : String) : Handler ℤ := do
  let sessions ← .select (sessionIds plate)
  if sessions.isEmpty then return 0
  else .select (debtOf sessions)

/-- `has_debt` is whether there is a `debt_amount`. -/
theorem hasDebt_eq (plate : String) :
    hasDebt plate = (debtAmount plate).bind fun debt => return decide (0 < debt) := by
  unfold hasDebt debtAmount
  rw [Prog.bind_eq, Prog.bind_eq, Prog.bind_assoc]
  refine congrArg (Prog.bind _) (funext fun sessions => ?_)
  cases sessions.isEmpty with
  | true => rfl
  | false => rfl

/-- No session, no charge of a session. -/
theorem debtOf_nil (s : Store) : debtOf [] s = 0 := by
  have hnone : (s.charges.filter fun c => c.parkingSessionId.any ([] : List ℕ).contains &&
      c.status == .unpaid) = [] :=
    List.filter_eq_nil_iff.2 fun c _ => by cases c.parkingSessionId <;> simp
  rw [debtOf, hnone]
  rfl

theorem reads_debtAmount (plate : String) :
    (debtAmount plate).Reads fun s => debtOf (sessionIds plate s) s := by
  intro clk w hw
  refine (Prog.exec_bind_of_ok (Prog.exec_select clk _ hw)).trans ?_
  split
  · rename_i hnone
    have hzero : debtOf (sessionIds plate w.view) w.view = 0 := by
      rw [List.isEmpty_iff.1 hnone, debtOf_nil]
    show _ = (Except.ok (debtOf (sessionIds plate w.view) w.view), w)
    rw [hzero]
    rfl
  · exact Prog.exec_select clk _ hw

/-! ## Whose charges -/

/-- A charge of one of the plate's sessions. -/
def ofSession (plate : String) (s : Store) (c : Charge) : Bool :=
  c.parkingSessionId.any (sessionIds plate s).contains

/-- The unpaid charges that only a violation ties to the plate. -/
def violationDebts (plate : String) (s : Store) : List Charge :=
  s.charges.filter fun c => c.status == .unpaid && ofPlate (some plate) s c && !ofSession plate s c

/-- The unpaid charges of the plate past the limit of the list. -/
def unlistedDebts (cfg : Config) (text : String) (s : Store) : List Charge :=
  (debtRows cfg (some text) s).drop debtLimit

/-- A charge of a session of the plate is a charge of the plate. -/
theorem ofPlate_of_ofSession {plate : String} {s : Store} {c : Charge}
    (h : ofSession plate s c = true) : ofPlate (some plate) s c = true := by
  have hsame : (s.sessions.filter fun r => some r.plateNormalized == some plate) =
      s.sessions.filter fun r => r.plateNormalized == plate :=
    List.filter_congr fun r _ => by simp
  rw [ofPlate, hsame]
  exact Bool.or_eq_true_iff.2 (Or.inl h)

/-- The debt of the context is what the charges of the plate's sessions owe. -/
theorem debtOf_eq (plate : String) (s : Store) : debtOf (sessionIds plate s) s =
    outstandingSum (s.charges.filter fun c => c.status == .unpaid && ofSession plate s c) := by
  have hsame : (s.charges.filter fun c => c.parkingSessionId.any (sessionIds plate s).contains &&
      c.status == .unpaid) = s.charges.filter fun c => c.status == .unpaid && ofSession plate s c :=
    List.filter_congr fun c _ => Bool.and_comm _ _
  rw [debtOf, hsame]
  rfl

/-- A request that names the plate asks for its charges. -/
theorem askedFor_eq {cfg : Config} {text plate : String}
    (h : normalizePlate cfg.plateLetterMapping text = some plate) (s : Store) (c : Charge) :
    askedFor cfg (some text) s c = ofPlate (some plate) s c := by
  have hne : text ≠ "" := by
    rintro rfl
    cases h
  simp [askedFor, h, hne]

/-- **The two debts compared**: sessions and violations on one side, listed and not on the
other. -/
theorem debtOf_add_violationDebts {cfg : Config} {text plate : String}
    (h : normalizePlate cfg.plateLetterMapping text = some plate) (s : Store) :
    debtOf (sessionIds plate s) s + outstandingSum (violationDebts plate s) =
      outstandingSum (listedDebts cfg (some text) s) +
        outstandingSum (unlistedDebts cfg text s) := by
  have hasked : (s.charges.filter fun c => c.status == .unpaid && askedFor cfg (some text) s c) =
      s.charges.filter fun c => c.status == .unpaid && ofPlate (some plate) s c :=
    List.filter_congr fun c _ => by rw [askedFor_eq h]
  have hsplit := outstandingSum_filter_add (ofSession plate s)
    (s.charges.filter fun c => c.status == .unpaid && ofPlate (some plate) s c)
  have hsessions : ((s.charges.filter fun c => c.status == .unpaid &&
      ofPlate (some plate) s c).filter (ofSession plate s)) =
      s.charges.filter fun c => c.status == .unpaid && ofSession plate s c := by
    rw [List.filter_filter]
    refine List.filter_congr fun c _ => ?_
    cases hsession : ofSession plate s c with
    | false => simp
    | true => simp [ofPlate_of_ofSession hsession]
  have hviolations : ((s.charges.filter fun c => c.status == .unpaid &&
      ofPlate (some plate) s c).filter fun c => !ofSession plate s c) = violationDebts plate s := by
    rw [List.filter_filter, violationDebts]
    exact List.filter_congr fun c _ => Bool.and_comm _ _
  rw [hsessions, hviolations, ← debtOf_eq] at hsplit
  rw [hsplit, ← hasked]
  exact outstandingSum_debtRows cfg (some text) s

/-! ## Agreement -/

/-- The context and the list agree on a plate: on the amount, and on whether there is one. -/
def DebtsAgree (cfg : Config) (subject : RuleSubject) (text plate : String) (clk : ℕ → ℤ)
    (w : Session Store) : Prop :=
  ∃ ctx debt debts, (buildContext cfg subject).exec clk w = (.ok ctx, w) ∧
    (debtAmount plate).exec clk w = (.ok debt, w) ∧
    (listDebts cfg (some text)).exec clk w = (.ok debts, w) ∧
    debt = debts.totalUnpaid ∧ (ctx.hasDebt = true ↔ 0 < debts.totalUnpaid)

/-- `has_debt` of the context, from the amount. -/
theorem hasDebt_contextOn (cfg : Config) {subject : RuleSubject} {plate : String}
    (h : subject.normalized = some plate) (s : Store) :
    (contextOn cfg subject s).hasDebt = true ↔ 0 < debtOf (sessionIds plate s) s := by
  show (subject.normalized.any fun plate => !(sessionIds plate s).isEmpty &&
    decide (0 < debtOf (sessionIds plate s) s)) = true ↔ _
  rw [h, Option.any_some, Bool.and_eq_true, decide_eq_true_eq]
  refine ⟨And.right, fun hdebt => ⟨?_, hdebt⟩⟩
  -- a debt is a session's
  cases hids : sessionIds plate s with
  | nil =>
    rw [hids, debtOf_nil] at hdebt
    omega
  | cons id ids => rfl

/-- **The debt of the rules is that of the list** exactly where what only violations tie to the
plate owes as much as what is past the limit of the list. -/
theorem debtsAgree_iff (cfg : Config) (subject : RuleSubject) (text plate : String)
    (htext : normalizePlate cfg.plateLetterMapping text = some plate)
    (hsubject : subject.normalized = some plate) (clk : ℕ → ℤ) (w : Session Store)
    (hw : w.broken = false) :
    DebtsAgree cfg subject text plate clk w ↔ outstandingSum (violationDebts plate w.view) =
      outstandingSum (unlistedDebts cfg text w.view) := by
  have hcontext := reads_buildContext cfg subject clk w hw
  have hdebt : (debtAmount plate).exec clk w = (.ok (debtOf (sessionIds plate w.view) w.view), w) :=
    reads_debtAmount plate clk w hw
  obtain ⟨debts, hlist, htotal⟩ := exec_listDebts clk cfg (some text) hw
  have hsplit := debtOf_add_violationDebts htext w.view
  have hpositive := hasDebt_contextOn cfg hsubject w.view
  constructor
  · rintro ⟨ctx, debt, debts', -, hdebt', hlist', hsame, -⟩
    rw [hdebt] at hdebt'
    rw [hlist] at hlist'
    cases hdebt'
    cases hlist'
    omega
  · intro hsame
    refine ⟨_, _, debts, hcontext, hdebt, hlist, by omega, ?_⟩
    rw [hpositive]
    omega

/-- What the rules are asked about a plate at an entry. -/
def plateSubject (plate : String) : RuleSubject :=
  { direction := "ENTRY", gate := { id := "g1", code := "G1", name := "North" }
    normalized := some plate, vehicle := none, permit := none, decision := .unknownPlate
    reason := "UNKNOWN_PLATE", driverRequest := none }

/-- A plate with a stay and a violation, and a charge. -/
def owingStore (c : Charge) : Store :=
  { sessions := [{ id := 1, vehicleId := none, plateNormalized := "12B345IR67", entryEventId := none
                   entryAt := 0, status := .closed }]
    violations := [{ id := 2, plateNormalized := some "12B345IR67", penaltyAmount := 500
                     status := "CONFIRMED" }]
    charges := [c] }

/-- The partly paid charge of the stay. -/
def stayDebt : Charge :=
  { id := 3, parkingSessionId := some 1, amount := 900, paidAmount := 400, createdAt := 0 }

/-- The charge of the violation. -/
def fineDebt : Charge :=
  { id := 3, violationId := some 2, chargeType := .violation, amount := 500, createdAt := 0 }

/-- What is left to pay of the stay is the debt of both. -/
theorem debtsAgree_iff_stay :
    DebtsAgree {} (plateSubject "12B345IR67") "12 ب 345 ایران 67" "12B345IR67" (fun n => n)
      (.fresh (owingStore stayDebt) 9 0) :=
  (debtsAgree_iff {} (plateSubject "12B345IR67") "12 ب 345 ایران 67" "12B345IR67"
    (by decide +kernel) rfl (fun n => n) (.fresh (owingStore stayDebt) 9 0) rfl).2
    (by decide +kernel)

/-- A fine is on the list, and the rules see no debt. -/
theorem fine_no_debt :
    ¬ ∀ (cfg : Config) (subject : RuleSubject) (text plate : String),
      normalizePlate cfg.plateLetterMapping text = some plate → subject.normalized = some plate →
      ∀ (clk : ℕ → ℤ) (w : Session Store), w.broken = false →
        DebtsAgree cfg subject text plate clk w := by
  intro hagree
  obtain ⟨-, debt, debts, -, hdebt, hlist, hsame, -⟩ :=
    hagree {} (plateSubject "12B345IR67") "12B345IR67" "12B345IR67" (by decide +kernel) rfl
      (fun n => n) (.fresh (owingStore fineDebt) 9 0) rfl
  have hnone : ((debtAmount "12B345IR67").exec (fun n => n)
      (.fresh (owingStore fineDebt) 9 0)).1.toOption = some 0 := by decide +kernel
  have htotal : ((listDebts {} (some "12B345IR67")).exec (fun n => n)
      (.fresh (owingStore fineDebt) 9 0)).1.toOption.map DebtList.totalUnpaid = some 500 := by
    decide +kernel
  rw [hdebt] at hnone
  rw [hlist] at htotal
  cases hnone
  cases htotal.symm.trans (congrArg some hsame.symm)

end ParkingSystem
