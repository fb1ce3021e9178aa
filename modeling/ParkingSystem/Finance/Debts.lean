import ParkingSystem.Finance.Tariff
import ParkingSystem.Plate

/-!
# The List of Debts

`GET /debts` lists what is outstanding, the oldest charge first: of everybody, or of a plate.
The charges of a plate are those of its sessions and those of its violations. The list ends
after 500 charges, and so does its total.
-/

namespace ParkingSystem

open Plate Table Transaction

/-! ## The query -/

/-- The charges of a plate: those of its sessions and those of its violations. A text that is no
plate is compared with NULL, and no session has that. -/
def ofPlate (plate : Option String) (s : Store) (c : Charge) : Bool :=
  (c.parkingSessionId.any
    ((s.sessions.filter fun r => some r.plateNormalized == plate).map ParkingSession.id).contains) ||
  c.violationId.any
    ((s.violations.filter fun v => v.plateNormalized == plate).map Violation.id).contains

/-- What the text of the request asks for; an empty one asks for everything. -/
def askedFor (cfg : Config) : Option String → Store → Charge → Bool
  | none, _, _ => true
  | some text, s, c => text == "" || ofPlate (normalizePlate cfg.plateLetterMapping text) s c

/-- The rows of the query, without its limit. -/
def debtRows (cfg : Config) (plate : Option String) (s : Store) : List Charge :=
  orderBy Charge.createdAt
    (s.charges.filter fun c => c.status == .unpaid && askedFor cfg plate s c)

/-- `.limit(500)`. -/
def debtLimit : ℕ := 500

/-- The charges that are listed. -/
def listedDebts (cfg : Config) (plate : Option String) (s : Store) : List Charge :=
  (debtRows cfg plate s).take debtLimit

/-! ## The answer -/

/-- A line of the list, its description apart. -/
structure DebtItem where
  chargeId : ℕ
  chargeType : ChargeType
  amount : ℤ
  paidAmount : ℤ
  outstanding : ℤ
  plate : Option String
  violationId : Option ℕ
  createdAt : ℤ
  deriving DecidableEq, Repr

structure DebtList where
  items : List DebtItem
  totalUnpaid : ℤ
  count : ℕ
  deriving DecidableEq, Repr

/-- The line of a charge, with the plates of the sessions. -/
def Charge.debtItem (plates : List (ℕ × String)) (c : Charge) : DebtItem :=
  { chargeId := c.id, chargeType := c.chargeType, amount := c.amount, paidAmount := c.paidAmount
    outstanding := chargeOutstanding c
    plate := c.parkingSessionId.bind fun id => plates.lookup id
    violationId := c.violationId, createdAt := c.createdAt }

/-- One charge of the loop; what is settled is passed over. -/
def DebtList.add (plates : List (ℕ × String)) (d : DebtList) (c : Charge) : DebtList :=
  if chargeOutstanding c ≤ 0 then d
  else { items := d.items ++ [c.debtItem plates]
         totalUnpaid := d.totalUnpaid + chargeOutstanding c
         count := d.count + 1 }

def DebtList.ofCharges (plates : List (ℕ × String)) (charges : List Charge) : DebtList :=
  charges.foldl (DebtList.add plates) { items := [], totalUnpaid := 0, count := 0 }

/-- The plates of the sessions of some charges. -/
def plateMap (charges : List Charge) (s : Store) : List (ℕ × String) :=
  (s.sessions.filter fun r => (charges.filterMap Charge.parkingSessionId).contains r.id).map
    fun r => (r.id, r.plateNormalized)

/-- `list_debts`. -/
def listDebts (cfg : Config) (plate : Option String) : Handler DebtList := do
  let charges ← .select (listedDebts cfg plate)
  if (charges.filterMap Charge.parkingSessionId).isEmpty then
    return DebtList.ofCharges [] charges
  else do
    let plates ← .select (plateMap charges)
    return DebtList.ofCharges plates charges

/-! ## The total -/

/-- What some charges owe together. -/
def outstandingSum (charges : List Charge) : ℤ := (charges.map chargeOutstanding).sum

theorem outstandingSum_nonneg (charges : List Charge) : 0 ≤ outstandingSum charges := by
  refine List.sum_nonneg fun amount h => ?_
  obtain ⟨c, -, rfl⟩ := List.mem_map.1 h
  exact chargeOutstanding_nonneg c

/-- A settled charge adds nothing, so the total grows by what is outstanding in either branch. -/
theorem totalUnpaid_add (plates : List (ℕ × String)) (d : DebtList) (c : Charge) :
    (d.add plates c).totalUnpaid = d.totalUnpaid + chargeOutstanding c := by
  have hnonneg := chargeOutstanding_nonneg c
  unfold DebtList.add
  split
  · have hsettled : chargeOutstanding c = 0 := by omega
    rw [hsettled, add_zero]
  · rfl

theorem totalUnpaid_foldl (plates : List (ℕ × String)) (charges : List Charge) (d : DebtList) :
    (charges.foldl (DebtList.add plates) d).totalUnpaid =
      d.totalUnpaid + outstandingSum charges := by
  induction charges generalizing d with
  | nil => exact (add_zero _).symm
  | cons c charges ih =>
    rw [List.foldl_cons, ih, totalUnpaid_add, add_assoc]
    rfl

theorem totalUnpaid_ofCharges (plates : List (ℕ × String)) (charges : List Charge) :
    (DebtList.ofCharges plates charges).totalUnpaid = outstandingSum charges :=
  (totalUnpaid_foldl plates charges _).trans (zero_add _)

/-- **The total of the list** is what its charges owe. -/
theorem exec_listDebts (clk : ℕ → ℤ) (cfg : Config) (plate : Option String) {w : Session Store}
    (hw : w.broken = false) :
    ∃ d, (listDebts cfg plate).exec clk w = (.ok d, w) ∧
      d.totalUnpaid = outstandingSum (listedDebts cfg plate w.view) := by
  rw [listDebts, Prog.bind_eq, Prog.exec_bind_of_ok (Prog.exec_select clk _ hw)]
  split
  · exact ⟨_, rfl, totalUnpaid_ofCharges _ _⟩
  · exact ⟨_, Prog.exec_bind_of_ok (Prog.exec_select clk _ hw), totalUnpaid_ofCharges _ _⟩

/-! ## What is left out -/

/-- What the charges of the query owe is the total and what those past the limit owe. -/
theorem outstandingSum_debtRows (cfg : Config) (plate : Option String) (s : Store) :
    outstandingSum (s.charges.filter fun c => c.status == .unpaid && askedFor cfg plate s c) =
      outstandingSum (listedDebts cfg plate s) +
        outstandingSum ((debtRows cfg plate s).drop debtLimit) := by
  have hperm := (perm_orderBy Charge.createdAt
    (s.charges.filter fun c => c.status == .unpaid && askedFor cfg plate s c)).map chargeOutstanding
  rw [outstandingSum, ← hperm.sum_eq, ← List.sum_take_add_sum_drop _ debtLimit, ← List.map_take,
    ← List.map_drop]
  rfl

/-- What some charges owe, split by a property. -/
theorem outstandingSum_filter_add (p : Charge → Bool) (charges : List Charge) :
    outstandingSum (charges.filter p) + outstandingSum (charges.filter fun c => !p c) =
      outstandingSum charges := by
  have hsplit := List.sum_map_filter_add_sum_map_filter_not (fun c => p c = true) chargeOutstanding
    charges
  simpa [outstandingSum] using hsplit

end ParkingSystem
