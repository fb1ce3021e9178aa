import ParkingSystem.Library.Scheduler
import ParkingSystem.Violations.Issue

/-!
# The State Machine of a Violation

Any number of requests that create, confirm and cancel violations, appeal against them and review
the appeals, at once. Each one reads the status of the violation without a lock. The UPDATE that
follows waits for the row, and whatever is done to the charge is done while the row is locked.

## What the lock is good for

The search for a charge comes after the UPDATE, so that no two requests make one, and a violation
is not cancelled without its charge. The status that was tested is the one that was read before,
so that a confirmation may overwrite a cancellation.
-/

namespace ParkingSystem

open Table Transaction

/-! ## Appeals -/

/-- INSERT of an appeal. -/
def insertAppeal (a : ViolationAppeal) : Stmt where
  label := .registry .insertAppeal
  locks := []
  check s :=
    if refersTo Store.violations Violation.id (some a.violationId) s then none else some .integrity
  apply s := { s with appeals := s.appeals ++ [a] }

/-- `create_appeal`. -/
def createAppeal (violationId : ℕ) : Handler ℕ := do
  let found ← .select (violationById violationId)
  match found with
  | none => Prog.raise .notFound
  | some v =>
    if !(["REGISTERED", "CONFIRMED"].contains v.status) then Prog.raise .conflict
    else do
      let id ← Prog.newId
      Prog.flush (insertAppeal { id, violationId })
      Prog.commitTx
      return id

/-! ## Requests -/

/-- The requests on violations. -/
inductive ViolationRequest where
  | create (body : ViolationCreate) (user : Option ℕ)
  | confirm (violationId : ℕ) (user : Option ℕ)
  | cancel (violationId : ℕ) (user : Option ℕ)
  | appeal (violationId : ℕ)
  | review (appealId : ℕ) (result : String) (note : Option String) (user : Option ℕ)

/-- What a request runs; what it answers does not matter here. -/
def ViolationRequest.handler (cfg : Config) : ViolationRequest → Handler Unit
  | create body user => (createViolation cfg body user).bind fun _ => .ret ()
  | confirm violationId user => (confirmViolation violationId user).bind fun _ => .ret ()
  | cancel violationId user => (cancelViolation violationId user).bind fun _ => .ret ()
  | appeal violationId => (createAppeal violationId).bind fun _ => .ret ()
  | review appealId result note user =>
    (reviewAppeal appealId result note user).bind fun _ => .ret ()

/-- The violation that a request confirms. -/
def ViolationRequest.confirms : ViolationRequest → Option ℕ
  | confirm violationId _ => some violationId
  | _ => none

/-! ## The case of a violation -/

/-- The charges of a violation. -/
def violationCharges (id : ℕ) (s : Store) : List Charge :=
  rowsAt Charge.violationId (some id) s.charges

/-- What holds of a violation: it has at most one charge; while it is CANCELLED none is UNPAID;
while it is CONFIRMED and costs something it has one. A charge is one of a violation that is
there. -/
structure CaseOk (id : ℕ) (s : Store) : Prop where
  one : (violationCharges id s).length ≤ 1
  cancelled : ∀ v, violationById id s = some v → v.status = "CANCELLED" →
    ∀ c ∈ violationCharges id s, c.status ≠ .unpaid
  confirmed : ∀ v, violationById id s = some v → v.status = "CONFIRMED" → 0 < v.penaltyAmount →
    (violationCharges id s).length = 1
  known : violationById id s = none → violationCharges id s = []

/-- A violation is CANCELLED. -/
def IsCancelled (id : ℕ) (s : Store) : Prop :=
  ∃ v, violationById id s = some v ∧ v.status = "CANCELLED"

/-- The charges of a violation are the same rows, and none became UNPAID. -/
structure SameCharges (id : ℕ) (s s' : Store) : Prop where
  ids : (violationCharges id s').map Charge.id = (violationCharges id s).map Charge.id
  unpaid : (∀ c ∈ violationCharges id s, c.status ≠ .unpaid) →
    ∀ c ∈ violationCharges id s', c.status ≠ .unpaid

section

variable {id : ℕ} {s s' s'' : Store}

theorem SameCharges.refl (id : ℕ) (s : Store) : SameCharges id s s := ⟨rfl, fun h => h⟩

theorem SameCharges.trans (h : SameCharges id s s') (h' : SameCharges id s' s'') :
    SameCharges id s s'' :=
  ⟨h'.ids.trans h.ids, fun hs => h'.unpaid (h.unpaid hs)⟩

theorem SameCharges.of_eq (h : violationCharges id s' = violationCharges id s) :
    SameCharges id s s' := ⟨by rw [h], by rw [h]; exact fun h => h⟩

theorem SameCharges.length_eq (h : SameCharges id s s') :
    (violationCharges id s').length = (violationCharges id s).length := by
  simpa using congrArg List.length h.ids

theorem SameCharges.eq_nil (h : SameCharges id s s') (hs : violationCharges id s = []) :
    violationCharges id s' = [] := by
  have hlength := h.length_eq
  rw [hs] at hlength
  exact List.length_eq_zero_iff.1 hlength

/-- The case of a violation that nobody touches. -/
theorem CaseOk.of_same (h : CaseOk id s) (hrow : violationById id s' = violationById id s)
    (hcharges : SameCharges id s s') : CaseOk id s' where
  one := hcharges.length_eq ▸ h.one
  cancelled v hv hstatus := hcharges.unpaid (h.cancelled v (hrow ▸ hv) hstatus)
  confirmed v hv hstatus hpos := hcharges.length_eq ▸ h.confirmed v (hrow ▸ hv) hstatus hpos
  known hnone := hcharges.eq_nil (h.known (hrow ▸ hnone))

/-- What the requests look for is the first of the charges. -/
theorem chargeOfViolation_eq (id : ℕ) (s : Store) :
    chargeOfViolation id s = (violationCharges id s).head? := by
  rw [chargeOfViolation, violationCharges, rowsAt, List.head?_filter]
  congr 1
  funext c
  -- the two ways to compare the key
  rw [Bool.eq_iff_iff]
  simp

end

/-! ### What the statements do to it -/

section

variable {id : ℕ} {s : Store}

theorem violationById_update_self (status : String) (user : Option ℕ) (now : ℤ) :
    violationById id ((updateViolation id status user now).apply s) =
      (violationById id s).map fun v =>
        { v with status, reviewedBy := user, reviewedAt := some now } :=
  @find?_updateWhere_self Violation ℕ _ Violation.id
    (fun v => { v with status, reviewedBy := user, reviewedAt := some now }) (fun _ => rfl) id
    s.violations

theorem violationById_update_of_ne {id' : ℕ} (h : id' ≠ id) (status : String) (user : Option ℕ)
    (now : ℤ) : violationById id' ((updateViolation id status user now).apply s) =
      violationById id' s :=
  @find?_updateWhere_of_ne Violation ℕ _ Violation.id
    (fun v => { v with status, reviewedBy := user, reviewedAt := some now }) (fun _ => rfl) id id'
    h.symm s.violations

theorem violationCharges_insert_self {c : Charge} (h : c.violationId = some id) :
    violationCharges id ((insertCharge c).apply s) = violationCharges id s ++ [c] := by
  unfold violationCharges
  rw [← h]
  exact rowsAt_append_self Charge.violationId s.charges c

theorem violationCharges_insert_of_ne {c : Charge} {id' : ℕ} (h : c.violationId = some id)
    (hne : id' ≠ id) : violationCharges id' ((insertCharge c).apply s) = violationCharges id' s := by
  have hkey : c.violationId ≠ some id' := by
    rw [h]
    exact fun heq => hne (Option.some.inj heq).symm
  exact rowsAt_append_of_ne hkey s.charges

/-- Voiding charges keeps whose they are, and leaves fewer UNPAID. -/
theorem violationCharges_void (c : Charge) (s : Store) :
    violationCharges id ((updateCharge c { c with status := .voided }).apply s) =
      updateWhere (fun r => r.id == c.id) (c.written { c with status := .voided })
        (violationCharges id s) := by
  unfold violationCharges updateCharge rowsAt
  dsimp only
  induction s.charges with
  | nil => rfl
  | cons r rows ih =>
    rw [updateWhere_cons, List.filter_cons, List.filter_cons]
    by_cases hr : (r.id == c.id) = true
    · -- the row keeps its violation
      have hkey : (c.written { c with status := .voided } r).violationId = r.violationId := rfl
      rw [if_pos hr, hkey, ih]
      split
      · rw [updateWhere_cons, if_pos hr]
      · rfl
    · rw [if_neg hr, ih]
      split
      · rw [updateWhere_cons, if_neg hr]
      · rfl

theorem written_voided (c r : Charge) (h : c.status = .unpaid) :
    (c.written { c with status := .voided } r).status = .voided := by
  simp [Charge.written, changed, h]

theorem sameCharges_void {c : Charge} (h : c.status = .unpaid) (id : ℕ) (s : Store) :
    SameCharges id s ((updateCharge c { c with status := .voided }).apply s) where
  ids := by
    rw [violationCharges_void]
    exact map_updateWhere_of_mem fun _ _ _ => rfl
  unpaid hs r hr := by
    rw [violationCharges_void] at hr
    rcases mem_updateWhere.1 hr with ⟨r₀, -, -, rfl⟩ | ⟨hr, -⟩
    · rw [written_voided c r₀ h]
      decide
    · exact hs r hr

end

/-! ## What the requests see of one another -/

/-- Identifiers are fresh; the rest of the system leaves violations and charges alone. -/
def violationRegime : Regime Store Label where
  isFresh s n := violationById n s = none
  allowed _ _ := True
  env s s' := s'.violations = s.violations ∧ s'.charges = s.charges

/-- What a request sees of the others: a violation whose row it holds stays as it is. -/
structure ViolationR (H : Held Lock) (s s' : Store) : Prop where
  row : ∀ id v, .violationRow id ∈ H.locks → violationById id s = some v →
    violationById id s' = some v ∧ SameCharges id s s'
  drawn : ∀ n ∈ H.ids, violationById n s = none → violationById n s' = none
  kept : ∀ id v, violationById id s = some v →
    ∃ v', violationById id s' = some v' ∧ v'.penaltyAmount = v.penaltyAmount
  ok : (∀ id, CaseOk id s) → ∀ id, CaseOk id s'

/-- What a request does when it commits, which confirms the violation `target`, or none: it leaves
alone the violations whose rows it does not hold, and takes nothing but the target out of
CANCELLED. -/
structure ViolationG (target : Option ℕ) (H : Held Lock) (s s' : Store) : Prop where
  row : ∀ id v, .violationRow id ∉ H.locks → violationById id s = some v →
    violationById id s' = some v ∧ SameCharges id s s'
  undrawn : ∀ n ∉ H.ids, violationById n s = none → violationById n s' = none
  kept : ∀ id v, violationById id s = some v →
    ∃ v', violationById id s' = some v' ∧ v'.penaltyAmount = v.penaltyAmount
  ok : (∀ id, CaseOk id s) → ∀ id, CaseOk id s'
  terminal : ∀ id, target ≠ some id → IsCancelled id s → IsCancelled id s'
  confirmed : ∀ id, target = some id → ¬ IsCancelled id s'

section

variable {H : Held Lock} {target : Option ℕ} {s s' s'' : Store}

theorem violationById_of_eq (h : s'.violations = s.violations) (id : ℕ) :
    violationById id s' = violationById id s := by
  rw [violationById, violationById, h]

theorem violationCharges_of_eq (h : s'.charges = s.charges) (id : ℕ) :
    violationCharges id s' = violationCharges id s := by
  rw [violationCharges, violationCharges, h]

theorem ViolationR.refl (H : Held Lock) (s : Store) : ViolationR H s s where
  row id _ _ h := ⟨h, .refl id s⟩
  drawn _ _ h := h
  kept _ v h := ⟨v, h, rfl⟩
  ok h := h

theorem ViolationR.trans (h : ViolationR H s s') (h' : ViolationR H s' s'') :
    ViolationR H s s'' where
  row id v hlock hv := by
    obtain ⟨hv', hcharges⟩ := h.row id v hlock hv
    obtain ⟨hv'', hcharges'⟩ := h'.row id v hlock hv'
    exact ⟨hv'', hcharges.trans hcharges'⟩
  drawn n hn hnone := h'.drawn n hn (h.drawn n hn hnone)
  kept id v hv := by
    obtain ⟨v', hv', hpenalty⟩ := h.kept id v hv
    obtain ⟨v'', hv'', hpenalty'⟩ := h'.kept id v' hv'
    exact ⟨v'', hv'', hpenalty'.trans hpenalty⟩
  ok hs := h'.ok (h.ok hs)

/-- Nothing happens to violations and charges. -/
theorem ViolationG.of_eq (hv : s'.violations = s.violations) (hc : s'.charges = s.charges) :
    ViolationG none H s s' where
  row id v _ h := ⟨(violationById_of_eq hv id).trans h, .of_eq (violationCharges_of_eq hc id)⟩
  undrawn n _ h := (violationById_of_eq hv n).trans h
  kept id v h := ⟨v, (violationById_of_eq hv id).trans h, rfl⟩
  ok h id := (h id).of_same (violationById_of_eq hv id) (.of_eq (violationCharges_of_eq hc id))
  terminal id _ h := by
    obtain ⟨v, hv', hstatus⟩ := h
    exact ⟨v, (violationById_of_eq hv id).trans hv', hstatus⟩
  confirmed _ h := by cases h

theorem ViolationG.toR {H' : Held Lock} (h : ViolationG target H s s') (hd : H.Disjoint H') :
    ViolationR H' s s' where
  row id v hlock := h.row id v fun hmem => hd.locks _ hmem hlock
  drawn n hn := h.undrawn n fun hmem => hd.ids n hmem hn
  kept := h.kept
  ok := h.ok

theorem violationContract {ι : Type} (requests : ι → ViolationRequest) :
    World.Contract violationRegime ViolationR
      (World.guarantees fun i => ViolationG (requests i).confirms) (fun _ : ι => @anyEnd Store Lock AppError Unit) where
  refl := ViolationR.refl
  trans _ _ _ _ := ViolationR.trans
  env s s' h H := by
    have hG : ViolationG none {} s s' := .of_eq h.1 h.2
    exact hG.toR (Held.disjoint_empty_left H)
  guarantee H H' s s' hd hG := by
    obtain ⟨i, hG⟩ := hG
    exact hG.toR hd
  aborted _ _ := trivial
  closed _ _ _ _ _ _ _ _ _ := trivial

end

/-! ## Moving a violation -/

/-- Pending updates that move one violation to a status and leave the others alone. -/
structure Moves (id : ℕ) (status : String) (pend : Store → Store) : Prop where
  row : ∀ s v, violationById id s = some v → ∃ v', violationById id (pend s) = some v' ∧
    v'.status = status ∧ v'.penaltyAmount = v.penaltyAmount
  absent : ∀ s, violationById id s = none → violationById id (pend s) = none
  others : ∀ s id', id' ≠ id → violationById id' (pend s) = violationById id' s
  charges : ∀ s id', id' ≠ id → SameCharges id' s (pend s)

section

variable {id : ℕ} {status : String} {pend : Store → Store} {H : Held Lock} {s s' : Store}
  {target : Option ℕ}

/-- The UPDATE after whatever touches neither violations nor charges. -/
theorem moves_update (user : Option ℕ) (now : ℤ) {p : Store → Store}
    (hv : ∀ s, (p s).violations = s.violations) (hc : ∀ s, (p s).charges = s.charges) :
    Moves id status fun s => (updateViolation id status user now).apply (p s) where
  row s v h := by
    rw [violationById_update_self, violationById_of_eq (hv s), h]
    exact ⟨_, rfl, rfl, rfl⟩
  absent s h := by
    rw [violationById_update_self, violationById_of_eq (hv s), h]
    rfl
  others s id' hne :=
    (violationById_update_of_ne hne status user now).trans (violationById_of_eq (hv s) id')
  charges s id' _ := .of_eq (violationCharges_of_eq (hc s) id')

theorem Moves.void {c : Charge} (h : Moves id status pend) (hunpaid : c.status = .unpaid) :
    Moves id status fun s => (updateCharge c { c with status := .voided }).apply (pend s) where
  row := h.row
  absent := h.absent
  others := h.others
  charges s id' hne := (h.charges s id' hne).trans (sameCharges_void hunpaid id' _)

theorem Moves.insert {c : Charge} (h : Moves id status pend) (hc : c.violationId = some id) :
    Moves id status fun s => (insertCharge c).apply (pend s) where
  row := h.row
  absent := h.absent
  others := h.others
  charges s id' hne :=
    (h.charges s id' hne).trans (.of_eq (violationCharges_insert_of_ne hc hne))

/-- A violation that is there, with its row held. -/
structure Owned (id : ℕ) (v : Violation) (H : Held Lock) (s : Store) : Prop where
  lock : .violationRow id ∈ H.locks
  row : violationById id s = some v
  ok : ∀ id, CaseOk id s

theorem Owned.stable {v : Violation} (h : Owned id v H s) (hR : ViolationR H s s') :
    Owned id v H s' where
  lock := h.lock
  row := (hR.row id v h.lock h.row).1
  ok := hR.ok h.ok

theorem Owned.of_locks {v : Violation} {H' : Held Lock} (h : Owned id v H s)
    (hlock : .violationRow id ∈ H'.locks) : Owned id v H' s := ⟨hlock, h.row, h.ok⟩

theorem Owned.same {v : Violation} (h : Owned id v H s) (hR : ViolationR H s s') :
    SameCharges id s s' := (hR.row id v h.lock h.row).2

/-- What is committed after a move. -/
theorem Moves.guarantees {v : Violation} (h : Moves id status pend) (howned : Owned id v H s)
    (hown : CaseOk id (pend s)) (hstatus : status = "CANCELLED" ∧ target = none ∨ status = "CONFIRMED" ∧ target = some id) :
    ViolationG target H s (pend s) where
  row id' u hlock hu := by
    have hne : id' ≠ id := fun heq => hlock (heq ▸ howned.lock)
    exact ⟨(h.others s id' hne).trans hu, h.charges s id' hne⟩
  undrawn n _ hnone := by
    by_cases hn : n = id
    · exact hn ▸ h.absent s (hn ▸ hnone)
    · exact (h.others s n hn).trans hnone
  kept id' u hu := by
    by_cases hid : id' = id
    · subst hid
      obtain ⟨u', hu', -, hpenalty⟩ := h.row s u hu
      exact ⟨u', hu', hpenalty⟩
    · exact ⟨u, (h.others s id' hid).trans hu, rfl⟩
  ok hs id' := by
    by_cases hid : id' = id
    · exact hid ▸ hown
    · exact (hs id').of_same (h.others s id' hid) (h.charges s id' hid)
  terminal id' hnot hcancelled := by
    obtain ⟨u, hu, hustatus⟩ := hcancelled
    by_cases hid : id' = id
    · -- only a confirmation moves it elsewhere
      subst hid
      obtain ⟨u', hu', hstatus', -⟩ := h.row s u hu
      exact ⟨u', hu', hstatus'.trans (hstatus.resolve_right fun h => hnot h.2).1⟩
    · exact ⟨u, (h.others s id' hid).trans hu, hustatus⟩
  confirmed id' htarget hcancelled := by
    rcases hstatus with ⟨-, hnone⟩ | ⟨hstatus, hsome⟩
    · rw [hnone] at htarget
      cases htarget
    · obtain rfl : id = id' := Option.some.inj (hsome.symm.trans htarget)
      obtain ⟨u, hu, hustatus⟩ := hcancelled
      obtain ⟨v', hv', hstatus', -⟩ := h.row s v howned.row
      obtain rfl : u = v' := Option.some.inj (hu.symm.trans hv')
      rw [hstatus', hstatus] at hustatus
      exact absurd hustatus (by decide)

end

/-! ### The charge of a cancelled violation -/

section

variable {α β : Type} {id : ℕ} {v : Violation} {pend : Store → Store} {H : Held Lock} {s s' : Store}
  {target : Option ℕ}

theorem violationById_id (h : violationById id s = some v) : v.id = id := by
  simpa using List.find?_some h

/-- Whatever the others still do, none of the charges will be UNPAID, and there will be as many. -/
def NoneUnpaid (id : ℕ) (pend : Store → Store) (s : Store) : Prop :=
  ∀ s', SameCharges id s s' →
    (violationCharges id (pend s')).length = (violationCharges id s').length ∧
      ∀ c ∈ violationCharges id (pend s'), c.status ≠ .unpaid

theorem NoneUnpaid.stable (h : NoneUnpaid id pend s) (hsame : SameCharges id s s') :
    NoneUnpaid id pend s' := fun s'' h' => h s'' (hsame.trans h')

/-- None of the charges is UNPAID already. -/
theorem noneUnpaid_of_settled (hpend : ∀ s, violationCharges id (pend s) = violationCharges id s)
    (h : ∀ c ∈ violationCharges id s, c.status ≠ .unpaid) : NoneUnpaid id pend s := by
  intro s' hsame
  rw [hpend]
  exact ⟨rfl, hsame.unpaid h⟩

/-- The only charge is voided. -/
theorem noneUnpaid_of_void {c : Charge}
    (hpend : ∀ s, violationCharges id (pend s) = violationCharges id s)
    (hunpaid : c.status = .unpaid) (honly : (violationCharges id s).map Charge.id = [c.id]) :
    NoneUnpaid id (fun s => (updateCharge c { c with status := .voided }).apply (pend s)) s := by
  intro s' hsame
  rw [violationCharges_void, hpend]
  refine ⟨by rw [updateWhere, List.length_map], fun r hr => ?_⟩
  rcases mem_updateWhere.1 hr with ⟨r₀, -, -, rfl⟩ | ⟨hr, hne⟩
  · rw [written_voided c r₀ hunpaid]
    decide
  · -- every charge is the one that was voided
    have hid : r.id ∈ (violationCharges id s').map Charge.id := List.mem_map_of_mem hr
    rw [hsame.ids, honly, List.mem_singleton] at hid
    exact absurd (beq_iff_eq.2 hid) (Bool.eq_false_iff.1 hne)

theorem CaseOk.of_cancelled (hpend : Moves id "CANCELLED" pend) (howned : Owned id v H s)
    (hclear : NoneUnpaid id pend s) : CaseOk id (pend s) := by
  obtain ⟨hlength, hsettled⟩ := hclear s (.refl id s)
  obtain ⟨v', hv', hstatus, -⟩ := hpend.row s v howned.row
  refine ⟨hlength ▸ (howned.ok id).one, fun _ _ _ => hsettled, fun u hu hconfirmed => ?_,
    fun hnone => ?_⟩
  · obtain rfl : u = v' := Option.some.inj (hu.symm.trans hv')
    rw [hstatus] at hconfirmed
    exact absurd hconfirmed (by decide)
  · rw [hv'] at hnone
    cases hnone

theorem charges_of_head {c : Charge} (hcase : CaseOk id s)
    (h : chargeOfViolation id s = some c) : violationCharges id s = [c] := by
  rw [chargeOfViolation_eq] at h
  have hone := hcase.one
  match hcharges : violationCharges id s with
  | [] =>
    rw [hcharges] at h
    cases h
  | d :: rest =>
    rw [hcharges] at h hone
    obtain rfl : d = c := Option.some.inj h
    simpa using hone

theorem charges_of_none (h : chargeOfViolation id s = none) : violationCharges id s = [] := by
  rw [chargeOfViolation_eq] at h
  exact List.head?_eq_none_iff.1 h

/-- `_void_unpaid_charge`, on a violation whose row is held. -/
theorem safe_voidUnpaidCharge {k : Bool → Handler β} (hpend : Moves id "CANCELLED" pend)
    (hcharges : ∀ s, violationCharges id (pend s) = violationCharges id s)
    (howned : Owned id v H s)
    (h : ∀ voided pend' H' s', Moves id "CANCELLED" pend' → Owned id v H' s' →
      NoneUnpaid id pend' s' →
      (k voided).Safe violationRegime ViolationR (ViolationG target) anyEnd pend' false H' s') :
    ((voidUnpaidCharge id).bind k).Safe violationRegime ViolationR (ViolationG target) anyEnd
      pend false H s := by
  have hlive {P : Prop} : false = true → P := fun h => absurd h Bool.false_ne_true
  rw [voidUnpaidCharge, Prog.bind_eq, Prog.bind_assoc]
  refine Prog.safe_select hlive fun _ s₁ hR => ?_
  have howned₁ := howned.stable hR
  have hsame : chargeOfViolation id (pend s₁) = chargeOfViolation id s₁ := by
    rw [chargeOfViolation_eq, chargeOfViolation_eq, hcharges]
  rw [hsame]
  split
  · rename_i hnone
    refine h _ _ _ _ hpend howned₁ (noneUnpaid_of_settled hcharges ?_)
    rw [charges_of_none hnone]
    exact fun c hc => absurd hc List.not_mem_nil
  · rename_i c hfound
    have honly := charges_of_head (howned₁.ok id) hfound
    by_cases hunpaid : c.status = .unpaid
    · rw [if_pos (by simp [voidableChargeStatus, hunpaid]), Prog.bind_eq, Prog.bind_assoc]
      refine Prog.safe_flush hlive (fun _ _ _ _ _ _ _ _ => trivial) fun _ s₂ hR₂ _ _ => ?_
      have howned₂ := howned₁.stable hR₂
      refine h _ _ _ _ (hpend.void hunpaid)
        (howned₂.of_locks (List.mem_append_right _ howned₂.lock)) ?_
      refine noneUnpaid_of_void hcharges hunpaid ?_
      rw [(howned₁.same hR₂).ids, honly]
      rfl
    · rw [if_neg (by simpa [voidableChargeStatus] using hunpaid)]
      refine h _ _ _ _ hpend howned₁ (noneUnpaid_of_settled hcharges ?_)
      rw [honly]
      exact fun d hd => List.mem_singleton.1 hd ▸ hunpaid

/-- The commit after a cancellation, and what is answered. -/
theorem safe_commitCancelled {a : α} (hpend : Moves id "CANCELLED" pend) (howned : Owned id v H s)
    (hclear : NoneUnpaid id pend s) :
    (Prog.commitTx.bind fun _ => .ret a : Handler α).Safe violationRegime ViolationR
      (ViolationG none) anyEnd pend false H s := by
  refine Prog.safe_commit (fun h => absurd h Bool.false_ne_true) fun _ s₁ hR => ?_
  have howned₁ := howned.stable hR
  have hcase := CaseOk.of_cancelled hpend howned₁ (hclear.stable (howned.same hR))
  exact ⟨hpend.guarantees howned₁ hcase (Or.inl ⟨rfl, rfl⟩), fun _ _ => trivial⟩

end

/-! ## The requests are safe -/

section

variable {violationId : ℕ} {pend : Store → Store} {b : Bool} {H : Held Lock} {s s' : Store}
  {target : Option ℕ}

/-- INSERT of a violation under an identifier that was drawn. -/
theorem ViolationG.insert {v : Violation} (hid : v.id ∈ H.ids)
    (hnone : violationById v.id s = none) (hstatus : v.status = "REGISTERED") :
    ViolationG none H s ((insertViolation v).apply s) := by
  have hself : violationById v.id ((insertViolation v).apply s) = some v := by
    rw [violationById] at hnone ⊢
    show (s.violations ++ [v]).find? _ = _
    simp [List.find?_append, hnone]
  have hother {id : ℕ} (hne : id ≠ v.id) :
      violationById id ((insertViolation v).apply s) = violationById id s := by
    show (s.violations ++ [v]).find? _ = _
    simp [List.find?_append, violationById, hne.symm]
  have hthere {id : ℕ} {u : Violation} (hu : violationById id s = some u) :
      violationById id ((insertViolation v).apply s) = some u := by
    refine (hother fun heq => ?_).trans hu
    rw [heq, hnone] at hu
    cases hu
  refine ⟨fun id u _ hu => ⟨hthere hu, .of_eq rfl⟩, fun n hn h => ?_,
    fun id u hu => ⟨u, hthere hu, rfl⟩, fun hs id => ?_, fun id _ h => ?_, fun _ h => nomatch h⟩
  · refine (hother fun heq => hn ?_).trans h
    rwa [heq]
  · by_cases heq : id = v.id
    · -- nothing is charged for it yet
      subst heq
      have hcharges : violationCharges v.id ((insertViolation v).apply s) = [] := (hs v.id).known hnone
      refine ⟨by simp [hcharges], fun _ _ _ => by simp [hcharges], fun u hu hconfirmed => ?_,
        fun h => ?_⟩
      · obtain rfl : v = u := Option.some.inj (hself.symm.trans hu)
        rw [hstatus] at hconfirmed
        exact absurd hconfirmed (by decide)
      · rw [hself] at h
        cases h
    · exact (hs id).of_same (hother heq) (.of_eq rfl)
  · obtain ⟨u, hu, hcancelled⟩ := h
    exact ⟨u, hthere hu, hcancelled⟩

theorem casesSafe_storeViolation {v : Violation} (hid : v.id ∈ H.ids)
    (hnone : violationById v.id s = none) (hstatus : v.status = "REGISTERED") :
    (storeViolation v).Safe violationRegime ViolationR (ViolationG none) anyEnd id false H s := by
  have hlive {P : Prop} : false = true → P := fun h => absurd h Bool.false_ne_true
  refine Prog.Safe.onIntegrity ViolationR.refl ?_
  refine Prog.safe_flush hlive (fun _ r s₁ s₂ _ _ _ _ => ?_) fun _ s₁ hR₁ _ _ => ?_
  · cases r with
    | data => trivial
    | integrity =>
      refine fun s₃ _ => Prog.safe_select hlive fun _ s₄ _ => ?_
      split
      · exact fun _ _ => trivial
      · exact fun _ _ => trivial
  · refine Prog.safe_commit hlive fun _ s₂ hR₂ => ⟨?_, fun _ _ => trivial⟩
    exact .insert hid (hR₂.drawn _ hid (hR₁.drawn _ hid hnone)) hstatus

theorem casesSafe_createViolation (cfg : Config) (body : ViolationCreate) (user : Option ℕ) :
    (createViolation cfg body user).Safe violationRegime ViolationR (ViolationG none) anyEnd id
      false H s := by
  have hlive {P : Prop} : false = true → P := fun h => absurd h Bool.false_ne_true
  unfold createViolation
  split
  · refine Prog.safe_select hlive fun _ s₁ _ => ?_
    split
    · exact fun _ _ => trivial
    · refine Prog.safe_select hlive fun _ s₂ _ => ?_
      split
      · exact fun _ _ => trivial
      · split
        · exact fun _ _ => trivial
        · refine Prog.safe_select hlive fun _ s₃ _ => ?_
          refine Prog.safe_newId fun s₄ n _ hn => Prog.safe_getTime fun s₅ t hR => ?_
          have hdrawn : n ∈ (H.draw n).ids := List.mem_cons_self
          exact casesSafe_storeViolation hdrawn (hR.drawn n hdrawn hn) rfl
  · exact fun _ _ => trivial

/-- A violation that was confirmed, with as many charges as it should have. -/
theorem CaseOk.of_confirmed {v : Violation} (hpend : Moves violationId "CONFIRMED" pend)
    (howned : Owned violationId v H s) (hone : (violationCharges violationId (pend s)).length ≤ 1)
    (hcharged : 0 < v.penaltyAmount → (violationCharges violationId (pend s)).length = 1) :
    CaseOk violationId (pend s) := by
  obtain ⟨v', hv', hstatus, hpenalty⟩ := hpend.row s v howned.row
  refine ⟨hone, fun u hu hcancelled => ?_, fun u hu _ hpos => ?_, fun hnone => ?_⟩
  · obtain rfl : u = v' := Option.some.inj (hu.symm.trans hv')
    rw [hstatus] at hcancelled
    exact absurd hcancelled (by decide)
  · obtain rfl : u = v' := Option.some.inj (hu.symm.trans hv')
    exact hcharged (hpenalty ▸ hpos)
  · rw [hv'] at hnone
    cases hnone

/-- The commit of a confirmation, once it has been seen to that the violation has its charge. -/
theorem safe_commitConfirmed {α : Type} {a : α} {v : Violation}
    (hpend : Moves violationId "CONFIRMED" pend) (howned : Owned violationId v H s)
    (hcharges : ∀ s', SameCharges violationId s s' →
      (violationCharges violationId s').length ≤ 1 →
      (violationCharges violationId (pend s')).length ≤ 1 ∧
        (0 < v.penaltyAmount → (violationCharges violationId (pend s')).length = 1)) :
    (Prog.commitTx.bind fun _ => .ret a : Handler α).Safe violationRegime ViolationR
      (ViolationG (some violationId)) anyEnd pend false H s := by
  refine Prog.safe_commit (fun h => absurd h Bool.false_ne_true) fun _ s₁ hR => ?_
  have howned₁ := howned.stable hR
  obtain ⟨hone, hcharged⟩ := hcharges s₁ (howned.same hR) (howned₁.ok violationId).one
  exact ⟨hpend.guarantees howned₁ (.of_confirmed hpend howned₁ hone hcharged) (Or.inr ⟨rfl, rfl⟩),
    fun _ _ => trivial⟩

/-- The UPDATE of a violation that was found; once it is sent, the row is held. -/
theorem safe_moveViolation {α : Type} {status : String} {user : Option ℕ} {v : Violation}
    {k : Unit → Handler α} (hviolations : ∀ s, (pend s).violations = s.violations)
    (hcharges : ∀ s, (pend s).charges = s.charges) (hfound : violationById v.id s = some v)
    (hs : ∀ id, CaseOk id s)
    (h : ∀ now v' H' s', v'.penaltyAmount = v.penaltyAmount → Owned v.id v' H' s' →
      Moves v.id status (fun s => (updateViolation v.id status user now).apply (pend s)) →
      (k ()).Safe violationRegime ViolationR (ViolationG target) anyEnd
        (fun s => (updateViolation v.id status user now).apply (pend s)) false H' s') :
    ((Prog.getTime : Handler ℤ).bind fun now =>
      (Prog.flush (updateViolation v.id status user now)).bind k).Safe violationRegime ViolationR
        (ViolationG target) anyEnd pend false H s := by
  refine Prog.safe_getTime fun s₁ now hR₁ => ?_
  refine Prog.safe_flush (fun h => absurd h Bool.false_ne_true)
    (fun _ _ _ _ _ _ _ _ => trivial) fun _ s₂ hR₂ _ _ => ?_
  -- the row may have been moved since, its penalty has not changed
  obtain ⟨v', hrow, hpenalty⟩ := (hR₁.trans hR₂).kept v.id v hfound
  refine h now v' _ s₂ hpenalty ⟨List.mem_cons_self, hrow, (hR₁.trans hR₂).ok hs⟩ ?_
  exact moves_update user now hviolations hcharges

/-- The charge of a confirmed violation whose row is held, and the commit. -/
theorem safe_chargeViolation {α : Type} {a : α} {v v' : Violation}
    (hpend : Moves v.id "CONFIRMED" pend)
    (hcharges : ∀ s, violationCharges v.id (pend s) = violationCharges v.id s)
    (howned : Owned v.id v' H s) (hpenalty : v'.penaltyAmount = v.penaltyAmount) :
    ((chargeViolation v).bind fun _ => Prog.commitTx.bind fun _ => .ret a : Handler α).Safe
      violationRegime ViolationR (ViolationG (some v.id)) anyEnd pend false H s := by
  have hlive {P : Prop} : false = true → P := fun h => absurd h Bool.false_ne_true
  rw [chargeViolation, Prog.bind_eq, Prog.bind_assoc]
  refine Prog.safe_select hlive fun _ s₁ hR₁ => ?_
  have howned₁ := howned.stable hR₁
  have hsearch : chargeOfViolation v.id (pend s₁) = chargeOfViolation v.id s₁ := by
    rw [chargeOfViolation_eq, chargeOfViolation_eq, hcharges]
  rw [hsearch]
  split
  · rename_i hmissing
    rw [Bool.and_eq_true, Option.isNone_iff_eq_none] at hmissing
    have hnone : violationCharges v.id s₁ = [] := charges_of_none hmissing.1
    refine Prog.safe_newId fun s₂ n hR₂ _ => Prog.safe_getTime fun s₃ t hR₃ => ?_
    refine Prog.safe_flush hlive (fun _ _ _ _ _ _ _ _ => trivial) fun _ s₄ hR₄ _ _ => ?_
    have howned₂ : Owned v.id v' (H.draw n) s₂ := (howned₁.stable hR₂).of_locks howned₁.lock
    have howned₃ := howned₂.stable hR₃
    have hsame := (howned₁.same hR₂).trans ((howned₂.same hR₃).trans (howned₃.same hR₄))
    have howned₄ := howned₃.stable hR₄
    refine safe_commitConfirmed (hpend.insert rfl)
      (howned₄.of_locks (List.mem_append_right _ howned₄.lock)) fun s' hsame' _ => ?_
    -- nobody else charged it in between
    rw [violationCharges_insert_self rfl, hcharges, (hsame.trans hsame').eq_nil hnone]
    exact ⟨le_refl 1, fun _ => rfl⟩
  · rename_i hpresent
    refine safe_commitConfirmed hpend howned₁ fun s' hsame hone => ?_
    rw [hcharges]
    refine ⟨hone, fun hpos => ?_⟩
    rw [hpenalty] at hpos
    cases hfound : chargeOfViolation v.id s₁ with
    | none => exact absurd (by simp [hfound, hpos]) hpresent
    | some c =>
      rw [hsame.length_eq, charges_of_head (howned₁.ok v.id) hfound]
      rfl

/-- `confirm_violation`: whoever else confirms waits for the row. -/
theorem casesSafe_confirmViolation (user : Option ℕ) (hs : ∀ id, CaseOk id s) :
    (confirmViolation violationId user).Safe violationRegime ViolationR
      (ViolationG (some violationId)) anyEnd id false H s := by
  refine Prog.safe_select (fun h => absurd h Bool.false_ne_true) fun _ s₁ hR => ?_
  split
  · exact fun _ _ => trivial
  · rename_i v hfound
    obtain rfl := violationById_id hfound
    split
    · exact fun _ _ => trivial
    · split
      · exact fun _ _ => trivial
      · refine safe_moveViolation (fun _ => rfl) (fun _ => rfl) hfound (hR.ok hs)
          fun now v' H' s' hpenalty howned hpend => ?_
        exact safe_chargeViolation hpend (fun _ => rfl) howned hpenalty

/-- `cancel_violation`. -/
theorem casesSafe_cancelViolation (user : Option ℕ) (hs : ∀ id, CaseOk id s) :
    (cancelViolation violationId user).Safe violationRegime ViolationR (ViolationG none) anyEnd
      id false H s := by
  refine Prog.safe_select (fun h => absurd h Bool.false_ne_true) fun _ s₁ hR => ?_
  split
  · exact fun _ _ => trivial
  · rename_i v hfound
    obtain rfl := violationById_id hfound
    split
    · exact fun _ _ => trivial
    · split
      · exact fun _ _ => trivial
      · refine safe_moveViolation (fun _ => rfl) (fun _ => rfl) hfound (hR.ok hs)
          fun now v' H' s' _ howned hpend => ?_
        refine safe_voidUnpaidCharge hpend (fun _ => rfl) howned
          fun voided pend' H'' s'' hpend' howned' hclear => ?_
        have hreads : (paidCharge v.id voided).ReadOnly := by
          unfold paidCharge
          split
          · trivial
          · exact (Prog.writesOnly_select _).bind fun _ => trivial
        refine hreads.safe_bind ViolationR.refl (fun _ _ _ _ h h' => h.trans h') ?_
          (fun _ _ _ _ _ => trivial) fun a H₁ s₂ hR₁ hlocks _ => ?_
        · exact fun H n s s' h =>
            ⟨h.row, fun m hm => h.drawn m (List.mem_cons_of_mem _ hm), h.kept, h.ok⟩
        · have howned₂ : Owned v.id v' H₁ s₂ :=
            (howned'.stable hR₁).of_locks (hlocks ▸ howned'.lock)
          exact safe_commitCancelled hpend' howned₂ (hclear.stable (howned'.same hR₁))

/-- `create_appeal`. -/
theorem casesSafe_createAppeal :
    (createAppeal violationId).Safe violationRegime ViolationR (ViolationG none) anyEnd id false
      H s := by
  have hlive {P : Prop} : false = true → P := fun h => absurd h Bool.false_ne_true
  refine Prog.safe_select hlive fun _ s₁ _ => ?_
  split
  · exact fun _ _ => trivial
  · split
    · exact fun _ _ => trivial
    · refine Prog.safe_newId fun s₂ n _ _ => ?_
      refine Prog.safe_flush hlive (fun _ _ _ _ _ _ _ _ => trivial) fun _ s₃ _ _ _ => ?_
      exact Prog.safe_commit hlive fun _ s₄ _ => ⟨.of_eq rfl rfl, fun _ _ => trivial⟩

/-- An accepted appeal, after whatever touches neither violations nor charges, and the commit. -/
theorem casesSafe_acceptAppeal {α : Type} {f : Bool → α} {user : Option ℕ}
    (hviolations : ∀ s, (pend s).violations = s.violations)
    (hcharges : ∀ s, (pend s).charges = s.charges) (hs : ∀ id, CaseOk id s) :
    ((acceptAppeal violationId user).bind fun voided =>
      Prog.commitTx.bind fun _ => .ret (f voided) : Handler α).Safe violationRegime ViolationR
        (ViolationG none) anyEnd pend false H s := by
  have hlive {P : Prop} : false = true → P := fun h => absurd h Bool.false_ne_true
  rw [acceptAppeal, Prog.bind_eq, Prog.bind_assoc]
  refine Prog.safe_select hlive fun _ s₁ hR => ?_
  split
  · exact Prog.safe_commit hlive fun _ s₂ _ =>
      ⟨.of_eq (hviolations s₂) (hcharges s₂), fun _ _ => trivial⟩
  · rename_i v hfound
    obtain rfl := violationById_id hfound
    have hthere := (violationById_of_eq (hviolations s₁) v.id).symm.trans hfound
    split
    · simp only [Prog.bind_eq, Prog.bind_assoc]
      refine safe_moveViolation hviolations hcharges hthere (hR.ok hs)
        fun now v' H' s' _ howned hpend => ?_
      exact safe_voidUnpaidCharge hpend (fun s => violationCharges_of_eq (hcharges s) v.id) howned
        fun voided pend' H'' s'' hpend' howned' hclear =>
          safe_commitCancelled hpend' howned' hclear
    · exact Prog.safe_commit hlive fun _ s₂ _ =>
        ⟨.of_eq (hviolations s₂) (hcharges s₂), fun _ _ => trivial⟩

/-- `review_appeal`: an accepted appeal is a cancellation. -/
theorem casesSafe_reviewAppeal (appealId : ℕ) (result : String) (note : Option String)
    (user : Option ℕ) (hs : ∀ id, CaseOk id s) :
    (reviewAppeal appealId result note user).Safe violationRegime ViolationR (ViolationG none)
      anyEnd id false H s := by
  have hlive {P : Prop} : false = true → P := fun h => absurd h Bool.false_ne_true
  refine Prog.safe_select hlive fun _ s₁ hR₁ => ?_
  split
  · exact fun _ _ => trivial
  · split
    · exact fun _ _ => trivial
    · dsimp only
      split
      · exact fun _ _ => trivial
      · refine Prog.safe_getTime fun s₂ now hR₂ => ?_
        refine Prog.safe_flush hlive (fun _ _ _ _ _ _ _ _ => trivial) fun _ s₃ hR₃ _ _ => ?_
        have hs₃ := (hR₁.trans (hR₂.trans hR₃)).ok hs
        split
        · exact casesSafe_acceptAppeal (fun _ => rfl) (fun _ => rfl) hs₃
        · exact Prog.safe_commit hlive fun _ s₄ _ => ⟨.of_eq rfl rfl, fun _ _ => trivial⟩

/-- **Every request is safe**, from any store in which the cases are in order. -/
theorem ViolationRequest.safe (cfg : Config) (request : ViolationRequest)
    (hs : ∀ id, CaseOk id s) :
    (request.handler cfg).Safe violationRegime ViolationR (ViolationG request.confirms) anyEnd id false
      H s := by
  have hanswer {α : Type} {p : Handler α}
      (h : p.Safe violationRegime ViolationR (ViolationG request.confirms) anyEnd id false H s) :
      (p.bind fun _ => .ret ()).Safe violationRegime ViolationR (ViolationG request.confirms) anyEnd id
        false H s :=
    h.bind ViolationR.refl (fun _ _ _ _ _ _ _ _ => trivial) fun _ _ _ _ _ _ => trivial
  cases request with
  | create body user => exact hanswer (casesSafe_createViolation cfg body user)
  | confirm violationId user => exact hanswer (casesSafe_confirmViolation user hs)
  | cancel violationId user => exact hanswer (casesSafe_cancelViolation user hs)
  | appeal violationId => exact hanswer casesSafe_createAppeal
  | review appealId result note user => exact hanswer (casesSafe_reviewAppeal appealId result note user hs)

end

/-! ## Every run -/

/-- The requests arrive at a store. -/
def violationWorld {ι : Type} (cfg : Config) (requests : ι → ViolationRequest) (s : Store) :
    World ι Store Lock Label AppError Unit :=
  .start s fun i => (requests i).handler cfg

section

variable {ι : Type} [DecidableEq ι]

/-- A confirmation commits only while the violation is not CANCELLED. -/
def ConfirmsInTime (requests : ι → ViolationRequest)
    (w w' : World ι Store Lock Label AppError Unit) : Prop :=
  ∀ i id, World.Commits i w w' → (requests i).confirms = some id → ¬ IsCancelled id w.committed

/-- A run in which every confirmation is in time. -/
abbrev TimelyRun (requests : ι → ViolationRequest) :
    World ι Store Lock Label AppError Unit → World ι Store Lock Label AppError Unit → Prop :=
  Relation.ReflTransGen fun w w' =>
    World.Step violationRegime w w' ∧ ConfirmsInTime requests w w'

/-- Every request is still safe, and the cases are in order. -/
structure ViolationInv (requests : ι → ViolationRequest)
    (w : World ι Store Lock Label AppError Unit) : Prop where
  ok : World.OkEach violationRegime ViolationR (fun i => ViolationG (requests i).confirms)
    (fun _ => anyEnd) w
  cases : ∀ id, CaseOk id w.committed

variable {requests : ι → ViolationRequest} {w w' : World ι Store Lock Label AppError Unit}

omit [DecidableEq ι] in
theorem ViolationInv.init (cfg : Config) {s : Store} (hs : ∀ id, CaseOk id s) :
    ViolationInv requests (violationWorld cfg requests s) where
  ok := World.OkEach.init fun i => (requests i).safe cfg hs
  cases := hs

theorem ViolationInv.step (h : ViolationInv requests w)
    (hstep : World.Step violationRegime w w') : ViolationInv requests w' := by
  obtain ⟨hok, hR⟩ := h.ok.step (violationContract requests) hstep
  exact ⟨hok, hR.ok h.cases⟩

theorem ViolationInv.run (h : ViolationInv requests w) (hrun : World.Run violationRegime w w') :
    ViolationInv requests w' := by
  induction hrun with
  | refl => exact h
  | tail _ hstep ih => exact ih.step hstep

/-- One step leaves CANCELLED what was, exactly where no confirmation comes too late. -/
theorem ViolationInv.terminal_iff (h : ViolationInv requests w)
    (hstep : World.Step violationRegime w w') :
    (∀ id, IsCancelled id w.committed → IsCancelled id w'.committed) ↔
      ConfirmsInTime requests w w' := by
  constructor
  · rintro hkept i id ⟨k, p, H, hc, rfl⟩ htarget hcancelled
    have hG := h.ok.commits ViolationR.refl hc
    exact hG.confirmed id htarget (hkept id hcancelled)
  · intro htimely id hcancelled
    rcases hstep.moves with hsame | ⟨i, k, p, H, hc, rfl⟩ | henv
    · rwa [hsame]
    · have hG := h.ok.commits ViolationR.refl hc
      exact hG.terminal id (fun htarget => htimely i id ⟨k, p, H, hc, rfl⟩ htarget hcancelled)
        hcancelled
    · obtain ⟨v, hv, hstatus⟩ := hcancelled
      exact ⟨v, (violationById_of_eq henv.1 id).trans hv, hstatus⟩

/-- **The state machine of a violation**: in every run of any requests a violation has at most one
charge, none that is UNPAID while it is CANCELLED, and one while it is CONFIRMED and costs something.
From each point on, what is CANCELLED stays so in every run in which no confirmation commits after
the cancellation; one that does undoes it. -/
theorem violation_run (cfg : Config) (requests : ι → ViolationRequest) (s : Store)
    (hs : ∀ id, CaseOk id s) (w : World ι Store Lock Label AppError Unit)
    (hrun : World.Run violationRegime (violationWorld cfg requests s) w) :
    (∀ id, CaseOk id w.committed) ∧
      (∀ w' id, TimelyRun requests w w' → IsCancelled id w.committed →
        IsCancelled id w'.committed) ∧
      ∀ w', World.Step violationRegime w w' → ¬ ConfirmsInTime requests w w' →
        ∃ id, IsCancelled id w.committed ∧ ¬ IsCancelled id w'.committed := by
  have hinv : ViolationInv requests w := (ViolationInv.init cfg hs).run hrun
  refine ⟨hinv.cases, fun w' id hrun' hcancelled => ?_, fun w' hstep hlate => ?_⟩
  · suffices h : ViolationInv requests w' ∧ IsCancelled id w'.committed from h.2
    induction hrun' with
    | refl => exact ⟨hinv, hcancelled⟩
    | tail _ hstep ih =>
      obtain ⟨hinv', hcancelled'⟩ := ih
      exact ⟨hinv'.step hstep.1, (hinv'.terminal_iff hstep.1).2 hstep.2 id hcancelled'⟩
  · by_contra hnot
    push Not at hnot
    exact hlate ((hinv.terminal_iff hstep).1 hnot)

end

/-! ### A confirmation and a cancellation at once -/

instance (s : Store) (n : ℕ) : Decidable (violationRegime.isFresh s n) :=
  inferInstanceAs (Decidable (violationById n s = none))

instance (l : Label) (s : Store) : Decidable (violationRegime.allowed l s) :=
  inferInstanceAs (Decidable True)

/-- The status of a violation, if it is there. -/
def statusOf (id : ℕ) (s : Store) : Option String := (violationById id s).map Violation.status

theorem isCancelled_iff {id : ℕ} {s : Store} : IsCancelled id s ↔ statusOf id s = some "CANCELLED" := by
  simp [IsCancelled, statusOf]

/-- A violation that was registered. -/
def registeredViolation : Store where
  violations := [{ id := 1, plateNormalized := none, penaltyAmount := 100 }]

theorem caseOk_registered (id : ℕ) : CaseOk id registeredViolation := by
  have hstatus {v : Violation} (h : violationById id registeredViolation = some v) :
      v.status = "REGISTERED" := by
    rw [List.mem_singleton.1 (List.mem_of_find?_eq_some h)]
  refine ⟨Nat.zero_le 1, fun _ _ _ c hc => absurd hc List.not_mem_nil, fun v hv h => ?_,
    fun _ => rfl⟩
  rw [hstatus hv] at h
  exact absurd h (by decide)

/-- One user confirms the violation, another one cancels it. -/
def confirmAndCancel : Fin 2 → ViolationRequest :=
  World.pair (.confirm 1 none) (.cancel 1 none)

/-- What a schedule of the two leaves. -/
def afterViolations (sched : List (Fin 2 × ℕ × ℤ))
    (w : World (Fin 2) Store Lock Label AppError Unit) :
    Option (World (Fin 2) Store Lock Label AppError Unit) :=
  World.runSchedule violationRegime sched 10 w

theorem violation_run_voided :
    ∃ w, World.Run violationRegime (violationWorld {} confirmAndCancel registeredViolation) w ∧
      statusOf 1 w.committed = some "CANCELLED" ∧
      (violationCharges 1 w.committed).map Charge.status = [.voided] ∧
      ∀ w', TimelyRun confirmAndCancel w w' → IsCancelled 1 w'.committed := by
  have hrun : (afterViolations [(0, 8, 0), (1, 7, 0)]
      (violationWorld {} confirmAndCancel registeredViolation)).any (fun w =>
        decide (statusOf 1 w.committed = some "CANCELLED" ∧
          (violationCharges 1 w.committed).map Charge.status = [.voided])) = true := by decide
  obtain ⟨w, hw, hends⟩ := (Option.any_eq_true _ _).1 hrun
  obtain ⟨hcancelled, hvoided⟩ := of_decide_eq_true hends
  have hreach := World.runSchedule_run hw
  exact ⟨w, hreach, hcancelled, hvoided, fun w' htimely =>
    (violation_run {} confirmAndCancel registeredViolation caseOk_registered w hreach).2.1 w' 1
      htimely (isCancelled_iff.2 hcancelled)⟩

theorem cancellation_undone :
    ¬ ∀ (cfg : Config) (requests : Fin 2 → ViolationRequest) (s : Store), (∀ id, CaseOk id s) →
      ∀ w, World.Run violationRegime (violationWorld cfg requests s) w →
        (∀ id, CaseOk id w.committed) ∧ ∀ w' id, World.Run violationRegime w w' →
          IsCancelled id w.committed → IsCancelled id w'.committed := by
  intro h
  -- the confirmation reads the status, then the cancellation commits
  have hrun : (afterViolations [(0, 1, 0), (1, 6, 0)]
      (violationWorld {} confirmAndCancel registeredViolation)).any (fun w =>
        decide (statusOf 1 w.committed = some "CANCELLED") &&
          (afterViolations [(0, 7, 0)] w).any fun w' =>
            decide (statusOf 1 w'.committed = some "CONFIRMED")) = true := by decide
  obtain ⟨w, hw, hends⟩ := (Option.any_eq_true _ _).1 hrun
  obtain ⟨hcancelled, hrest⟩ := Bool.and_eq_true_iff.1 hends
  obtain ⟨w', hw', hconfirmed⟩ := (Option.any_eq_true _ _).1 hrest
  have hkept := (h {} confirmAndCancel registeredViolation caseOk_registered w
    (World.runSchedule_run hw)).2 w' 1 (World.runSchedule_run hw')
    (isCancelled_iff.2 (of_decide_eq_true hcancelled))
  rw [isCancelled_iff, of_decide_eq_true hconfirmed] at hkept
  exact absurd hkept (by decide)

end ParkingSystem
