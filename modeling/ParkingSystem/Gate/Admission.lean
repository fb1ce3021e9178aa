import ParkingSystem.Gate.Outcome

/-!
# Whom the Gate Lets Pass

What stands behind an open barrier: a readable plate, a capture that needs no review, an active
vehicle and no restriction in force. The first layer looks for restrictions of registered
vehicles only, and the later layers for none, so a rule may let in a restricted plate that
nobody registered.
-/

namespace ParkingSystem

open PyValue Table Transaction

/-! ## When the barrier opens -/

theorem captureReview_cases (cfg : Config) (q : CaptureQuality) (confidence : Option ℚ)
    (plate : Option String) (s : Store) :
    captureReview cfg q confidence plate s = .needsReview ∨
      captureReview cfg q confidence plate s = .autoOk := by
  unfold captureReview reviewStatusFor
  split_ifs <;> simp

/-- What stands behind an open barrier. -/
structure Lawful (cfg : Config) (e : PlateEvent) (now : ℤ) (s : Store) (plate : String) :
    Prop where
  readable : e.plate cfg = some plate
  unrestricted : ∀ r ∈ s.restrictions, r.plateNormalized = plate → r.status = "ACTIVE" →
    r.inForce now = false
  active : ∀ v, vehicleOf plate s = some v → v.isActive = true
  sure : e.review cfg s = .autoOk

/-- A rule admits a restricted plate that no vehicle is registered with, on a reading that
needs no review. -/
def PlateEvent.AdmitsRestricted (cfg : Config) (e : PlateEvent) (clk : ℕ → ℤ)
    (w : Session Store) : Prop :=
  ∃ gate plate, gateByCode e.gateCode w.view = some gate ∧ e.plate cfg = some plate ∧
    vehicleOf plate w.view = none ∧
    (∃ r ∈ w.view.restrictions, r.plateNormalized = plate ∧ r.status = "ACTIVE" ∧
      r.inForce (clk w.tick) = true) ∧
    e.review cfg w.view = .autoOk ∧
    ruleDecision cfg e clk (e.readingIn cfg gate clk w) unregistered
      (e.atDecision cfg gate clk w) = some .allowWithWarning

section

variable {cfg : Config} {clk : ℕ → ℤ} {e : PlateEvent} {gate : Gate}
  {w w' w₁ w₂ : Session Store} {base : BaseDecision} {v : Verdict}

theorem unrestricted_iff {plate : String} {now : ℤ} {s : Store} :
    activeRestriction plate now s = none ↔ ∀ r ∈ s.restrictions, r.plateNormalized = plate →
      r.status = "ACTIVE" → r.inForce now = false := by
  rw [← Option.not_isSome_iff_eq_none, activeRestriction_isSome_iff]
  simp

/-- A rule admits only what was not refused before, and never past the two refusals that are
protected. -/
theorem ruleDecision_allowed {r : Reading} {d : Decision}
    (h : ruleDecision cfg e clk r base w = some d) (hd : d.allowed = true) :
    d = .allowWithWarning ∧ softenBlocked base.reason = false := by
  have hmay := ruleDecision_may cfg e clk r base w
  rw [h] at hmay
  cases d with
  | allowWithWarning => exact ⟨rfl, hmay.1⟩
  | allow => exact hmay.elim
  | deny => cases hd
  | requireOperatorApproval => cases hd
  | unknownPlate => cases hd
  | offlineAllow => cases hd
  | offlineRequireReview => cases hd

/-- An answer of the first layer that is no admission and is protected from the rules stays
one. -/
theorem Decided.protected_refused (h : Decided cfg clk e gate w base w₁ v w₂)
    {d : BaseDecision} (hbranch : e.branch cfg gate clk w = .fixed d)
    (hprotected : softenBlocked d.reason = true) (hrefused : d.decision.allowed = false) :
    v.decision.allowed = false := by
  have hrun := h.run
  rw [hbranch] at hrun
  obtain rfl : d = base := Except.ok.inj (congrArg Prod.fst hrun)
  rw [h.verdict, ← Bool.not_eq_true, verdictOn_allowed]
  rintro ⟨_, hallowed⟩
  cases hrule : ruleDecision cfg e clk (e.readingIn cfg gate clk w) d w₁ with
  | none => simp [hrule, hrefused] at hallowed
  | some x =>
    rw [hrule] at hallowed
    have hsoft := (ruleDecision_allowed hrule hallowed).2
    simp [hprotected] at hsoft

/-- **Who is let pass**: an admission is lawful, or it is a rule's, of a plate that nobody
registered. -/
theorem Decided.admits (h : Decided cfg clk e gate w base w₁ v w₂)
    (hallowed : v.decision.allowed = true) :
    (∃ plate, Lawful cfg e (clk w.tick) w.view plate) ∨ e.AdmitsRestricted cfg clk w := by
  have hverdict := hallowed
  rw [h.verdict, verdictOn_allowed] at hverdict
  obtain ⟨hreview, hlater⟩ := hverdict
  have hsure : e.review cfg w.view = .autoOk :=
    (captureReview_cases cfg _ _ _ w.view).resolve_left hreview
  cases hplate : e.plate cfg with
  | none =>
    -- an unreadable plate always goes to review
    refine absurd ?_ hreview
    show captureReview cfg e.captureQuality e.confidence (e.plate cfg) w.view = .needsReview
    rw [hplate]
    exact captureReview_unreadable cfg _ _ _
  | some plate =>
    have hvehicle : e.vehicle cfg w.view = vehicleOf plate w.view := by
      simp [PlateEvent.vehicle, hplate]
    cases hv : vehicleOf plate w.view with
    | none =>
      have hbranch : e.branch cfg gate clk w = .fixed unregistered := by
        simp [PlateEvent.branch, hplate, hvehicle, hv, baseCase]
      have hrun := h.run
      rw [hbranch] at hrun
      obtain ⟨hbase, rfl⟩ := Prod.mk.inj hrun
      obtain rfl := Except.ok.inj hbase
      by_cases hrestriction : ∃ r ∈ w.view.restrictions, r.plateNormalized = plate ∧
          r.status = "ACTIVE" ∧ r.inForce (clk w.tick) = true
      · -- the first layer refused, so it is a rule that admits
        refine Or.inr ⟨gate, plate, h.known, hplate, hv, hrestriction, hsure, ?_⟩
        cases hrule : ruleDecision cfg e clk (e.readingIn cfg gate clk w) unregistered
            (e.atDecision cfg gate clk w) with
        | none =>
          rw [hrule] at hlater
          exact absurd hlater (by decide)
        | some d =>
          rw [hrule] at hlater
          rw [(ruleDecision_allowed hrule hlater).1]
      · refine Or.inl ⟨plate, hplate, fun r hr hkey hstatus => ?_, fun x hx => ?_, hsure⟩
        · by_contra hforce
          exact hrestriction ⟨r, hr, hkey, hstatus, by simpa using hforce⟩
        · cases hv.symm.trans hx
    | some vehicle =>
      have hactive : vehicle.isActive = true := by
        by_contra hinactive
        have hbranch : e.branch cfg gate clk w = .fixed inactive := by
          simp [PlateEvent.branch, hplate, hvehicle, hv, baseCase, hinactive]
        have hrefused := h.protected_refused hbranch (by decide) (by decide)
        simp [hallowed] at hrefused
      have hfree : activeRestriction plate (clk w.tick) w.view = none := by
        rw [← Option.not_isSome_iff_eq_none]
        intro hrestricted
        have hbranch : e.branch cfg gate clk w = .fixed restricted := by
          simp [PlateEvent.branch, hplate, hvehicle, hv, baseCase, hactive, hrestricted]
        have hrefused := h.protected_refused hbranch (by decide) (by decide)
        simp [hallowed] at hrefused
      refine Or.inl ⟨plate, hplate, unrestricted_iff.1 hfree, fun x hx => ?_, hsure⟩
      obtain rfl : vehicle = x := Option.some.inj (hv.symm.trans hx)
      exact hactive

/-- Where a rule admits a restricted plate, the verdict does. -/
theorem Decided.admits_restricted (h : Decided cfg clk e gate w base w₁ v w₂)
    (hrule : e.AdmitsRestricted cfg clk w) : v.decision.allowed = true := by
  obtain ⟨gate', plate, hgate, hplate, hv, _, hsure, hdecision⟩ := hrule
  obtain rfl : gate' = gate := Option.some.inj (hgate.symm.trans h.known)
  have hbranch : e.branch cfg gate' clk w = .fixed unregistered := by
    simp [PlateEvent.branch, hplate, PlateEvent.vehicle, hv, baseCase]
  have hrun := h.run
  rw [hbranch] at hrun
  obtain ⟨hbase, rfl⟩ := Prod.mk.inj hrun
  obtain rfl := Except.ok.inj hbase
  rw [h.verdict, verdictOn_allowed, hdecision]
  refine ⟨fun hreview => ?_, rfl⟩
  have hneeds : e.review cfg w.view = .needsReview := hreview
  rw [hsure] at hneeds
  cases hneeds

/-- **An open barrier** has a readable, unrestricted plate of an active vehicle or of none and a
sure reading behind it, exactly where no rule admits a restricted plate that nobody
registered. -/
theorem opened_lawful_iff (cfg : Config) (e : PlateEvent) (clk : ℕ → ℤ) (s : Store) (n t : ℕ)
    {resp : GateResponse} {w' : Session Store} (hnew : eventByKey e.key s = none)
    (h : (processPlateEvent cfg e).exec clk (.fresh s n t) = (.ok resp, w')) :
    (resp.barrierAction = .opened → ∃ plate, Lawful cfg e (clk t) s plate) ↔
      ¬ e.AdmitsRestricted cfg clk (.fresh s n t) := by
  obtain ⟨gate, base, w₁, v, w₂, hdecided, hending⟩ := processPlateEvent_ok rfl rfl hnew h
  rw [hending.opened_iff hdecided]
  constructor
  · intro hlawful hrule
    obtain ⟨plate, hbehind⟩ := hlawful (hdecided.admits_restricted hrule)
    obtain ⟨_, plate', _, hplate, _, ⟨r, hr, hkey, hstatus, hforce⟩, _⟩ := hrule
    obtain rfl : plate = plate' := Option.some.inj (hbehind.readable.symm.trans hplate)
    have hnot := hbehind.unrestricted r hr hkey hstatus
    exact absurd (hforce.symm.trans hnot) (by decide)
  · intro hrule hallowed
    exact (hdecided.admits hallowed).resolve_right hrule

end

/-! ### A banned guest -/

/-- A plate that nobody registered is banned, and a rule lets everybody in. -/
def bannedStore : Store :=
  { gates := [{ id := "g1", code := "G1", name := "North" }]
    restrictions := [{ id := 1, plateNormalized := "12B345IR67" }]
    rules := [{ id := 2, name := "guests", conditions := [], status := "ACTIVE"
                actions := [[("action", .str "allow_with_warning")]] }] }

/-- The plate comes in. -/
def guestEntry : PlateEvent := { gateCode := "G1", plateRaw := "12ب34567", sourceEventId := "1" }

/-- It is let in. -/
theorem guestEntry_opened :
    ∃ resp w', (processPlateEvent {} guestEntry).exec (fun _ => 0) (.fresh bannedStore 10 0) =
      (.ok resp, w') ∧ resp.barrierAction = .opened := by
  have hopened : (((processPlateEvent {} guestEntry).exec (fun _ => 0)
      (.fresh bannedStore 10 0)).1.toOption.any fun resp => resp.barrierAction == .opened) = true := by
    decide +kernel
  rcases hexec : (processPlateEvent {} guestEntry).exec (fun _ => 0) (.fresh bannedStore 10 0) with
    ⟨exc | resp, w'⟩
  · simp [hexec, Except.toOption] at hopened
  · exact ⟨resp, w', rfl, by simpa [hexec, Except.toOption] using hopened⟩

theorem opened_lawful_iff_guestEntry :
    ∃ resp w', (processPlateEvent {} guestEntry).exec (fun _ => 0) (.fresh bannedStore 10 0) =
        (.ok resp, w') ∧
      ((resp.barrierAction = .opened → ∃ plate, Lawful {} guestEntry 0 bannedStore plate) ↔
        ¬ guestEntry.AdmitsRestricted {} (fun _ => 0) (.fresh bannedStore 10 0)) := by
  obtain ⟨resp, w', hexec, _⟩ := guestEntry_opened
  exact ⟨resp, w', hexec,
    opened_lawful_iff {} guestEntry (fun _ => 0) bannedStore 10 0 (by decide) hexec⟩

/-- **A restricted plate let in** -/
theorem banned_guest_opened :
    ¬ ∀ (cfg : Config) (e : PlateEvent) (clk : ℕ → ℤ) (s : Store) (n t : ℕ)
      (resp : GateResponse) (w' : Session Store), eventByKey e.key s = none →
      (processPlateEvent cfg e).exec clk (.fresh s n t) = (.ok resp, w') →
      resp.barrierAction = .opened → ∃ plate, Lawful cfg e (clk t) s plate := by
  intro h
  obtain ⟨resp, w', hexec, hopened⟩ := guestEntry_opened
  obtain ⟨plate, hlawful⟩ :=
    h {} guestEntry (fun _ => 0) bannedStore 10 0 resp w' (by decide) hexec hopened
  have hplate : guestEntry.plate {} = some "12B345IR67" := by decide
  obtain rfl : plate = "12B345IR67" := Option.some.inj (hlawful.readable.symm.trans hplate)
  have hnot := hlawful.unrestricted _ List.mem_cons_self rfl rfl
  revert hnot
  decide

end ParkingSystem
