import ParkingSystem.Gate.Admission
import ParkingSystem.Gate.ClosedExit

/-!
# Sessions, Occupancies, Spaces

What recording an event does to each of the three tables that say who is inside, and what the
decision did to them before. The first layer closes the session of an exit; a session and an
occupancy are opened on one branch of the recording, and an occupancy is released on another.
-/

namespace ParkingSystem

open PyValue Table Transaction

/-! ## Recording, table by table -/

section

variable {e : PlateEvent} {r : Reading} {v : Verdict} {n : ℕ} {s : Store}

@[simp] theorem spaceTaken_sessions (sp : Option ParkingSpace) (s : Store) :
    (spaceTaken sp s).sessions = s.sessions := by
  unfold spaceTaken
  split
  · rfl
  · split <;> rfl

@[simp] theorem spaceTaken_occupancies (sp : Option ParkingSpace) (s : Store) :
    (spaceTaken sp s).occupancies = s.occupancies := by
  unfold spaceTaken
  split
  · rfl
  · split <;> rfl

@[simp] theorem spaceTaken_events (sp : Option ParkingSpace) (s : Store) :
    (spaceTaken sp s).events = s.events := by
  unfold spaceTaken
  split
  · rfl
  · split <;> rfl

@[simp] theorem spaceFreed_sessions (id : Option ℕ) (s : Store) :
    (spaceFreed id s).sessions = s.sessions := by
  unfold spaceFreed
  split
  · rfl
  · split <;> rfl

@[simp] theorem spaceFreed_occupancies (id : Option ℕ) (s : Store) :
    (spaceFreed id s).occupancies = s.occupancies := by
  unfold spaceFreed
  split
  · rfl
  · split <;> rfl

@[simp] theorem spaceFreed_events (id : Option ℕ) (s : Store) :
    (spaceFreed id s).events = s.events := by
  unfold spaceFreed
  split
  · rfl
  · split <;> rfl

@[simp] theorem exitStore_sessions (r : Reading) (s : Store) :
    (exitStore r s).sessions = s.sessions := by
  unfold exitStore
  split
  · rfl
  · rw [spaceFreed_sessions]
    rfl

@[simp] theorem exitStore_events (r : Reading) (s : Store) :
    (exitStore r s).events = s.events := by
  unfold exitStore
  split
  · rfl
  · rw [spaceFreed_events]
    rfl

/-- The occupancy that an exit releases. -/
def Reading.released (r : Reading) (s : Store) : Option ParkingOccupancy :=
  r.vehicle.bind fun v => latestOccupancy v.id s

theorem exitStore_of_none (h : r.released s = none) : exitStore r s = s := by
  rw [Reading.released] at h
  rw [exitStore, h]

theorem exitStore_of_some {o : ParkingOccupancy} (h : r.released s = some o) :
    exitStore r s = spaceFreed o.parkingSpaceId ((vacate o.id r.now).apply s) := by
  rw [Reading.released] at h
  rw [exitStore, h]

/-- Recording an event that opens a session. -/
theorem recordedStore_opens (h : opensSession e v) :
    recordedStore e r v n s =
      entryStore e r n (n + 1) (n + 2) ((insertEvent (eventRow e r v n)).apply s) := by
  simp [recordedStore, h]

/-- Recording an event that releases an occupancy. -/
theorem recordedStore_releases (h : releases e v) :
    recordedStore e r v n s = exitStore r ((insertEvent (eventRow e r v n)).apply s) := by
  have hopens : ¬ opensSession e v := fun ho => not_releases_of_opens ho h
  simp [recordedStore, h, hopens]

/-- Recording an event that does neither. -/
theorem recordedStore_neither (hopens : ¬ opensSession e v) (hreleases : ¬ releases e v) :
    recordedStore e r v n s = (insertEvent (eventRow e r v n)).apply s := by
  simp [recordedStore, hopens, hreleases]

end

/-! ## The decision before it -/

section

variable {cfg : Config} {e : PlateEvent} {clk : ℕ → ℤ} {gate : Gate} {w w₁ w₂ : Session Store}
  {base : BaseDecision} {v : Verdict}

/-- The decision leaves the events alone. -/
theorem Decided.events (h : Decided cfg clk e gate w base w₁ v w₂) :
    w₂.view.events = w.view.events := by
  obtain ⟨rs, hview⟩ := atDecision_view cfg e gate clk w
  have hsame := congrArg Store.events h.undecided
  rw [hview] at hsame
  exact hsame

/-- And the occupancies. -/
theorem Decided.occupancies (h : Decided cfg clk e gate w base w₁ v w₂) :
    w₂.view.occupancies = w.view.occupancies := by
  obtain ⟨rs, hview⟩ := atDecision_view cfg e gate clk w
  have hsame := congrArg Store.occupancies h.undecided
  rw [hview] at hsame
  exact hsame

/-- And the spaces. -/
theorem Decided.spaces (h : Decided cfg clk e gate w base w₁ v w₂) :
    w₂.view.spaces = w.view.spaces := by
  obtain ⟨rs, hview⟩ := atDecision_view cfg e gate clk w
  have hsame := congrArg Store.spaces h.undecided
  rw [hview] at hsame
  exact hsame

/-- And the assignments. -/
theorem Decided.assignments (h : Decided cfg clk e gate w base w₁ v w₂) :
    w₂.view.assignments = w.view.assignments := by
  obtain ⟨rs, hview⟩ := atDecision_view cfg e gate clk w
  have hsame := congrArg Store.assignments h.undecided
  rw [hview] at hsame
  exact hsame

/-- Where no exit closes its session, it leaves the sessions alone too. -/
theorem Decided.sessions_kept (h : Decided cfg clk e gate w base w₁ v w₂)
    (hbranch : ∀ policy session, e.branch cfg gate clk w ≠ .exitCloses policy session) :
    w₂.view.sessions = w.view.sessions := by
  obtain ⟨rs, hview⟩ := atDecision_view cfg e gate clk w
  have hrun := h.run
  rw [h.view]
  cases hcase : e.branch cfg gate clk w with
  | exitCloses policy session => exact absurd hcase (hbranch policy session)
  | fixed d =>
    rw [hcase] at hrun
    obtain rfl : e.atDecision cfg gate clk w = w₁ := congrArg Prod.snd hrun
    rw [hview]
  | entryCounts p =>
    rw [hcase] at hrun
    obtain ⟨_, w', hflush, hret⟩ := Prog.exec_bind_ok hrun
    obtain ⟨_, _, rfl⟩ := Prog.exec_flush_ok hflush
    obtain rfl := congrArg Prod.snd hret
    show (e.atDecision cfg gate clk w).view.sessions = _
    rw [hview]

/-- A branch that closes leaves the sessions, up to a settlement, with the rows of its session
closed at the instant of the request. -/
theorem Decided.rows_closed (h : Decided cfg clk e gate w base w₁ v w₂)
    (hlive : w₂.broken = false) {policy : String} {session : ParkingSession}
    (hbranch : e.branch cfg gate clk w = .exitCloses policy session) :
    ∃ k s, w₂.view.sessions.map ParkingSession.unsettled =
      (updateWhere (fun r => r.id == session.id)
        (closeRow cfg session (clk w.tick) (clk k) s) w.view.sessions).map
          ParkingSession.unsettled := by
  obtain ⟨rs, hview⟩ := atDecision_view cfg e gate clk w
  have hrun := h.run
  rw [hbranch] at hrun
  obtain ⟨_, _, hunsettled⟩ := exec_closeExit_ok hrun (h.broken ▸ hlive)
  rw [hview] at hunsettled
  have hrows := congrArg Store.sessions hunsettled
  rw [← h.view] at hrows
  exact ⟨_, _, hrows⟩

/-- Where one does, the rows of the session are closed, up to a settlement. -/
theorem Decided.sessions_closed (h : Decided cfg clk e gate w base w₁ v w₂)
    (hlive : w₂.broken = false) {policy : String} {session : ParkingSession}
    (hbranch : e.branch cfg gate clk w = .exitCloses policy session) :
    ∃ f : ParkingSession → ParkingSession, (∀ r, (f r).status = .closed ∧ (f r).id = r.id) ∧
      w₂.view.sessions.map ParkingSession.unsettled =
        (updateWhere (fun r => r.id == session.id) f w.view.sessions).map
          ParkingSession.unsettled := by
  obtain ⟨_, _, _, _, hsession⟩ := baseCase_closes hbranch
  obtain ⟨_, _, hopen⟩ := latestOpenSession_mem hsession
  obtain ⟨_, _, hrows⟩ := h.rows_closed hlive hbranch
  exact ⟨_, fun r => ⟨closeRow_status cfg hopen _ _ _ r, closeRow_id cfg _ _ _ _ r⟩, hrows⟩

/-- What the rules may not admit stays refused. -/
theorem Decided.never_allowed (h : Decided cfg clk e gate w base w₁ v w₂) {d : BaseDecision}
    (hbranch : e.branch cfg gate clk w = .fixed d) (hnever : neverAllow d.decision d.reason = true)
    (hrefused : d.decision.allowed = false) : v.decision.allowed = false := by
  have hrun := h.run
  rw [hbranch] at hrun
  obtain rfl : d = base := Except.ok.inj (congrArg Prod.fst hrun)
  rw [h.verdict, ← Bool.not_eq_true, verdictOn_allowed]
  rintro ⟨_, hallowed⟩
  have hmay := ruleDecision_may cfg e clk (e.readingIn cfg gate clk w) d w₁
  cases hrule : ruleDecision cfg e clk (e.readingIn cfg gate clk w) d w₁ with
  | none => simp [hrule, hrefused] at hallowed
  | some x =>
    rw [hrule] at hallowed
    obtain ⟨rfl, _⟩ := ruleDecision_allowed hrule hallowed
    rw [hrule] at hmay
    simp [RuleMay, hnever] at hmay

end

/-! ## Repeated submissions -/

/-- An event whose key is stored is answered from the store and changes nothing. -/
theorem processPlateEvent_duplicate {cfg : Config} {e : PlateEvent} {clk : ℕ → ℤ}
    {w w' : Session Store} {ev : AccessEvent} {res : Except (Exc AppError) GateResponse}
    (hw : w.broken = false) (hold : eventByKey e.key w.view = some ev)
    (h : (processPlateEvent cfg e).exec clk w = (res, w')) :
    w'.committed = w.committed ∧ w'.view = w.view ∧ w'.broken = false ∧
      ∀ resp, res = .ok resp → AnswersFor ev (some ev.id) resp := by
  have hw₀ : ({ w with tick := w.tick + 1 } : Session Store).broken = false := hw
  have h := (Prog.exec_bind_of_ok (Prog.exec_getTime clk w)).symm.trans h
  have h := (Prog.exec_bind_of_ok (Prog.exec_select clk _ hw₀)).symm.trans h
  cases hgate : gateByCode e.gateCode w.view with
  | none =>
    simp only [hgate] at h
    cases h
    exact ⟨rfl, rfl, hw, fun resp hresp => by cases hresp⟩
  | some gate =>
    simp only [hgate] at h
    have h := (Prog.exec_bind_of_ok (Prog.exec_select clk _ hw₀)).symm.trans h
    simp only [hold] at h
    have hsame := (readOnly_duplicateResponse ev gate []).exec_readOnly clk
      { w with tick := w.tick + 1 }
    rw [h] at hsame
    refine ⟨hsame.1, hsame.2.1, hsame.2.2.trans hw, fun resp hresp => ?_⟩
    rw [hresp] at h
    exact (returns_duplicateResponse ev gate []).exec_ok h

end ParkingSystem
