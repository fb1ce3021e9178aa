import ParkingSystem.Gate.ClosedExit

/-!
# What a Refused Event Leaves

The first layer has closed its session or counted its entry before a rule or the review lock
takes the admission back, and nothing undoes it: what was refused then has been priced, paid or
used up all the same. Everywhere else a refused event leaves its two records and nothing more.
-/

namespace ParkingSystem

open PyValue Table Transaction

/-- The store grew by one recognition and one access event, and is otherwise as before. -/
def OnlyRecords (s s' : Store) : Prop :=
  ∃ p ev, s' = { s with recognitions := s.recognitions ++ [p], events := s.events ++ [ev] }

/-- The first layer admitted the event and changed the store for it, and then the capture needs
review, or a rule refuses or refers it. -/
def PlateEvent.Overruled (cfg : Config) (e : PlateEvent) (clk : ℕ → ℤ) (w : Session Store) :
    Prop :=
  ∃ gate base w₁, gateByCode e.gateCode w.view = some gate ∧
    (e.branch cfg gate clk w).changes = true ∧
    ((e.branch cfg gate clk w).run cfg (clk w.tick)).exec clk (e.atDecision cfg gate clk w) =
      (.ok base, w₁) ∧
    (e.review cfg w.view = .needsReview ∨
      ∃ d, ruleDecision cfg e clk (e.readingIn cfg gate clk w) base w₁ = some d ∧
        d.allowed = false)

section

variable {cfg : Config} {clk : ℕ → ℤ}

/-- An entry of a permit of the store leaves more than records. -/
theorem not_onlyRecords_of_counted {s s' : Store} {p : AccessPermit} (hp : p ∈ s.permits)
    (h : s'.permits = ((updatePermit p).apply s).permits) : ¬ OnlyRecords s s' := by
  rintro ⟨_, _, rfl⟩
  have hmem : p ∈ updateWhere (fun r => r.id == p.id)
      (fun r => { r with usedEntries := p.use.usedEntries }) s.permits := by
    have hsame : s.permits = ((updatePermit p).apply s).permits := h
    rw [hsame] at hp
    exact hp
  rcases mem_updateWhere.1 hmem with ⟨q, _, _, hq⟩ | ⟨_, hne⟩
  · -- the row now has one entry more than it had
    have hused : p.usedEntries + 1 = p.usedEntries := congrArg AccessPermit.usedEntries hq
    omega
  · simp at hne

/-- An OPEN session of the store whose rows were closed leaves more than records. -/
theorem not_onlyRecords_of_closed {s s' : Store} {session : ParkingSession}
    {f : ParkingSession → ParkingSession} (hmem : session ∈ s.sessions)
    (hopen : session.status = .opened) (hf : ∀ r, (f r).status = .closed)
    (h : s'.sessions.map ParkingSession.unsettled =
      (updateWhere (fun r => r.id == session.id) f s.sessions).map ParkingSession.unsettled) :
    ¬ OnlyRecords s s' := by
  rintro ⟨_, _, rfl⟩
  have hrow : session.unsettled ∈ (updateWhere (fun r => r.id == session.id) f s.sessions).map
      ParkingSession.unsettled := h ▸ List.mem_map_of_mem hmem
  obtain ⟨r, hr, heq⟩ := List.mem_map.1 hrow
  have hstatus := congrArg ParkingSession.status heq
  have hid := congrArg ParkingSession.id heq
  rcases mem_updateWhere.1 hr with ⟨q, _, _, rfl⟩ | ⟨_, hne⟩
  · have hclosed : SessionStatus.closed = SessionStatus.opened :=
      (hf q).symm.trans (hstatus.trans hopen)
    cases hclosed
  · simp only [ParkingSession.unsettled] at hid
    simp [hid] at hne

/-- What a refused event commits, from the view the first layer left. -/
theorem recordedStore_refused {e : PlateEvent} {r : Reading} {v : Verdict}
    (hrefused : v.decision.allowed = false) (n : ℕ) (s : Store) :
    recordedStore e r v n s = (insertEvent (eventRow e r v n)).apply s := by
  have hopens : ¬ opensSession e v := fun h => by
    have hallowed := h.2.1
    simp [hrefused] at hallowed
  have hreleases : ¬ releases e v := fun h => by
    have hallowed := h.2
    simp [hrefused] at hallowed
  simp [recordedStore, hopens, hreleases]

variable {e : PlateEvent} {gate : Gate} {w w₁ w₂ : Session Store} {base : BaseDecision}
  {v : Verdict}

/-- Where the branch changes nothing, a refused event leaves its two records. -/
theorem Decided.onlyRecords (h : Decided cfg clk e gate w base w₁ v w₂) (hwet : e.dryRun = false)
    (hsame : (e.branch cfg gate clk w).changes = false) (hrefused : v.decision.allowed = false) :
    OnlyRecords w.view (recordedStore e (e.readingIn cfg gate clk w) v w₂.nextId w₂.view) := by
  have hrun := h.run
  cases hbranch : e.branch cfg gate clk w with
  | exitCloses policy session => simp [hbranch, BaseCase.changes] at hsame
  | entryCounts p => simp [hbranch, BaseCase.changes] at hsame
  | fixed d =>
    rw [hbranch] at hrun
    obtain rfl : e.atDecision cfg gate clk w = w₁ := congrArg Prod.snd hrun
    rw [recordedStore_refused hrefused, h.view, PlateEvent.atDecision,
      afterReading_view_wet hwet]
    exact ⟨_, _, rfl⟩

/-- Where it changes the store, every event leaves more. -/
theorem Decided.not_onlyRecords (h : Decided cfg clk e gate w base w₁ v w₂)
    (hlive : w₂.broken = false) (hchanges : (e.branch cfg gate clk w).changes = true)
    (hrefused : v.decision.allowed = false) :
    ¬ OnlyRecords w.view (recordedStore e (e.readingIn cfg gate clk w) v w₂.nextId w₂.view) := by
  obtain ⟨rs, hview⟩ := atDecision_view cfg e gate clk w
  have hrun := h.run
  have hlive₁ : w₁.broken = false := h.broken ▸ hlive
  rw [recordedStore_refused hrefused, h.view]
  cases hbranch : e.branch cfg gate clk w with
  | fixed d => simp [hbranch, BaseCase.changes] at hchanges
  | entryCounts p =>
    rw [hbranch] at hrun
    obtain ⟨_, _, _, _, hp, _⟩ := baseCase_counts hbranch
    obtain ⟨_, w', hflush, hret⟩ := Prog.exec_bind_ok hrun
    obtain ⟨_, _, rfl⟩ := Prog.exec_flush_ok hflush
    obtain rfl := congrArg Prod.snd hret
    refine not_onlyRecords_of_counted (activePermit_ok hp).1 ?_
    show ((updatePermit p).apply (e.atDecision cfg gate clk w).view).permits = _
    rw [hview]
    rfl
  | exitCloses policy session =>
    rw [hbranch] at hrun
    obtain ⟨_, _, _, _, hsession⟩ := baseCase_closes hbranch
    obtain ⟨hmem, _, hopen⟩ := latestOpenSession_mem hsession
    obtain ⟨_, _, hunsettled⟩ := exec_closeExit_ok hrun hlive₁
    rw [hview] at hunsettled
    exact not_onlyRecords_of_closed hmem hopen (closeRow_status cfg hopen _ _ _)
      (congrArg Store.sessions hunsettled)

/-- The verdict refuses a branch that admitted exactly where the lock or a rule does. -/
theorem Decided.refused_iff (h : Decided cfg clk e gate w base w₁ v w₂)
    (hadmits : base.decision = .allow) :
    v.decision.allowed = false ↔ e.review cfg w.view = .needsReview ∨
      ∃ d, ruleDecision cfg e clk (e.readingIn cfg gate clk w) base w₁ = some d ∧
        d.allowed = false := by
  rw [h.verdict, ← Bool.not_eq_true, verdictOn_allowed]
  show ¬ (e.review cfg w.view ≠ .needsReview ∧ _) ↔ _
  rw [not_and_or, not_not]
  refine or_congr_right ?_
  cases ruleDecision cfg e clk (e.readingIn cfg gate clk w) base w₁ with
  | none => simp [hadmits, Decision.allowed]
  | some d => simp

/-- **A refused event** leaves its two records and nothing more, exactly where the first layer
was not overruled. -/
theorem refused_onlyRecords_iff (cfg : Config) (e : PlateEvent) (clk : ℕ → ℤ) (s : Store)
    (n t : ℕ) {resp : GateResponse} {w' : Session Store} (hwet : e.dryRun = false)
    (hnew : eventByKey e.key s = none)
    (h : (processPlateEvent cfg e).exec clk (.fresh s n t) = (.ok resp, w')) :
    (resp.decision.allowed = false → OnlyRecords s w'.committed) ↔
      ¬ e.Overruled cfg clk (.fresh s n t) := by
  obtain ⟨gate, base, w₁, v, w₂, hdecided, hending⟩ := processPlateEvent_ok rfl rfl hnew h
  -- the branch, its base decision and the session it left are determined
  have hoverruled : e.Overruled cfg clk (.fresh s n t) ↔
      (e.branch cfg gate clk (.fresh s n t)).changes = true ∧ v.decision.allowed = false := by
    constructor
    · rintro ⟨gate', base', w₁', hgate, hchanges, hrun, hlater⟩
      obtain rfl : gate' = gate := Option.some.inj (hgate.symm.trans hdecided.known)
      obtain ⟨hbase, rfl⟩ := Prod.mk.inj (hrun.symm.trans hdecided.run)
      obtain rfl := Except.ok.inj hbase
      exact ⟨hchanges, (hdecided.refused_iff (exec_branch_changes hchanges hrun)).2 hlater⟩
    · rintro ⟨hchanges, hrefused⟩
      exact ⟨gate, base, w₁, hdecided.known, hchanges, hdecided.run,
        (hdecided.refused_iff (exec_branch_changes hchanges hdecided.run)).1 hrefused⟩
  rw [hoverruled]
  cases hending with
  | dry hdry => simp [hdry] at hwet
  | conflict _ hopens _ _ hresp _ =>
    -- an answered conflict is an admission
    subst hresp
    rw [hopens.2.1]
    simp [sessionConflict, Decision.allowed]
  | stored _ hlive hanswer hcommitted _ _ =>
    have hdecision : resp.decision = v.decision := hanswer.decision
    rw [hdecision, hcommitted]
    cases hrefused : v.decision.allowed with
    | true => simp
    | false =>
      cases hchanges : (e.branch cfg gate clk (.fresh s n t)).changes with
      | true => simpa using hdecided.not_onlyRecords hlive hchanges hrefused
      | false => simpa using hdecided.onlyRecords hwet hchanges hrefused

end

/-! ### An entry with a poor reading -/

/-- A registered vehicle with a permit. -/
def residentStore : Store :=
  { gates := [{ id := "g1", code := "G1", name := "North" }]
    vehicles := [{ id := 1, plateNormalized := "12B345IR67", createdAt := 0 }]
    permits := [{ id := 2, plateNormalized := "12B345IR67", createdAt := 0 }] }

/-- The vehicle comes in, read with little confidence. -/
def unsureEntry : PlateEvent :=
  { gateCode := "G1", plateRaw := "12ب34567", sourceEventId := "1", confidence := some (1 / 2) }

/-- The guard is asked, and the entry has been counted. -/
theorem unsureEntry_outcome :
    ∃ resp w', (processPlateEvent {} unsureEntry).exec (fun _ => 0) (.fresh residentStore 10 0) =
        (.ok resp, w') ∧ resp.decision.allowed = false ∧
      w'.committed.permits.map AccessPermit.usedEntries = [1] := by
  have hrefused : (((processPlateEvent {} unsureEntry).exec (fun _ => 0)
      (.fresh residentStore 10 0)).1.toOption.any fun resp => !resp.decision.allowed) = true := by
    decide +kernel
  have hused : ((processPlateEvent {} unsureEntry).exec (fun _ => 0)
      (.fresh residentStore 10 0)).2.committed.permits.map AccessPermit.usedEntries = [1] := by
    decide +kernel
  rcases hexec : (processPlateEvent {} unsureEntry).exec (fun _ => 0)
    (.fresh residentStore 10 0) with ⟨exc | resp, w'⟩
  · simp [hexec, Except.toOption] at hrefused
  · rw [hexec] at hused hrefused
    exact ⟨resp, w', rfl, by simpa [Except.toOption] using hrefused, hused⟩

theorem refused_onlyRecords_iff_unsureEntry :
    ∃ resp w', (processPlateEvent {} unsureEntry).exec (fun _ => 0) (.fresh residentStore 10 0) =
        (.ok resp, w') ∧
      ((resp.decision.allowed = false → OnlyRecords residentStore w'.committed) ↔
        ¬ unsureEntry.Overruled {} (fun _ => 0) (.fresh residentStore 10 0)) := by
  obtain ⟨resp, w', hexec, _⟩ := unsureEntry_outcome
  exact ⟨resp, w', hexec,
    refused_onlyRecords_iff {} unsureEntry (fun _ => 0) residentStore 10 0 rfl (by decide) hexec⟩

/-- **A refused entry that was counted** -/
theorem refused_entry_counted :
    ¬ ∀ (cfg : Config) (e : PlateEvent) (clk : ℕ → ℤ) (s : Store) (n t : ℕ)
      (resp : GateResponse) (w' : Session Store), e.dryRun = false → eventByKey e.key s = none →
      (processPlateEvent cfg e).exec clk (.fresh s n t) = (.ok resp, w') →
      resp.decision.allowed = false → OnlyRecords s w'.committed := by
  intro h
  obtain ⟨resp, w', hexec, hrefused, hused⟩ := unsureEntry_outcome
  obtain ⟨_, _, hsame⟩ :=
    h {} unsureEntry (fun _ => 0) residentStore 10 0 resp w' rfl (by decide) hexec hrefused
  rw [hsame] at hused
  -- the counter was 0 before
  have hbefore : residentStore.permits.map AccessPermit.usedEntries = [0] := rfl
  simp [hbefore] at hused

end ParkingSystem
