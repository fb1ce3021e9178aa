import ParkingSystem.Gate.Answer
import ParkingSystem.Gate.LateUpload
import ParkingSystem.Gate.Presence

/-!
# What One Event Does to the OPEN Sessions

Of every plate, not only of its own: an entry opens at most the session of its own plate, and an
exit that closes a session leaves those of the other plates as they are. The first needs only the
unique index, the second that no two sessions have one identifier.
-/

namespace ParkingSystem

open PyValue Table Transaction

/-- Whether a plate was read and has an OPEN session. -/
def HasOpen (s : Store) (plate : Option String) : Prop :=
  ∃ p, plate = some p ∧ openSessions p s ≠ []

/-- What the index and the primary key of the sessions promise, with the identifiers drawn so
far. -/
structure SessionKeys (n : ℕ) (s : Store) : Prop where
  one : ∀ plate, (openSessions plate s).length ≤ 1
  ids : (s.sessions.map ParkingSession.id).Nodup
  drawn : ∀ r ∈ s.sessions, r.id < n

section

variable {plate : String} {n n' : ℕ} {s s' : Store}

theorem SessionKeys.congr (h : SessionKeys n s) (hn : n ≤ n') (hsame : s'.sessions = s.sessions) :
    SessionKeys n' s' :=
  { one := fun plate => by rw [openSessions_congr hsame]; exact h.one plate
    ids := by rw [hsame]; exact h.ids
    drawn := fun r hr => (h.drawn r (hsame ▸ hr)).trans_le hn }

theorem hasOpen_congr (hsame : s'.sessions = s.sessions) (plate : Option String) :
    HasOpen s' plate ↔ HasOpen s plate := by
  simp only [HasOpen, openSessions_congr hsame]

theorem openSessions_append {r : ParkingSession} (h : s'.sessions = s.sessions ++ [r])
    (hopen : r.status = .opened) (plate : String) :
    openSessions plate s' =
      openSessions plate s ++ if r.plateNormalized = plate then [r] else [] := by
  rw [openSessions, openSessions, h, List.filter_append]
  by_cases hplate : r.plateNormalized = plate
  · simp [hplate, hopen]
  · simp [hplate]

/-- A session of a plate that had none open keeps the keys. -/
theorem SessionKeys.append (h : SessionKeys n s) {r : ParkingSession}
    (hrows : s'.sessions = s.sessions ++ [r]) (hopen : r.status = .opened)
    (hnone : openSessions r.plateNormalized s = []) (hid : n ≤ r.id) (hdrawn : r.id < n') :
    SessionKeys n' s' where
  one plate := by
    rw [openSessions_append hrows hopen]
    by_cases hplate : r.plateNormalized = plate
    · subst hplate
      simp [hnone]
    · simpa [hplate] using h.one plate
  ids := by
    rw [hrows, List.map_append, List.nodup_append]
    refine ⟨h.ids, List.nodup_singleton _, fun id hold id' hnew heq => ?_⟩
    obtain ⟨q, hq, rfl⟩ := List.mem_map.1 hold
    obtain rfl : id' = r.id := by simpa using hnew
    have hlt := h.drawn q hq
    omega
  drawn q hq := by
    rw [hrows] at hq
    rcases List.mem_append.1 hq with hold | hnew
    · exact (h.drawn q hold).trans (hid.trans_lt hdrawn)
    · obtain rfl := List.mem_singleton.1 hnew
      exact hdrawn

/-- The sessions of one plate are closed, and those of the others are not. -/
structure ClosedOf (plate : String) (s s' : Store) : Prop where
  closed : openSessions plate s' = []
  others : ∀ other, other ≠ plate →
    (openSessions other s').length = (openSessions other s).length
  ids : s'.sessions.map ParkingSession.id = s.sessions.map ParkingSession.id

theorem SessionKeys.closed (h : SessionKeys n s) (hn : n ≤ n') (hclosed : ClosedOf plate s s') :
    SessionKeys n' s' where
  one other := by
    by_cases hother : other = plate
    · subst hother
      simp [hclosed.closed]
    · rw [hclosed.others other hother]
      exact h.one other
  ids := by
    rw [hclosed.ids]
    exact h.ids
  drawn r hr := by
    -- no identifier is new
    have hmem := List.mem_map_of_mem (f := ParkingSession.id) hr
    rw [hclosed.ids] at hmem
    obtain ⟨q, hq, hqr⟩ := List.mem_map.1 hmem
    have hlt := h.drawn q hq
    omega

theorem ClosedOf.hasOpen (h : ClosedOf plate s s') (other : Option String) :
    HasOpen s' other ↔ HasOpen s other ∧ other ≠ some plate := by
  constructor
  · rintro ⟨p, rfl, hopen⟩
    have hne : p ≠ plate := fun heq => hopen (heq ▸ h.closed)
    refine ⟨⟨p, rfl, fun hnone => hopen ?_⟩, by simpa using hne⟩
    rw [← List.length_eq_zero_iff, h.others p hne, hnone, List.length_nil]
  · rintro ⟨⟨p, rfl, hopen⟩, hne⟩
    refine ⟨p, rfl, fun hnone => hopen ?_⟩
    rw [← List.length_eq_zero_iff, ← h.others p (by simpa using hne), hnone, List.length_nil]

/-- Closing the session of one plate leaves the number of OPEN sessions of another. -/
theorem length_openSessions_closed {session : ParkingSession}
    {f : ParkingSession → ParkingSession} (hids : (s.sessions.map ParkingSession.id).Nodup)
    (hmem : session ∈ s.sessions) (hne : session.plateNormalized ≠ plate)
    (hf : (f session).plateNormalized = session.plateNormalized)
    (hrows : s'.sessions.map ParkingSession.unsettled =
      (updateWhere (fun r => r.id == session.id) f s.sessions).map ParkingSession.unsettled) :
    (openSessions plate s').length = (openSessions plate s).length := by
  have hcount (t : List ParkingSession) :
      (t.filter fun r => r.plateNormalized == plate && r.status == .opened).length =
        (t.map ParkingSession.unsettled).countP fun r =>
          r.plateNormalized == plate && r.status == .opened := by
    rw [List.countP_map, List.countP_eq_length_filter]
    rfl
  have hother {r : ParkingSession} (hr : r ∈ s.sessions) (hid : r.id = session.id) :
      r = session := List.inj_on_of_nodup_map hids hr hmem hid
  rw [openSessions, openSessions, hcount, hrows, ← hcount]
  -- the row that is closed counted for neither plate before nor after
  rw [← List.countP_eq_length_filter, ← List.countP_eq_length_filter, updateWhere,
    List.countP_map]
  refine List.countP_congr fun r hr => ?_
  by_cases hid : r.id = session.id
  · obtain rfl := hother hr hid
    simp [hf, hne]
  · simp [hid]

end

section

variable {cfg : Config} {e : PlateEvent} {clk : ℕ → ℤ} {w w' : Session Store}
  {resp : GateResponse}

/-- **What an IN event leaves of the sessions**: all of them, where an admission found its plate
inside; or one more, which is the only OPEN one of the plate that was admitted. -/
theorem entry_opens (hw : Session.Clean w) (hwet : e.dryRun = false) (hin : e.direction = "IN")
    (h : (processPlateEvent cfg e).exec clk w = (.ok resp, w')) :
    (w'.committed.sessions = w.committed.sessions ∧
      (resp.decision.allowed = true → eventByKey e.key w.view = none →
        HasOpen w.committed (e.plate cfg))) ∨
    ∃ r : ParkingSession, e.plate cfg = some r.plateNormalized ∧ r.status = .opened ∧
      resp.decision.allowed = true ∧ eventByKey e.key w.view = none ∧
      openSessions r.plateNormalized w.committed = [] ∧ w.nextId ≤ r.id ∧ r.id < w'.nextId ∧
      w'.committed.sessions = w.committed.sessions ++ [r] := by
  cases hkey : eventByKey e.key w.view with
  | some event =>
    obtain ⟨hcommitted, -⟩ := processPlateEvent_duplicate hw.1 hkey h
    exact .inl ⟨by rw [hcommitted], fun _ hnew => by cases hnew⟩
  | none =>
    obtain ⟨gate, base, w₁, v, w₂, hdecided, hending⟩ := processPlateEvent_ok hw.1 hw.2 hkey h
    have hkept := hdecided.sessions_kept fun policy session hcloses => by
      obtain ⟨_, _, _, hout, _⟩ := baseCase_closes hcloses
      rw [hin] at hout
      exact absurd hout (by decide)
    rw [hw.2] at hkept
    cases hending with
    | dry hdry => simp [hdry] at hwet
    | conflict _ _ hplate hsession _ hcommitted =>
      rw [hdecided.committed] at hsession hcommitted
      refine .inl ⟨by rw [hcommitted], fun _ _ => ⟨_, hplate, ?_⟩⟩
      exact List.ne_nil_of_mem (mem_openSessions.2 (latestOpenSession_mem hsession))
    | stored _ _ hanswer hcommitted hsession hdrawn =>
      have hdecision : resp.decision = v.decision := hanswer.decision
      rw [hcommitted]
      by_cases hopens : opensSession e v
      · -- the index accepted the session, so the plate was read and had none open
        have haccepted := hsession hopens
        cases hplate : e.plate cfg with
        | none =>
          have hreading : (e.readingIn cfg gate clk w).normalized = none := hplate
          simp [insertSession, entrySession, hreading] at haccepted
        | some plate =>
          have hreading : (e.readingIn cfg gate clk w).normalized = some plate := hplate
          have hnone : openSessions plate w₂.view = [] :=
            insertSession_accepted plate hreading haccepted
          rw [openSessions_congr (s := w.committed) (t := w₂.view) hkept] at hnone
          have hlast := hdrawn hopens
          have hfirst := hdecided.drawn
          refine .inr ⟨(entrySession e (e.readingIn cfg gate clk w) w₂.nextId
            (w₂.nextId + 1)).row plate, rfl, rfl, hdecision ▸ hopens.2.1, rfl, hnone,
            by show w.nextId ≤ w₂.nextId + 1; omega,
            by show w₂.nextId + 1 < w'.nextId; omega, ?_⟩
          rw [recordedStore_sessions_opens hopens, hkept]
          simp [entrySession, hreading]
      · rw [recordedStore_sessions hopens, hkept]
        refine .inl ⟨rfl, fun hallowed _ => ?_⟩
        -- an admission that opens no session is that of a plate which has one
        rw [hdecision] at hallowed
        have hnot : v.createNewSession = false := by
          by_contra hcreate
          exact hopens ⟨hin, hallowed, by simpa using hcreate⟩
        cases hplate : e.plate cfg with
        | none =>
          have hbranch : e.branch cfg gate clk w = .fixed unreadable := by
            rw [PlateEvent.branch, hplate]
            rfl
          have hrun := hdecided.run
          rw [hbranch] at hrun
          obtain rfl : unreadable = base := Except.ok.inj (congrArg Prod.fst hrun)
          rw [hdecided.verdict, verdictOn_createNewSession] at hnot
          simp [unreadable] at hnot
        | some plate =>
          have hopen := hdecided.already_open hin hplate hnot
          exact ⟨plate, rfl, by rw [← hw.2]; exact hopen⟩

/-- An OUT event that the gate knows, or whose plate nobody registered, leaves the sessions. -/
theorem exit_keeps (hw : Session.Clean w) (hwet : e.dryRun = false) (hout : e.direction = "OUT")
    (hnot : ¬ (eventByKey e.key w.view = none ∧ (e.vehicle cfg w.view).isSome = true))
    (h : (processPlateEvent cfg e).exec clk w = (.ok resp, w')) :
    w'.committed.sessions = w.committed.sessions := by
  cases hkey : eventByKey e.key w.view with
  | some event =>
    obtain ⟨hcommitted, -⟩ := processPlateEvent_duplicate hw.1 hkey h
    rw [hcommitted]
  | none =>
    obtain ⟨gate, base, w₁, v, w₂, hdecided, hending⟩ := processPlateEvent_ok hw.1 hw.2 hkey h
    have hopens : ¬ opensSession e v := fun hopens => by
      have hin := hopens.1
      rw [hout] at hin
      exact absurd hin (by decide)
    have hkept := hdecided.sessions_kept fun policy session hcloses => by
      obtain ⟨_, _, hcleared, _⟩ := baseCase_closes hcloses
      exact hnot ⟨hkey, by rw [hcleared.registered]; rfl⟩
    rw [hw.2] at hkept
    cases hending with
    | dry hdry => simp [hdry] at hwet
    | conflict _ hopened => exact absurd hopened hopens
    | stored _ _ _ hcommitted _ _ => rw [hcommitted, recordedStore_sessions hopens, hkept]

/-- **What an admitted exit of a registered vehicle leaves of the sessions**: none of its plate is
OPEN, those of the other plates are as before. -/
theorem exit_closes (hw : Session.Clean w) (hwet : e.dryRun = false) (hout : e.direction = "OUT")
    (hnew : eventByKey e.key w.view = none) (hvehicle : (e.vehicle cfg w.view).isSome = true)
    (hkeys : SessionKeys w.nextId w.committed) (hallowed : resp.decision.allowed = true)
    (h : (processPlateEvent cfg e).exec clk w = (.ok resp, w')) :
    ∃ plate, e.plate cfg = some plate ∧ ClosedOf plate w.committed w'.committed := by
  obtain ⟨vehicle, hvehicle⟩ := Option.isSome_iff_exists.1 hvehicle
  obtain ⟨plate, hplate, -⟩ := Option.bind_eq_some_iff.1 hvehicle
  refine ⟨plate, hplate, ?_⟩
  obtain ⟨gate, base, w₁, v, w₂, hdecided, hending⟩ := processPlateEvent_ok hw.1 hw.2 hnew h
  have hopens : ¬ opensSession e v := fun hopens => by
    have hin := hopens.1
    rw [hout] at hin
    exact absurd hin (by decide)
  cases hending with
  | dry hdry => simp [hdry] at hwet
  | conflict _ hopened => exact absurd hopened hopens
  | stored _ hlive hanswer hcommitted _ _ =>
    have hdecision : resp.decision = v.decision := hanswer.decision
    rw [hdecision] at hallowed
    have hrecorded : w'.committed.sessions = w₂.view.sessions := by
      rw [hcommitted, recordedStore_sessions hopens]
    have hclosed := hdecided.exit_closed hlive hout hplate hvehicle hallowed
      (by rw [hw.2]; exact hkeys.one plate)
    suffices hrest : (∀ other, other ≠ plate → (openSessions other w'.committed).length =
        (openSessions other w.committed).length) ∧
        w₂.view.sessions.map ParkingSession.id = w.committed.sessions.map ParkingSession.id from
      ⟨(openSessions_congr hrecorded).trans hclosed, hrest.1, hrecorded ▸ hrest.2⟩
    cases hbranch : e.branch cfg gate clk w with
    | exitCloses policy session =>
      obtain ⟨plate', _, hcleared, _, hsession⟩ := baseCase_closes hbranch
      obtain rfl : plate = plate' := Option.some.inj (hplate.symm.trans hcleared.readable)
      obtain ⟨hmem, hown, -⟩ := latestOpenSession_mem hsession
      obtain ⟨k, s, hrows⟩ := hdecided.rows_closed hlive hbranch
      rw [hw.2] at hrows hmem
      refine ⟨fun other hother => ?_, ?_⟩
      · rw [openSessions_congr hrecorded]
        exact length_openSessions_closed hkeys.ids hmem (hown ▸ hother.symm) (closeRow_plate ..)
          hrows
      · -- a settlement and a closing keep the identifier
        have hids := congrArg (List.map ParkingSession.id) hrows
        rw [List.map_map, List.map_map] at hids
        exact hids.trans (map_updateWhere (fun r => (closeRow_id cfg session _ _ _ r :)) _)
    | _ =>
      have hkept := hdecided.sessions_kept (by simp [hbranch])
      rw [hw.2] at hkept
      refine ⟨fun other _ => ?_, by rw [hkept]⟩
      rw [openSessions_congr (hrecorded.trans hkept)]

end

end ParkingSystem
