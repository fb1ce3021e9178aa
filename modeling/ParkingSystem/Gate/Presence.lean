import ParkingSystem.Gate.Bookkeeping

/-!
# Who Is Inside

After an admitted entry a plate should have one OPEN session and one OCCUPIED occupancy, after
an admitted exit none of either. What an event leaves depends on what it found: the three
tables are written on three branches, keyed by the plate, by the literal direction and by the
vehicle.
-/

namespace ParkingSystem

open PyValue Table Transaction

/-! ## Occupancies of a plate -/

/-- Whether an access event is of a plate. -/
def eventOf (plate : String) (events : List AccessEvent) (id : ℕ) : Bool :=
  events.any fun ev => ev.id == id && ev.plateNormalized == some plate

/-- The OCCUPIED occupancies that the entries of a plate opened. -/
def occupanciesOf (plate : String) (s : Store) : List ParkingOccupancy :=
  s.occupancies.filter fun o =>
    o.status == .occupied && o.accessEventId.any (eventOf plate s.events)

/-- The books say that a plate has just come in, or that it is out. -/
def Booked (direction plate : String) (s : Store) : Prop :=
  if direction = "IN" then (openSessions plate s).length = 1 ∧ (occupanciesOf plate s).length = 1
  else openSessions plate s = [] ∧ occupanciesOf plate s = []

/-- What an admitted event has to find so that it leaves the books right. -/
def PlateEvent.Bookable (cfg : Config) (e : PlateEvent) (plate : String) (s : Store) : Prop :=
  if (eventByKey e.key s).isSome then Booked e.direction plate s
  else if e.direction = "IN" then
    (occupanciesOf plate s).length = (openSessions plate s).length
  else
    (openSessions plate s = [] ∨ e.direction = "OUT" ∧ (e.vehicle cfg s).isSome) ∧
      ∀ o ∈ occupanciesOf plate s, e.direction = "OUT" ∧ ∃ v latest, e.vehicle cfg s = some v ∧
        latestOccupancy v.id s = some latest ∧ o.id = latest.id

section

variable {plate : String} {s : Store}

theorem openSessions_congr {s t : Store} (h : t.sessions = s.sessions) :
    openSessions plate t = openSessions plate s := by
  rw [openSessions, openSessions, h]

theorem occupanciesOf_congr {s s' : Store} (hocc : s'.occupancies = s.occupancies)
    (hevents : s'.events = s.events) : occupanciesOf plate s' = occupanciesOf plate s := by
  rw [occupanciesOf, occupanciesOf, hocc, hevents]

/-- A plate that has at most one OPEN session has no two. -/
theorem eq_of_mem_openSessions (hone : (openSessions plate s).length ≤ 1) {r r' : ParkingSession}
    (hr : r ∈ openSessions plate s) (hr' : r' ∈ openSessions plate s) : r = r' := by
  rcases hlist : openSessions plate s with _ | ⟨x, _ | ⟨y, rest⟩⟩
  · simp [hlist] at hr
  · rw [hlist, List.mem_singleton] at hr hr'
    rw [hr, hr']
  · simp [hlist] at hone

/-- A new event is not the one that opened an occupancy of before. -/
theorem occupanciesOf_insertEvent {ev : AccessEvent}
    (hfresh : ∀ o ∈ s.occupancies, o.accessEventId ≠ some ev.id) :
    occupanciesOf plate ((insertEvent ev).apply s) = occupanciesOf plate s := by
  refine List.filter_congr fun o ho => ?_
  cases hid : o.accessEventId with
  | none => rfl
  | some id =>
    have hne : (ev.id == id) = false := by
      rw [beq_eq_false_iff_ne]
      rintro rfl
      exact hfresh o ho hid
    simp [insertEvent, eventOf, hne]

/-- Closing every OPEN session of a plate leaves none, whatever is settled. -/
theorem openSessions_closed {s' : Store} {id : ℕ} {f : ParkingSession → ParkingSession}
    (hf : ∀ r, (f r).status = .closed ∧ (f r).id = r.id)
    (hall : ∀ r ∈ openSessions plate s, r.id = id)
    (hrows : s'.sessions.map ParkingSession.unsettled =
      (updateWhere (fun r => r.id == id) f s.sessions).map ParkingSession.unsettled) :
    openSessions plate s' = [] := by
  rw [List.eq_nil_iff_forall_not_mem]
  intro r hr
  obtain ⟨hmem, hplate, hopen⟩ := mem_openSessions.1 hr
  have hmap : r.unsettled ∈ (updateWhere (fun r => r.id == id) f s.sessions).map
      ParkingSession.unsettled := hrows ▸ List.mem_map_of_mem hmem
  obtain ⟨r', hr', heq⟩ := List.mem_map.1 hmap
  have hstatus : r'.unsettled.status = r.unsettled.status := congrArg ParkingSession.status heq
  have hkey : r'.unsettled.plateNormalized = r.unsettled.plateNormalized :=
    congrArg ParkingSession.plateNormalized heq
  simp only [ParkingSession.unsettled] at hstatus hkey
  rcases mem_updateWhere.1 hr' with ⟨q, _, _, rfl⟩ | ⟨hin, hne⟩
  · rw [(hf q).1, hopen] at hstatus
    cases hstatus
  · have hid := hall r' (mem_openSessions.2 ⟨hin, hkey.trans hplate, hstatus.trans hopen⟩)
    simp [hid] at hne

/-- Vacating an occupancy leaves the others of its plate. -/
theorem occupanciesOf_vacated_eq_nil {s' : Store} {id : ℕ} {now : ℤ}
    (hocc : s'.occupancies = updateWhere (fun x => x.id == id)
      (fun x => { x with vacatedAt := some now, status := .vacated }) s.occupancies)
    (hevents : s'.events = s.events) :
    occupanciesOf plate s' = [] ↔ ∀ o ∈ occupanciesOf plate s, o.id = id := by
  rw [occupanciesOf, hocc, hevents, List.filter_eq_nil_iff]
  constructor
  · intro h o ho
    by_contra hne
    obtain ⟨hmem, hof⟩ := List.mem_filter.1 ho
    exact h o (mem_updateWhere.2 (Or.inr ⟨hmem, by simpa using hne⟩)) hof
  · intro h o ho hof
    rcases mem_updateWhere.1 ho with ⟨q, _, _, rfl⟩ | ⟨hin, hne⟩
    · simp at hof
    · have hid := h o (List.mem_filter.2 ⟨hin, hof⟩)
      simp [hid] at hne

end

/-! ## What an admitted event leaves -/

section

variable {cfg : Config} {e : PlateEvent} {clk : ℕ → ℤ} {gate : Gate} {w w₁ w₂ : Session Store}
  {base : BaseDecision} {v : Verdict} {plate : String} {s : Store} {n : ℕ}

/-- A branch that admits without a new session is that of a plate which has one. -/
theorem Decided.already_open (h : Decided cfg clk e gate w base w₁ v w₂)
    (hin : e.direction = "IN") (hplate : e.plate cfg = some plate) (hnot : v.createNewSession = false) :
    openSessions plate w.view ≠ [] := by
  have hrun := h.run
  have hbase : base.createNewSession = false := by
    rw [h.verdict, verdictOn_createNewSession] at hnot
    exact hnot
  cases hbranch : e.branch cfg gate clk w with
  | exitCloses policy session =>
    obtain ⟨_, _, _, hout, _⟩ := baseCase_closes hbranch
    rw [hin] at hout
    exact absurd hout (by decide)
  | entryCounts p =>
    rw [hbranch] at hrun
    obtain ⟨_, _, _, hret⟩ := Prog.exec_bind_ok hrun
    obtain rfl : countedEntry p = base := Except.ok.inj (congrArg Prod.fst hret)
    simp [countedEntry] at hbase
  | fixed d =>
    rw [hbranch] at hrun
    obtain rfl : d = base := Except.ok.inj (congrArg Prod.fst hrun)
    -- every answer but one opens a session where it is admitted
    rw [PlateEvent.branch, hplate] at hbranch
    cases hvehicle : e.vehicle cfg w.view with
    | none =>
      rw [hvehicle] at hbranch
      cases hbranch
      simp [unregistered] at hbase
    | some vehicle =>
      rw [hvehicle] at hbranch
      simp only [baseCase, hin, String.reduceEq, if_false] at hbranch
      split_ifs at hbranch
      · cases hbranch
        simp [inactive] at hbase
      · cases hbranch
        simp [restricted] at hbase
      · unfold entryCase at hbranch
        split at hbranch
        · cases hbranch
          unfold noPermit at hbase
          split at hbase <;> simp at hbase
        · split_ifs at hbranch with hopen
          · simpa using hopen
          · split at hbranch
            · cases hbranch
              simp [yardIsFull] at hbase
            · cases hbranch

/-- An admitted exit of a registered vehicle leaves its plate no OPEN session. -/
theorem Decided.exit_closed (h : Decided cfg clk e gate w base w₁ v w₂)
    (hlive : w₂.broken = false) (hout : e.direction = "OUT") (hplate : e.plate cfg = some plate)
    {vehicle : Vehicle} (hvehicle : e.vehicle cfg w.view = some vehicle)
    (hallowed : v.decision.allowed = true) (hone : (openSessions plate w.view).length ≤ 1) :
    openSessions plate w₂.view = [] := by
  cases hbranch : e.branch cfg gate clk w with
  | entryCounts p =>
    obtain ⟨_, _, _, hnot, _⟩ := baseCase_counts hbranch
    exact absurd hout hnot
  | exitCloses policy session =>
    obtain ⟨f, hf, hrows⟩ := h.sessions_closed hlive hbranch
    obtain ⟨plate', _, hcleared, _, hsession⟩ := baseCase_closes hbranch
    obtain rfl : plate = plate' := Option.some.inj (hplate.symm.trans hcleared.readable)
    refine openSessions_closed hf (fun r hr => ?_) hrows
    -- the session that is closed is the only one
    have hmem := mem_openSessions.2 (latestOpenSession_mem hsession)
    rw [eq_of_mem_openSessions hone hr hmem]
  | fixed d =>
    have hkept := h.sessions_kept fun policy session hcloses => by
      rw [hbranch] at hcloses
      cases hcloses
    rw [openSessions_congr hkept]
    have hcase := hbranch
    unfold PlateEvent.branch baseCase at hcase
    rw [hplate, hvehicle] at hcase
    simp only [hout, if_true] at hcase
    split_ifs at hcase with hactive hrestriction
    · cases hcase
      have hrefused := h.protected_refused hbranch (by decide) (by decide)
      simp [hallowed] at hrefused
    · cases hcase
      have hrefused := h.protected_refused hbranch (by decide) (by decide)
      simp [hallowed] at hrefused
    · unfold exitCase at hcase
      split at hcase
      · exact latestOpenSession_eq_none.1 (by assumption)
      · split_ifs at hcase
        cases hcase
        have hrefused := h.never_allowed hbranch rfl rfl
        simp [hallowed] at hrefused

/-- The event of an entry has an identifier that no occupancy refers to. -/
theorem Decided.fresh_event (h : Decided cfg clk e gate w base w₁ v w₂) {n : ℕ}
    (hfresh : ∀ o ∈ w.view.occupancies, ∀ id, o.accessEventId = some id → id < n)
    (hn : n ≤ w₂.nextId) :
    ∀ o ∈ w₂.view.occupancies, o.accessEventId ≠
      some (eventRow e (e.readingIn cfg gate clk w) v w₂.nextId).id := by
  intro o ho hid
  rw [h.occupancies] at ho
  have hlt : w₂.nextId < n := hfresh o ho _ hid
  omega

/-- An entry that opens its session adds one session and one occupancy of its plate. -/
theorem occupanciesOf_entryStore {e : PlateEvent} {r : Reading} (hplate : r.normalized = some plate)
    (hopens : opensSession e v)
    (hfresh : ∀ o ∈ s.occupancies, o.accessEventId ≠ some (eventRow e r v n).id) :
    (occupanciesOf plate (recordedStore e r v n s)).length =
      (occupanciesOf plate s).length + 1 := by
  rw [recordedStore_opens hopens, ← occupanciesOf_insertEvent hfresh]
  generalize hs₁ : (insertEvent (eventRow e r v n)).apply s = s₁
  have hown : eventOf plate s₁.events n = true := by
    subst hs₁
    simp [eventOf, insertEvent, eventRow, hplate]
  simp [occupanciesOf, entryStore, insertOccupancy, insertSession, entryOccupancy, hown,
    List.filter_append]

theorem openSessions_entryStore {e : PlateEvent} {r : Reading} (hplate : r.normalized = some plate)
    (hopens : opensSession e v) :
    (openSessions plate (recordedStore e r v n s)).length = (openSessions plate s).length + 1 := by
  rw [recordedStore_opens hopens]
  simp [openSessions, entryStore, insertOccupancy, insertSession, insertEvent, entrySession,
    NewSession.row, hplate, List.filter_append]

/-- A session that was accepted is the only OPEN one of its plate. -/
theorem insertSession_accepted (plate : String) {x : NewSession} {s : Store} (hplate : x.plate = some plate)
    (h : (insertSession x).check s = none) : openSessions plate s = [] := by
  simp only [insertSession, hplate] at h
  split_ifs at h with hfits hopen
  simpa using hopen

/-- **An admitted entry** leaves the books right exactly where they were balanced before. -/
theorem Ending.entry_booked {resp : GateResponse} {w' : Session Store}
    (hending : Ending e (e.readingIn cfg gate clk w) v w₂ resp w')
    (hdecided : Decided cfg clk e gate w base w₁ v w₂) (hwet : e.dryRun = false)
    (hclean : w.view = w.committed) (hin : e.direction = "IN") (hplate : e.plate cfg = some plate)
    (hallowed : v.decision.allowed = true) (hone : (openSessions plate w.view).length ≤ 1)
    (hfresh : ∀ o ∈ w.view.occupancies, ∀ id, o.accessEventId = some id → id < n)
    (hn : n ≤ w₂.nextId) :
    ((openSessions plate w'.committed).length = 1 ∧ (occupanciesOf plate w'.committed).length = 1) ↔
      (occupanciesOf plate w.view).length = (openSessions plate w.view).length := by
  have hreadable : (e.readingIn cfg gate clk w).normalized = some plate := hplate
  have hnew := hdecided.fresh_event hfresh hn
  -- an entry closes no session
  have hkept := hdecided.sessions_kept fun policy session hcloses => by
    obtain ⟨_, _, _, hout, _⟩ := baseCase_closes hcloses
    rw [hin] at hout
    exact absurd hout (by decide)
  have hopen₂ : openSessions plate w₂.view = openSessions plate w.view := openSessions_congr hkept
  have hocc₂ : occupanciesOf plate w₂.view = occupanciesOf plate w.view :=
    occupanciesOf_congr hdecided.occupancies hdecided.events
  cases hending with
  | dry hdry => simp [hdry] at hwet
  | conflict _ _ hkey hsession _ hcommitted =>
    -- nothing is recorded, and the plate has its session already
    obtain rfl : plate = _ := Option.some.inj (hreadable.symm.trans hkey)
    rw [hcommitted, hdecided.committed, ← hclean]
    rw [hdecided.committed, ← hclean] at hsession
    have hmem := List.length_pos_of_mem (mem_openSessions.2 (latestOpenSession_mem hsession))
    omega
  | stored _ hlive _ hcommitted hsession _ =>
    rw [hcommitted]
    by_cases hopens : opensSession e v
    · have hnone : openSessions plate w₂.view = [] :=
        insertSession_accepted plate hplate (hsession hopens)
      rw [hopen₂] at hnone
      rw [occupanciesOf_entryStore hreadable hopens hnew,
        openSessions_entryStore hreadable hopens, hopen₂, hocc₂, hnone]
      simp
    · have hreleases : ¬ releases e v := fun hr => by
        have hout := hr.1
        rw [hin] at hout
        exact absurd hout (by decide)
      rw [recordedStore_neither hopens hreleases, occupanciesOf_insertEvent hnew, hocc₂,
        show openSessions plate ((insertEvent _).apply w₂.view) = openSessions plate w.view from
          hopen₂]
      have hnot : v.createNewSession = false := by
        by_contra hcreate
        exact hopens ⟨hin, hallowed, by simpa using hcreate⟩
      have hpos := List.length_pos_iff.2 (hdecided.already_open hin hplate hnot)
      omega

/-- **An admitted exit** leaves the books right exactly where there was nothing to close, or the
branch of the exit closes and releases it. -/
theorem Ending.exit_booked {resp : GateResponse} {w' : Session Store}
    (hending : Ending e (e.readingIn cfg gate clk w) v w₂ resp w')
    (hdecided : Decided cfg clk e gate w base w₁ v w₂) (hwet : e.dryRun = false)
    (hin : e.direction ≠ "IN") (hplate : e.plate cfg = some plate)
    (hallowed : v.decision.allowed = true) (hone : (openSessions plate w.view).length ≤ 1)
    (hfresh : ∀ o ∈ w.view.occupancies, ∀ id, o.accessEventId = some id → id < n)
    (hn : n ≤ w₂.nextId) :
    (openSessions plate w'.committed = [] ∧ occupanciesOf plate w'.committed = []) ↔
      (openSessions plate w.view = [] ∨ e.direction = "OUT" ∧ (e.vehicle cfg w.view).isSome) ∧
        ∀ o ∈ occupanciesOf plate w.view, e.direction = "OUT" ∧ ∃ v latest,
          e.vehicle cfg w.view = some v ∧ latestOccupancy v.id w.view = some latest ∧
            o.id = latest.id := by
  have hnew := hdecided.fresh_event hfresh hn
  have hopens : ¬ opensSession e v := fun h => hin h.1
  have hocc₂ : occupanciesOf plate w₂.view = occupanciesOf plate w.view :=
    occupanciesOf_congr hdecided.occupancies hdecided.events
  cases hending with
  | dry hdry => simp [hdry] at hwet
  | conflict _ h => exact absurd h hopens
  | stored _ hlive _ hcommitted _ _ =>
    rw [hcommitted]
    set r := e.readingIn cfg gate clk w with hr
    set s₁ := (insertEvent (eventRow e r v w₂.nextId)).apply w₂.view with hs₁
    have hocc₁ : occupanciesOf plate s₁ = occupanciesOf plate w.view :=
      (occupanciesOf_insertEvent hnew).trans hocc₂
    by_cases hout : e.direction = "OUT"
    · rw [recordedStore_releases ⟨hout, hallowed⟩]
      cases hvehicle : e.vehicle cfg w.view with
      | none =>
        -- nobody registered the plate: nothing is closed, nothing released
        have hnone : r.released s₁ = none := by
          simp [Reading.released, hr, PlateEvent.readingIn, PlateEvent.reading, hvehicle]
        have hkept := hdecided.sessions_kept fun policy session hcloses => by
          obtain ⟨_, _, hcleared, _⟩ := baseCase_closes hcloses
          rw [hvehicle] at hcleared
          exact absurd hcleared.registered (by simp)
        rw [exitStore_of_none hnone, hocc₁, openSessions_congr (s := w.view) (t := s₁) hkept]
        simp [List.eq_nil_iff_forall_not_mem]
      | some vehicle =>
        have hclosed := hdecided.exit_closed hlive hout hplate hvehicle hallowed hone
        have hsessions : openSessions plate (exitStore r s₁) = [] := by
          rw [openSessions_congr (s := w₂.view) (exitStore_sessions r s₁)]
          exact hclosed
        have hlatest : r.released s₁ = latestOccupancy vehicle.id w.view := by
          have hsame : s₁.occupancies = w.view.occupancies := hdecided.occupancies
          simp [Reading.released, hr, PlateEvent.readingIn, PlateEvent.reading, hvehicle,
            latestOccupancy, hsame]
        rw [hsessions]
        cases hreleased : latestOccupancy vehicle.id w.view with
        | none =>
          rw [exitStore_of_none (hlatest.trans hreleased), hocc₁]
          simp [hout, hreleased, List.eq_nil_iff_forall_not_mem]
        | some latest =>
          have hrows : (exitStore r s₁).occupancies = updateWhere (fun x => x.id == latest.id)
              (fun x => { x with vacatedAt := some r.now, status := .vacated }) s₁.occupancies := by
            rw [exitStore_of_some (hlatest.trans hreleased), spaceFreed_occupancies]
            rfl
          rw [occupanciesOf_vacated_eq_nil hrows (exitStore_events r s₁), hocc₁]
          simp [hout, hreleased]
    · have hreleases : ¬ releases e v := fun h => hout h.1
      have hkept := hdecided.sessions_kept fun policy session hcloses => by
        obtain ⟨_, _, _, hdirection, _⟩ := baseCase_closes hcloses
        exact hout hdirection
      rw [recordedStore_neither hopens hreleases, hocc₁,
        openSessions_congr (s := w.view) (t := s₁) hkept]
      simp [hout, List.eq_nil_iff_forall_not_mem]

/-- **Presence**: an answer that opens the barrier leaves the books right exactly where the event
found what its branch puts right. -/
theorem booked_iff (cfg : Config) (e : PlateEvent) (clk : ℕ → ℤ) (s : Store) (n t : ℕ)
    {plate : String} {resp : GateResponse} {w' : Session Store} (hwet : e.dryRun = false)
    (hplate : e.plate cfg = some plate) (hone : (openSessions plate s).length ≤ 1)
    (hfresh : ∀ o ∈ s.occupancies, ∀ id, o.accessEventId = some id → id < n)
    (h : (processPlateEvent cfg e).exec clk (.fresh s n t) = (.ok resp, w'))
    (hopened : resp.barrierAction = .opened) :
    Booked e.direction plate w'.committed ↔ e.Bookable cfg plate s := by
  cases hold : eventByKey e.key s with
  | some ev =>
    obtain ⟨hsame, _⟩ := processPlateEvent_duplicate (w := .fresh s n t) rfl hold h
    rw [hsame, PlateEvent.Bookable, hold]
    rfl
  | none =>
    obtain ⟨gate, base, w₁, v, w₂, hdecided, hending⟩ := processPlateEvent_ok rfl rfl hold h
    have hallowed := (hending.opened_iff hdecided).1 hopened
    have hn : n ≤ w₂.nextId := hdecided.drawn
    rw [PlateEvent.Bookable, hold, Booked]
    by_cases hin : e.direction = "IN"
    · simp only [Option.isSome_none, Bool.false_eq_true, if_false, hin, if_true]
      exact hending.entry_booked hdecided hwet rfl hin hplate hallowed hone hfresh hn
    · simp only [Option.isSome_none, Bool.false_eq_true, if_false, hin]
      exact hending.exit_booked hdecided hwet hin hplate hallowed hone hfresh hn

end

/-! ### A guest who leaves -/

/-- Nobody is inside, and a rule lets everybody pass. -/
def openYard : Store :=
  { gates := [{ id := "g1", code := "G1", name := "North" }]
    rules := [{ id := 2, name := "guests", conditions := [], status := "ACTIVE"
                actions := [[("action", .str "allow_with_warning")]] }] }

/-- A plate that nobody registered comes in. -/
def guestArrival : PlateEvent :=
  { gateCode := "G1", plateRaw := "12ب34567", sourceEventId := "1" }

/-- It leaves. -/
def guestDeparture : PlateEvent :=
  { gateCode := "G1", direction := "OUT", plateRaw := "12ب34567", sourceEventId := "2" }

/-- The arrival, alone on the store. -/
def guestInside : Session Store :=
  ((processPlateEvent {} guestArrival).exec (fun _ => 0) (.fresh openYard 10 0)).2

theorem guestArrival_opened :
    ∃ resp, (processPlateEvent {} guestArrival).exec (fun _ => 0) (.fresh openYard 10 0) =
      (.ok resp, guestInside) ∧ resp.barrierAction = .opened := by
  have hopened : (((processPlateEvent {} guestArrival).exec (fun _ => 0)
      (.fresh openYard 10 0)).1.toOption.any fun resp => resp.barrierAction == .opened) =
        true := by
    decide +kernel
  rcases hexec : (processPlateEvent {} guestArrival).exec (fun _ => 0) (.fresh openYard 10 0) with
    ⟨exc | resp, w'⟩
  · simp [hexec, Except.toOption] at hopened
  · refine ⟨resp, ?_, by simpa [hexec, Except.toOption] using hopened⟩
    rw [guestInside, hexec]

theorem booked_iff_guestArrival :
    ∃ resp, (processPlateEvent {} guestArrival).exec (fun _ => 0) (.fresh openYard 10 0) =
        (.ok resp, guestInside) ∧
      (Booked "IN" "12B345IR67" guestInside.committed ↔
        guestArrival.Bookable {} "12B345IR67" openYard) := by
  obtain ⟨resp, hexec, hopened⟩ := guestArrival_opened
  exact ⟨resp, hexec, booked_iff {} guestArrival (fun _ => 0) openYard 10 0 rfl (by decide)
    (by decide) (by decide) hexec hopened⟩

/-- **A guest who left and is still inside** -/
theorem guest_still_inside :
    ¬ ∀ (cfg : Config) (entry exit : PlateEvent) (clk : ℕ → ℤ) (s : Store) (n t : ℕ)
      (plate : String) (resp resp' : GateResponse) (w w' : Session Store),
      s.sessions = [] → s.occupancies = [] → entry.direction = "IN" → exit.direction = "OUT" →
      entry.dryRun = false → exit.dryRun = false →
      entry.plate cfg = some plate → exit.plate cfg = some plate →
      (processPlateEvent cfg entry).exec clk (.fresh s n t) = (.ok resp, w) →
      resp.barrierAction = .opened →
      (processPlateEvent cfg exit).exec clk (.fresh w.committed w.nextId w.tick) =
        (.ok resp', w') →
      resp'.barrierAction = .opened → Booked exit.direction plate w'.committed := by
  intro h
  obtain ⟨resp, hentry, hin⟩ := guestArrival_opened
  have hopened : (((processPlateEvent {} guestDeparture).exec (fun _ => 0)
      (.fresh guestInside.committed guestInside.nextId guestInside.tick)).1.toOption.any
        fun resp => resp.barrierAction == .opened) = true := by
    decide +kernel
  have hopen : (openSessions "12B345IR67" ((processPlateEvent {} guestDeparture).exec (fun _ => 0)
      (.fresh guestInside.committed guestInside.nextId guestInside.tick)).2.committed).length =
        1 := by
    decide +kernel
  rcases hexit : (processPlateEvent {} guestDeparture).exec (fun _ => 0)
    (.fresh guestInside.committed guestInside.nextId guestInside.tick) with ⟨exc | resp', w'⟩
  · simp [hexit, Except.toOption] at hopened
  · have hbooked := h {} guestArrival guestDeparture (fun _ => 0) openYard 10 0 "12B345IR67"
      resp resp' guestInside w' rfl rfl rfl rfl rfl rfl (by decide) (by decide) hentry hin hexit
      (by simpa [hexit, Except.toOption] using hopened)
    rw [hexit] at hopen
    have hnone : openSessions "12B345IR67" w'.committed = [] := hbooked.1
    simp [hnone] at hopen

end ParkingSystem
