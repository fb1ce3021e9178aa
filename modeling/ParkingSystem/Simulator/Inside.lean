import ParkingSystem.Gate.Passage
import ParkingSystem.Simulator.Tick

/-!
# Who the Simulator Has Inside

The dictionary `inside` should be the plates that the simulator let in and that still have an OPEN
session, and the counters should tell how many they are.

A plate that leaves is out of the dictionary before the gate is asked. Where the gate then refuses,
raises, or admits without closing the session, the plate is gone and its session is OPEN; where the
gate does not admit, the exit is not counted either. `Tick.Orderly` says exactly what a tick has to
meet; `Books.run` is the step of the induction.
-/

namespace ParkingSystem.Simulator

open Plate PyValue Table Transaction

/-! ## The books -/

/-- How the gate reads texts of plates. -/
def readings (cfg : Config) (plates : List String) : List (Option String) :=
  plates.map (normalizePlate cfg.plateLetterMapping)

/-- The dictionary has the plates that were let in and have an OPEN session, and the counters
differ by its size. -/
def BooksRight (cfg : Config) (w : World) : Prop :=
  {plate | plate ∈ readings cfg w.sim.plates} =
      {plate | plate ∈ readings cfg w.letIn ∧ HasOpen w.store plate} ∧
    (w.sim.stats.entry : ℤ) - w.sim.stats.exit = w.sim.inside.length

/-- An admission leaves its plate with an OPEN session: the gate does not know the request, or the
plate has a session. -/
def Tick.Present (cfg : Config) (t : Tick) (w : World) : Prop :=
  eventByKey t.event.key w.store = none ∨ HasOpen w.store (t.event.plate cfg)

/-- An admission closes the session of its plate: the gate does not know the request, and the
vehicle is registered. -/
def Tick.Closes (cfg : Config) (t : Tick) (w : World) : Prop :=
  eventByKey t.event.key w.store = none ∧ (t.event.vehicle cfg w.store).isSome = true

/-- No other plate inside reads like that of a tick. -/
def Tick.Alone (cfg : Config) (t : Tick) (w : World) : Prop :=
  ∀ plate ∈ w.sim.plates, plate ≠ t.choice.plateRaw →
    normalizePlate cfg.plateLetterMapping plate ≠ t.event.plate cfg

/-- What an exit has to meet: it is admitted and heard of, and it closes the session unless another
plate inside reads the same. -/
def Tick.LeavesOrderly (cfg : Config) (t : Tick) (w : World) : Prop :=
  (∃ resp, t.answer cfg w = some resp ∧ resp.decision.allowed = true) ∧
    (t.Closes cfg w ↔ t.Alone cfg w)

/-- What an admitted entry has to meet: where it is heard of, the text is new and the plate has its
session; where it is not, a plate with a session was inside already. -/
def Tick.EntersOrderly (cfg : Config) (t : Tick) (w : World) : Prop :=
  if t.fault = .nowhere then t.choice.plateRaw ∉ w.sim.plates ∧ t.Present cfg w
  else t.Present cfg w → t.event.plate cfg ∈ readings cfg w.sim.plates

/-- What a tick has to meet. -/
def Tick.Orderly (cfg : Config) (t : Tick) (w : World) : Prop :=
  if t.choice.direction = "OUT" then t.LeavesOrderly cfg w
  else t.admits cfg w = true → t.EntersOrderly cfg w

/-- The invariant: the books are right, on a store with its keys. -/
structure Books (cfg : Config) (w : World) : Prop where
  keys : w.sim.plates.Nodup
  present : ∀ plate, plate ∈ readings cfg w.sim.plates ↔
    plate ∈ readings cfg w.letIn ∧ HasOpen w.store plate
  balance : w.sim.stats.entry = w.sim.stats.exit + w.sim.plates.length
  sessions : SessionKeys w.nextId w.store

theorem Books.right {cfg : Config} {w : World} (h : Books cfg w) : BooksRight cfg w := by
  refine ⟨Set.ext h.present, ?_⟩
  have hlength : w.sim.plates.length = w.sim.inside.length := List.length_map _
  have hbalance := h.balance
  omega

/-! ## What a choice leaves alone -/

section

variable {cfg : Config} {st : State} {s : Store} {c : Choice}

theorem direction_cases (c : Choice) :
    (∃ plate, c = .leaves plate) ∨ c.direction = "IN" := by
  cases c with
  | leaves plate => exact .inl ⟨plate, rfl⟩
  | resident v => exact .inr rfl
  | guest g granted => exact .inr rfl

theorem takeOut_entry (h : c.direction = "IN") : c.takeOut st = st := by
  cases c with
  | leaves plate => simp [Choice.direction] at h
  | resident v => rfl
  | guest g granted => rfl

/-- A permit that is granted changes the permits. -/
theorem permits_eq (cfg : Config) (id : ℕ) (s : Store) (c : Choice) :
    ∃ ps, c.permits cfg id s = { s with permits := ps } := by
  unfold Choice.permits
  split
  · exact ⟨_, rfl⟩
  · exact ⟨s.permits, rfl⟩

@[simp] theorem permits_sessions (id : ℕ) : (c.permits cfg id s).sessions = s.sessions := by
  obtain ⟨ps, h⟩ := permits_eq cfg id s c
  rw [h]

theorem eventByKey_permits (id : ℕ) (key : String) :
    eventByKey key (c.permits cfg id s) = eventByKey key s := by
  obtain ⟨ps, h⟩ := permits_eq cfg id s c
  rw [h]
  rfl

end

/-! ## What an answer changes -/

section

variable {d : Decision}

theorem denySet_allowed (h : d.allowed = true) : denySet d = false := by
  cases d <;> simp_all [denySet, Decision.allowed]

theorem settle_refused (st : State) (v : Visit) (now : ℤ) (h : d.allowed = false) :
    (settle st v now d).inside = st.inside ∧ (settle st v now d).stats.entry = st.stats.entry ∧
      (settle st v now d).stats.exit = st.stats.exit := by
  unfold settle
  split
  · exact ⟨rfl, rfl, rfl⟩
  · simp [h]

theorem settle_exit {st : State} {v : Visit} {now : ℤ} (h : d.allowed = true) (hout : v.direction = "OUT") :
    settle st v now d = { st with stats := { st.stats with exit := st.stats.exit + 1 } } := by
  simp [settle, denySet_allowed h, h, hout]

theorem settle_entry (st : State) (v : Visit) (now : ℤ) (h : d.allowed = true) (hin : v.direction = "IN") :
    (settle st v now d).plates =
        (if v.plate ∈ st.plates then st.plates else st.plates ++ [v.plate]) ∧
      (settle st v now d).stats.entry = st.stats.entry + 1 ∧
      (settle st v now d).stats.exit = st.stats.exit := by
  have hkind : (st.stats.countEntry v.kind).entry = st.stats.entry + 1 ∧
      (st.stats.countEntry v.kind).exit = st.stats.exit := by
    cases v.kind <;> exact ⟨rfl, rfl⟩
  have hkeys := PyDict.keys_alter v.plate (fun _ => ({ since := now, kind := v.kind
                                                       province := v.province
                                                       city := v.city } : Info)) st.inside
  simpa [settle, denySet_allowed h, h, hin, State.plates] using ⟨hkeys, hkind⟩

end

/-! ## What a request changes -/

section

variable {cfg : Config} {t : Tick} {w : World}

/-- The gate starts from the database with the permit that was granted. -/
theorem clean_start (cfg : Config) (t : Tick) (w : World) :
    Session.Clean (.fresh (t.choice.permits cfg w.nextId w.store) (w.nextId + 1) 0) := ⟨rfl, rfl⟩

theorem nextId_le_handled (cfg : Config) (t : Tick) (w : World) :
    w.nextId ≤ (t.handled cfg w).2.nextId := by
  have hdrawn := Prog.exec_nextId_le t.clk (processPlateEvent cfg t.event)
    (.fresh (t.choice.permits cfg w.nextId w.store) (w.nextId + 1) 0)
  exact (Nat.le_succ w.nextId).trans hdrawn

/-- A request that raises, or whose commit fails, leaves the sessions. -/
theorem stored_sessions_of_not_admits (hasked : t.asked = true) (hin : t.choice.direction = "IN")
    (h : t.admits cfg w = false) : (t.stored cfg w).sessions = w.store.sessions := by
  unfold Tick.stored
  split
  · exact permits_sessions _
  · rename_i hfault
    rcases hexec : t.handled cfg w with ⟨exc | resp, w'⟩
    · have hsame := processPlateEvent_error hexec
      rw [hsame]
      exact permits_sessions _
    · have hrefused : resp.decision.allowed = false := by
        simpa [Tick.admits, hasked, hfault, hin, hexec, Except.toOption] using h
      rcases entry_opens (clean_start cfg t w) rfl hin hexec with ⟨hsame, -⟩ | ⟨r, -, -, hr, -⟩
      · exact hsame.trans (permits_sessions _)
      · rw [hrefused] at hr
        cases hr

/-- **The sessions after an admission**: the plate has its session, where the gate did not know the
request, and nothing else changes. -/
theorem stored_of_admits (hin : t.choice.direction = "IN") (h : t.admits cfg w = true)
    (hkeys : SessionKeys w.nextId w.store) :
    SessionKeys (t.handled cfg w).2.nextId (t.stored cfg w) ∧ ∀ plate,
      HasOpen (t.stored cfg w) plate ↔ HasOpen w.store plate ∨
        eventByKey t.event.key w.store = none ∧ plate = t.event.plate cfg := by
  simp only [Tick.admits, Bool.and_eq_true, bne_iff_ne, ne_eq] at h
  obtain ⟨⟨⟨-, hfault⟩, -⟩, hadmitted⟩ := h
  have hn := nextId_le_handled cfg t w
  rw [Tick.stored, if_neg hfault]
  rcases hexec : t.handled cfg w with ⟨exc | resp, w'⟩
  · simp [hexec, Except.toOption] at hadmitted
  · rw [hexec] at hn
    have hallowed : resp.decision.allowed = true := by
      simpa [hexec, Except.toOption] using hadmitted
    rcases entry_opens (clean_start cfg t w) rfl hin hexec with
      ⟨hsame, hopen⟩ | ⟨r, hplate, hstatus, -, hnew, hnone, hid, hdrawn, hrows⟩
    · have hsessions : w'.committed.sessions = w.store.sessions := hsame.trans (permits_sessions _)
      refine ⟨hkeys.congr hn hsessions, fun plate => ?_⟩
      rw [hasOpen_congr hsessions]
      refine ⟨.inl, ?_⟩
      rintro (hold | ⟨hnew, rfl⟩)
      · exact hold
      · have hthere := hopen hallowed ((eventByKey_permits _ _).trans hnew)
        exact (hasOpen_congr (permits_sessions _) _).1 hthere
    · have hsessions : w'.committed.sessions = w.store.sessions ++ [r] := by
        rw [hrows, Session.fresh_committed, permits_sessions]
      have hnone : openSessions r.plateNormalized w.store = [] :=
        (openSessions_congr (permits_sessions _)).symm.trans hnone
      refine ⟨hkeys.append hsessions hstatus hnone ((Nat.le_succ _).trans hid) hdrawn,
        fun plate => ?_⟩
      have hunknown : eventByKey t.event.key w.store = none :=
        (eventByKey_permits _ _).symm.trans hnew
      simp only [HasOpen, openSessions_append hsessions hstatus, hunknown, true_and, hplate]
      constructor
      · rintro ⟨p, rfl, hopen⟩
        by_cases hp : r.plateNormalized = p
        · exact .inr (congrArg some hp.symm)
        · exact .inl ⟨p, rfl, by simpa [hp] using hopen⟩
      · rintro (⟨p, rfl, hopen⟩ | rfl)
        · exact ⟨p, rfl, by simp [hopen]⟩
        · exact ⟨_, rfl, by simp⟩

/-- **The sessions after an admitted exit**: those of its plate are closed, or nothing changes. -/
theorem stored_of_exit {resp : GateResponse} (hout : t.choice.direction = "OUT")
    (h : t.answer cfg w = some resp) (hallowed : resp.decision.allowed = true)
    (hkeys : SessionKeys w.nextId w.store) :
    SessionKeys (t.handled cfg w).2.nextId (t.stored cfg w) ∧ ∀ plate,
      HasOpen (t.stored cfg w) plate ↔
        HasOpen w.store plate ∧ ¬ (t.Closes cfg w ∧ plate = t.event.plate cfg) := by
  have hn := nextId_le_handled cfg t w
  unfold Tick.answer at h
  split at h
  · rename_i hfault
    have hpermits : t.choice.permits cfg w.nextId w.store = w.store := by
      rcases direction_cases t.choice with ⟨plate, hleaves⟩ | hin
      · rw [hleaves]
        rfl
      · rw [hout] at hin
        exact absurd hin (by decide)
    rw [Tick.stored, if_neg (by simp [hfault])]
    have hclean := clean_start cfg t w
    rcases hexec : t.handled cfg w with ⟨exc | answered, w'⟩
    · simp [hexec, Except.toOption] at h
    · rw [hexec] at hn
      obtain rfl : answered = resp := by simpa [hexec, Except.toOption] using h
      rw [Tick.handled, hpermits] at hexec
      rw [hpermits] at hclean
      by_cases hcloses : t.Closes cfg w
      · obtain ⟨plate, hplate, hclosed⟩ := exit_closes hclean rfl hout hcloses.1 hcloses.2
          (hkeys.congr (Nat.le_succ _) rfl) hallowed hexec
        refine ⟨hkeys.closed hn hclosed, fun other => ?_⟩
        rw [hclosed.hasOpen, hplate]
        simp [hcloses]
      · have hsame := exit_keeps hclean rfl hout hcloses hexec
        have hsessions : w'.committed.sessions = w.store.sessions := hsame
        refine ⟨hkeys.congr hn hsessions, fun plate => ?_⟩
        rw [hasOpen_congr hsessions]
        simp [hcloses]
  · cases h

end

/-! ## The books over a run -/

section

variable {cfg : Config} {t : Tick} {w : World}

theorem run_asked (h : t.asked = true) : t.run cfg w =
    { sim := t.hear w.sim (t.answer cfg w), store := t.stored cfg w
      nextId := (t.handled cfg w).2.nextId
      letIn := if t.admits cfg w then t.choice.plateRaw :: w.letIn else w.letIn } := by
  rw [Tick.run, h]
  rfl

theorem run_unasked (h : t.asked = false) : t.run cfg w = { w with
    sim := w.sim.counted, store := t.choice.permits cfg w.nextId w.store
    nextId := w.nextId + 1 } := by
  rw [Tick.run, h]
  rfl

/-- Where the lookups before the gate raise, the books stay as they are. -/
theorem Books.run_of_not_asked (h : Books cfg w) (hasked : t.asked = false) :
    Books cfg (t.run cfg w) := by
  rw [run_unasked hasked]
  have hsame : (t.choice.permits cfg w.nextId w.store).sessions = w.store.sessions :=
    permits_sessions _
  exact
    { keys := h.keys
      present := fun plate => (h.present plate).trans
        (and_congr_right fun _ => (hasOpen_congr hsame plate).symm)
      balance := h.balance
      sessions := h.sessions.congr (Nat.le_succ _) hsame }

/-- Whoever hears of an admission of an entry is told of it by the gate. -/
theorem answer_eq_none_or_refused (hasked : t.asked = true) (hin : t.choice.direction = "IN")
    (h : t.admits cfg w = false) :
    t.answer cfg w = none ∨
      ∃ resp, t.answer cfg w = some resp ∧ resp.decision.allowed = false := by
  cases hanswer : t.answer cfg w with
  | none => exact .inl rfl
  | some resp =>
    refine .inr ⟨resp, rfl, ?_⟩
    unfold Tick.answer at hanswer
    split at hanswer
    · rename_i hfault
      simpa [Tick.admits, hasked, hfault, hin, hanswer] using h
    · cases hanswer

/-- An entry that the gate does not let in leaves the books. -/
theorem Books.run_of_refused (h : Books cfg w) (hasked : t.asked = true)
    (hin : t.choice.direction = "IN") (hadmits : t.admits cfg w = false) :
    Books cfg (t.run cfg w) := by
  have hsame := stored_sessions_of_not_admits hasked hin hadmits
  have hkept (sim : State) (hinside : sim.inside = w.sim.inside)
      (hentry : sim.stats.entry = w.sim.stats.entry) (hexit : sim.stats.exit = w.sim.stats.exit) :
      Books cfg { sim, store := t.stored cfg w, nextId := (t.handled cfg w).2.nextId
                  letIn := w.letIn } := by
    have hplates : sim.plates = w.sim.plates := congrArg (List.map Prod.fst) hinside
    exact
      { keys := hplates ▸ h.keys
        present := fun plate => by
          rw [hplates, hasOpen_congr hsame]
          exact h.present plate
        balance := by
          rw [hplates, hentry, hexit]
          exact h.balance
        sessions := h.sessions.congr (nextId_le_handled cfg t w) hsame }
  have hstays : t.choice.takeOut w.sim.counted = w.sim.counted := takeOut_entry hin
  rw [run_asked hasked, hadmits]
  rcases answer_eq_none_or_refused hasked hin hadmits with hnone | ⟨resp, hanswer, hrefused⟩
  · rw [hnone, Tick.hear, hstays]
    exact hkept _ rfl rfl rfl
  · rw [hanswer, Tick.hear, hstays]
    obtain ⟨hinside, hentry, hexit⟩ := settle_refused w.sim.counted (t.visit w.sim) t.now
      hrefused
    exact hkept _ hinside hentry hexit

/-- An admission that no exception hides is heard of. -/
theorem answer_of_admits (hasked : t.asked = true) (hin : t.choice.direction = "IN")
    (hfault : t.fault = .nowhere) (h : t.admits cfg w = true) :
    ∃ resp, t.answer cfg w = some resp ∧ resp.decision.allowed = true := by
  simpa [Tick.admits, hasked, hfault, hin, Tick.answer, Option.any_eq_true] using h

/-- A plate whose admission is heard of is put in, and counted. -/
theorem plates_hear_entry (hin : t.choice.direction = "IN") {resp : GateResponse}
    (hallowed : resp.decision.allowed = true) :
    (t.hear w.sim (some resp)).plates =
        (if t.choice.plateRaw ∈ w.sim.plates then w.sim.plates
          else w.sim.plates ++ [t.choice.plateRaw]) ∧
      (t.hear w.sim (some resp)).stats.entry = w.sim.stats.entry + 1 ∧
      (t.hear w.sim (some resp)).stats.exit = w.sim.stats.exit := by
  rw [Tick.hear, takeOut_entry hin]
  exact settle_entry w.sim.counted (t.visit w.sim) t.now hallowed hin

theorem mem_readings_letIn (cfg : Config) (t : Tick) (w : World) (plate : Option String) :
    plate ∈ readings cfg (t.choice.plateRaw :: w.letIn) ↔
      plate = t.event.plate cfg ∨ plate ∈ readings cfg w.letIn := by
  rw [readings, List.map_cons, List.mem_cons]
  exact Iff.rfl

/-- An entry that the gate lets in, and that is orderly. -/
theorem Books.run_of_admitted (h : Books cfg w) (hasked : t.asked = true)
    (hin : t.choice.direction = "IN") (hadmits : t.admits cfg w = true)
    (ht : t.EntersOrderly cfg w) : Books cfg (t.run cfg w) := by
  obtain ⟨hkeys, hopen⟩ := stored_of_admits hin hadmits h.sessions
  have hreadings := mem_readings_letIn cfg t w
  rw [run_asked hasked, hadmits]
  rw [Tick.EntersOrderly] at ht
  by_cases hfault : t.fault = .nowhere
  · -- the simulator hears of it: the plate is put in, and counted
    rw [if_pos hfault] at ht
    obtain ⟨hnew, hpresent⟩ := ht
    obtain ⟨resp, hanswer, hallowed⟩ := answer_of_admits hasked hin hfault hadmits
    obtain ⟨hplates, hentry, hexit⟩ := plates_hear_entry (w := w) hin hallowed
    rw [if_neg hnew] at hplates
    rw [hanswer]
    refine ⟨?_, fun plate => ?_, ?_, hkeys⟩
    · rw [hplates]
      exact h.keys.append (List.nodup_singleton _) (by simpa using hnew)
    · have hlast : plate ∈ readings cfg (w.sim.plates ++ [t.choice.plateRaw]) ↔
          plate ∈ readings cfg w.sim.plates ∨ plate = t.event.plate cfg := by
        rw [readings, List.map_append, List.mem_append, List.map_singleton, List.mem_singleton]
        exact Iff.rfl
      rw [hplates, hlast, if_pos rfl, hreadings, hopen, h.present]
      rcases hpresent with hunknown | hthere
      · simp only [hunknown, true_and]
        tauto
      · constructor
        · rintro (⟨hlet, hold⟩ | rfl)
          · exact ⟨.inr hlet, .inl hold⟩
          · exact ⟨.inl rfl, .inl hthere⟩
        · rintro ⟨hown | hlet, hold | ⟨-, hown⟩⟩
          · exact .inr hown
          · exact .inr hown
          · exact .inl ⟨hlet, hold⟩
          · exact .inr hown
    · have hbalance := h.balance
      rw [hplates, List.length_append, List.length_singleton, hentry, hexit]
      omega
  · -- it does not: the plate has to be inside already
    rw [if_neg hfault] at ht
    rw [Tick.answer, if_neg hfault, Tick.hear, takeOut_entry hin]
    refine ⟨h.keys, fun plate => ?_, h.balance, hkeys⟩
    have hold := h.present plate
    rw [if_pos rfl, hreadings, hopen]
    constructor
    · intro hmem
      obtain ⟨hlet, hthere⟩ := hold.1 hmem
      exact ⟨.inr hlet, .inl hthere⟩
    · rintro ⟨hown | hlet, hthere | ⟨hunknown, hown⟩⟩
      · exact hown ▸ ht (.inr (hown ▸ hthere))
      · exact hown ▸ ht (.inl hunknown)
      · exact hold.2 ⟨hlet, hthere⟩
      · exact hown ▸ ht (.inl hunknown)

/-- A plate that leaves is out of the dictionary, whatever the gate says. -/
theorem plates_hear {plate : String} (hleaves : t.choice = .leaves plate)
    (answer : Option GateResponse) :
    (t.hear w.sim answer).plates = w.sim.plates.erase plate ∧
      (t.hear w.sim answer).stats.entry = w.sim.stats.entry ∧
      (t.hear w.sim answer).stats.exit =
        w.sim.stats.exit + if answer.any fun resp => resp.decision.allowed then 1 else 0 := by
  have hout : (t.visit w.sim).direction = "OUT" := by
    rw [Tick.visit, hleaves]
    rfl
  have hpopped : (t.choice.takeOut w.sim.counted).plates = w.sim.plates.erase plate := by
    rw [hleaves]
    exact PyDict.keys_pop plate w.sim.inside
  have hentered : (t.choice.takeOut w.sim.counted).stats.entry = w.sim.stats.entry := by
    rw [hleaves]
    rfl
  have hleft : (t.choice.takeOut w.sim.counted).stats.exit = w.sim.stats.exit := by
    rw [hleaves]
    rfl
  cases answer with
  | none => exact ⟨hpopped, hentered, hleft⟩
  | some resp =>
    cases hallowed : resp.decision.allowed with
    | true =>
      rw [Tick.hear, State.note, settle_exit hallowed hout]
      exact ⟨hpopped, hentered, by simp [hallowed, hleft]⟩
    | false =>
      obtain ⟨hinside, hentry, hexit⟩ := settle_refused (t.choice.takeOut w.sim.counted)
        (t.visit w.sim) t.now hallowed
      simp only [Option.any_some, hallowed, Bool.false_eq_true, if_false, Nat.add_zero]
      exact ⟨(congrArg (List.map Prod.fst) hinside).trans hpopped, hentry.trans hentered,
        hexit.trans hleft⟩

/-- What the plates inside read as, once one of them has left. -/
theorem mem_readings_erase (hkeys : w.sim.plates.Nodup) {plate : String} (reading : Option String) :
    reading ∈ readings cfg (w.sim.plates.erase plate) ↔
      ∃ p ∈ w.sim.plates, p ≠ plate ∧ normalizePlate cfg.plateLetterMapping p = reading := by
  simp only [readings, List.mem_map, hkeys.mem_erase_iff]
  constructor
  · rintro ⟨p, ⟨hne, hp⟩, rfl⟩
    exact ⟨p, hp, hne, rfl⟩
  · rintro ⟨p, hp, hne, rfl⟩
    exact ⟨p, ⟨hne, hp⟩, rfl⟩

/-- Another plate inside reads like the one that leaves. -/
theorem not_alone_iff (hkeys : w.sim.plates.Nodup) {plate : String}
    (hleaves : t.choice = .leaves plate) :
    ¬ t.Alone cfg w ↔ t.event.plate cfg ∈ readings cfg (w.sim.plates.erase plate) := by
  rw [mem_readings_erase hkeys, Tick.Alone, hleaves]
  push Not
  exact Iff.rfl

theorem plate_of_leaves {plate : String} (hleaves : t.choice = .leaves plate) :
    t.event.plate cfg = normalizePlate cfg.plateLetterMapping plate := by
  rw [PlateEvent.plate, Tick.event, hleaves]
  rfl

/-- An orderly exit. -/
theorem Books.run_of_exit (h : Books cfg w) {plate : String} (hleaves : t.choice = .leaves plate)
    (hmem : plate ∈ w.sim.plates) (hasked : t.asked = true) (ht : t.LeavesOrderly cfg w) :
    Books cfg (t.run cfg w) := by
  obtain ⟨⟨resp, hanswer, hallowed⟩, hcloses⟩ := ht
  have hout : t.choice.direction = "OUT" := by rw [hleaves]; rfl
  obtain ⟨hkeys, hopen⟩ := stored_of_exit hout hanswer hallowed h.sessions
  have hadmits : t.admits cfg w = false := by simp [Tick.admits, hout]
  obtain ⟨hplates, hentry, hexit⟩ := plates_hear (w := w) hleaves (t.answer cfg w)
  rw [run_asked hasked, hadmits]
  refine ⟨hplates ▸ h.keys.erase plate, fun reading => ?_, ?_, hkeys⟩
  · rw [if_neg (by simp), hopen, hplates, ← and_assoc, ← h.present]
    constructor
    · intro hreading
      refine ⟨List.map_subset _ List.erase_subset hreading, ?_⟩
      rintro ⟨hclosed, rfl⟩
      exact (not_alone_iff h.keys hleaves).2 hreading (hcloses.1 hclosed)
    · rintro ⟨hreading, hkept⟩
      by_cases hown : reading = t.event.plate cfg
      · -- its session is still OPEN, so another plate inside reads the same
        subst hown
        exact (not_alone_iff h.keys hleaves).1 fun halone => hkept ⟨hcloses.2 halone, rfl⟩
      · obtain ⟨p, hp, rfl⟩ := List.mem_map.1 hreading
        have hne : p ≠ plate := fun heq => hown (heq ▸ (plate_of_leaves hleaves).symm)
        exact (mem_readings_erase h.keys _).2 ⟨p, hp, hne, rfl⟩
  · have hlength := List.length_erase_of_mem hmem
    have hpos := List.length_pos_of_mem hmem
    have hbalance := h.balance
    rw [hanswer, Option.any_some, hallowed, if_pos rfl] at hexit
    rw [hplates, hentry, hanswer, hexit, hlength]
    omega

/-- **An orderly tick keeps the books right.** -/
theorem Books.run (h : Books cfg w) (hpossible : t.Possible w.sim w.store)
    (ht : t.Orderly cfg w) : Books cfg (t.run cfg w) := by
  cases hasked : t.asked with
  | false => exact h.run_of_not_asked hasked
  | true =>
    rcases direction_cases t.choice with ⟨plate, hleaves⟩ | hin
    · rw [Tick.Orderly, if_pos (by rw [hleaves]; rfl)] at ht
      have hmem := hpossible.1
      rw [hleaves] at hmem
      exact h.run_of_exit hleaves hmem hasked ht
    · rw [Tick.Orderly, if_neg (by rw [hin]; decide)] at ht
      cases hadmits : t.admits cfg w with
      | false => exact h.run_of_refused hasked hin hadmits
      | true => exact h.run_of_admitted hasked hin hadmits (ht hadmits)

/-- **And only an orderly one does.** -/
theorem Books.orderly (h : Books cfg w) (hpossible : t.Possible w.sim w.store)
    (hright : BooksRight cfg (t.run cfg w)) : t.Orderly cfg w := by
  obtain ⟨hset, hcount⟩ := hright
  have hpresent (reading : Option String) := Set.ext_iff.1 hset reading
  simp only [Set.mem_ofPred_eq] at hpresent
  have hlength (st : State) : st.inside.length = st.plates.length := (List.length_map _).symm
  have hbalance := h.balance
  rw [hlength] at hcount
  rcases direction_cases t.choice with ⟨plate, hleaves⟩ | hin
  · have hout : t.choice.direction = "OUT" := by rw [hleaves]; rfl
    have hasked : t.asked = true := hpossible.2 hout
    have hmem : plate ∈ w.sim.plates := by
      have hchosen := hpossible.1
      rwa [hleaves] at hchosen
    have hadmits : t.admits cfg w = false := by simp [Tick.admits, hout]
    obtain ⟨hplates, hentry, hexit⟩ := plates_hear (w := w) hleaves (t.answer cfg w)
    rw [run_asked hasked, hadmits] at hpresent hcount
    rw [Tick.Orderly, if_pos hout]
    -- the exit was counted, since the plate is out
    have hadmitted : (t.answer cfg w).any (fun resp => resp.decision.allowed) = true := by
      by_contra hnot
      have hpos := List.length_pos_of_mem hmem
      rw [if_neg hnot] at hexit
      rw [hplates, List.length_erase_of_mem hmem, hentry, hexit] at hcount
      omega
    obtain ⟨resp, hanswer, hallowed⟩ := Option.any_eq_true _ _ |>.1 hadmitted
    refine ⟨⟨resp, hanswer, hallowed⟩, ?_⟩
    obtain ⟨-, hopen⟩ := stored_of_exit hout hanswer hallowed h.sessions
    have hown : t.event.plate cfg ∈ readings cfg w.sim.plates := by
      rw [plate_of_leaves hleaves]
      exact List.mem_map_of_mem hmem
    obtain ⟨hlet, hthere⟩ := (h.present _).1 hown
    have hafter := hpresent (t.event.plate cfg)
    rw [hplates, if_neg (by simp), hopen, ← not_alone_iff h.keys hleaves] at hafter
    constructor
    · intro hcloses
      by_contra hnot
      exact (hafter.1 hnot).2.2 ⟨hcloses, rfl⟩
    · intro halone
      by_contra hkept
      exact hafter.2 ⟨hlet, hthere, fun hclosed => hkept hclosed.1⟩ halone
  · rw [Tick.Orderly, if_neg (by rw [hin]; decide)]
    intro hadmits
    have hasked : t.asked = true := by
      simp only [Tick.admits, Bool.and_eq_true] at hadmits
      exact hadmits.1.1.1
    obtain ⟨-, hopen⟩ := stored_of_admits hin hadmits h.sessions
    have hafter := hpresent (t.event.plate cfg)
    rw [run_asked hasked, hadmits] at hafter hcount
    rw [if_pos rfl, mem_readings_letIn, hopen] at hafter
    rw [Tick.EntersOrderly]
    by_cases hfault : t.fault = .nowhere
    · rw [if_pos hfault]
      obtain ⟨resp, hanswer, hallowed⟩ := answer_of_admits hasked hin hfault hadmits
      obtain ⟨hplates, hentry, hexit⟩ := plates_hear_entry (w := w) hin hallowed
      rw [hanswer] at hafter hcount
      have hnew : t.choice.plateRaw ∉ w.sim.plates := by
        intro hold
        rw [if_pos hold] at hplates
        rw [hplates, hentry, hexit] at hcount
        omega
      rw [if_neg hnew] at hplates
      refine ⟨hnew, ?_⟩
      have hlast : t.event.plate cfg ∈ readings cfg (w.sim.plates ++ [t.choice.plateRaw]) :=
        List.mem_map_of_mem (List.mem_append_right _ (List.mem_singleton.2 rfl))
      rcases (hafter.1 (hplates ▸ hlast)).2 with hthere | ⟨hunknown, -⟩
      · exact .inr hthere
      · exact .inl hunknown
    · rw [if_neg hfault]
      rw [Tick.answer, if_neg hfault, Tick.hear, takeOut_entry hin] at hafter
      rintro (hunknown | hthere)
      · exact hafter.2 ⟨.inl rfl, .inr ⟨hunknown, rfl⟩⟩
      · exact hafter.2 ⟨.inl rfl, .inl hthere⟩

end

/-- From `start` the dictionary is empty, and nobody was let in. -/
theorem books_start (cfg : Config) (st : State) {s : Store} {n : ℕ} (h : SessionKeys n s) :
    Books cfg { sim := start st, store := s, nextId := n } where
  keys := List.nodup_nil
  present plate := by simp [readings, start, State.plates]
  balance := rfl
  sessions := h

/-- **A run of orderly ticks keeps the books right**, and the next tick leaves them so exactly where
it is orderly as well. -/
theorem orderly_books_right (cfg : Config) (st : State) {s : Store} {n : ℕ}
    (hkeys : SessionKeys n s) {w : World}
    (h : Reached cfg (fun t w => t.Orderly cfg w) st s n w) :
    BooksRight cfg w ∧ ∀ t : Tick, t.Possible w.sim w.store →
      (BooksRight cfg (t.run cfg w) ↔ t.Orderly cfg w) := by
  suffices hbooks : Books cfg w from ⟨hbooks.right, fun t hpossible =>
    ⟨hbooks.orderly hpossible, fun ht => (hbooks.run hpossible ht).right⟩⟩
  induction h with
  | start => exact books_start cfg st hkeys
  | tick _ hpossible hok ih => exact ih.run hpossible hok

/-! ### A resident who cannot pay -/

/-- One resident; an hour costs 1000, and nobody leaves unpaid. -/
def payYard : Store :=
  { appSettings := [{ key := "gate_policy", value := .obj [("EXIT_UNPAID_POLICY", .str "DENY")] }]
    gates := [{ id := "g1", code := "GATE-IN-01", name := "in" },
      { id := "g2", code := "GATE-OUT-01", name := "out", direction := "OUT" }]
    vehicles := [{ id := 1, plateRaw := "12ب34567", plateNormalized := "12B345IR67"
                   createdAt := 0 }]
    permits := [{ id := 2, plateNormalized := "12B345IR67", createdAt := 0 }]
    tariffs := [{ id := 3, title := "hourly", hourlyAmount := 1000, createdAt := 0 }] }

theorem sessionKeys_payYard : SessionKeys 10 payYard where
  one plate := by simp [openSessions, payYard]
  ids := List.nodup_nil
  drawn r hr := by cases hr

/-- The resident comes in. -/
def payArrival : Tick :=
  { choice := .resident { id := 1, plateRaw := "12ب34567", plateNormalized := "12B345IR67"
                          createdAt := 0 }
    source := "1", confidence := 95, clk := fun _ => 0, now := 0 }

/-- The resident wants to leave, at an instant. -/
def payDeparture (instant : ℤ) : Tick :=
  { choice := .leaves "12ب34567", source := "2", confidence := 95, clk := fun _ => instant
    now := instant }

/-- The resident is inside. -/
def payInside : World := payArrival.run {} { sim := start {}, store := payYard, nextId := 10 }

theorem payArrival_possible : payArrival.Possible (start {}) payYard :=
  ⟨⟨List.mem_singleton.2 rfl, List.not_mem_nil⟩, fun _ => rfl⟩

theorem payDeparture_possible (instant : ℤ) :
    (payDeparture instant).Possible payInside.sim payInside.store := by
  have hplates : payInside.sim.plates = ["12ب34567"] := by decide +kernel
  refine ⟨?_, fun _ => rfl⟩
  show "12ب34567" ∈ payInside.sim.plates
  rw [hplates]
  exact List.mem_singleton.2 rfl

/-- Whoever leaves at once has nothing to pay. -/
theorem orderly_books_right_pay :
    BooksRight {} ((payDeparture 0).run {} payInside) ∧ ∀ t : Tick,
      t.Possible ((payDeparture 0).run {} payInside).sim
        ((payDeparture 0).run {} payInside).store →
      (BooksRight {} (t.run {} ((payDeparture 0).run {} payInside)) ↔
        t.Orderly {} ((payDeparture 0).run {} payInside)) := by
  refine orderly_books_right {} {} sessionKeys_payYard (.tick (.tick .start payArrival_possible ?_)
    (payDeparture_possible 0) ?_)
  · have hnew : eventByKey payArrival.event.key payYard = none := by decide
    exact fun _ => ⟨List.not_mem_nil, .inl hnew⟩
  · have hallowed : ((payDeparture 0).answer {} payInside).any
        (fun resp => resp.decision.allowed) = true := by decide +kernel
    have hnew : (eventByKey (payDeparture 0).event.key payInside.store).isNone = true := by
      decide +kernel
    have hvehicle : ((payDeparture 0).event.vehicle {} payInside.store).isSome = true := by
      decide +kernel
    have hplates : payInside.sim.plates = ["12ب34567"] := by decide +kernel
    refine ⟨?_, iff_of_true ⟨by simpa using hnew, hvehicle⟩ fun plate hplate hne => ?_⟩
    · simpa [Option.any_eq_true] using hallowed
    · rw [hplates, List.mem_singleton] at hplate
      exact absurd hplate hne

/-- **A resident who is refused is forgotten**: two hours later the exit has to be paid. -/
theorem refused_exit_forgotten :
    ¬ ∀ (cfg : Config) (st : State) (s : Store) (n : ℕ) (w : World), SessionKeys n s →
      Reached cfg (fun _ _ => True) st s n w → BooksRight cfg w := by
  intro h
  have hright := h {} {} payYard 10 ((payDeparture 7200000000).run {} payInside)
    sessionKeys_payYard (.tick (.tick .start payArrival_possible trivial)
      (payDeparture_possible 7200000000) trivial)
  have hcount : ((payDeparture 7200000000).run {} payInside).sim.stats.entry = 1 ∧
      ((payDeparture 7200000000).run {} payInside).sim.stats.exit = 0 ∧
      ((payDeparture 7200000000).run {} payInside).sim.inside.length = 0 ∧
      ((payDeparture 7200000000).run {} payInside).sim.stats.violations = 1 := by
    decide +kernel
  obtain ⟨hentry, hexit, hinside, -⟩ := hcount
  have hbalance := hright.2
  rw [hentry, hexit, hinside] at hbalance
  simp at hbalance

end ParkingSystem.Simulator
