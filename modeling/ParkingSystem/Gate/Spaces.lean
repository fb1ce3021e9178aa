import ParkingSystem.Gate.Answer
import ParkingSystem.Gate.Presence
import ParkingSystem.Parking

/-!
# Spaces and Occupancies

A space should be FREE exactly where no OCCUPIED occupancy refers to it. An entry looks at the
status of the space before it takes it; a release frees the space of its own occupancy without
looking whether another one is there, and an assignment can move to another vehicle while the
first one is inside.
-/

namespace ParkingSystem

open Table Transaction

/-! ## The invariant -/

/-- Whether an occupancy keeps a space in use. -/
def ParkingOccupancy.Uses (o : ParkingOccupancy) (spaceId : ℕ) : Prop :=
  o.status = .occupied ∧ o.parkingSpaceId = some spaceId

instance (o : ParkingOccupancy) (spaceId : ℕ) : Decidable (o.Uses spaceId) :=
  inferInstanceAs (Decidable (_ ∧ _))

/-- No OCCUPIED occupancy refers to a space. -/
def Unused (spaceId : ℕ) (s : Store) : Prop := ∀ o ∈ s.occupancies, ¬ o.Uses spaceId

instance (spaceId : ℕ) (s : Store) : Decidable (Unused spaceId s) :=
  inferInstanceAs (Decidable (∀ o ∈ s.occupancies, ¬ o.Uses spaceId))

/-- A space is FREE exactly where no OCCUPIED occupancy refers to it. -/
def SpacesTrue (s : Store) : Prop := ∀ sp ∈ s.spaces, sp.status = "FREE" ↔ Unused sp.id s

instance (s : Store) : Decidable (SpacesTrue s) :=
  inferInstanceAs (Decidable (∀ sp ∈ s.spaces, sp.status = "FREE" ↔ Unused sp.id s))

/-- No other occupancy uses the space of an occupancy. -/
def Alone (o : ParkingOccupancy) (s : Store) : Prop :=
  ∀ spaceId ∈ o.parkingSpaceId, ∀ o' ∈ s.occupancies, o'.Uses spaceId → o'.id = o.id

instance (o : ParkingOccupancy) (s : Store) : Decidable (Alone o s) :=
  inferInstanceAs (Decidable (∀ spaceId ∈ o.parkingSpaceId, ∀ o' ∈ s.occupancies,
    o'.Uses spaceId → o'.id = o.id))

/-- The store once an occupancy is vacated and its space freed. -/
def vacatedStore (o : ParkingOccupancy) (now : ℤ) (s : Store) : Store :=
  spaceFreed o.parkingSpaceId ((vacate o.id now).apply s)

section

variable {s s' : Store} {o : ParkingOccupancy} {now : ℤ}

theorem unused_congr (h : s'.occupancies = s.occupancies) (spaceId : ℕ) :
    Unused spaceId s' ↔ Unused spaceId s := by
  rw [Unused, Unused, h]

theorem SpacesTrue.congr (h : SpacesTrue s) (hspaces : s'.spaces = s.spaces)
    (hocc : s'.occupancies = s.occupancies) : SpacesTrue s' := by
  intro sp hsp
  rw [unused_congr hocc]
  exact h sp (hspaces ▸ hsp)

/-! ## Taking a space -/

/-- A new occupancy uses its own space. -/
theorem unused_insert (ho : o.status = .occupied) (spaceId : ℕ) :
    Unused spaceId ((insertOccupancy o).apply s) ↔
      Unused spaceId s ∧ o.parkingSpaceId ≠ some spaceId := by
  constructor
  · intro h
    refine ⟨fun o' ho' => h o' (List.mem_append_left _ ho'), fun hspace => ?_⟩
    exact h o (List.mem_append_right _ (List.mem_singleton.2 rfl)) ⟨ho, hspace⟩
  · rintro ⟨hold, hspace⟩ o' ho'
    rcases List.mem_append.1 ho' with ho' | ho'
    · exact hold o' ho'
    · obtain rfl := List.mem_singleton.1 ho'
      exact fun huses => hspace huses.2

/-- **An entry** takes its space where it is FREE, and finds it in use otherwise. -/
theorem SpacesTrue.taken (h : SpacesTrue s) {space : Option ParkingSpace}
    (hspace : ∀ sp ∈ space, sp ∈ s.spaces) (ho : o.status = .occupied)
    (hid : o.parkingSpaceId = space.map ParkingSpace.id) :
    SpacesTrue (spaceTaken space ((insertOccupancy o).apply s)) := by
  intro sp hsp
  rw [unused_congr (spaceTaken_occupancies _ _), unused_insert ho, hid]
  cases space with
  | none =>
    have hold := h sp hsp
    simpa using hold
  | some taken =>
    have htaken := h taken (hspace taken rfl)
    have hne : some taken.id ≠ some sp.id ↔ sp.id ≠ taken.id := by
      rw [ne_eq, Option.some.injEq, eq_comm]
    rw [Option.map_some, hne]
    unfold spaceTaken at hsp
    dsimp only at hsp
    split at hsp
    · -- the space was FREE and is OCCUPIED now
      rcases mem_updateWhere.1 hsp with ⟨q, _, hq, rfl⟩ | ⟨hin, hother⟩
      · have hq : q.id = taken.id := by simpa using hq
        simp [hq]
      · have hother : sp.id ≠ taken.id := by simpa using hother
        rw [h sp hin]
        simp [hother]
    · -- it was not, so somebody was there already
      rename_i hfree
      have hused : ¬ Unused taken.id s := by
        rw [← htaken]
        intro hstatus
        simp [ParkingSpace.isFree, hstatus] at hfree
      rw [h sp hsp]
      by_cases hsame : sp.id = taken.id
      · simp [hsame, hused]
      · simp [hsame]

/-! ## Releasing a space -/

/-- What the others use stays in use. -/
theorem unused_vacated_of_ne (hids : (s.occupancies.map ParkingOccupancy.id).Nodup)
    (ho : o ∈ s.occupancies) {spaceId : ℕ} (hne : o.parkingSpaceId ≠ some spaceId) :
    Unused spaceId ((vacate o.id now).apply s) ↔ Unused spaceId s := by
  constructor
  · intro h o' ho' huses
    by_cases hid : o'.id = o.id
    · obtain rfl := List.inj_on_of_nodup_map hids ho' ho hid
      exact hne huses.2
    · exact h o' (mem_updateWhere.2 (Or.inr ⟨ho', by simpa using hid⟩)) huses
  · intro h o' ho' huses
    rcases mem_updateWhere.1 ho' with ⟨q, _, _, rfl⟩ | ⟨hin, _⟩
    · exact absurd huses.1 (by simp)
    · exact h o' hin huses

/-- The space of an occupancy that was alone there is not in use any more. -/
theorem unused_vacated_of_alone (halone : Alone o s) {spaceId : ℕ}
    (hspace : o.parkingSpaceId = some spaceId) :
    Unused spaceId ((vacate o.id now).apply s) := by
  intro o' ho' huses
  rcases mem_updateWhere.1 ho' with ⟨q, _, _, rfl⟩ | ⟨hin, hother⟩
  · exact absurd huses.1 (by simp)
  · have hid := halone spaceId hspace o' hin huses
    simp [hid] at hother

theorem vacate_ids (id : ℕ) (now : ℤ) (s : Store) :
    ((vacate id now).apply s).occupancies.map ParkingOccupancy.id =
      s.occupancies.map ParkingOccupancy.id := by
  refine map_updateWhere (fun o => ?_) s.occupancies
  rfl

/-- **A release** frees the space of an occupancy that was alone there. -/
theorem SpacesTrue.vacated (h : SpacesTrue s)
    (hids : (s.occupancies.map ParkingOccupancy.id).Nodup) (ho : o ∈ s.occupancies)
    (halone : Alone o s) : SpacesTrue (vacatedStore o now s) := by
  intro sp hsp
  rw [vacatedStore, unused_congr (spaceFreed_occupancies _ _)]
  unfold vacatedStore spaceFreed at hsp
  split at hsp
  · rename_i hnone
    rw [unused_vacated_of_ne hids ho (by simp [hnone])]
    exact h sp hsp
  · rename_i spaceId hspace
    split at hsp
    · rcases mem_updateWhere.1 hsp with ⟨q, _, hq, rfl⟩ | ⟨hin, hother⟩
      · have hq : q.id = spaceId := by simpa using hq
        have hunused : Unused q.id ((vacate o.id now).apply s) :=
          unused_vacated_of_alone halone (hspace.trans (congrArg some hq.symm))
        simpa using hunused
      · have hother : sp.id ≠ spaceId := by simpa using hother
        rw [unused_vacated_of_ne hids ho (by simpa [hspace] using hother.symm)]
        exact h sp hin
    · -- the space is not in the store
      rename_i hgone
      have hother : sp.id ≠ spaceId := by
        rintro rfl
        refine hgone ?_
        rw [spaceById, List.find?_isSome]
        exact ⟨sp, hsp, by simp⟩
      rw [unused_vacated_of_ne hids ho (by simpa [hspace] using hother.symm)]
      exact h sp hsp

end

/-! ## Operations -/

/-- What moves vehicles and assignments: an event at a gate, or an operator. -/
inductive YardOp where
  | plateEvent (e : PlateEvent)
  | createAssignment (body : ParkingAssignmentCreate)
  | closeAssignment (assignmentId : ℕ)
  | vacate (occupancyId : ℕ)

/-- The handler of an operation, without its answer. -/
def YardOp.handler (cfg : Config) : YardOp → Handler Unit
  | plateEvent e => (processPlateEvent cfg e).bind fun _ => .ret ()
  | createAssignment body => (ParkingSystem.createAssignment body).bind fun _ => .ret ()
  | closeAssignment assignmentId => ParkingSystem.closeAssignment assignmentId
  | vacate occupancyId => vacateOccupancy occupancyId

/-- An event releases an occupancy in a session: it is new, it takes the branch of an admitted
exit, and the occupancy is the latest of its vehicle. -/
def PlateEvent.Releases (cfg : Config) (e : PlateEvent) (clk : ℕ → ℤ) (w : Session Store)
    (o : ParkingOccupancy) : Prop :=
  e.dryRun = false ∧ eventByKey e.key w.view = none ∧
    (∃ gate base w₁ v w₂, Decided cfg clk e gate w base w₁ v w₂ ∧ releases e v) ∧
      ((e.vehicle cfg w.view).bind fun v => latestOccupancy v.id w.view) = some o

/-- What a release has to find: nobody else in the space. -/
def YardOp.ReleasesAlone (cfg : Config) (clk : ℕ → ℤ) : YardOp → Session Store → Prop
  | plateEvent e, w => ∀ o, e.Releases cfg clk (.fresh w.committed w.nextId w.tick) o →
      Alone o w.committed
  | vacate occupancyId, w => ∀ o ∈ occupancyById occupancyId w.committed, Alone o w.committed
  | _, _ => True

/-- Every space tells the truth, and occupancies have identifiers of their own. -/
structure YardInv (w : Session Store) : Prop where
  spaces : SpacesTrue w.committed
  distinct : (w.committed.occupancies.map ParkingOccupancy.id).Nodup
  below : ∀ o ∈ w.committed.occupancies, o.id < w.nextId

/-! ## Steps -/

section

variable {cfg : Config} {clk : ℕ → ℤ} {w w' : Session Store} {o : ParkingOccupancy} {now : ℤ}

/-- An operation on other tables. -/
theorem YardInv.congr (h : YardInv w) (hspaces : w'.committed.spaces = w.committed.spaces)
    (hocc : w'.committed.occupancies = w.committed.occupancies) (hn : w.nextId ≤ w'.nextId) :
    YardInv w' where
  spaces := h.spaces.congr hspaces hocc
  distinct := hocc ▸ h.distinct
  below o ho := Nat.lt_of_lt_of_le (h.below o (hocc ▸ ho)) hn

/-- A release that finds nobody else. -/
theorem YardInv.vacated (h : YardInv w) {s : Store} (hspaces : s.spaces = w.committed.spaces)
    (hocc : s.occupancies = w.committed.occupancies) (ho : o ∈ w.committed.occupancies)
    (halone : Alone o w.committed) (hcommitted : w'.committed = vacatedStore o now s)
    (hn : w.nextId ≤ w'.nextId) : YardInv w' := by
  have hrows : w'.committed.occupancies.map ParkingOccupancy.id =
      w.committed.occupancies.map ParkingOccupancy.id := by
    rw [hcommitted, vacatedStore, spaceFreed_occupancies, ← hocc]
    exact vacate_ids o.id now s
  have halone' : Alone o s := fun spaceId hspace o' ho' => halone spaceId hspace o' (hocc ▸ ho')
  refine ⟨?_, hrows ▸ h.distinct, fun o' ho' => ?_⟩
  · rw [hcommitted]
    exact (h.spaces.congr hspaces hocc).vacated (hocc ▸ h.distinct) (hocc ▸ ho) halone'
  · have hid : o'.id ∈ w.committed.occupancies.map ParkingOccupancy.id :=
      hrows ▸ List.mem_map_of_mem ho'
    obtain ⟨q, hq, heq⟩ := List.mem_map.1 hid
    exact heq ▸ Nat.lt_of_lt_of_le (h.below q hq) hn

/-- An entry. -/
theorem YardInv.entered (h : YardInv w) {e : PlateEvent} {r : Reading} {s : Store}
    {eventId sessionId n : ℕ} (hspaces : s.spaces = w.committed.spaces)
    (hocc : s.occupancies = w.committed.occupancies)
    (hcommitted : w'.committed = entryStore e r eventId sessionId n s) (hn : w.nextId ≤ n)
    (hn' : n < w'.nextId) : YardInv w' := by
  have hspace : ∀ sp ∈ r.space s, sp ∈ s.spaces := by
    intro sp hsp
    obtain ⟨v, _, hassigned⟩ := Option.bind_eq_some_iff.1 (show r.space s = some sp from hsp)
    obtain ⟨a, _, hfound⟩ := List.exists_of_findSome?_eq_some hassigned
    exact List.mem_of_find?_eq_some hfound
  have hrows : w'.committed.occupancies =
      w.committed.occupancies ++ [entryOccupancy e r eventId n (r.space s)] := by
    rw [hcommitted, entryStore, spaceTaken_occupancies, ← hocc]
    rfl
  have hnew : n ∉ w.committed.occupancies.map ParkingOccupancy.id := by
    intro hmem
    obtain ⟨q, hq, hid⟩ := List.mem_map.1 hmem
    have hlt := h.below q hq
    omega
  refine ⟨?_, ?_, fun o' ho' => ?_⟩
  · rw [hcommitted, entryStore]
    have hs : SpacesTrue ((insertSession (entrySession e r eventId sessionId)).apply s) :=
      h.spaces.congr hspaces hocc
    exact hs.taken hspace rfl rfl
  · rw [hrows, List.map_append, List.nodup_append]
    refine ⟨h.distinct, List.nodup_singleton _, ?_⟩
    rintro id hid _ hid' rfl
    obtain rfl := List.mem_singleton.1 hid'
    exact hnew hid
  · rw [hrows] at ho'
    rcases List.mem_append.1 ho' with ho' | ho'
    · have hlt := h.below o' ho'
      omega
    · obtain rfl := List.mem_singleton.1 ho'
      exact hn'

/-- Vacating an occupancy, alone on the store. -/
theorem exec_vacateOccupancy (clk : ℕ → ℤ) (hw : w.broken = false) {id : ℕ}
    (hfound : occupancyById id w.view = some o) :
    (vacateOccupancy id).exec clk w =
      (.ok (), { w with
        committed := vacatedStore o (clk w.tick) w.view
        view := vacatedStore o (clk w.tick) w.view, tick := w.tick + 1 }) := by
  have hw₁ : ({ w with tick := w.tick + 1 } : Session Store).broken = false := hw
  have hw₂ : ({ w with
    view := (vacate o.id (clk w.tick)).apply w.view, tick := w.tick + 1 } : Session Store).broken =
      false := hw
  have hw₃ : ({ w with
    view := vacatedStore o (clk w.tick) w.view, tick := w.tick + 1 } : Session Store).broken =
      false := hw
  refine (Prog.exec_bind_of_ok (Prog.exec_select clk _ hw)).trans ?_
  simp only [hfound]
  refine (Prog.exec_bind_of_ok (Prog.exec_getTime clk w)).trans ?_
  refine (Prog.exec_bind_of_ok (Prog.exec_flush_done clk _ hw₁ rfl)).trans ?_
  exact (Prog.exec_bind_of_ok (exec_freeSpace hw₂ _)).trans (Prog.exec_commitTx clk hw₃)

theorem AssignmentStmt.keeps {st : Stmt} (h : AssignmentStmt st) (s : Store) :
    (st.apply s).spaces = s.spaces ∧ (st.apply s).occupancies = s.occupancies := by
  cases h <;> exact ⟨rfl, rfl⟩

/-- Operations on assignments leave spaces and occupancies alone. -/
theorem YardInv.assigned (h : YardInv w) {α : Type} {p : Handler α}
    (hp : p.AllWrites AssignmentStmt) : YardInv (p.after clk w) := by
  obtain ⟨⟨hspaces, hocc⟩, _⟩ := hp.exec_keeps
    (I := fun s => s.spaces = w.committed.spaces ∧ s.occupancies = w.committed.occupancies)
    (fun st hst s hs => ⟨(hst.keeps s).1.trans hs.1, (hst.keeps s).2.trans hs.2⟩) clk
    (w := .fresh w.committed w.nextId w.tick) ⟨rfl, rfl⟩ ⟨rfl, rfl⟩
  exact h.congr hspaces hocc (Prog.after_nextId_le clk p w)

/-- An event that ended, alone on the store. -/
theorem YardInv.ending (h : YardInv w) {e : PlateEvent} {gate : Gate} {base : BaseDecision}
    {w₁ w₂ : Session Store} {v : Verdict} {resp : GateResponse}
    (hnew : eventByKey e.key w.committed = none)
    (hdecided : Decided cfg clk e gate (.fresh w.committed w.nextId w.tick) base w₁ v w₂)
    (hending : Ending e (e.readingIn cfg gate clk (.fresh w.committed w.nextId w.tick)) v w₂ resp w')
    (hn : w.nextId ≤ w'.nextId)
    (halone : ∀ o, e.Releases cfg clk (.fresh w.committed w.nextId w.tick) o →
      Alone o w.committed) : YardInv w' := by
  have hspaces : w₂.view.spaces = w.committed.spaces := hdecided.spaces
  have hocc : w₂.view.occupancies = w.committed.occupancies := hdecided.occupancies
  cases hending with
  | dry _ _ hcommitted =>
    have hsame := hcommitted.trans hdecided.committed
    exact h.congr (congrArg Store.spaces hsame) (congrArg Store.occupancies hsame) hn
  | conflict _ _ _ _ _ hcommitted =>
    have hsame := hcommitted.trans hdecided.committed
    exact h.congr (congrArg Store.spaces hsame) (congrArg Store.occupancies hsame) hn
  | stored hwet _ _ hcommitted _ hdrawn =>
    by_cases hopens : opensSession e v
    · rw [recordedStore_opens hopens] at hcommitted
      have hlow : w.nextId ≤ w₂.nextId := hdecided.drawn
      have hhigh := hdrawn hopens
      exact h.entered (s := (insertEvent (eventRow e _ v w₂.nextId)).apply w₂.view) hspaces hocc
        hcommitted (by omega) (by omega)
    · by_cases hreleases : releases e v
      · rw [recordedStore_releases hreleases] at hcommitted
        set r := e.readingIn cfg gate clk (.fresh w.committed w.nextId w.tick) with hr
        set s₁ := (insertEvent (eventRow e r v w₂.nextId)).apply w₂.view with hs₁
        -- the occupancy that is released is the one the condition speaks of
        have hfound : r.released s₁ = (e.vehicle cfg w.committed).bind fun v =>
            latestOccupancy v.id w.committed := by
          have hsame : s₁.occupancies = w.committed.occupancies := hocc
          simp [Reading.released, hr, PlateEvent.readingIn, PlateEvent.reading, latestOccupancy,
            hsame]
        cases hreleased : r.released s₁ with
        | none =>
          rw [exitStore_of_none hreleased] at hcommitted
          exact h.congr ((congrArg Store.spaces hcommitted).trans hspaces)
            ((congrArg Store.occupancies hcommitted).trans hocc) hn
        | some o =>
          rw [exitStore_of_some hreleased] at hcommitted
          have hlatest := hfound.symm.trans hreleased
          obtain ⟨vehicle, _, hmem⟩ := Option.bind_eq_some_iff.1 hlatest
          exact h.vacated (s := s₁) hspaces hocc (latestOccupancy_mem hmem).1
            (halone o ⟨hwet, hnew, ⟨gate, base, w₁, v, w₂, hdecided, hreleases⟩, hlatest⟩)
            hcommitted hn
      · rw [recordedStore_neither hopens hreleases] at hcommitted
        exact h.congr ((congrArg Store.spaces hcommitted).trans hspaces)
          ((congrArg Store.occupancies hcommitted).trans hocc) hn

/-- **Step**: an operation whose release finds nobody else keeps every space truthful. -/
theorem YardOp.keeps (cfg : Config) (clk : ℕ → ℤ) (op : YardOp) (w : Session Store)
    (hop : op.ReleasesAlone cfg clk w) (h : YardInv w) :
    YardInv ((op.handler cfg).after clk w) := by
  cases op with
  | plateEvent e =>
    rcases hexec : (processPlateEvent cfg e).exec clk (.fresh w.committed w.nextId w.tick) with
      ⟨exc | resp, w'⟩
    · rw [Prog.after_of_exec (p := YardOp.handler cfg (.plateEvent e))
        (Prog.exec_bind_of_error hexec)]
      have hsame := processPlateEvent_error hexec
      have hn := Prog.exec_nextId_le clk (processPlateEvent cfg e)
        (.fresh w.committed w.nextId w.tick)
      rw [hexec] at hn
      exact h.congr (congrArg Store.spaces hsame) (congrArg Store.occupancies hsame) hn
    · rw [Prog.after_of_exec (p := YardOp.handler cfg (.plateEvent e))
        (Prog.exec_bind_of_ok hexec)]
      have hn := Prog.exec_nextId_le clk (processPlateEvent cfg e)
        (.fresh w.committed w.nextId w.tick)
      rw [hexec] at hn
      cases hnew : eventByKey e.key w.committed with
      | some ev =>
        obtain ⟨hsame, _⟩ := processPlateEvent_duplicate
          (w := .fresh w.committed w.nextId w.tick) rfl hnew hexec
        exact h.congr (congrArg Store.spaces hsame) (congrArg Store.occupancies hsame) hn
      | none =>
        obtain ⟨gate, base, w₁, v, w₂, hdecided, hending⟩ := processPlateEvent_ok rfl rfl hnew hexec
        have h' := h.ending hnew hdecided hending hn hop
        exact ⟨h'.spaces, h'.distinct, h'.below⟩
  | createAssignment body =>
    exact h.assigned ((allWrites_createAssignment body).bind fun _ => trivial)
  | closeAssignment assignmentId => exact h.assigned (allWrites_closeAssignment assignmentId)
  | vacate occupancyId =>
    cases hfound : occupancyById occupancyId w.committed with
    | none =>
      have hexec : (vacateOccupancy occupancyId).exec clk (.fresh w.committed w.nextId w.tick) =
          (.error (.app .notFound), .fresh w.committed w.nextId w.tick) := by
        refine (Prog.exec_bind_of_ok (Prog.exec_select clk _ rfl)).trans ?_
        simp [hfound]
      rw [Prog.after_of_exec (p := YardOp.handler cfg (.vacate occupancyId)) hexec]
      exact h.congr rfl rfl (Nat.le_refl _)
    | some o =>
      have hexec := exec_vacateOccupancy clk (w := .fresh w.committed w.nextId w.tick) rfl hfound
      rw [Prog.after_of_exec (p := YardOp.handler cfg (.vacate occupancyId)) hexec]
      exact h.vacated rfl rfl (List.mem_of_find?_eq_some hfound) (hop o hfound) rfl
        (Nat.le_refl _)

/-! ## Vacating again -/

/-- Every space and every occupancy has the status it had. -/
structure SameStatuses (s s' : Store) : Prop where
  spaces : s'.spaces.map (fun sp => (sp.id, sp.status)) = s.spaces.map fun sp => (sp.id, sp.status)
  occupancies : s'.occupancies.map (fun o => (o.id, o.status)) =
    s.occupancies.map fun o => (o.id, o.status)

/-- **Vacating again** changes nothing where nobody else uses the space. -/
theorem YardInv.vacated_again (h : YardInv w) (ho : o ∈ w.committed.occupancies)
    (hvacated : o.status = .vacated) (halone : Alone o w.committed) :
    SameStatuses w.committed (vacatedStore o now w.committed) where
  occupancies := by
    rw [vacatedStore, spaceFreed_occupancies]
    refine map_updateWhere_of_mem fun q hq hid => ?_
    have hid : q.id = o.id := by simpa using hid
    obtain rfl := List.inj_on_of_nodup_map h.distinct hq ho hid
    rw [hvacated]
  spaces := by
    unfold vacatedStore spaceFreed
    split
    · rfl
    · rename_i spaceId hspace
      split
      · refine map_updateWhere_of_mem fun sp hsp hid => ?_
        have hid : sp.id = spaceId := by simpa using hid
        -- nobody uses the space, so it is FREE already
        have hunused : Unused sp.id w.committed := by
          intro q hq huses
          have hsame := halone spaceId hspace q hq (hid ▸ huses)
          obtain rfl := List.inj_on_of_nodup_map h.distinct hq ho hsame
          rw [huses.1] at hvacated
          cases hvacated
        rw [(h.spaces sp hsp).2 hunused]
      · rfl

/-! ## Every run -/

/-- **Truthful spaces**: from a yard with nothing inside, along every sequence of operations
whose releases find nobody else in the space, a space is FREE exactly where no OCCUPIED
occupancy refers to it, and vacating again what is VACATED changes no status. -/
theorem spaces_true_run (cfg : Config) (clk : ℕ → ℤ) (ops : List YardOp) (w w' : Session Store)
    (hempty : w.committed.occupancies = []) (hfree : ∀ sp ∈ w.committed.spaces, sp.status = "FREE")
    (hops : Prog.EachMeets clk (YardOp.handler cfg) (YardOp.ReleasesAlone cfg clk) ops w)
    (hrun : Prog.afterEach clk (YardOp.handler cfg) ops w = w') :
    SpacesTrue w'.committed ∧ ∀ id o, occupancyById id w'.committed = some o →
      o.status = .vacated → (YardOp.vacate id).ReleasesAlone cfg clk w' →
        SameStatuses w'.committed ((YardOp.handler cfg (.vacate id)).after clk w').committed := by
  have hstart : YardInv w := by
    refine ⟨fun sp hsp => ?_, by simp [hempty], by simp [hempty]⟩
    simp [hfree sp hsp, Unused, hempty]
  have hinv : YardInv w' := hrun ▸ hops.invariant (YardOp.keeps cfg clk) hstart
  refine ⟨hinv.spaces, fun id o hfound hvacated halone => ?_⟩
  have hexec := exec_vacateOccupancy clk (w := .fresh w'.committed w'.nextId w'.tick) rfl hfound
  rw [Prog.after_of_exec (p := YardOp.handler cfg (.vacate id)) hexec]
  exact hinv.vacated_again (List.mem_of_find?_eq_some hfound) hvacated (halone o hfound)

end

/-! ### A space that changes hands -/

/-- Two vehicles with permits; the space is assigned to the first. -/
def handoverYard : Store :=
  { gates := [{ id := "g1", code := "G1", name := "North" }]
    vehicles := [{ id := 1, plateNormalized := "12B345IR67", createdAt := 0 },
      { id := 2, plateNormalized := "34B345IR67", createdAt := 0 }]
    permits := [{ id := 3, plateNormalized := "12B345IR67", createdAt := 0 },
      { id := 4, plateNormalized := "34B345IR67", createdAt := 0 }]
    spaces := [{ id := 5, code := "P1" }]
    assignments := [{ id := 6, parkingSpaceId := 5, vehicleId := some 1 }] }

/-- An event of a plate under a source identifier. -/
def yardEvent (direction plateRaw sourceEventId : String) : YardOp :=
  .plateEvent { gateCode := "G1", direction, plateRaw, sourceEventId }

/-- The first vehicle comes and goes, and its occupancy is vacated once more. -/
def oneVisit : List YardOp :=
  [yardEvent "IN" "12ب34567" "1", yardEvent "OUT" "12ب34567" "2", .vacate 13]

/-- The first vehicle is inside, the space is assigned to the second one, which comes in; then
the first one leaves. -/
def handover : List YardOp :=
  [yardEvent "IN" "12ب34567" "1", .closeAssignment 6,
    .createAssignment { parkingSpaceId := 5, vehicleId := some 2 },
    yardEvent "IN" "34ب34567" "2", yardEvent "OUT" "12ب34567" "3"]

/-- Where every occupancy is alone, so is the one that is released. -/
theorem releasesAlone_of_all {cfg : Config} {clk : ℕ → ℤ} {w : Session Store}
    (h : ∀ o ∈ w.committed.occupancies, Alone o w.committed) (op : YardOp) :
    op.ReleasesAlone cfg clk w := by
  cases op with
  | plateEvent e =>
    rintro o ⟨_, _, _, hlatest⟩
    obtain ⟨vehicle, _, hmem⟩ := Option.bind_eq_some_iff.1 hlatest
    exact h o (latestOccupancy_mem hmem).1
  | vacate occupancyId => exact fun o hfound => h o (List.mem_of_find?_eq_some hfound)
  | _ => trivial

theorem spaces_true_run_oneVisit :
    ∃ w', Prog.afterEach (fun _ => 0) (YardOp.handler {}) oneVisit (.fresh handoverYard 10 0) = w' ∧
      SpacesTrue w'.committed := by
  refine ⟨_, rfl, (spaces_true_run {} (fun _ => 0) oneVisit (.fresh handoverYard 10 0) _ rfl
    (by decide) ⟨?_, ?_, ?_, trivial⟩ rfl).1⟩
  · exact releasesAlone_of_all (by decide) _
  · exact releasesAlone_of_all (by decide +kernel) _
  · exact releasesAlone_of_all (by decide +kernel) _

/-- **A space that is FREE while somebody is in it** -/
theorem space_free_in_use :
    ¬ ∀ (cfg : Config) (clk : ℕ → ℤ) (ops : List YardOp) (w w' : Session Store),
      w.committed.occupancies = [] → (∀ sp ∈ w.committed.spaces, sp.status = "FREE") →
      Prog.afterEach clk (YardOp.handler cfg) ops w = w' →
      SpacesTrue w'.committed ∧ ∀ id o, occupancyById id w'.committed = some o →
        o.status = .vacated →
          SameStatuses w'.committed ((YardOp.handler cfg (.vacate id)).after clk w').committed := by
  intro h
  have htrue := (h {} (fun _ => 0) handover (.fresh handoverYard 10 0) _ rfl (by decide) rfl).1
  revert htrue
  decide +kernel

end ParkingSystem
