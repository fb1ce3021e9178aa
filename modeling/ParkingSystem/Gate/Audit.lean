import ParkingSystem.Gate.Statements
import ParkingSystem.Library.Scheduler

/-!
# The Audit Trail

Every plate event that is answered leaves an access event under its key, and no key has two.

## What carries it

An event is inserted under a key whose lock is held until the commit, so a key that was free
at the insert is free at the commit. A conflict on the key is answered from the event that is
stored under it. A conflict on the index of open sessions is answered from a session, after a
rollback that took the event with it: this is the one answer without an event, and the
condition `NoOpenSession` on a run excludes it.
-/

namespace ParkingSystem

open Plate Table Transaction

/-! ## Rely and guarantee -/

/-- The keys under which events are stored. -/
def eventKeys (s : Store) : List String := s.events.map AccessEvent.idempotencyKey

/-- What a transaction that holds `H` relies on: stored events stay, a key it locked while it
was free stays free, and no key gets a second event. -/
structure AuditRely (H : Held Lock) (s s' : Store) : Prop where
  grows : s.events ⊆ s'.events
  free : ∀ key, .eventKey key ∈ H.locks → key ∉ eventKeys s → key ∉ eventKeys s'
  unique : (eventKeys s).Nodup → (eventKeys s').Nodup

/-- What a transaction that held `H` did: it stored events under keys it had locked. -/
structure AuditGuarantee (H : Held Lock) (s s' : Store) : Prop where
  grows : s.events ⊆ s'.events
  free : ∀ key, .eventKey key ∉ H.locks → key ∉ eventKeys s → key ∉ eventKeys s'
  unique : (eventKeys s).Nodup → (eventKeys s').Nodup

namespace AuditRely

theorem of_same {s s' : Store} (h : s'.events = s.events) (H : Held Lock) :
    AuditRely H s s' := by
  constructor <;> simp [eventKeys, h]

theorem refl (H : Held Lock) (s : Store) : AuditRely H s s := of_same rfl H

theorem trans (H : Held Lock) (s₁ s₂ s₃ : Store) (h : AuditRely H s₁ s₂)
    (h' : AuditRely H s₂ s₃) : AuditRely H s₁ s₃ where
  grows := List.Subset.trans h.grows h'.grows
  free key hl hfree := h'.free key hl (h.free key hl hfree)
  unique hs := h'.unique (h.unique hs)

theorem key_mem {H : Held Lock} {s s' : Store} (h : AuditRely H s s') {key : String}
    (hkey : key ∈ eventKeys s) : key ∈ eventKeys s' :=
  List.map_subset _ h.grows hkey

end AuditRely

/-! ## Uncommitted events -/

/-- The pending updates append `left` to the events, under locked keys that are free. -/
structure Appends (left : List AccessEvent) (pend : Store → Store) (H : Held Lock)
    (s : Store) : Prop where
  adds : ∀ x, (pend x).events = x.events ++ left
  locked : ∀ ev ∈ left, .eventKey ev.idempotencyKey ∈ H.locks
  free : ∀ ev ∈ left, ev.idempotencyKey ∉ eventKeys s
  distinct : (left.map AccessEvent.idempotencyKey).Nodup

/-- The same, of a transaction that may be broken: then what it left is gone anyway. -/
def Pending (left : List AccessEvent) (pend : Store → Store) (b : Bool) (H : Held Lock)
    (s : Store) : Prop := b = false → Appends left pend H s

/-- Some events are pending, all under keys of `K`. -/
def Uncommitted (K : List String) (pend : Store → Store) (b : Bool) (H : Held Lock)
    (s : Store) : Prop :=
  ∃ left, Pending left pend b H s ∧ left.map AccessEvent.idempotencyKey ⊆ K

section

variable {left : List AccessEvent} {K : List String} {pend : Store → Store} {b : Bool}
  {H : Held Lock} {s s' : Store}

/-- A transaction that has done nothing yet. -/
theorem appends_nil (s : Store) : Appends [] id {} s := by constructor <;> simp

theorem uncommitted_nil (K : List String) (b : Bool) (s : Store) : Uncommitted K id b {} s :=
  ⟨[], fun _ => appends_nil s, by simp⟩

/-- Nothing of a broken transaction will be committed. -/
theorem uncommitted_broken (K : List String) (pend : Store → Store) (H : Held Lock)
    (s : Store) : Uncommitted K pend true H s :=
  ⟨[], (fun hb => by cases hb), by simp⟩

theorem Appends.stable (h : Appends left pend H s) (hR : AuditRely H s s') :
    Appends left pend H s' :=
  { h with free := fun ev hev => hR.free _ (h.locked ev hev) (h.free ev hev) }

theorem Pending.stable (h : Pending left pend b H s) (hR : AuditRely H s s') :
    Pending left pend b H s' := fun hb => (h hb).stable hR

theorem Pending.draw (h : Pending left pend b H s) (n : ℕ) : Pending left pend b (H.draw n) s :=
  fun hb => { h hb with }

theorem Uncommitted.stable (h : Uncommitted K pend b H s) (hR : AuditRely H s s') :
    Uncommitted K pend b H s' := by
  obtain ⟨left, hp, hK⟩ := h
  exact ⟨left, hp.stable hR, hK⟩

theorem Uncommitted.mono {K' : List String} (h : Uncommitted K pend b H s) (hK : K ⊆ K') :
    Uncommitted K' pend b H s := by
  obtain ⟨left, hp, hleft⟩ := h
  exact ⟨left, hp, List.Subset.trans hleft hK⟩

/-- A statement on other tables. -/
theorem Appends.other (h : Appends left pend H s) {st : Stmt}
    (hst : ∀ x, (st.apply x).events = x.events) :
    Appends left (fun x => st.apply (pend x)) (H.lock st.locks) s where
  adds x := by rw [hst, h.adds]
  locked ev hev := List.mem_append_right _ (h.locked ev hev)
  free := h.free
  distinct := h.distinct

/-- The keys of the view are those committed and those pending. -/
theorem Appends.keys_view (h : Appends left pend H s) (x : Store) :
    eventKeys (pend x) = eventKeys x ++ left.map AccessEvent.idempotencyKey := by
  rw [eventKeys, h.adds, List.map_append, eventKeys]

/-- An event goes in only under a key that is new to the view. -/
theorem insertEvent_new {ev : AccessEvent} {v : Store} (h : (insertEvent ev).check v = none) :
    ev.idempotencyKey ∉ eventKeys v := by
  intro hmem
  obtain ⟨other, hother, hkey⟩ := List.mem_map.1 hmem
  have hany : (v.events.any fun o => o.idempotencyKey == ev.idempotencyKey) = true :=
    List.any_eq_true.2 ⟨other, hother, beq_iff_eq.2 hkey⟩
  simp only [insertEvent, hany] at h
  split at h <;> simp at h

/-- An event in conflict has a key that is taken. -/
theorem insertEvent_conflict {ev : AccessEvent} {v : Store}
    (h : (insertEvent ev).check v = some .integrity) : ev.idempotencyKey ∈ eventKeys v := by
  simp only [insertEvent] at h
  split at h
  · cases h
  · split at h
    · rename_i hany
      obtain ⟨other, hother, hkey⟩ := List.any_eq_true.1 hany
      exact List.mem_map.2 ⟨other, hother, beq_iff_eq.1 hkey⟩
    · cases h

/-- A session in conflict has no plate, or one with an open session. -/
theorem insertSession_conflict {n : NewSession} {v : Store}
    (h : (insertSession n).check v = some .integrity) :
    ∀ plate ∈ n.plate, openSessions plate v ≠ [] := by
  intro plate hplate hopen
  have hsome : n.plate = some plate := hplate
  simp only [insertSession, hsome, hopen] at h
  split at h <;> simp at h

/-- The insert of an event whose key is new to the view. -/
theorem Appends.insertEvent (h : Appends left pend H s) {ev : AccessEvent}
    (hnew : ev.idempotencyKey ∉ eventKeys (pend s)) :
    Appends (left ++ [ev]) (fun x => (insertEvent ev).apply (pend x))
      (H.lock (insertEvent ev).locks) s := by
  rw [h.keys_view, List.mem_append, not_or] at hnew
  refine ⟨fun x => ?_, fun ev' hev' => ?_, fun ev' hev' => ?_, ?_⟩
  · show (pend x).events ++ [ev] = x.events ++ (left ++ [ev])
    rw [h.adds, List.append_assoc]
  · rcases List.mem_append.1 hev' with hev' | hev'
    · exact List.mem_append_right _ (h.locked ev' hev')
    · obtain rfl := List.mem_singleton.1 hev'
      exact List.mem_append_left _ (List.mem_singleton.2 rfl)
  · rcases List.mem_append.1 hev' with hev' | hev'
    · exact h.free ev' hev'
    · obtain rfl := List.mem_singleton.1 hev'
      exact hnew.1
  · rw [List.map_append, List.nodup_append]
    refine ⟨h.distinct, List.nodup_singleton _, fun a ha k hk => ?_⟩
    obtain rfl := List.mem_singleton.1 hk
    exact fun heq => hnew.2 (heq ▸ ha)

/-- **Commit**: the appended events keep what the others rely on. -/
theorem Appends.commit (h : Appends left pend H s) : AuditGuarantee H s (pend s) where
  grows ev hev := by
    rw [h.adds]
    exact List.mem_append_left _ hev
  free key hl hfree := by
    rw [h.keys_view, List.mem_append, not_or]
    refine ⟨hfree, fun hmem => ?_⟩
    obtain ⟨ev, hev, rfl⟩ := List.mem_map.1 hmem
    exact hl (h.locked ev hev)
  unique hs := by
    rw [h.keys_view, List.nodup_append]
    refine ⟨hs, h.distinct, fun a ha k hk heq => ?_⟩
    obtain ⟨ev, hev, rfl⟩ := List.mem_map.1 hk
    exact h.free ev hev (heq ▸ ha)

end

/-! ## Parts of the handler -/

/-- A statement that leaves the events alone. -/
def KeepsEvents (st : Stmt) : Prop := ∀ x, (st.apply x).events = x.events

theorem ReadingStmt.keepsEvents {st : Stmt} (h : ReadingStmt st) : KeepsEvents st := by
  cases h
  exact fun _ => rfl

theorem DecisionStmt.keepsEvents {st : Stmt} (h : DecisionStmt st) : KeepsEvents st := by
  cases h <;> exact fun _ => rfl

theorem SpaceStmt.keepsEvents {st : Stmt} (h : SpaceStmt st) : KeepsEvents st := by
  cases h <;> exact fun _ => rfl

theorem EntryStmt.keepsEvents {st : Stmt} (h : EntryStmt st) : KeepsEvents st := by
  cases h with
  | session n => exact fun _ => rfl
  | occupancy o => exact fun _ => rfl
  | space h => exact h.keepsEvents

theorem ExitStmt.keepsEvents {st : Stmt} (h : ExitStmt st) : KeepsEvents st := by
  cases h with
  | occupancy id now => exact fun _ => rfl
  | space h => exact h.keepsEvents

section

variable {ρ : Regime Store Label} {left : List AccessEvent} {K : List String}
  {pend : Store → Store} {b : Bool} {H : Held Lock} {s : Store} {α : Type}

/-- The handler is safe for the audit trail. -/
abbrev Audits (ρ : Regime Store Label) (Q : Post Store Lock AppError α) (p : Handler α)
    (pend : Store → Store) (b : Bool) (H : Held Lock) (s : Store) : Prop :=
  p.Safe ρ AuditRely AuditGuarantee Q pend b H s

/-- A part that leaves the events alone. -/
theorem audits_neutral {p : Handler α} (hp : p.WritesOnly KeepsEvents)
    (h : Pending left pend b H s) :
    Audits ρ (fun _ pend b H s => Pending left pend b H s) p pend b H s :=
  Prog.WritesOnly.safe_of (fun _ _ _ _ _ hI hR => hI.stable hR)
    (fun _ _ _ _ n hI => hI.draw n) (fun _ _ _ _ _ hb => by cases hb)
    (fun _ _ _ _ hst hI _ => (hI rfl).other hst) hp h

/-! ### What cannot conflict -/

/-- Not a conflict on a unique index. -/
abbrev NoConflict (exc : Exc AppError) : Prop := exc ≠ .rejected .integrity

theorem noConflict_pendingRollback : NoConflict .pendingRollback := by decide

/-- A statement without constraints raises only on a broken transaction. -/
theorem raises_unchecked {st : Stmt} (h : ∀ x, st.check x = none) :
    (Prog.flush st : Handler Unit).Raises NoConflict :=
  Prog.raises_flush noConflict_pendingRollback fun x r hr => by simp [h x] at hr

theorem raises_select {f : Store → α} : (Prog.select f : Handler α).Raises NoConflict :=
  Prog.raises_select f noConflict_pendingRollback

theorem raises_takeSpace (space : ParkingSpace) : (takeSpace space).Raises NoConflict := by
  refine (raises_unchecked fun _ => rfl).bind fun _ => raises_select.bind fun row => ?_
  split_ifs
  · exact fun h => by cases h
  all_goals first
    | trivial
    | exact (raises_unchecked fun _ => rfl).bind fun _ => trivial

theorem raises_occupySpace (e : PlateEvent) (r : Reading) (eventId : ℕ) :
    (occupySpace e r eventId).Raises NoConflict := by
  have hfind : (findAssignedSpace r.vehicle).Raises NoConflict := by
    cases r.vehicle with
    | none => trivial
    | some v => exact raises_select
  refine hfind.bind fun space => ?_
  refine Prog.Raises.bind (fun _ => trivial) fun _ => ?_
  refine (raises_unchecked fun _ => rfl).bind fun _ => ?_
  cases space with
  | none => trivial
  | some space => exact raises_takeSpace space

theorem raises_recordExit (e : PlateEvent) (r : Reading) (v : Verdict) :
    (recordExit e r v).Raises NoConflict := by
  have hfree (id : Option ℕ) : (freeSpace id).Raises NoConflict := by
    cases id with
    | none => trivial
    | some id =>
      refine raises_select.bind fun space => ?_
      split
      · exact raises_unchecked fun _ => rfl
      · trivial
  unfold recordExit
  split
  · cases r.vehicle with
    | none => trivial
    | some vehicle =>
      refine raises_select.bind fun occupancy => ?_
      cases occupancy with
      | none => trivial
      | some o => exact (raises_unchecked fun _ => rfl).bind fun _ => hfree _
  · trivial

/-! ## Recording -/

/-- The condition on a run: no session is inserted while its plate has an OPEN one. -/
def NoOpenSession : Label → Store → Prop
  | .insertSession (some plate), v => openSessions plate v = []
  | _, _ => True

/-- The runs of a regime meet the condition. -/
def Guarded (ρ : Regime Store Label) : Prop :=
  ∀ l v, ρ.allowed l v → NoOpenSession l v

/-- An answer is backed by a committed event where the run is guarded and nothing uncommitted
has the key already. -/
def Backed (ρ : Regime Store Label) (K : List String) (e : PlateEvent) : Prop :=
  Guarded ρ ∧ e.key ∉ K

/-- What recording an event ends with: the event is committed under its key, or there was a
conflict, where it matters one on the key or a session without a plate, or it failed
otherwise. -/
structure RecordPost (backed : Prop) (K : List String) (e : PlateEvent) (r : Reading)
    (v : Verdict) (res : Except (Exc AppError) Recorded) (pend : Store → Store) (b : Bool)
    (H : Held Lock) (s : Store) : Prop where
  uncommitted : Uncommitted (e.key :: K) pend b H s
  recorded : ∀ rec, res = .ok rec →
    rec.event ∈ s.events ∧ rec.event.idempotencyKey = e.key ∧ rec.event.decision = v.decision
  conflict : res = .error (.rejected .integrity) → backed →
    r.normalized = none ∨ e.key ∈ eventKeys s

/-- A failure that is no conflict. -/
theorem RecordPost.failed {backed : Prop} {e : PlateEvent} {r : Reading} {v : Verdict}
    {exc : Exc AppError} (h : Uncommitted (e.key :: K) pend b H s) (hexc : NoConflict exc) :
    RecordPost backed K e r v (.error exc) pend b H s where
  uncommitted := h
  recorded _ hrec := by cases hrec
  conflict hexc' := by
    cases hexc'
    exact absurd rfl hexc

/-- Opening the session of an entry meets a conflict only on the index of open sessions. -/
theorem audits_recordEntry (e : PlateEvent) (r : Reading) (v : Verdict) (eventId : ℕ)
    (h : Pending left pend b H s) :
    Audits ρ (fun res pend b H s => Pending left pend b H s ∧
      (res = .error (.rejected .integrity) → Guarded ρ → r.normalized = none))
      (recordEntry e r v eventId) pend b H s := by
  unfold recordEntry
  split
  · refine Prog.safe_newId fun s₁ id hR₁ _ => ?_
    refine Prog.safe_flush ?_ ?_ ?_
    · exact fun _ _ _ _ _ => ⟨(fun hb => by cases hb), fun hres => by cases hres⟩
    · -- the insert was refused
      refine fun _ rej s₂ s₃ _ _ ha hc => ⟨(fun hb => by cases hb), fun hres hguard => ?_⟩
      cases hres
      have hopen := hguard _ _ ha
      cases hplate : r.normalized with
      | none => rfl
      | some plate =>
        simp only [insertSession, entrySession, hplate, NoOpenSession] at hopen
        exact absurd hopen (insertSession_conflict hc plate hplate)
    · intro hb s₂ hR₂ _ _
      have h₂ : Pending left (fun x => (insertSession (entrySession e r eventId id)).apply (pend x))
          false ((H.draw id).lock (insertSession (entrySession e r eventId id)).locks) s₂ :=
        fun _ => Appends.other (((h.stable hR₁).draw id).stable hR₂ hb) fun _ => rfl
      have hneutral := audits_neutral (ρ := ρ)
        ((writesOnly_occupySpace e r eventId).mono fun _ h => h.keepsEvents) h₂
      refine ((raises_occupySpace e r eventId).safe hneutral).mono fun res _ _ _ _ hQ => ?_
      exact ⟨hQ.1, fun hres => absurd rfl (hQ.2 _ hres)⟩
  · exact fun s' hR => ⟨h.stable hR, fun hres => by cases hres⟩

theorem audits_recordEvent (e : PlateEvent) (r : Reading) (v : Verdict)
    (h : Pending left pend b H s) (hK : left.map AccessEvent.idempotencyKey ⊆ K) :
    Audits ρ (RecordPost (Backed ρ K e) K e r v) (recordEvent e r v) pend b H s := by
  refine Prog.safe_newId fun s₁ id hR₁ _ => ?_
  refine Prog.safe_flush ?_ ?_ ?_
  · exact fun _ _ _ _ _ => .failed (uncommitted_broken _ _ _ _) noConflict_pendingRollback
  · -- the event was refused: its key is taken, by an event that is committed
    refine fun hb rej s₂ s₃ hR₂ hR₃ _ hc => ⟨uncommitted_broken _ _ _ _, ?_, ?_⟩
    · exact fun rec hrec => by cases hrec
    · intro hres hbacked
      cases hres
      have hview : e.key ∈ eventKeys (pend s₂) := insertEvent_conflict hc
      have happ := ((h.stable hR₁).draw id).stable hR₂ hb
      rw [happ.keys_view, List.mem_append] at hview
      exact .inr (AuditRely.key_mem hR₃ (hview.resolve_right fun hleft => hbacked.2 (hK hleft)))
  · intro hb s₂ hR₂ _ hc
    have happ := ((h.stable hR₁).draw id).stable hR₂ hb
    have h₂ := happ.insertEvent (insertEvent_new hc)
    have hsub : (left ++ [eventRow e r v id]).map AccessEvent.idempotencyKey ⊆ e.key :: K := by
      rw [List.map_append]
      exact List.append_subset.2 ⟨List.Subset.trans hK (List.subset_cons_self _ _), by simp [eventRow]⟩
    refine Prog.Safe.bind AuditRely.refl (audits_recordEntry e r v id fun _ => h₂) ?_ ?_
    · rintro ⟨parking, warnings⟩ pend₃ b₃ H₃ s₃ ⟨h₃, -⟩
      have hexit := audits_neutral (ρ := ρ)
        ((writesOnly_recordExit e r v).mono fun _ h => h.keepsEvents) h₃
      refine Prog.Safe.bind AuditRely.refl ((raises_recordExit e r v).safe hexit) ?_ ?_
      · rintro ⟨⟩ pend₄ b₄ H₄ s₄ ⟨h₄, -⟩
        refine Prog.safe_commit
          (fun _ _ _ _ _ => .failed (uncommitted_broken _ _ _ _) noConflict_pendingRollback) ?_
        intro hb₄ s₅ hR₅
        have h₅ := h₄.stable hR₅ hb₄
        refine ⟨h₅.commit, fun s₆ hR₆ => ⟨uncommitted_nil _ _ _, ?_, fun hres => by cases hres⟩⟩
        -- the event is stored with the commit, and stays
        intro rec hrec
        cases hrec
        refine ⟨hR₆.grows ?_, rfl, rfl⟩
        rw [h₅.adds]
        simp
      · intro exc pend₄ b₄ H₄ s₄ hQ
        exact .failed ⟨_, hQ.1, hsub⟩ (hQ.2 _ rfl)
    · intro exc pend₃ b₃ H₃ s₃ hQ
      refine ⟨⟨_, hQ.1, hsub⟩, (fun rec hrec => by cases hrec), fun hres hbacked => ?_⟩
      exact .inl (hQ.2 (by cases hres; rfl) hbacked.1)

/-! ## Answering -/

/-- An event is stored under the key of the request, and the barrier does what it says. -/
def StoredAs (e : PlateEvent) (barrier : BarrierAction) (s : Store) : Prop :=
  ∃ ev ∈ s.events, ev.idempotencyKey = e.key ∧ barrierActionFor ev.decision = barrier

theorem StoredAs.grows {e : PlateEvent} {barrier : BarrierAction} {s s' : Store}
    (hgrows : s.events ⊆ s'.events) (h : StoredAs e barrier s) : StoredAs e barrier s' := by
  obtain ⟨ev, hev, hkey⟩ := h
  exact ⟨ev, hgrows hev, hkey⟩

/-- What processing a plate event ends with: whatever is still uncommitted is under its key or
was there before, and in a guarded run an answer that is not a dry run's is backed by a stored
event. -/
structure AuditPost (backed : Prop) (K : List String) (e : PlateEvent)
    (res : Except (Exc AppError) GateResponse) (pend : Store → Store) (b : Bool)
    (H : Held Lock) (s : Store) : Prop where
  uncommitted : Uncommitted (e.key :: K) pend b H s
  stored : backed → ∀ resp, res = .ok resp → e.dryRun = false →
    StoredAs e resp.barrierAction s

/-- An exception stores nothing and promises nothing. -/
theorem AuditPost.failed {backed : Prop} {e : PlateEvent} {exc : Exc AppError}
    (h : Uncommitted (e.key :: K) pend b H s) :
    AuditPost backed K e (.error exc) pend b H s where
  uncommitted := h
  stored _ _ hres := by cases hres

/-- A reading part that answers with the barrier of a stored event. -/
theorem audits_answer {e : PlateEvent} {id : Option ℕ} {event : AccessEvent}
    {p : Handler GateResponse} (hp : p.ReadOnly) (hret : p.Returns (AnswersFor event id))
    (h : Pending left pend b H s) (hK : left.map AccessEvent.idempotencyKey ⊆ e.key :: K)
    (hst : Backed ρ K e → StoredAs e (barrierActionFor event.decision) s) :
    Audits ρ (AuditPost (Backed ρ K e) K e) p pend b H s := by
  have hpart := (audits_neutral (ρ := ρ) hp.writesOnly h).carry
    (F := fun s => Backed ρ K e → StoredAs e (barrierActionFor event.decision) s)
    (fun _ _ _ hR hst hbacked => StoredAs.grows hR.grows (hst hbacked))
    (fun _ _ _ hG hst hbacked => StoredAs.grows hG.grows (hst hbacked)) hst
  refine (hret.safe hpart).mono fun res _ _ _ _ hQ => ?_
  exact ⟨⟨_, hQ.1.1, hK⟩, fun hbacked resp hres _ => (hQ.2 resp hres).barrier ▸ hQ.1.2 hbacked⟩

theorem audits_recoverConflict (e : PlateEvent) (r : Reading)
    (h : Backed ρ K e → r.normalized = none ∨ e.key ∈ eventKeys s) :
    Audits ρ (AuditPost (Backed ρ K e) K e) (recoverConflict e r) pend b H s := by
  refine Prog.safe_rollback fun s₁ hR₁ => ?_
  refine Prog.safe_select (fun hb => by cases hb) fun _ s₂ hR₂ => ?_
  have hkeys : e.key ∈ eventKeys s → e.key ∈ eventKeys s₂ := fun hmem =>
    AuditRely.key_mem hR₂ (AuditRely.key_mem hR₁ hmem)
  cases hdup : eventByKey e.key s₂ with
  | some event =>
    -- the event that took the key answers for this one
    obtain ⟨hmem, hkey⟩ := eventByKey_mem hdup
    simp only [id_eq, hdup]
    exact audits_answer (readOnly_duplicateResponse _ _ _) (returns_duplicateResponse _ _ _)
      (fun _ => appends_nil s₂) (by simp) fun _ => ⟨event, hmem, hkey, rfl⟩
  | none =>
    have hfree : e.key ∉ eventKeys s₂ := fun hmem => by
      obtain ⟨ev, hev, hkey⟩ := List.mem_map.1 hmem
      exact eventByKey_eq_none.1 hdup ev hev hkey
    simp only [id_eq, hdup]
    -- where it matters the plate is missing, and there is no session to answer from
    have hplate : Backed ρ K e → r.normalized = none := fun hbacked =>
      (h hbacked).resolve_right fun hmem => hfree (hkeys hmem)
    have hret : (conflictSession e r).Returns fun session =>
        Backed ρ K e → session = none := by
      unfold conflictSession
      split
      · rename_i plate hsome
        have hnot : ¬ Backed ρ K e := fun hbacked => by simp [hplate hbacked] at hsome
        exact (Prog.returns_true _).mono fun _ _ hbacked => absurd hbacked hnot
      · exact fun _ => rfl
    have hpart := audits_neutral (ρ := ρ) (readOnly_conflictSession e r).writesOnly
      (fun _ => appends_nil s₂ : Pending [] id false {} s₂)
    refine Prog.Safe.bind AuditRely.refl (hret.safe hpart) ?_ ?_
    · rintro session pend₃ b₃ H₃ s₃ ⟨h₃, hnone⟩
      have huncommitted : Uncommitted (e.key :: K) pend₃ b₃ H₃ s₃ := ⟨[], h₃, by simp⟩
      cases session with
      | none => exact fun s₄ hR₄ => .failed (huncommitted.stable hR₄)
      | some session =>
        refine fun s₄ hR₄ => ⟨huncommitted.stable hR₄, fun hbacked => ?_⟩
        cases hnone _ rfl hbacked
    · exact fun exc _ _ _ _ hQ => .failed ⟨[], hQ.1, by simp⟩

theorem audits_finishEvent (e : PlateEvent) (r : Reading) (v : Verdict)
    (h : Pending left pend b H s) (hK : left.map AccessEvent.idempotencyKey ⊆ K) :
    Audits ρ (AuditPost (Backed ρ K e) K e) (finishEvent e r v) pend b H s := by
  have hK' := List.Subset.trans hK (List.subset_cons_self e.key K)
  unfold finishEvent
  split
  · rename_i hdry
    refine (audits_neutral (readOnly_respond ..).writesOnly h).mono fun _ _ _ _ _ hQ => ?_
    exact ⟨⟨_, hQ, hK'⟩, fun _ _ _ hwet => by simp [hdry] at hwet⟩
  · refine Prog.Safe.bind AuditRely.refl (audits_recordEvent e r v h hK).attempt ?_ ?_
    · rintro recorded pend₁ b₁ H₁ s₁ ⟨_, ⟨⟩, hQ⟩
      obtain ⟨left₁, h₁, hK₁⟩ := hQ.uncommitted
      split
      · rename_i rec
        obtain ⟨hmem, hkey, hdec⟩ := hQ.recorded rec rfl
        exact audits_answer (readOnly_respond e r v _ _ _ _) (returns_respond e r v _ _ _ _) h₁ hK₁
          fun _ => ⟨rec.event, hmem, hkey, rfl⟩
      · exact audits_recoverConflict e r (hQ.conflict rfl)
      · exact fun s₂ hR₂ => .failed (hQ.uncommitted.stable hR₂)
    · rintro exc pend₁ b₁ H₁ s₁ ⟨_, ⟨⟩, _⟩

/-- **The audit trail of one event.** -/
theorem audits_processPlateEvent (cfg : Config) (e : PlateEvent)
    (h : Uncommitted K pend b H s) :
    Audits ρ (AuditPost (Backed ρ K e) K e) (processPlateEvent cfg e) pend b H s := by
  obtain ⟨left, h, hK⟩ := h
  have hK' := List.Subset.trans hK (List.subset_cons_self e.key K)
  have hbroken {s : Store} {H : Held Lock} :
      AuditPost (Backed ρ K e) K e (.error .pendingRollback) pend true H s :=
    .failed (uncommitted_broken _ _ _ _)
  refine Prog.safe_getTime fun s₁ now hR₁ => ?_
  refine Prog.safe_select (fun _ _ _ _ _ => hbroken) fun hb s₂ hR₂ => ?_
  have h₂ := (h.stable hR₁).stable hR₂
  cases hgate : gateByCode e.gateCode (pend s₂) with
  | none => exact fun s₃ hR₃ => .failed ⟨_, h₂.stable hR₃, hK'⟩
  | some gate =>
    simp only []
    refine Prog.safe_select (fun _ _ _ _ _ => hbroken) fun _ s₃ hR₃ => ?_
    have h₃ := h₂.stable hR₃
    cases hdup : eventByKey e.key (pend s₃) with
    | some event =>
      -- an event of the view under this key is committed: what is pending has other keys
      obtain ⟨hmem, hkey⟩ := eventByKey_mem hdup
      have hstored : Backed ρ K e → event ∈ s₃.events := fun hbacked => by
        rw [(h₃ hb).adds, List.mem_append] at hmem
        refine hmem.resolve_right fun hleft => hbacked.2 ?_
        exact hkey ▸ hK (List.mem_map_of_mem hleft)
      exact audits_answer (readOnly_duplicateResponse _ _ _) (returns_duplicateResponse _ _ _)
        h₃ hK' fun hbacked => ⟨event, hstored hbacked, hkey, rfl⟩
    | none =>
      have hread := audits_neutral (ρ := ρ)
        ((writesOnly_readPlate cfg e gate now).mono fun _ h => h.keepsEvents) h₃
      refine Prog.Safe.bind AuditRely.refl hread (fun r pend₄ b₄ H₄ s₄ h₄ => ?_)
        fun exc _ _ _ _ hQ => .failed ⟨_, hQ, hK'⟩
      have hdecide := audits_neutral (ρ := ρ)
        ((writesOnly_decideEvent cfg e r).mono fun _ h => h.keepsEvents) h₄
      exact Prog.Safe.bind AuditRely.refl hdecide
        (fun v _ _ _ _ h₅ => audits_finishEvent e r v h₅ hK)
        fun exc _ _ _ _ hQ => .failed ⟨_, hQ, hK'⟩

end

end ParkingSystem
