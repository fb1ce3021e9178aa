import ParkingSystem.Library.Scheduler
import ParkingSystem.Violations.Offline

/-!
# Delivery of Offline Violations

One device and the server. The device records, its passes send what is pending, and what a call
gets is up to the network: the answer of the server, any HTTP error, or nothing. The server runs
whatever requests arrived, one statement at a time, those of other devices among them; a request
whose answer is lost is processed nevertheless.

## What is shown

The server stores every `client_ref` at most once, in every run. An item is never lost exactly
where no HTTP error reaches the pass as the answer to the violation of a pending item, unless it
rejects the content or the violation is stored already: the device marks the item after any error,
and does not send it again.
-/

namespace ParkingSystem

open Table Transaction

/-! ## The server -/

/-- The `client_ref` of the violations. -/
def violationRefs (s : Store) : List String := s.violations.filterMap Violation.clientRef

/-- The unique index of `client_ref`. -/
def UniqueRefs (s : Store) : Prop := (violationRefs s).Nodup

theorem violationRefs_insert (v : Violation) (s : Store) :
    violationRefs ((insertViolation v).apply s) = violationRefs s ++ v.clientRef.toList := by
  cases h : v.clientRef <;> simp [violationRefs, insertViolation, h]

theorem mem_violationRefs_of_byRef {clientRef : Option String} {s : Store} {v : Violation}
    (h : violationByRef clientRef s = some v) {ref : String} (href : clientRef = some ref) :
    ref ∈ violationRefs s := by
  subst href
  simp only [violationByRef, Option.bind_some] at h
  split at h
  · cases h
  · have hv : v.clientRef = some ref := by simpa using List.find?_some h
    exact List.mem_filterMap.2 ⟨v, List.mem_of_find?_eq_some h, hv⟩

/-- The rest of the system leaves the references alone. -/
def fieldRegime : Regime Store Label where
  isFresh s n := (∀ v ∈ s.violations, v.id ≠ n) ∧ ∀ f ∈ s.files, f.id ≠ n
  allowed _ _ := True
  env s s' := violationRefs s' = violationRefs s

/-- The others take no reference away, keep the index, and store nothing under a locked
reference. -/
def fieldR : Interference Store Lock := fun H s s' =>
  (∀ ref ∈ violationRefs s, ref ∈ violationRefs s') ∧ (UniqueRefs s → UniqueRefs s') ∧
    ∀ ref, .violationClientRef ref ∈ H.locks → ref ∉ violationRefs s → ref ∉ violationRefs s'

/-- A commit stores under locked references only. -/
def fieldG : Interference Store Lock := fun H s s' =>
  (∀ ref ∈ violationRefs s, ref ∈ violationRefs s') ∧ (UniqueRefs s → UniqueRefs s') ∧
    ∀ ref, .violationClientRef ref ∉ H.locks → ref ∉ violationRefs s → ref ∉ violationRefs s'

theorem fieldR_refl (H : Held Lock) (s : Store) : fieldR H s s :=
  ⟨fun _ h => h, id, fun _ _ h => h⟩

theorem fieldR_trans (H : Held Lock) (s₁ s₂ s₃ : Store) (h : fieldR H s₁ s₂) (h' : fieldR H s₂ s₃) :
    fieldR H s₁ s₃ :=
  ⟨fun ref hr => h'.1 ref (h.1 ref hr), fun hs => h'.2.1 (h.2.1 hs),
    fun ref hl hr => h'.2.2 ref hl (h.2.2 ref hl hr)⟩

/-- A store with the same references. -/
theorem fieldG_of_same {H : Held Lock} {s s' : Store} (h : violationRefs s' = violationRefs s) :
    fieldG H s s' := by
  unfold fieldG UniqueRefs
  rw [h]
  exact ⟨fun _ hr => hr, id, fun _ _ hr => hr⟩

/-- The reference under which a request asks for a violation. -/
def FieldRequest.violationRef : FieldRequest → Option String
  | violation body _ => body.clientRef
  | upload _ => none

/-- The violation that a request asks for is stored. -/
def FieldRequest.Stored (request : FieldRequest) (s : Store) : Prop :=
  ∀ ref, request.violationRef = some ref → ref ∈ violationRefs s

/-- An answered request is stored. -/
def fieldPost (request : FieldRequest) : Post Store Lock AppError FieldAnswer := fun r _ _ _ s =>
  ∀ a, r = .ok a → request.Stored s

theorem fieldContract : World.Contract fieldRegime fieldR fieldG
    fun i : ℕ × FieldRequest => fieldPost i.2 where
  refl := fieldR_refl
  trans := fieldR_trans
  env s s' h H := by
    have hsame : violationRefs s' = violationRefs s := h
    unfold fieldR UniqueRefs
    rw [hsame]
    exact ⟨fun _ hr => hr, id, fun _ _ hr => hr⟩
  guarantee H H' s s' hd hG := ⟨hG.1, hG.2.1, fun ref hl => hG.2.2 ref fun hl' => hd.locks _ hl' hl⟩
  aborted _ _ _ h := by cases h
  closed i r pend b H s s' h hR a ha ref href := hR.1 ref (h a ha ref href)

/-! ### The requests are safe -/

/-- Storing under a locked reference that is free keeps the index. -/
theorem fieldG_insert {H : Held Lock} {v : Violation} {s : Store}
    (hlock : ∀ ref, v.clientRef = some ref → .violationClientRef ref ∈ H.locks)
    (hfree : ∀ ref, v.clientRef = some ref → ref ∉ violationRefs s) :
    fieldG H s ((insertViolation v).apply s) := by
  unfold fieldG UniqueRefs
  rw [violationRefs_insert]
  refine ⟨fun ref hr => List.mem_append_left _ hr, fun hs => ?_, fun ref hl hr hmem => ?_⟩
  · have hone : v.clientRef.toList.Nodup := by cases v.clientRef <;> simp
    refine List.nodup_append.2 ⟨hs, hone, fun ref hr ref' hr' heq => ?_⟩
    exact hfree ref' (Option.mem_toList.1 hr') (heq ▸ hr)
  · rcases List.mem_append.1 hmem with hmem | hmem
    · exact hr hmem
    · exact hl (hlock ref (Option.mem_toList.1 hmem))

/-- What a flush of a violation found free. -/
theorem insertViolation_free {v : Violation} {s : Store} (h : (insertViolation v).check s = none)
    {ref : String} (href : v.clientRef = some ref) : ref ∉ violationRefs s := by
  intro hmem
  obtain ⟨u, hu, huref⟩ := List.mem_filterMap.1 hmem
  have htaken : (v.clientRef.isSome && s.violations.any fun u => u.clientRef == v.clientRef) =
      true := by
    rw [Bool.and_eq_true, href]
    exact ⟨rfl, List.any_eq_true.2 ⟨u, hu, beq_iff_eq.2 huref⟩⟩
  simp only [insertViolation, htaken, if_true] at h
  split at h <;> cases h

/-- How `create_violation` ends: if it answered, the violation is there. -/
def issuedPost (clientRef : Option String) : Post Store Lock AppError IssueResponse :=
  fun r _ _ _ s => ∀ a, r = .ok a → ∀ ref, clientRef = some ref → ref ∈ violationRefs s

section

variable {s : Store} {H : Held Lock}

theorem safe_storeViolation (v : Violation) :
    (storeViolation v).Safe fieldRegime fieldR fieldG (issuedPost v.clientRef) id false H s := by
  have hlive {P : Prop} : false = true → P := fun h => absurd h Bool.false_ne_true
  refine Prog.Safe.onIntegrity fieldR_refl (Prog.safe_flush hlive (fun _ r s₁ s₂ hR₁ hR₂ _ _ => ?_)
    fun _ s₁ hR₁ _ hcheck => Prog.safe_commit hlive fun _ s₂ hR₂ => ?_)
  · cases r with
    | data => exact fun _ ha => by cases ha
    | integrity =>
      show Prog.Safe fieldRegime fieldR fieldG (issuedPost v.clientRef) _ id true _ s₂
      refine Prog.safe_rollback fun s₃ _ => Prog.safe_select hlive fun _ s₄ _ => ?_
      split
      · rename_i u hu
        intro s₅ hR₅ _ _ ref href
        exact hR₅.1 ref (mem_violationRefs_of_byRef hu href)
      · exact fun _ _ _ ha => by cases ha
  · -- nobody stored the reference since the flush
    have hlock (ref : String) (href : v.clientRef = some ref) :
        .violationClientRef ref ∈ (H.lock (insertViolation v).locks).locks := by
      refine List.mem_append_left _ ?_
      simp [insertViolation, href]
    refine ⟨fieldG_insert hlock fun ref href =>
      hR₂.2.2 ref (hlock ref href) (insertViolation_free hcheck href), fun s₃ hR₃ => ?_⟩
    intro _ _ ref href
    refine hR₃.1 ref ?_
    show ref ∈ violationRefs ((insertViolation v).apply s₂)
    rw [violationRefs_insert, href]
    exact List.mem_append_right _ (List.mem_singleton_self _)

theorem safe_createViolation (cfg : Config) (body : ViolationCreate) (user : Option ℕ) :
    (createViolation cfg body user).Safe fieldRegime fieldR fieldG (issuedPost body.clientRef) id
      false H s := by
  have hlive {P : Prop} : false = true → P := fun h => absurd h Bool.false_ne_true
  have hraise (e : AppError) {H : Held Lock} {s : Store} :
      (Prog.raise e : Handler IssueResponse).Safe fieldRegime fieldR fieldG
        (issuedPost body.clientRef) id false H s := fun _ _ _ ha => by cases ha
  unfold createViolation
  split
  · refine Prog.safe_select hlive fun _ s₁ _ => ?_
    split
    · rename_i v hv
      intro s₂ hR₂ _ _ ref href
      exact hR₂.1 ref (mem_violationRefs_of_byRef hv href)
    · refine Prog.safe_select hlive fun _ s₂ _ => ?_
      split
      · exact hraise _
      · split
        · exact hraise _
        · refine Prog.safe_select hlive fun _ s₃ _ => Prog.safe_newId fun s₄ n _ _ =>
            Prog.safe_getTime fun s₅ now _ => ?_
          exact safe_storeViolation (body.row _ _ _ user n now)
  · exact hraise _

theorem allWrites_uploadFile (storage : Storage) (body : FileUpload) :
    (uploadFile storage body).AllWrites fun st =>
      ∀ s, violationRefs (st.apply s) = violationRefs s := by
  refine (Prog.writesOnly_select _).allWrites.bind fun existing => ?_
  split
  · trivial
  · split
    · trivial
    · split
      · trivial
      · split
        · trivial
        · intro now uuid
          dsimp only [Prog.bind]
          split
          · trivial
          · intro id
            refine (Prog.writesOnly_flush fun _ => rfl).allWrites.bind fun _ => ?_
            exact Prog.allWrites_commitTx.bind fun _ => trivial

theorem FieldRequest.safe (cfg : Config) (storage : Storage) (request : FieldRequest) :
    (request.handler cfg storage).Safe fieldRegime fieldR fieldG (fieldPost request) id false H s := by
  cases request with
  | violation body user =>
    refine (safe_createViolation cfg body user).bind fieldR_refl (fun r pend b H s h => ?_)
      fun e pend b H s _ => fun _ ha => by cases ha
    intro s' hR _ _ ref href
    exact hR.1 ref (h r rfl ref href)
  | upload body =>
    have hkeeps : (uploadFile storage body).Safe fieldRegime fieldR fieldG anyEnd id false H s :=
      (allWrites_uploadFile storage body).safe (E := fun p => ∀ s, violationRefs (p s) =
        violationRefs s) (fun _ => rfl) (fun st hst p hp s => (hst _).trans (hp s))
        (fun p hp _ s => fieldG_of_same (hp s)) fun _ => rfl
    exact hkeeps.bind fieldR_refl (fun _ _ _ _ _ _ => fun _ _ _ _ _ href => by cases href)
      fun _ _ _ _ _ _ _ ha => by cases ha

end

/-- What the server rejects a violation for, unless the store does, is its content. -/
theorem createViolation_raises (cfg : Config) (body : ViolationCreate) (user : Option ℕ) :
    (createViolation cfg body user).Raises fun e => ∀ a, e = .app a →
      (HttpError.RejectsContent { status := a.status }) := by
  have hpending : ∀ a : AppError, (Exc.pendingRollback : Exc AppError) = .app a →
      HttpError.RejectsContent { status := a.status } := fun _ h => by cases h
  have hstore (v : Violation) : (storeViolation v).Raises fun e => ∀ a, e = .app a →
      HttpError.RejectsContent { status := a.status } := by
    refine ⟨hpending, fun b => ?_, fun x r _ => ?_⟩
    · cases b with
      | false => exact hpending
      | true => trivial
    · cases r with
      | data => exact fun _ h => by cases h
      | integrity =>
        refine (Prog.raises_select _ hpending).bind fun existing => ?_
        split
        · trivial
        · exact fun _ h => by cases h
  unfold createViolation
  split
  · refine (Prog.raises_select _ hpending).bind fun existing => ?_
    split
    · trivial
    · refine (Prog.raises_select _ hpending).bind fun vtype => ?_
      split
      · intro a ha
        cases ha
        exact Or.inl rfl
      · split
        · intro a ha
          cases ha
          exact Or.inr rfl
        · exact (Prog.raises_select _ hpending).bind fun vehicle => fun id now => hstore _
  · intro a ha
    cases ha
    exact Or.inr rfl

/-! ## The system -/

/-- What the device and the server are set up with: `blob` reads a photo on the device. -/
structure FieldSetup where
  cfg : Config := {}
  storage : Storage
  blob : String → Option Blob

/-- The server, with a connection for every call of every request. -/
abbrev FieldServer := World (ℕ × FieldRequest) Store Lock Label AppError FieldAnswer

/-- The device, the server, and how many calls there were. -/
structure FieldSystem where
  device : FieldDevice
  server : FieldServer
  calls : ℕ

namespace FieldSystem

/-- Nothing was sent yet. -/
def start (user : Option ℕ) (items : List PendingViolation) (s : Store) : FieldSystem where
  device := { user, items }
  server := .start s fun _ => .throw .aborted
  calls := 0

/-- The server receives a request. -/
def receive (setup : FieldSetup) (request : FieldRequest) (x : FieldSystem) : FieldSystem where
  device := x.device
  server := x.server.set (x.calls, request) (.fresh (request.handler setup.cfg setup.storage))
  calls := x.calls + 1

/-- A pass has moved. -/
def after (setup : FieldSetup) (p : ℕ) (move : PassMove) (x : FieldSystem) : FieldSystem :=
  let x' := match move.sends with
    | some request => x.receive setup request
    | none => x
  { x' with
    device := { x.device with
      items := move.table x.device.items
      passes := Function.update x.device.passes p move.pass
      refreshToken := x.device.refreshToken && !move.logsOut } }

end FieldSystem

/-- What happens in one step. -/
inductive FieldEvent where
  | server
  /-- Another device sends a request. -/
  | elsewhere (request : FieldRequest)
  | submit (item : PendingViolation)
  /-- The user deletes an item. -/
  | discard (ref : String)
  | beginPass (p : ℕ)
  | pass (p : ℕ) (event : PassEvent)
  | login (refreshToken : Bool)
  /-- The page is loaded again: the passes are gone, and the tokens. -/
  | reload

/-- An answer is that of the connection of the call. -/
def PassEvent.Given (x : FieldSystem) (pass : Pass) : PassEvent → Prop
  | .answer a => ∃ call, pass.stage = .awaits call ∧
    (x.server.conns (call.number, call.request)).prog.result? = some a
  | _ => True

/-- One step of the device, of the server or of another device. -/
inductive FieldStep (setup : FieldSetup) : FieldEvent → FieldSystem → FieldSystem → Prop where
  | server {x w} (h : World.Step fieldRegime x.server w) :
    FieldStep setup .server x { x with server := w }
  | elsewhere (x request) : FieldStep setup (.elsewhere request) x (x.receive setup request)
  /-- The reference is the key of the table. -/
  | submit {x : FieldSystem} {item} (hkey : ∀ i ∈ x.device.items, i.clientRef ≠ item.clientRef) :
    FieldStep setup (.submit item) x
      { x with device := { x.device with items := x.device.items ++ [item] } }
  | discard (x : FieldSystem) (ref) : FieldStep setup (.discard ref) x
      { x with device := { x.device with items := deleteItem ref x.device.items } }
  | beginPass {x : FieldSystem} {p} (hidle : x.device.passes p = none) :
    FieldStep setup (.beginPass p) x
      { x with device := { x.device with
        passes := Function.update x.device.passes p (some { items := x.device.pendingItems }) } }
  | pass {x : FieldSystem} {p pass move event} (hpass : x.device.passes p = some pass)
    (hgiven : event.Given x pass)
    (hmove : pass.on setup.blob x.device x.calls event = some move) :
    FieldStep setup (.pass p event) x (x.after setup p move)
  | login (x : FieldSystem) (b) : FieldStep setup (.login b) x
      { x with device := { x.device with refreshToken := b } }
  | reload (x : FieldSystem) : FieldStep setup .reload x
      { x with device := { x.device with refreshToken := false, passes := fun _ => none } }

/-- A run: what happened, and the state it led to, step by step; `P` holds of every step. -/
def Along (P : FieldEvent → FieldSystem → FieldSystem → Prop) :
    FieldSystem → List (FieldEvent × FieldSystem) → Prop
  | _, [] => True
  | x, (e, x') :: rest => P e x x' ∧ Along P x' rest

/-! ## What is kept -/

/-- An item is waiting to be sent. -/
def PendingRef (ref : String) (items : List PendingViolation) : Prop :=
  ∃ item ∈ items, item.clientRef = ref ∧ item.status = .pending

/-- An error that ends a call is the answer to the violation of an item, or to its photo. -/
def Call.errorFor (call : Call) (item : PendingViolation) (e : HttpError) :
    Option (String × HttpError) :=
  match call.request with
  | .upload _ => none
  | .violation _ _ => some (item.clientRef, e)

/-- The HTTP error that a pass gets, in this step, as the answer to the violation of an item. -/
def Pass.errorFor (d : FieldDevice) (pass : Pass) (event : PassEvent) :
    Option (String × HttpError) :=
  match pass.stage, pass.items, event with
  | .awaits call, item :: _, .httpError e =>
    if e.status = 401 ∧ d.refreshToken = true ∧ call.retried = false then none
    else call.errorFor item e
  | .refreshes call e, item :: _, .refreshFailed => call.errorFor item e
  | _, _, _ => none

/-- The server rejects the content of an item, and the device learns it. -/
def RejectsItem (ref : String) (event : FieldEvent) (x : FieldSystem) : Prop :=
  ∃ p e pass error, event = .pass p e ∧ x.device.passes p = some pass ∧
    pass.errorFor x.device e = some (ref, error) ∧ error.RejectsContent

/-- In a step an item stops being pending only where the user deletes it, the server holds its
violation, or the server rejects its content. -/
def KeepsItems (event : FieldEvent) (x x' : FieldSystem) : Prop :=
  ∀ ref, PendingRef ref x.device.items → ¬ PendingRef ref x'.device.items →
    event = .discard ref ∨ ref ∈ violationRefs x'.server.committed ∨ RejectsItem ref event x

/-- **The condition.** An HTTP error that a pass gets as the answer to the violation of a pending
item rejects its content, or comes when the violation is stored already. -/
def ErrorsReject (event : FieldEvent) (x : FieldSystem) : Prop :=
  ∀ p e pass ref error, event = .pass p e → x.device.passes p = some pass →
    pass.errorFor x.device e = some (ref, error) → PendingRef ref x.device.items →
      error.RejectsContent ∨ ref ∈ violationRefs x.server.committed

/-! ## What a step of a pass does -/

section

variable {ref r : String} {items : List PendingViolation} {f : PendingViolation → PendingViolation}

theorem pendingRef_updateItem (hkey : ∀ row, (f row).clientRef = row.clientRef)
    (hstatus : ref = r → ∀ row, row.status = .pending → (f row).status = .pending)
    (h : PendingRef ref items) : PendingRef ref (updateItem r f items) := by
  obtain ⟨item, hitem, rfl, hpending⟩ := h
  by_cases hr : item.clientRef = r
  · exact ⟨f item, mem_updateWhere.2 (Or.inl ⟨item, hitem, beq_iff_eq.2 hr, rfl⟩), hkey item,
      hstatus hr item hpending⟩
  · exact ⟨item, mem_updateWhere.2 (Or.inr ⟨hitem, beq_eq_false_iff_ne.2 hr⟩), rfl, hpending⟩

/-- What marks every row of a reference leaves none of them pending. -/
theorem not_pendingRef_updateItem (hstatus : ∀ row, (f row).status = .error) :
    ¬ PendingRef r (updateItem r f items) := by
  rintro ⟨item, hitem, hr, hpending⟩
  rcases mem_updateWhere.1 hitem with ⟨row, -, -, rfl⟩ | ⟨-, hne⟩
  · exact absurd ((hstatus row).symm.trans hpending) (by decide)
  · exact absurd hr (beq_eq_false_iff_ne.1 hne)

theorem pendingRef_deleteItem (hne : ref ≠ r) (h : PendingRef ref items) :
    PendingRef ref (deleteItem r items) := by
  obtain ⟨item, hitem, rfl, hpending⟩ := h
  exact ⟨item, List.mem_filter.2 ⟨hitem, bne_iff_ne.2 hne⟩, rfl, hpending⟩

end

/-- What a step does to the table: no item stops being pending, or the violation of the item was
answered, or the item is marked after an HTTP error. -/
inductive PassEffect (d : FieldDevice) (pass : Pass) (event : PassEvent) (move : PassMove) : Prop where
  | keeps (herror : pass.errorFor d event = none)
    (htable : ∀ ref items, PendingRef ref items → PendingRef ref (move.table items))
  | stores (call body user item rest a) (herror : pass.errorFor d event = none)
    (hstage : pass.stage = .awaits call) (hrequest : call.request = .violation body user)
    (hitems : pass.items = item :: rest) (hevent : event = .answer a)
    (htable : move.table = deleteItem item.clientRef)
  | marks (ref e f) (herror : pass.errorFor d event = some (ref, e))
    (hkey : ∀ row : PendingViolation, (f row).clientRef = row.clientRef)
    (hstatus : ∀ row : PendingViolation, (f row).status = .error)
    (htable : move.table = updateItem ref f)

/-- The violation that a call asks for is that of the current item. -/
def Pass.InOrder (pass : Pass) : Prop :=
  ∀ call, pass.stage = .awaits call ∨ (∃ e, pass.stage = .refreshes call e) →
    ∀ body user, call.request = .violation body user → ∀ item rest, pass.items = item :: rest →
      body.clientRef = some item.clientRef

section

variable {d : FieldDevice} {pass pass' : Pass} {event : PassEvent} {move : PassMove}
  {blob : String → Option Blob} {n : ℕ}

/-- A step without an error that leaves the table alone. -/
theorem passEffect_send (herror : pass.errorFor d event = none) (request : FieldRequest)
    (retried : Bool) : PassEffect d pass event (pass.send n request retried) :=
  .keeps herror fun _ _ h => h

theorem passEffect_photoFailed (herror : pass.errorFor d event = none) {item : PendingViolation}
    {rest : List PendingViolation} (htable : move.table = (Pass.photoFailed item rest).table) :
    PassEffect d pass event move := by
  refine .keeps herror fun ref items h => ?_
  rw [htable]
  exact pendingRef_updateItem (fun _ => rfl) (fun _ _ hrow => hrow) h

theorem passEffect_next (herror : pass.errorFor d event = none) (user : Option ℕ) :
    PassEffect d pass event (pass.next blob user n) := by
  unfold Pass.next
  split
  · exact .keeps herror fun _ _ h => h
  · split
    · exact passEffect_send herror _ _
    · split
      · exact passEffect_send herror _ _
      · exact passEffect_photoFailed herror rfl

/-- A call that ends with an error. -/
theorem passEffect_error {call : Call} {item : PendingViolation} {e : HttpError}
    (herror : pass.errorFor d event = call.errorFor item e) {rest : List PendingViolation}
    (htable : move.table = (Pass.failed call (some e) item rest).table) :
    PassEffect d pass event move := by
  unfold Pass.failed at htable
  unfold Call.errorFor at herror
  split at herror
  · rename_i hrequest
    rw [hrequest] at htable
    exact passEffect_photoFailed herror htable
  · rename_i hrequest
    rw [hrequest] at htable
    exact .marks item.clientRef e
      (fun row => { row with
        status := .error, tries := item.tries + 1
        lastError := some (e.message.getD ("HTTP " ++ toString e.status)) })
      herror (fun _ => rfl) (fun _ => rfl) htable

/-- A call without an answer. -/
theorem passEffect_silence (herror : pass.errorFor d event = none) (call : Call)
    (item : PendingViolation) (rest : List PendingViolation) :
    PassEffect d pass event (Pass.failed call none item rest) := by
  unfold Pass.failed
  split
  · exact passEffect_photoFailed herror rfl
  · exact .keeps herror fun _ _ h => pendingRef_updateItem (fun _ => rfl) (fun _ _ hrow => hrow) h

/-- **What a step of a pass does.** -/
theorem Pass.effect (h : pass.on blob d n event = some move) : PassEffect d pass event move := by
  obtain ⟨items, stage⟩ := pass
  unfold Pass.on at h
  dsimp only at h
  split at h
  · cases h
    exact passEffect_next rfl _
  · rename_i call item rest a
    have herror : Pass.errorFor d { items := item :: rest, stage := .awaits call } (.answer a) =
        none := rfl
    unfold Pass.answered at h
    split at h
    · split at h
      · cases h
        exact passEffect_send herror _ _
      · cases h
    · split at h
      · cases h
      · rename_i body user hrequest
        cases h
        exact .stores call body user item rest _ herror rfl hrequest rfl rfl rfl
  · rename_i call item rest e
    split at h
    · rename_i hrefresh
      cases h
      exact .keeps (if_pos hrefresh) fun _ _ h => h
    · rename_i hrefresh
      cases h
      have herror : Pass.errorFor d { items := item :: rest, stage := .awaits call }
          (.httpError e) = call.errorFor item e := if_neg hrefresh
      exact passEffect_error herror rfl
  · cases h
    exact passEffect_silence rfl _ _ _
  · cases h
    refine passEffect_send ?_ _ _
    cases items <;> rfl
  · cases h
    exact passEffect_error rfl rfl
  · cases h

/-- A pass that sends a request for its current item. -/
theorem inOrder_send {request : FieldRequest} {retried : Bool}
    (h : ∀ body user, request = .violation body user → ∀ item rest, pass.items = item :: rest →
      body.clientRef = some item.clientRef)
    (hpass : (pass.send n request retried).pass = some pass') : pass'.InOrder := by
  cases hpass
  intro call hcall
  rcases hcall with hcall | ⟨e, hcall⟩
  · cases hcall
    exact h
  · cases hcall

/-- A pass that is about to take its next item. -/
theorem inOrder_ready (items : List PendingViolation) : ({ items } : Pass).InOrder := by
  intro call hcall
  rcases hcall with hcall | ⟨e, hcall⟩ <;> cases hcall

theorem inOrder_failed {call : Call} {e : Option HttpError} {item : PendingViolation}
    {rest : List PendingViolation} (hpass : (Pass.failed call e item rest).pass = some pass') :
    pass'.InOrder := by
  have hrest : (Pass.failed call e item rest).pass = some { items := rest } := by
    unfold Pass.failed
    split
    · rfl
    · cases e <;> rfl
  cases hrest.symm.trans hpass
  exact inOrder_ready rest

theorem inOrder_next {user : Option ℕ} (hpass : (pass.next blob user n).pass = some pass') :
    pass'.InOrder := by
  unfold Pass.next at hpass
  split at hpass
  · cases hpass
  · rename_i item rest hitems
    split at hpass
    · refine inOrder_send (fun body user hbody item' rest' hitems' => ?_) hpass
      cases hbody
      cases hitems.symm.trans hitems'
      rfl
    · split at hpass
      · exact inOrder_send (fun _ _ hbody => by cases hbody) hpass
      · cases hpass
        exact inOrder_ready rest

/-- A step of a pass in order leaves it in order. -/
theorem Pass.InOrder.on (hp : pass.InOrder) (h : pass.on blob d n event = some move)
    (hpass : move.pass = some pass') : pass'.InOrder := by
  obtain ⟨items, stage⟩ := pass
  unfold Pass.on at h
  dsimp only at h
  split at h
  · cases h
    exact inOrder_next hpass
  · rename_i call item rest a
    unfold Pass.answered at h
    split at h
    · split at h
      · cases h
        refine inOrder_send (fun body user hbody item' rest' hitems => ?_) hpass
        cases hbody
        cases hitems
        rfl
      · cases h
    · split at h
      · cases h
      · cases h
        cases hpass
        exact inOrder_ready rest
  · rename_i call item rest e
    split at h
    · cases h
      cases hpass
      -- the call that is refreshed is the one that was awaited
      intro call' hcall'
      rcases hcall' with hcall' | ⟨e', hcall'⟩
      · cases hcall'
      · cases hcall'
        exact hp call (Or.inl rfl)
    · cases h
      exact inOrder_failed hpass
  · cases h
    exact inOrder_failed hpass
  · rename_i call e
    cases h
    exact inOrder_send (hp call (Or.inr ⟨e, rfl⟩)) hpass
  · cases h
    exact inOrder_failed hpass
  · cases h

end

/-! ## The invariant -/

/-- The server answers for what is stored, and every pass awaits its current item. -/
structure FieldOk (x : FieldSystem) : Prop where
  server : World.Ok fieldRegime fieldR fieldG (fun i => fieldPost i.2) x.server
  passes : ∀ p pass, x.device.passes p = some pass → pass.InOrder
  unique : UniqueRefs x.server.committed

variable {setup : FieldSetup} {x x' : FieldSystem} {event : FieldEvent}

theorem FieldOk.start (user : Option ℕ) (items : List PendingViolation) {s : Store}
    (hs : UniqueRefs s) : FieldOk (.start user items s) where
  server := World.Ok.init fun i _ _ _ ha => by cases ha
  passes _ _ h := by cases h
  unique := hs

/-- What the server receives is safe. -/
theorem receive_server (h : World.Ok fieldRegime fieldR fieldG (fun i => fieldPost i.2) x.server)
    (request : FieldRequest) : World.Ok fieldRegime fieldR fieldG (fun i => fieldPost i.2)
      (x.receive setup request).server := by
  rw [World.ok_iff_okEach] at h ⊢
  exact h.set (request.safe setup.cfg setup.storage) fun _ _ => Held.disjoint_empty_left _

theorem after_server (h : World.Ok fieldRegime fieldR fieldG (fun i => fieldPost i.2) x.server)
    (p : ℕ) (move : PassMove) : World.Ok fieldRegime fieldR fieldG (fun i => fieldPost i.2)
      (x.after setup p move).server := by
  unfold FieldSystem.after
  cases move.sends with
  | none => exact h
  | some request => exact receive_server h request

theorem after_committed (p : ℕ) (move : PassMove) :
    (x.after setup p move).server.committed = x.server.committed := by
  unfold FieldSystem.after
  cases move.sends <;> rfl

theorem after_device (p : ℕ) (move : PassMove) :
    (x.after setup p move).device.items = move.table x.device.items ∧
      (x.after setup p move).device.passes = Function.update x.device.passes p move.pass := by
  unfold FieldSystem.after
  cases move.sends <;> exact ⟨rfl, rfl⟩

/-- One pass is replaced. -/
theorem inOrder_update {passes : ℕ → Option Pass} {p : ℕ} {new : Option Pass}
    (h : ∀ q pass, passes q = some pass → pass.InOrder) (hnew : ∀ pass, new = some pass → pass.InOrder)
    (q : ℕ) (pass : Pass) (hq : Function.update passes p new q = some pass) : pass.InOrder := by
  rcases eq_or_ne q p with rfl | hne
  · rw [Function.update_self] at hq
    exact hnew pass hq
  · rw [Function.update_of_ne hne] at hq
    exact h q pass hq

/-- **Step** -/
theorem FieldOk.step (h : FieldOk x) (hstep : FieldStep setup event x x') : FieldOk x' := by
  cases hstep with
  | server hs =>
    obtain ⟨hok, hR⟩ := h.server.step fieldContract hs
    exact ⟨hok, h.passes, hR.2.1 h.unique⟩
  | elsewhere _ request => exact ⟨receive_server h.server request, h.passes, h.unique⟩
  | submit hkey => exact ⟨h.server, h.passes, h.unique⟩
  | discard _ ref => exact ⟨h.server, h.passes, h.unique⟩
  | beginPass hidle =>
    refine ⟨h.server, inOrder_update h.passes fun pass hnew => ?_, h.unique⟩
    cases hnew
    exact inOrder_ready _
  | @pass _ p pass move e hpass hgiven hmove =>
    refine ⟨after_server h.server p move, ?_, ?_⟩
    · rw [(after_device p move).2]
      exact inOrder_update h.passes fun pass' hnew => (h.passes p pass hpass).on hmove hnew
    · unfold UniqueRefs
      rw [after_committed]
      exact h.unique
  | login _ b => exact ⟨h.server, h.passes, h.unique⟩
  | reload => exact ⟨h.server, fun _ _ hq => absurd hq nofun, h.unique⟩

/-- The answer to the violation of an item is given where the violation is stored. -/
theorem FieldOk.stored (h : FieldOk x) {p : ℕ} {pass : Pass} (hpass : x.device.passes p = some pass)
    {call : Call} (hstage : pass.stage = .awaits call) {body : ViolationCreate} {user : Option ℕ}
    (hrequest : call.request = .violation body user) {item : PendingViolation}
    {rest : List PendingViolation} (hitems : pass.items = item :: rest) {a : FieldAnswer}
    (hgiven : (PassEvent.answer a).Given x pass) :
    item.clientRef ∈ violationRefs x.server.committed := by
  obtain ⟨call', hstage', hresult⟩ := hgiven
  cases hstage.symm.trans hstage'
  have hstored : call.request.Stored x.server.committed :=
    h.server.returned fieldContract hresult a rfl
  refine hstored item.clientRef ?_
  rw [hrequest]
  exact h.passes p pass hpass call (Or.inl hstage) body user hrequest item rest hitems

/-- A step that takes nothing out of the pending items, and gets no error for one. -/
theorem keepsItems_iff_of_same (hkeeps : ∀ ref, PendingRef ref x.device.items →
      event = .discard ref ∨ PendingRef ref x'.device.items)
    (hpass : ∀ p e, event ≠ .pass p e) : KeepsItems event x x' ↔ ErrorsReject event x := by
  refine iff_of_true (fun ref hpending hgone => ?_) fun p e pass ref error hevent => ?_
  · exact Or.inl ((hkeeps ref hpending).resolve_right hgone)
  · exact absurd hevent (hpass p e)

/-- A step of a pass. -/
theorem FieldOk.pass_iff (h : FieldOk x) {p : ℕ} {pass : Pass} {move : PassMove} {e : PassEvent}
    (hpass : x.device.passes p = some pass) (hgiven : e.Given x pass)
    (hmove : pass.on setup.blob x.device x.calls e = some move) :
    KeepsItems (.pass p e) x (x.after setup p move) ↔ ErrorsReject (.pass p e) x := by
  have htable : (x.after setup p move).device.items = move.table x.device.items :=
    (after_device p move).1
  have hquiet (herror : pass.errorFor x.device e = none) : ErrorsReject (.pass p e) x := by
    intro q e' pass' ref error hevent hpass' herror'
    cases hevent
    cases hpass.symm.trans hpass'
    rw [herror] at herror'
    cases herror'
  unfold KeepsItems
  rw [htable, after_committed]
  cases pass.effect hmove with
  | keeps herror hkeeps =>
    exact iff_of_true (fun ref hpending hgone => absurd (hkeeps ref _ hpending) hgone)
      (hquiet herror)
  | stores call body user item rest a herror hstage hrequest hitems hevent hdelete =>
    subst hevent
    refine iff_of_true (fun ref hpending hgone => ?_) (hquiet herror)
    -- the only item that went is the one that was answered
    have href : ref = item.clientRef := by
      by_contra hne
      rw [hdelete] at hgone
      exact hgone (pendingRef_deleteItem hne hpending)
    exact href ▸ Or.inr (Or.inl (h.stored hpass hstage hrequest hitems hgiven))
  | marks r error f herror hkey hstatus hmark =>
    rw [hmark]
    constructor
    · intro hkeeps q e' pass' ref error' hevent hpass' herror' hpending
      cases hevent
      cases hpass.symm.trans hpass'
      cases herror.symm.trans herror'
      rcases hkeeps r hpending (not_pendingRef_updateItem hstatus) with hdiscard | hstored | hrejects
      · cases hdiscard
      · exact Or.inr hstored
      · obtain ⟨q, e', pass'', error'', hevent, hpass'', herror'', hcontent⟩ := hrejects
        cases hevent
        cases hpass.symm.trans hpass''
        cases herror.symm.trans herror''
        exact Or.inl hcontent
    · intro hrejects ref hpending hgone
      have href : ref = r := by
        by_contra hne
        exact hgone (pendingRef_updateItem hkey (fun heq => absurd heq hne) hpending)
      subst href
      rcases hrejects p e pass ref error rfl hpass herror hpending with hcontent | hstored
      · exact Or.inr (Or.inr ⟨p, e, pass, error, rfl, hpass, herror, hcontent⟩)
      · exact Or.inr (Or.inl hstored)

/-- **One step**: it loses no item exactly where it meets the condition. -/
theorem FieldOk.keepsItems_iff (h : FieldOk x) (hstep : FieldStep setup event x x') :
    KeepsItems event x x' ↔ ErrorsReject event x := by
  cases hstep with
  | @pass _ p pass move e hpass hgiven hmove =>
    exact h.pass_iff hpass hgiven hmove
  | submit hkey =>
    refine keepsItems_iff_of_same (fun ref hpending => Or.inr ?_) fun _ _ h => by cases h
    obtain ⟨item, hitem, hrow⟩ := hpending
    exact ⟨item, List.mem_append_left _ hitem, hrow⟩
  | discard _ r =>
    refine keepsItems_iff_of_same (fun ref hpending => ?_) fun _ _ h => by cases h
    by_cases hr : ref = r
    · exact Or.inl (hr ▸ rfl)
    · exact Or.inr (pendingRef_deleteItem hr hpending)
  | _ => exact keepsItems_iff_of_same (fun _ hpending => Or.inr hpending) fun _ _ h => by cases h

/-! ## Every run -/

/-- Along a run of a system in order two conditions agree that agree on the steps of such a
system. -/
theorem along_iff {P Q : FieldEvent → FieldSystem → FieldSystem → Prop}
    (hstep : ∀ e x x', FieldOk x → FieldStep setup e x x' → (P e x x' ↔ Q e x x'))
    {steps : List (FieldEvent × FieldSystem)} {x : FieldSystem} (h : FieldOk x)
    (hrun : Along (FieldStep setup) x steps) : Along P x steps ↔ Along Q x steps := by
  induction steps generalizing x with
  | nil => exact Iff.rfl
  | cons step rest ih =>
    obtain ⟨e, x'⟩ := step
    exact and_congr (hstep e x x' h hrun.1) (ih (h.step hrun.1) hrun.2)

theorem FieldOk.along {steps : List (FieldEvent × FieldSystem)} {x : FieldSystem} (h : FieldOk x)
    (hrun : Along (FieldStep setup) x steps) : ∀ step ∈ steps, FieldOk step.2 := by
  induction steps generalizing x with
  | nil => exact fun _ h => absurd h List.not_mem_nil
  | cons step rest ih =>
    obtain ⟨e, x'⟩ := step
    have hx' := h.step hrun.1
    exact List.forall_mem_cons.2 ⟨hx', ih hx' hrun.2⟩

/-- **Offline delivery**: in every run every `client_ref` is stored at most once in every state,
and the run loses no item exactly where every HTTP error that a pass gets as the answer to the
violation of a pending item rejects its content, or comes when the violation is stored. -/
theorem offline_run_iff (setup : FieldSetup) (user : Option ℕ) (items : List PendingViolation)
    (s : Store) (hs : UniqueRefs s) (steps : List (FieldEvent × FieldSystem))
    (hrun : Along (FieldStep setup) (.start user items s) steps) :
    (∀ step ∈ steps, UniqueRefs step.2.server.committed) ∧
      (Along KeepsItems (.start user items s) steps ↔
        Along (fun event x _ => ErrorsReject event x) (.start user items s) steps) := by
  have hstart := FieldOk.start user items hs
  refine ⟨fun step hmem => (hstart.along hrun step hmem).unique, ?_⟩
  exact along_iff (fun _ _ _ h hstep => h.keepsItems_iff hstep) hstart hrun

/-! ### A reply that was lost, and a server that is not there -/

/-- A store that takes everything. -/
def roomyStorage : Storage where
  bucket := "parking"
  objectKey path _ _ uuid := path ++ "/" ++ toString uuid
  sha256 _ := ""
  putObject _ _ _ := true

def fieldSetup : FieldSetup where
  storage := roomyStorage
  blob _ := none

/-- An item without a photo. -/
def fieldItem : PendingViolation :=
  { clientRef := "r", plate := "12ب34567", typeCode := "PARK", createdAt := "" }

/-- The server holds the violation of the item. -/
def storedItem : Store :=
  { violations := [{ id := 1, plateNormalized := none, violationTypeId := 2, occurredAt := 0
                     penaltyAmount := 0, clientRef := some "r" }] }

/-- The violation was stored, but the reply was lost; the next pass hears of it. -/
theorem offline_run_iff_resent :
    ∃ steps x, Along (FieldStep fieldSetup) (.start none [fieldItem] storedItem) (steps ++ [x]) ∧
      x.2.device.items = [] ∧
      ((∀ step ∈ steps ++ [x], UniqueRefs step.2.server.committed) ∧
        (Along KeepsItems (.start none [fieldItem] storedItem) (steps ++ [x]) ↔
          Along (fun event x _ => ErrorsReject event x) (.start none [fieldItem] storedItem)
            (steps ++ [x]))) := by
  have hunique : UniqueRefs storedItem := by unfold UniqueRefs; decide
  have hrun : Along (FieldStep fieldSetup) (.start none [fieldItem] storedItem)
      ([(.beginPass 0, _), (.pass 0 .goOn, _), (.server, _)] ++
        [(.pass 0 (.answer (.violation { id := 1, amount := 0, duplicate := true })), _)]) :=
    ⟨.beginPass rfl, .pass rfl trivial rfl,
      .server (.read (i := (0, .violation (fieldItem.body none) none)) rfl),
      .pass rfl ⟨_, rfl, rfl⟩ rfl, trivial⟩
  exact ⟨_, _, hrun, rfl, offline_run_iff fieldSetup none [fieldItem] storedItem hunique _ hrun⟩

/-- A gateway answers in place of the server. -/
theorem unavailable_item_lost :
    ¬ ∀ (setup : FieldSetup) (user : Option ℕ) (items : List PendingViolation) (s : Store),
      UniqueRefs s → ∀ steps, Along (FieldStep setup) (.start user items s) steps →
        (∀ step ∈ steps, UniqueRefs step.2.server.committed) ∧
          Along KeepsItems (.start user items s) steps := by
  intro h
  have hrun : Along (FieldStep fieldSetup) (.start none [fieldItem] {})
      [(.beginPass 0, _), (.pass 0 .goOn, _), (.pass 0 (.httpError { status := 503 }), _)] :=
    ⟨.beginPass rfl, .pass rfl trivial rfl, .pass rfl trivial rfl, trivial⟩
  obtain ⟨-, -, -, hkeeps, -⟩ := h fieldSetup none [fieldItem] {} List.nodup_nil _ hrun
  rcases hkeeps "r" ⟨fieldItem, List.mem_singleton_self _, rfl, rfl⟩
    (not_pendingRef_updateItem fun _ => rfl) with hdiscard | hstored | hrejects
  · cases hdiscard
  · cases hstored
  · obtain ⟨p, e, pass, error, hevent, hpass, herror, hcontent⟩ := hrejects
    cases hevent
    cases hpass
    cases herror
    exact absurd hcontent (by decide)

end ParkingSystem
