import ParkingSystem.Gate.Answer
import ParkingSystem.Library.Hoare
import ParkingSystem.Registry.Sync

/-!
# Records Linked to a Vehicle

Permits, restrictions and sessions carry the identifier of a vehicle and a copy of its plate, and
the gate looks everything up by plate. The copies are written where the records are; changing the
plate of a vehicle writes none of them.

## Layers

- `Copied` (in the library) is the invariant, on pairs of an identifier and a plate.
- A statement either leaves those pairs alone or is one of four: a new vehicle, a new permit, a
  new restriction, a new session.
- Every operation of the registry and every gate event keeps the invariant, a change of plate and
  a permit for another plate under the conditions of `RegistryOp.KeepsCopies`.
-/

namespace ParkingSystem

open PyText PyValue Plate Table Transaction

/-! ## Plates and their copies -/

/-- The plates of the vehicles. -/
def Store.plates (s : Store) : List (ℕ × String) := s.vehicles.map fun v => (v.id, v.plateNormalized)

/-- The copy that a record with the identifier of a vehicle carries. -/
def linkOf (vehicleId : Option ℕ) (plate : String) : Option (ℕ × String) :=
  vehicleId.map fun id => (id, plate)

def permitLinks (permits : List AccessPermit) : List (ℕ × String) :=
  permits.filterMap fun p => linkOf p.vehicleId p.plateNormalized

def restrictionLinks (restrictions : List VehicleRestriction) : List (ℕ × String) :=
  restrictions.filterMap fun r => linkOf r.vehicleId r.plateNormalized

/-- Only OPEN sessions count. -/
def sessionLinks (sessions : List ParkingSession) : List (ℕ × String) :=
  (sessions.filter fun x => x.status == .opened).filterMap fun x =>
    linkOf x.vehicleId x.plateNormalized

/-- The copies in a store. -/
def Store.links (s : Store) : List (ℕ × String) :=
  permitLinks s.permits ++ restrictionLinks s.restrictions ++ sessionLinks s.sessions

/-- **Linked records follow the vehicle**: what names a vehicle has its plate. -/
structure Linked (s : Store) : Prop where
  permits : ∀ p ∈ s.permits, ∀ v ∈ s.vehicles, p.vehicleId = some v.id →
    p.plateNormalized = v.plateNormalized
  restrictions : ∀ r ∈ s.restrictions, ∀ v ∈ s.vehicles, r.vehicleId = some v.id →
    r.plateNormalized = v.plateNormalized
  sessions : ∀ x ∈ s.sessions, x.status = .opened → ∀ v ∈ s.vehicles, x.vehicleId = some v.id →
    x.plateNormalized = v.plateNormalized

/-- The invariant of a store whose identifiers were drawn below `n`. -/
abbrev Registered (s : Store) (n : ℕ) : Prop := Copied s.plates s.links n

theorem mem_plates {s : Store} {v : Vehicle} (hv : v ∈ s.vehicles) :
    (v.id, v.plateNormalized) ∈ s.plates := List.mem_map_of_mem hv

theorem linkOf_eq_some {vehicleId : Option ℕ} {plate : String} {id : ℕ}
    (h : vehicleId = some id) : linkOf vehicleId plate = some (id, plate) := by
  rw [h]
  rfl

theorem Registered.linked {s : Store} {n : ℕ} (h : Registered s n) : Linked s where
  permits p hp v hv hid :=
    (h.agree (v.id, p.plateNormalized) (List.mem_append_left _ (List.mem_append_left _
      (List.mem_filterMap.2 ⟨p, hp, linkOf_eq_some hid⟩))) _ (mem_plates hv) rfl).symm
  restrictions r hr v hv hid :=
    (h.agree (v.id, r.plateNormalized) (List.mem_append_left _ (List.mem_append_right _
      (List.mem_filterMap.2 ⟨r, hr, linkOf_eq_some hid⟩))) _ (mem_plates hv) rfl).symm
  sessions x hx hopen v hv hid := by
    refine (h.agree (v.id, x.plateNormalized) (List.mem_append_right _
      (List.mem_filterMap.2 ⟨x, List.mem_filter.2 ⟨hx, ?_⟩, linkOf_eq_some hid⟩)) _
      (mem_plates hv) rfl).symm
    rw [hopen]
    rfl

/-! ## Statements -/

/-- The plates and their copies are as they were. -/
structure SameLinks (s s' : Store) : Prop where
  plates : s'.plates = s.plates
  links : s'.links ⊆ s.links

theorem SameLinks.of_tables {s s' : Store} (hvehicles : s'.vehicles = s.vehicles)
    (hpermits : s'.permits = s.permits) (hrestrictions : s'.restrictions = s.restrictions)
    (hsessions : s'.sessions = s.sessions) : SameLinks s s' where
  plates := by rw [Store.plates, Store.plates, hvehicles]
  links := by
    rw [Store.links, Store.links, hpermits, hrestrictions, hsessions]
    exact List.Subset.refl _

theorem SameLinks.registered {s s' : Store} {n : ℕ} (hsame : SameLinks s s')
    (h : Registered s n) : Registered s' n := by
  show Copied s'.plates s'.links n
  rw [hsame.plates]
  exact h.subset hsame.links

theorem permitLinks_append (permits : List AccessPermit) (p : AccessPermit) :
    permitLinks (permits ++ [p]) = permitLinks permits ++ (linkOf p.vehicleId p.plateNormalized).toList := by
  unfold permitLinks
  rw [List.filterMap_append]
  cases h : linkOf p.vehicleId p.plateNormalized <;> simp [h]

theorem restrictionLinks_append (restrictions : List VehicleRestriction) (r : VehicleRestriction) :
    restrictionLinks (restrictions ++ [r]) =
      restrictionLinks restrictions ++ (linkOf r.vehicleId r.plateNormalized).toList := by
  unfold restrictionLinks
  rw [List.filterMap_append]
  cases h : linkOf r.vehicleId r.plateNormalized <;> simp [h]

/-- A record of a vehicle that is there, or of none. -/
theorem Registered.link {s s' : Store} {n : ℕ} (h : Registered s n) (hplates : s'.plates = s.plates)
    {link : Option (ℕ × String)} (hlink : ∀ l ∈ link, l ∈ s.plates)
    (hlinks : ∀ l ∈ s'.links, l ∈ s.links ∨ link = some l) : Registered s' n := by
  show Copied s'.plates s'.links n
  rw [hplates]
  cases link with
  | none => exact h.subset fun l hl => (hlinks l hl).resolve_right nofun
  | some l₀ =>
    refine Copied.link h (hlink l₀ rfl) fun l hl => ?_
    rcases hlinks l hl with hold | hnew
    · exact List.mem_cons_of_mem _ hold
    · obtain rfl := Option.some.inj hnew
      exact List.mem_cons_self

theorem Registered.insertPermit {s : Store} {n : ℕ} (h : Registered s n) {p : AccessPermit}
    (hp : ∀ l ∈ linkOf p.vehicleId p.plateNormalized, l ∈ s.plates) :
    Registered ((insertPermit p).apply s) n := by
  refine h.link rfl hp fun l hl => ?_
  have hl' : l ∈ permitLinks (s.permits ++ [p]) ++ restrictionLinks s.restrictions ++
    sessionLinks s.sessions := hl
  rw [permitLinks_append] at hl'
  simp only [List.mem_append, Option.mem_toList] at hl'
  simp only [Store.links, List.mem_append]
  tauto

theorem Registered.insertRestriction {s : Store} {n : ℕ} (h : Registered s n)
    {r : VehicleRestriction} (hr : ∀ l ∈ linkOf r.vehicleId r.plateNormalized, l ∈ s.plates) :
    Registered ((insertRestriction r).apply s) n := by
  refine h.link rfl hr fun l hl => ?_
  have hl' : l ∈ permitLinks s.permits ++ restrictionLinks (s.restrictions ++ [r]) ++
    sessionLinks s.sessions := hl
  rw [restrictionLinks_append] at hl'
  simp only [List.mem_append, Option.mem_toList] at hl'
  simp only [Store.links, List.mem_append]
  tauto

theorem Registered.insertVehicle {s : Store} {n : ℕ} (h : Registered s n) {v : Vehicle}
    (hv : v.id = n) : Registered ((insertVehicle v).apply s) (n + 1) := by
  have hplates : ((ParkingSystem.insertVehicle v).apply s).plates = s.plates ++ [(n, v.plateNormalized)] := by
    show (s.vehicles ++ [v]).map _ = _
    rw [List.map_append, ← hv]
    rfl
  show Copied ((ParkingSystem.insertVehicle v).apply s).plates s.links (n + 1)
  rw [hplates]
  exact Copied.insert h v.plateNormalized

/-- The plates once a vehicle is written. -/
theorem plates_updateVehicle (s : Store) (v : Vehicle) :
    ((updateVehicle v).apply s).plates =
      s.plates.map fun k => if k.1 == v.id then (v.id, v.plateNormalized) else k := by
  show (updateWhere _ _ s.vehicles).map _ = _
  rw [updateWhere, Store.plates, List.map_map, List.map_map]
  refine List.map_congr_left fun u _ => ?_
  by_cases hid : u.id = v.id <;> simp [hid]

/-- A vehicle is written with the plate it has, or nothing refers to it. -/
theorem Registered.updateVehicle {s : Store} {n : ℕ} (h : Registered s n) {v : Vehicle}
    (hv : (v.id, v.plateNormalized) ∈ s.plates ∨ ∀ l ∈ s.links, l.1 ≠ v.id) :
    Registered ((updateVehicle v).apply s) n := by
  show Copied ((ParkingSystem.updateVehicle v).apply s).plates s.links n
  rw [plates_updateVehicle]
  refine Copied.change h (fun k => ?_) fun k hk hchanged l hl => ?_
  · by_cases hid : k.1 = v.id <;> simp [hid]
  · by_cases hid : k.1 = v.id
    · rcases hv with hsame | hfree
      · -- the row is written as it was
        refine absurd ?_ hchanged
        have hrow : k = (v.id, v.plateNormalized) := List.inj_on_of_nodup_map h.distinct hk hsame hid
        simp [hrow]
      · rw [hid]
        exact hfree l hl
    · exact absurd (by simp [hid]) hchanged

/-! ## Sessions -/

/-- What is committed and what the session sees keep the invariant. -/
structure Kept (w : Session Store) : Prop where
  committed : Registered w.committed w.nextId
  view : Registered w.view w.nextId

variable {cfg : Config} {clk : ℕ → ℤ} {w w' : Session Store}

theorem Kept.broken (h : Kept w) : Kept { w with broken := true } := ⟨h.committed, h.view⟩

theorem Kept.drew (h : Kept w) : Kept { w with nextId := w.nextId + 1 } :=
  ⟨h.committed.mono (Nat.le_succ _), h.view.mono (Nat.le_succ _)⟩

theorem Kept.ticked (h : Kept w) : Kept { w with tick := w.tick + 1 } := ⟨h.committed, h.view⟩

theorem Kept.sent (h : Kept w) {st : Stmt} (hst : Registered (st.apply w.view) w.nextId) :
    Kept { w with view := st.apply w.view } := ⟨h.committed, hst⟩

theorem Kept.saved (h : Kept w) : Kept { w with committed := w.view } := ⟨h.view, h.view⟩

/-- A part of a transaction that keeps the invariant, and the plates of the vehicles it found. -/
def KeepsPlates {α : Type} (clk : ℕ → ℤ) (p : Handler α) (w : Session Store) : Prop :=
  p.wp clk (Prog.held Kept fun _ w' => w.view.plates ⊆ w'.view.plates) w

theorem held_trans {α : Type} {w'' : Session Store} {r : Except (Exc AppError) α}
    (hsub : w.view.plates ⊆ w'.view.plates)
    (h : Prog.held Kept (fun _ w'' => w'.view.plates ⊆ w''.view.plates) r w'') :
    Prog.held Kept (fun _ w'' => w.view.plates ⊆ w''.view.plates) r w'' := by
  refine ⟨h.1, ?_⟩
  cases r with
  | ok a => exact List.Subset.trans hsub h.2
  | error e => trivial

section

variable {α β : Type}

/-- A part after another. -/
theorem KeepsPlates.bind {p : Handler α} {f : α → Handler β} (h : KeepsPlates clk p w)
    (hf : ∀ a w', Kept w' → w.view.plates ⊆ w'.view.plates → KeepsPlates clk (f a) w') :
    KeepsPlates clk (p.bind f) w :=
  Prog.wp_held_bind h fun a w' hw' hsub => (hf a w' hw' hsub).mono fun _ _ => held_trans hsub

theorem keepsPlates_ret (h : Kept w) (a : α) : KeepsPlates clk (Prog.ret a : Handler α) w :=
  Prog.wp_held_ret h (List.Subset.refl _)

theorem keepsPlates_raise (h : Kept w) (e : AppError) :
    KeepsPlates clk (Prog.raise e : Handler α) w :=
  Prog.wp_held_raise h

theorem keepsPlates_newId (h : Kept w) : KeepsPlates clk (Prog.newId : Handler ℕ) w :=
  ⟨h.drew, List.Subset.refl _⟩

theorem keepsPlates_getTime (h : Kept w) : KeepsPlates clk (Prog.getTime : Handler ℤ) w :=
  ⟨h.ticked, List.Subset.refl _⟩

/-- A query, with what it found. -/
theorem keepsPlates_select (h : Kept w) (f : Store → α) {k : α → Handler β}
    (hk : KeepsPlates clk (k (f w.view)) w) : KeepsPlates clk ((Prog.select f).bind k) w :=
  Prog.wp_held_select h hk

theorem keepsPlates_flush (h : Kept w) {st : Stmt} (hst : Registered (st.apply w.view) w.nextId)
    (hsub : w.view.plates ⊆ (st.apply w.view).plates) : KeepsPlates clk (Prog.flush st) w :=
  Prog.wp_held_flush_last h (fun _ _ => h.broken) fun _ => ⟨h.sent hst, hsub⟩

/-- A statement on other tables. -/
theorem keepsPlates_flush_same (h : Kept w) {st : Stmt} (hst : SameLinks w.view (st.apply w.view)) :
    KeepsPlates clk (Prog.flush st) w :=
  keepsPlates_flush h (hst.registered h.view) fun k hk => by rw [hst.plates]; exact hk

theorem keepsPlates_commitTx (h : Kept w) : KeepsPlates clk (Prog.commitTx : Handler Unit) w :=
  Prog.wp_held_commit_last h ⟨h.saved, List.Subset.refl _⟩

theorem keepsPlates_valueOf (h : Kept w) (value : Option α) : KeepsPlates clk (valueOf value) w := by
  cases value with
  | none => exact keepsPlates_raise h _
  | some a => exact keepsPlates_ret h a

end

/-! ## The synchronisation -/

theorem keepsPlates_addConflict (h : Kept w) (row : SyncRow) (conflictType message : String) :
    KeepsPlates clk (addConflict row conflictType message) w := by
  unfold addConflict
  split
  · exact keepsPlates_ret h ()
  · exact (keepsPlates_newId h).bind fun id w' h' _ =>
      keepsPlates_flush_same h' (.of_tables rfl rfl rfl rfl)

/-- A permit for a vehicle with its plate. -/
theorem keepsPlates_insertSheetPermit (h : Kept w) {v : Vehicle}
    (hv : (v.id, v.plateNormalized) ∈ w.view.plates) (row : SyncRow) (permitType : String) :
    KeepsPlates clk (insertSheetPermit cfg v row permitType) w := by
  refine (keepsPlates_valueOf h _).bind fun validFrom w₁ h₁ hsub₁ => ?_
  refine (keepsPlates_valueOf h₁ _).bind fun validUntil w₂ h₂ hsub₂ => ?_
  refine (keepsPlates_newId h₂).bind fun id w₃ h₃ hsub₃ => ?_
  refine (keepsPlates_getTime h₃).bind fun createdAt w₄ h₄ hsub₄ => ?_
  refine keepsPlates_flush h₄ (h₄.view.insertPermit fun l hl => ?_) (List.Subset.refl _)
  cases hl
  exact hsub₄ (hsub₃ (hsub₂ (hsub₁ hv)))

theorem keepsPlates_maybePermit (h : Kept w) {v : Vehicle}
    (hv : (v.id, v.plateNormalized) ∈ w.view.plates) (row : SyncRow) :
    KeepsPlates clk (maybePermit cfg v row) w := by
  unfold maybePermit
  split
  · exact keepsPlates_raise h _
  · split
    · exact keepsPlates_ret h ()
    · refine keepsPlates_select h _ ?_
      split
      · exact keepsPlates_ret h ()
      · split
        · exact keepsPlates_insertSheetPermit h hv row _
        · exact (keepsPlates_newId h).bind fun id w' h' _ =>
            keepsPlates_flush_same h' (.of_tables rfl rfl rfl rfl)

theorem keepsPlates_insertSheetRef (h : Kept w) (key : String × String) (record : SheetRecord)
    (vehicleId : ℕ) : KeepsPlates clk (insertSheetRef cfg key record vehicleId) w := by
  refine (keepsPlates_valueOf h _).bind fun date w₁ h₁ _ => ?_
  refine (keepsPlates_newId h₁).bind fun id w₂ h₂ _ => ?_
  cases date <;> exact keepsPlates_flush_same h₂ (.of_tables rfl rfl rfl rfl)

/-- A vehicle that was drawn just now. -/
theorem keepsPlates_insertVehicle (h : Kept w) {v : Vehicle} (hv : v.id = w.nextId) {t : ℕ}
    {β : Type} {k : Unit → Handler β}
    (hk : ∀ w', Kept w' → w.view.plates ⊆ w'.view.plates →
      (v.id, v.plateNormalized) ∈ w'.view.plates → KeepsPlates clk (k ()) w') :
    KeepsPlates clk ((Prog.flush (insertVehicle v)).bind k)
      { w with nextId := w.nextId + 1, tick := t } := by
  have hdrew : Kept { w with nextId := w.nextId + 1, tick := t } := ⟨h.drew.committed, h.drew.view⟩
  have hinserted := h.view.insertVehicle hv
  have hsub : w.view.plates ⊆ ((insertVehicle v).apply w.view).plates := by
    rw [show ((insertVehicle v).apply w.view).plates = w.view.plates ++ _ from List.map_append]
    exact List.subset_append_left _ _
  refine Prog.wp_held_flush hdrew (fun _ _ => hdrew.broken) fun _ => ?_
  set w' : Session Store :=
    { w with view := (insertVehicle v).apply w.view, nextId := w.nextId + 1, tick := t }
  have hkept : Kept w' := ⟨h.drew.committed, hinserted⟩
  have hmem : v ∈ w'.view.vehicles := List.mem_append_right _ (List.mem_singleton_self v)
  exact (hk w' hkept hsub (mem_plates hmem)).mono fun _ _ => held_trans hsub

theorem keepsPlates_createFromSheet (h : Kept w) (row : SyncRow) (plate : Option String) :
    KeepsPlates clk (createFromSheet cfg row plate) w := by
  refine (keepsPlates_valueOf h _).bind fun year w₁ h₁ _ => ?_
  refine (keepsPlates_valueOf h₁ _).bind fun vehicleType w₂ h₂ _ => ?_
  refine (keepsPlates_valueOf h₂ _).bind fun plateType w₃ h₃ _ => ?_
  refine Prog.wp_newId (Prog.wp_getTime ?_)
  cases hrow : sheetVehicle cfg row.key row.record plate year vehicleType plateType w₃.nextId
      (clk w₃.tick) with
  | none =>
    have h₄ : Kept { w₃ with nextId := w₃.nextId + 1, tick := w₃.tick + 1 } := h₃.drew.ticked
    exact (keepsPlates_flush_same h₄ (.of_tables rfl rfl rfl rfl)).bind fun _ w₅ h₅ _ =>
      keepsPlates_ret h₅ _
  | some v =>
    refine keepsPlates_insertVehicle h₃ (sheetVehicle_some hrow).1 fun w₄ h₄ _ hv => ?_
    refine (keepsPlates_insertSheetRef h₄ _ _ _).bind fun _ w₅ h₅ hsub => ?_
    exact (keepsPlates_maybePermit h₅ (hsub hv) row).bind fun _ w₆ h₆ _ => keepsPlates_ret h₆ _

/-- A vehicle that is written with the plate it has. -/
theorem keepsPlates_updateVehicle (h : Kept w) {v : Vehicle}
    (hv : (v.id, v.plateNormalized) ∈ w.view.plates) :
    KeepsPlates clk (Prog.flush (updateVehicle v)) w := by
  refine keepsPlates_flush h (h.view.updateVehicle (Or.inl hv)) fun k hk => ?_
  rw [plates_updateVehicle]
  refine List.mem_map.2 ⟨k, hk, ?_⟩
  by_cases hid : k.1 = v.id
  · have hrow : k = (v.id, v.plateNormalized) :=
      List.inj_on_of_nodup_map h.view.distinct hk hv hid
    simp [hrow]
  · simp [hid]

theorem keepsPlates_flushVehicle (h : Kept w) {old new : Vehicle}
    (hv : (new.id, new.plateNormalized) ∈ w.view.plates) :
    KeepsPlates clk (flushVehicle old new) w := by
  unfold flushVehicle
  split
  · exact keepsPlates_ret h ()
  · exact keepsPlates_updateVehicle h hv

theorem keepsPlates_refreshRef (h : Kept w) (record : SheetRecord) (refId : ℕ) (changed : Bool) :
    KeepsPlates clk (refreshRef cfg record refId changed) w := by
  unfold refreshRef
  split
  · refine (keepsPlates_valueOf h _).bind fun date w₁ h₁ _ => ?_
    cases date <;> exact keepsPlates_flush_same h₁ (.of_tables rfl rfl rfl rfl)
  · exact keepsPlates_ret h ()

theorem keepsPlates_refreshFromSheet (h : Kept w) (row : SyncRow) (refId : ℕ) {v : Vehicle}
    (hv : (v.id, v.plateNormalized) ∈ w.view.plates) :
    KeepsPlates clk (refreshFromSheet cfg row refId v) w := by
  unfold refreshFromSheet
  cases htexts : refreshTexts row.record v with
  | none =>
    exact (keepsPlates_flush_same h (.of_tables rfl rfl rfl rfl)).bind fun _ w₁ h₁ _ =>
      keepsPlates_ret h₁ _
  | some withTexts =>
    obtain ⟨hid, hplate⟩ := refreshTexts_some htexts
    have hwith : (withTexts.id, withTexts.plateNormalized) ∈ w.view.plates := by
      rw [hid, hplate]
      exact hv
    refine (keepsPlates_flushVehicle h hwith).bind fun _ w₁ h₁ hsub₁ => ?_
    refine (keepsPlates_valueOf h₁ _).bind fun year w₂ h₂ hsub₂ => ?_
    have hwith₂ := hsub₂ (hsub₁ hwith)
    refine KeepsPlates.bind (keepsPlates_flushVehicle h₂ ?_) fun _ w₃ h₃ hsub₃ => ?_
    · exact hwith₂
    refine (keepsPlates_refreshRef h₃ _ _ _).bind fun _ w₄ h₄ hsub₄ => ?_
    refine KeepsPlates.bind (keepsPlates_maybePermit h₄ ?_ row) fun _ w₅ h₅ _ =>
      keepsPlates_ret h₅ _
    exact hsub₄ (hsub₃ hwith₂)

theorem keepsPlates_upsertVehicle (h : Kept w) (row : SyncRow) :
    KeepsPlates clk (upsertVehicle cfg row) w := by
  have hskip (conflictType message : String) : KeepsPlates clk
      ((addConflict row conflictType message).bind fun _ => .ret RowResult.skipped) w :=
    (keepsPlates_addConflict h row _ _).bind fun _ w' h' _ => keepsPlates_ret h' _
  refine keepsPlates_select h _ ?_
  cases refByKey row.key w.view with
  | none =>
    show KeepsPlates clk (upsertNew cfg row) w
    unfold upsertNew
    split
    · exact (keepsPlates_flush_same h (.of_tables rfl rfl rfl rfl)).bind fun _ w₁ h₁ _ =>
        keepsPlates_ret h₁ _
    · refine keepsPlates_select h _ ?_
      split
      · exact hskip _ _
      · split
        · exact keepsPlates_ret h _
        · exact keepsPlates_createFromSheet h row _
  | some ref =>
    refine keepsPlates_select h _ ?_
    cases hvehicle : vehicleById ref.vehicleId w.view with
    | none => exact hskip _ _
    | some v =>
      dsimp only
      split
      · exact hskip _ _
      · split
        · exact keepsPlates_ret h _
        · exact keepsPlates_refreshFromSheet h row ref.id
            (mem_plates (List.mem_of_find?_eq_some hvehicle))

theorem keepsPlates_syncRow (h : Kept w) (n : ℕ) (row : SyncRow) (l : SyncLoop) :
    KeepsPlates clk (syncRow cfg n row l) w := by
  unfold syncRow
  dsimp only
  split
  · exact keepsPlates_raise h _
  · split
    · exact (keepsPlates_addConflict h row _ _).bind fun _ w' h' _ => keepsPlates_ret h' _
    · exact (keepsPlates_upsertVehicle h row).bind fun _ w' h' _ => keepsPlates_ret h' _
  · exact (keepsPlates_addConflict h row _ _).bind fun _ w' h' _ => keepsPlates_ret h' _

/-- By induction on the records. -/
theorem keepsPlates_syncRows (h : Kept w) (runId : Option ℕ) (dryRun : Bool) (n : ℕ)
    (records : List SheetRecord) (l : SyncLoop) :
    KeepsPlates clk (syncRows cfg runId dryRun n records l) w := by
  induction records generalizing n l w with
  | nil => exact keepsPlates_ret h l
  | cons record rest ih =>
    rw [syncRows]
    split
    · exact keepsPlates_ret h l
    · exact (keepsPlates_syncRow h _ _ l).bind fun l' w' h' _ => ih h' _ l'

theorem keepsPlates_closeSyncRun (h : Kept w) (run : VehicleSyncRun) (dryRun : Bool) :
    KeepsPlates clk (closeSyncRun run dryRun) w := by
  unfold closeSyncRun
  split
  · exact keepsPlates_ret h ()
  · exact (keepsPlates_flush_same h (.of_tables rfl rfl rfl rfl)).bind fun _ w' h' _ =>
      keepsPlates_commitTx h'

/-- A part that is the first of a whole program. -/
theorem KeepsPlates.kept {α β : Type} {p : Handler α} {f : α → Handler β}
    (h : KeepsPlates clk p w) (hf : ∀ a w', Kept w' → (f a).wp clk (fun _ w'' => Kept w'') w') :
    (p.bind f).wp clk (fun _ w'' => Kept w'') w := by
  refine Prog.wp_bind (h.mono fun r w' hr => ?_)
  cases r with
  | ok a => exact hf a w' hr.1
  | error e => exact hr.1

/-- **The synchronisation** keeps the invariant, however it ends. -/
theorem kept_syncRun (h : Kept w) (sheet : Option Sheet) (trigger : String) (dryRun : Bool) :
    (syncRun cfg sheet trigger dryRun).wp clk (fun _ w' => Kept w') w := by
  refine (keepsPlates_getTime h).kept fun startedAt w₁ h₁ => ?_
  have hopen : KeepsPlates clk (openSyncRun trigger startedAt dryRun) w₁ := by
    unfold openSyncRun
    split
    · exact keepsPlates_ret h₁ _
    · exact (keepsPlates_newId h₁).bind fun id w₂ h₂ _ =>
        (keepsPlates_flush_same h₂ (.of_tables rfl rfl rfl rfl)).bind fun _ w₃ h₃ _ =>
          keepsPlates_ret h₃ _
  refine hopen.kept fun run w₂ h₂ => ?_
  have hbody : KeepsPlates clk (syncBody cfg sheet run.1 run.2 dryRun) w₂ := by
    refine (keepsPlates_valueOf h₂ _).bind fun sheet w₃ h₃ _ => ?_
    refine (keepsPlates_syncRows h₃ _ _ _ _ _).bind fun l w₄ h₄ _ => ?_
    refine (keepsPlates_getTime h₄).bind fun finishedAt w₅ h₅ _ => ?_
    exact (keepsPlates_closeSyncRun h₅ _ _).bind fun _ w₆ h₆ _ => keepsPlates_ret h₆ _
  refine Prog.wp_attempt (hbody.mono fun done w₃ h₃ => ?_)
  cases done with
  | ok out => exact Prog.wp_ret h₃.1
  | error exc =>
    -- what the rows before it wrote is committed with the failure
    refine (keepsPlates_getTime h₃.1).kept fun finishedAt w₄ h₄ => ?_
    exact (keepsPlates_closeSyncRun h₄ _ _).kept fun _ w₅ h₅ => Prog.wp_ret h₅

/-! ## The endpoints -/

theorem kept_createVehicle (h : Kept w) (body : VehicleCreate) :
    (createVehicle cfg body).wp clk (fun _ w' => Kept w') w := by
  unfold createVehicle
  split
  · refine (keepsPlates_select h _ ?_).mono fun _ _ hr => hr.1
    split
    · exact keepsPlates_raise h _
    · refine keepsPlates_select h _ (Prog.wp_newId (Prog.wp_getTime ?_))
      exact keepsPlates_insertVehicle h rfl fun w₁ h₁ _ _ =>
        (keepsPlates_commitTx h₁).bind fun _ w₂ h₂ _ => keepsPlates_ret h₂ _
  · exact Prog.wp_raise h

/-- A restriction names the vehicle whose plate it has. -/
theorem kept_createRestriction (h : Kept w) (body : RestrictionCreate) (user : Option ℕ) :
    (createRestriction cfg body user).wp clk (fun _ w' => Kept w') w := by
  refine (keepsPlates_select h _ ?_).mono fun _ _ hr => hr.1
  refine (keepsPlates_newId h).bind fun id w₁ h₁ hsub₁ => ?_
  refine (keepsPlates_flush h₁ (h₁.view.insertRestriction fun l hl => hsub₁ ?_)
    (List.Subset.refl _)).bind fun _ w₂ h₂ _ =>
      (keepsPlates_commitTx h₂).bind fun _ w₃ h₃ _ => keepsPlates_ret h₃ _
  cases hvehicle : vehicleByText cfg body.plateRaw w.view with
  | none =>
    rw [hvehicle] at hl
    cases hl
  | some v =>
    obtain ⟨plate, hplate, hfound⟩ := Option.bind_eq_some_iff.1 hvehicle
    obtain ⟨hmem, hsame⟩ := vehicleOf_mem hfound
    rw [hvehicle] at hl
    cases hl
    rw [plateKey, hplate, Option.getD_some, ← hsame]
    exact mem_plates hmem

/-- What a request stores as a permit: its plate. -/
def PermitCreate.accepted (cfg : Config) (body : PermitCreate) (s : Store) : Option String :=
  (body.plate cfg s).filter fun plate =>
    plate != "" && ((insertPermit (body.row plate none 0 0)).check s).isNone

/-- A permit that names a vehicle has its plate. -/
def PermitCreate.Consistent (cfg : Config) (body : PermitCreate) (s : Store) : Prop :=
  ∀ plate ∈ body.accepted cfg s, ∀ v ∈ s.vehicles, body.vehicleId = some v.id →
    plate = v.plateNormalized

/-- A permit that was stored names a vehicle that is there. -/
theorem insertPermit_vehicle {p : AccessPermit} {s : Store} {id : ℕ}
    (hcheck : (insertPermit p).check s = none) (hid : p.vehicleId = some id) :
    ∃ v ∈ s.vehicles, v.id = id := by
  simp only [insertPermit] at hcheck
  split at hcheck
  · cases hcheck
  · split at hcheck
    · cases hcheck
    · rename_i hrefers
      simp only [refersTo, hid, Option.all_some, Bool.not_eq_true, Bool.not_eq_false',
        Bool.and_eq_true] at hrefers
      simpa using hrefers.1

theorem kept_createPermit (h : Kept w) (body : PermitCreate) (user : Option ℕ)
    (hbody : body.Consistent cfg w.view) :
    (createPermit cfg body user).wp clk (fun _ w' => Kept w') w := by
  refine Prog.wp_select (fun _ => h) fun _ => ?_
  split
  · exact Prog.wp_raise h
  · rename_i hgiven
    refine Prog.wp_newId (Prog.wp_getTime ?_)
    have hdrew : Kept { w with nextId := w.nextId + 1, tick := w.tick + 1 } := h.drew.ticked
    refine Prog.wp_flush (fun _ => hdrew) (fun _ _ _ => hdrew.broken) fun _ hcheck => ?_
    have hsent : Registered ((insertPermit (body.row ((body.plate cfg w.view).getD "") user w.nextId
        (clk w.tick))).apply w.view) (w.nextId + 1) := by
      refine hdrew.view.insertPermit fun l hl => ?_
      obtain ⟨id, hid, rfl⟩ := Option.map_eq_some_iff.1 (show linkOf body.vehicleId _ = some l from hl)
      obtain ⟨v, hv, rfl⟩ := insertPermit_vehicle hcheck hid
      cases hplate : body.plate cfg w.view with
      | none => simp [hplate] at hgiven
      | some plate =>
        rw [hplate, Option.getD_some] at hgiven hcheck
        have haccepted : plate ∈ body.accepted cfg w.view := by
          refine Option.filter_eq_some_iff.2 ⟨hplate, ?_⟩
          rw [Bool.and_eq_true, bne_iff_ne]
          exact ⟨hgiven, Option.isNone_iff_eq_none.2 hcheck⟩
        rw [Option.getD_some, hbody plate haccepted v hv hid]
        exact mem_plates hv
    exact ((keepsPlates_commitTx (hdrew.sent hsent)).bind fun _ w₁ h₁ _ =>
      keepsPlates_ret h₁ _).mono fun _ _ hr => hr.1

/-! ### Changing a vehicle -/

/-- What a request changes: the vehicle as it is and as it will be, where it goes through. -/
def VehicleUpdate.applied (cfg : Config) (vehicleId : ℕ) (body : VehicleUpdate) (s : Store) :
    Option (Vehicle × Vehicle) :=
  if body.plateRaw.all plateTextValid then
    (vehicleById vehicleId s).bind fun v =>
      let row := body.on (regionOf (letterOf body.plateLetter) (normCode body.plateProvinceCode) s)
        (body.replate cfg v)
      if plateTaken v (body.replate cfg v) s || body.hasNull ||
          ((updateVehicle row).check s).isSome then none
      else some (v, row)
  else none

/-- A change of plate finds no record that names the vehicle. -/
def VehicleUpdate.Detached (cfg : Config) (vehicleId : ℕ) (body : VehicleUpdate) (s : Store) :
    Prop :=
  ∀ change ∈ body.applied cfg vehicleId s,
    change.2.plateNormalized ≠ change.1.plateNormalized → ∀ l ∈ s.links, l.1 ≠ change.1.id

theorem VehicleUpdate.on_id (cfg : Config) (body : VehicleUpdate) (region : Option (String × String))
    (v : Vehicle) : (body.on region (body.replate cfg v)).id = v.id := by
  have hreplate : (body.replate cfg v).id = v.id := by
    unfold VehicleUpdate.replate
    split <;> rfl
  unfold VehicleUpdate.on
  dsimp only
  split <;> exact hreplate

theorem kept_modifyVehicle (h : Kept w) (vehicleId : ℕ) (body : VehicleUpdate)
    (hbody : body.Detached cfg vehicleId w.view) :
    (modifyVehicle cfg vehicleId body).wp clk (fun _ w' => Kept w') w := by
  unfold modifyVehicle
  split
  · rename_i hvalid
    refine Prog.wp_select (fun _ => h) fun _ => ?_
    cases hvehicle : vehicleById vehicleId w.view with
    | none => exact Prog.wp_raise h
    | some v =>
      refine Prog.wp_select (fun _ => h) fun _ => ?_
      split
      · exact Prog.wp_raise h
      · rename_i htaken
        refine Prog.wp_select (fun _ => h) fun _ => ?_
        split
        · exact Prog.wp_throw h
        · rename_i hnull
          refine Prog.wp_flush (fun _ => h) (fun _ _ _ => h.broken) fun _ hcheck => ?_
          have hmem := List.mem_of_find?_eq_some hvehicle
          have hid := VehicleUpdate.on_id cfg body
            (regionOf (letterOf body.plateLetter) (normCode body.plateProvinceCode) w.view) v
          have happlied : (v, body.on (regionOf (letterOf body.plateLetter)
              (normCode body.plateProvinceCode) w.view) (body.replate cfg v)) ∈
              body.applied cfg vehicleId w.view := by
            simp [VehicleUpdate.applied, hvalid, hvehicle, htaken, hnull, hcheck]
          have hsent := h.view.updateVehicle (v := body.on (regionOf (letterOf body.plateLetter)
            (normCode body.plateProvinceCode) w.view) (body.replate cfg v)) <| by
              by_cases hsame : (body.on (regionOf (letterOf body.plateLetter)
                (normCode body.plateProvinceCode) w.view) (body.replate cfg v)).plateNormalized =
                  v.plateNormalized
              · left
                rw [hid, hsame]
                exact mem_plates hmem
              · right
                rw [hid]
                exact hbody _ happlied hsame
          exact ((keepsPlates_commitTx (h.sent hsent)).bind fun _ w₁ h₁ _ =>
            keepsPlates_ret h₁ _).mono fun _ _ hr => hr.1
  · exact Prog.wp_raise h

/-! ## The gate -/

/-- The tables of the registry. -/
def Store.registry (s : Store) : List Vehicle × List AccessPermit × List VehicleRestriction :=
  (s.vehicles, s.permits, s.restrictions)

theorem SameLinks.of_registry {s s' : Store} (h : s'.registry = s.registry)
    (hsessions : s'.sessions = s.sessions) : SameLinks s s' :=
  .of_tables (congrArg Prod.fst h) (congrArg (fun t => t.2.1) h) (congrArg (fun t => t.2.2) h)
    hsessions

theorem spaceTaken_registry (sp : Option ParkingSpace) (s : Store) :
    (spaceTaken sp s).registry = s.registry := by
  unfold spaceTaken
  split
  · rfl
  · split <;> rfl

theorem exitStore_registry (r : Reading) (s : Store) : (exitStore r s).registry = s.registry := by
  unfold exitStore spaceFreed
  split
  · rfl
  · split
    · rfl
    · split <;> rfl

/-- Recording an event adds the session of an entry at most. -/
theorem recordedStore_links (e : PlateEvent) (r : Reading) (v : Verdict) (n : ℕ) (s : Store) :
    (recordedStore e r v n s).plates = s.plates ∧
      ∀ l ∈ (recordedStore e r v n s).links, l ∈ s.links ∨
        (r.normalized.bind fun plate => linkOf (r.vehicle.map Vehicle.id) plate) = some l := by
  by_cases hopens : opensSession e v
  · rw [recordedStore_opens hopens, entryStore]
    set s₁ := (insertSession (entrySession e r n (n + 1))).apply
      ((insertEvent (eventRow e r v n)).apply s) with hs₁
    have hsame : SameLinks s₁ (spaceTaken (r.space ((insertEvent (eventRow e r v n)).apply s))
        ((insertOccupancy (entryOccupancy e r n (n + 2)
          (r.space ((insertEvent (eventRow e r v n)).apply s)))).apply s₁)) :=
      .of_registry (spaceTaken_registry _ _) (spaceTaken_sessions _ _)
    refine ⟨hsame.plates, fun l hl => ?_⟩
    have hl := hsame.links hl
    cases hplate : r.normalized with
    | none =>
      left
      have hnone : s₁.sessions = s.sessions := by
        show s.sessions ++ (r.normalized.toList.map _) = _
        rw [hplate]
        exact List.append_nil _
      exact (SameLinks.of_tables rfl rfl rfl hnone : SameLinks s s₁).links hl
    | some plate =>
      have hrows : s₁.sessions = s.sessions ++ [(entrySession e r n (n + 1)).row plate] := by
        show s.sessions ++ (r.normalized.toList.map _) = _
        rw [hplate]
        rfl
      have hl : l ∈ permitLinks s.permits ++ restrictionLinks s.restrictions ++
        sessionLinks (s.sessions ++ [(entrySession e r n (n + 1)).row plate]) := hrows ▸ hl
      have hadded : sessionLinks (s.sessions ++ [(entrySession e r n (n + 1)).row plate]) =
          sessionLinks s.sessions ++ (linkOf (r.vehicle.map Vehicle.id) plate).toList := by
        unfold sessionLinks
        rw [List.filter_append, List.filterMap_append]
        cases h : linkOf (r.vehicle.map Vehicle.id) plate <;>
          simp [NewSession.row, entrySession, h]
      rw [hadded] at hl
      simp only [List.mem_append, Option.mem_toList] at hl
      simp only [Store.links, List.mem_append, Option.bind_some]
      tauto
  · -- an event and an exit write other tables
    have hsame : SameLinks s (recordedStore e r v n s) := by
      by_cases hreleases : releases e v
      · rw [recordedStore_releases hreleases]
        exact .of_registry (exitStore_registry _ _) (exitStore_sessions _ _)
      · rw [recordedStore_neither hopens hreleases]
        exact .of_tables rfl rfl rfl rfl
    exact ⟨hsame.plates, fun l hl => Or.inl (hsame.links hl)⟩

theorem DecisionStmt.permitLinks {st : Stmt} (h : DecisionStmt st) (s : Store) :
    (st.apply s).permits.map (fun p => linkOf p.vehicleId p.plateNormalized) =
      s.permits.map fun p => linkOf p.vehicleId p.plateNormalized := by
  cases h with
  | permit p =>
    refine map_updateWhere (fun q => ?_) s.permits
    rfl
  | _ => rfl

section

variable {e : PlateEvent} {gate : Gate} {w₁ w₂ : Session Store} {base : BaseDecision} {v : Verdict}

/-- The decision counts an entry of a permit and closes a session; both keep their copies. -/
theorem Decided.sameLinks (h : Decided cfg clk e gate w base w₁ v w₂) (hlive : w₂.broken = false) :
    SameLinks w.view w₂.view := by
  obtain ⟨rs, hview⟩ := atDecision_view cfg e gate clk w
  have hundecided := h.undecided
  rw [hview] at hundecided
  have hvehicles := congrArg Store.vehicles hundecided
  have hrestrictions := congrArg Store.restrictions hundecided
  change w₂.view.vehicles = w.view.vehicles at hvehicles
  change w₂.view.restrictions = w.view.restrictions at hrestrictions
  have hpermits : w₂.view.permits.map (fun p => linkOf p.vehicleId p.plateNormalized) =
      w.view.permits.map fun p => linkOf p.vehicleId p.plateNormalized := by
    have hrel := (writesOnly_branch cfg (e.branch cfg gate clk w) (clk w.tick)).exec_rel
      (R := fun s s' => s'.permits.map (fun p => linkOf p.vehicleId p.plateNormalized) =
        s.permits.map fun p => linkOf p.vehicleId p.plateNormalized) (fun _ => rfl)
      (by intro s₁ s₂ s₃ h₁ h₂; exact h₂.trans h₁) (fun _ hst s => hst.permitLinks s) clk
      (e.atDecision cfg gate clk w)
    rw [h.run, hview] at hrel
    rw [h.view]
    exact hrel.2
  have hpermitLinks : permitLinks w₂.view.permits = permitLinks w.view.permits := by
    have hmap (permits : List AccessPermit) : permitLinks permits =
        (permits.map fun p => linkOf p.vehicleId p.plateNormalized).filterMap id := by
      rw [permitLinks, List.filterMap_map]
      rfl
    rw [hmap, hmap, hpermits]
  have hsessions : sessionLinks w₂.view.sessions ⊆ sessionLinks w.view.sessions := by
    cases hbranch : e.branch cfg gate clk w with
    | exitCloses policy session =>
      obtain ⟨f, hf, hrows⟩ := h.sessions_closed hlive hbranch
      intro l hl
      obtain ⟨x, hx, hlink⟩ := List.mem_filterMap.1 hl
      obtain ⟨hx, hopen⟩ := List.mem_filter.1 hx
      have hopen : x.status = .opened := by simpa using hopen
      -- a row that is still open is not the one that was closed
      have hrow : x.unsettled ∈ (updateWhere (fun r => r.id == session.id) f w.view.sessions).map
          ParkingSession.unsettled := hrows ▸ List.mem_map_of_mem hx
      obtain ⟨y, hy, hsame⟩ := List.mem_map.1 hrow
      have hstatus := congrArg ParkingSession.status hsame
      have hvehicle := congrArg ParkingSession.vehicleId hsame
      have hplate := congrArg ParkingSession.plateNormalized hsame
      change y.status = x.status at hstatus
      change y.vehicleId = x.vehicleId at hvehicle
      change y.plateNormalized = x.plateNormalized at hplate
      rcases mem_updateWhere.1 hy with ⟨z, _, _, rfl⟩ | ⟨hy, _⟩
      · rw [(hf z).1, hopen] at hstatus
        cases hstatus
      · refine List.mem_filterMap.2 ⟨y, List.mem_filter.2 ⟨hy, by simp [hstatus, hopen]⟩, ?_⟩
        rw [← hlink, hvehicle, hplate]
    | fixed d => rw [h.sessions_kept (by simp [hbranch])]; exact List.Subset.refl _
    | entryCounts p => rw [h.sessions_kept (by simp [hbranch])]; exact List.Subset.refl _
  constructor
  · rw [Store.plates, Store.plates, hvehicles]
  · rw [Store.links, Store.links, hpermitLinks, hrestrictions]
    exact List.append_subset.2 ⟨List.subset_append_left _ _,
      List.Subset.trans hsessions (List.subset_append_right _ _)⟩

/-- The session of an entry names the vehicle whose plate it has. -/
theorem reading_link {l : ℕ × String}
    (hl : ((e.readingIn cfg gate clk w).normalized.bind fun plate =>
      linkOf ((e.readingIn cfg gate clk w).vehicle.map Vehicle.id) plate) = some l) :
    l ∈ w.view.plates := by
  obtain ⟨plate, hplate, hlink⟩ := Option.bind_eq_some_iff.1 hl
  obtain ⟨id, hid, rfl⟩ := Option.map_eq_some_iff.1 hlink
  obtain ⟨v, hv, rfl⟩ := Option.map_eq_some_iff.1 hid
  obtain ⟨plate', hplate', hfound⟩ := Option.bind_eq_some_iff.1 (show e.vehicle cfg w.view = some v from hv)
  obtain ⟨hmem, hsame⟩ := vehicleOf_mem hfound
  have hboth : plate' = plate := Option.some.inj (hplate'.symm.trans hplate)
  rw [← hboth, ← hsame]
  exact mem_plates hmem

end

/-- **A gate event** keeps the invariant. -/
theorem registered_plateEvent (clk : ℕ → ℤ) (e : PlateEvent) {res : Except (Exc AppError) GateResponse}
    (h : Registered w.committed w.nextId)
    (hexec : (processPlateEvent cfg e).exec clk (.fresh w.committed w.nextId w.tick) = (res, w')) :
    Registered w'.committed w'.nextId := by
  have hn := Prog.exec_nextId_le clk (processPlateEvent cfg e) (.fresh w.committed w.nextId w.tick)
  rw [hexec] at hn
  have hsame (hcommitted : w'.committed = w.committed) : Registered w'.committed w'.nextId := by
    rw [hcommitted]
    exact h.mono hn
  cases res with
  | error exc =>
    have herror := processPlateEvent_error hexec
    exact hsame herror
  | ok resp =>
    cases hnew : eventByKey e.key w.committed with
    | some ev =>
      exact hsame (processPlateEvent_duplicate (w := .fresh w.committed w.nextId w.tick) rfl hnew
        hexec).1
    | none =>
      obtain ⟨gate, base, w₁, v, w₂, hdecided, hending⟩ := processPlateEvent_ok rfl rfl hnew hexec
      cases hending with
      | dry _ _ hcommitted => exact hsame (hcommitted.trans hdecided.committed)
      | conflict _ _ _ _ _ hcommitted => exact hsame (hcommitted.trans hdecided.committed)
      | stored _ hlive _ hcommitted _ _ =>
        have hlinks := hdecided.sameLinks hlive
        have hrecorded := recordedStore_links e (e.readingIn cfg gate clk
          (.fresh w.committed w.nextId w.tick)) v w₂.nextId w₂.view
        have hview : Registered w₂.view w.nextId := hlinks.registered h
        rw [hcommitted]
        refine Copied.mono (hview.link hrecorded.1 (fun l hl => ?_) hrecorded.2) hn
        rw [hlinks.plates]
        exact reading_link hl

/-! ## Runs -/

/-- What writes the plate of a vehicle or a copy of one. -/
inductive RegistryOp where
  | createVehicle (body : VehicleCreate)
  | modifyVehicle (vehicleId : ℕ) (body : VehicleUpdate)
  | createPermit (body : PermitCreate) (user : Option ℕ)
  | createRestriction (body : RestrictionCreate) (user : Option ℕ)
  | plateEvent (e : PlateEvent)
  | syncRun (sheet : Option Sheet) (trigger : String) (dryRun : Bool)

/-- The handler of an operation, without its answer. -/
def RegistryOp.handler (cfg : Config) : RegistryOp → Handler Unit
  | createVehicle body => (ParkingSystem.createVehicle cfg body).bind fun _ => .ret ()
  | modifyVehicle vehicleId body =>
    (ParkingSystem.modifyVehicle cfg vehicleId body).bind fun _ => .ret ()
  | createPermit body user => (ParkingSystem.createPermit cfg body user).bind fun _ => .ret ()
  | createRestriction body user =>
    (ParkingSystem.createRestriction cfg body user).bind fun _ => .ret ()
  | plateEvent e => (processPlateEvent cfg e).bind fun _ => .ret ()
  | syncRun sheet trigger dryRun =>
    (ParkingSystem.syncRun cfg sheet trigger dryRun).bind fun _ => .ret ()

/-- What an operation has to find: nothing linked to a vehicle whose plate it changes, and the
plate of the vehicle that a permit names. -/
def RegistryOp.KeepsCopies (cfg : Config) : RegistryOp → Session Store → Prop
  | modifyVehicle vehicleId body, w => body.Detached cfg vehicleId w.committed
  | createPermit body _, w => body.Consistent cfg w.committed
  | _, _ => True

/-- A handler without its answer. -/
theorem kept_discard {α : Type} {p : Handler α} (h : p.wp clk (fun _ w' => Kept w') w) :
    (p.bind fun _ => (.ret () : Handler Unit)).wp clk (fun _ w' => Kept w') w := by
  refine Prog.wp_bind (h.mono fun r w' hr => ?_)
  cases r with
  | ok a => exact Prog.wp_ret hr
  | error e => exact hr

/-- **Step**: an operation under its condition keeps the invariant. -/
theorem RegistryOp.keeps (cfg : Config) (clk : ℕ → ℤ) (op : RegistryOp) (w : Session Store)
    (hop : op.KeepsCopies cfg w) (h : Registered w.committed w.nextId) :
    Registered ((op.handler cfg).after clk w).committed ((op.handler cfg).after clk w).nextId := by
  have hkept : Kept (.fresh w.committed w.nextId w.tick) := ⟨h, h⟩
  have hends {p : Handler Unit} (hp : p.wp clk (fun _ w' => Kept w')
      (.fresh w.committed w.nextId w.tick)) :
      Registered (p.after clk w).committed (p.after clk w).nextId := hp.ends.committed
  cases op with
  | createVehicle body => exact hends (kept_discard (kept_createVehicle hkept body))
  | modifyVehicle vehicleId body =>
    exact hends (kept_discard (kept_modifyVehicle hkept vehicleId body hop))
  | createPermit body user => exact hends (kept_discard (kept_createPermit hkept body user hop))
  | createRestriction body user =>
    exact hends (kept_discard (kept_createRestriction hkept body user))
  | syncRun sheet trigger dryRun =>
    exact hends (kept_discard (kept_syncRun hkept sheet trigger dryRun))
  | plateEvent e =>
    rcases hexec : (processPlateEvent cfg e).exec clk (.fresh w.committed w.nextId w.tick) with
      ⟨exc | resp, w'⟩
    · rw [Prog.after_of_exec (p := RegistryOp.handler cfg (.plateEvent e))
        (Prog.exec_bind_of_error hexec)]
      have hregistered := registered_plateEvent clk e h hexec
      exact hregistered
    · rw [Prog.after_of_exec (p := RegistryOp.handler cfg (.plateEvent e))
        (Prog.exec_bind_of_ok hexec)]
      have hregistered := registered_plateEvent clk e h hexec
      exact hregistered

/-- **Linked records follow the vehicle**: from a store whose copies agree, along every sequence
of operations under their conditions, what names a vehicle has its plate. -/
theorem linked_run (cfg : Config) (clk : ℕ → ℤ) (ops : List RegistryOp) (w : Session Store)
    (hstart : Registered w.committed w.nextId)
    (hops : Prog.EachMeets clk (RegistryOp.handler cfg) (RegistryOp.KeepsCopies cfg) ops w) :
    Linked (Prog.afterEach clk (RegistryOp.handler cfg) ops w).committed :=
  (hops.invariant (I := fun w => Registered w.committed w.nextId)
    (fun op w => RegistryOp.keeps cfg clk op w) hstart).linked

/-! ### A restriction that is left behind -/

/-- A vehicle is registered and banned. -/
def registerAndBan : List RegistryOp :=
  [.createVehicle { plateRaw := "12ب34567" },
    .createRestriction { plateRaw := "12ب34567", reason := some "unpaid fines" } none]

/-- Its plate is corrected. -/
def replateBanned : RegistryOp := .modifyVehicle 0 { plateRaw := some "13ب34567" }

theorem registered_empty : Registered {} 0 where
  distinct := List.nodup_nil
  below := nofun
  drawn := nofun
  agree := nofun

theorem linked_run_registerAndBan :
    Linked (Prog.afterEach (fun _ => 0) (RegistryOp.handler {}) registerAndBan
      (.fresh {} 0 0)).committed :=
  linked_run {} (fun _ => 0) registerAndBan (.fresh {} 0 0) registered_empty
    ⟨trivial, trivial, trivial⟩

/-- **Changing the plate detaches the restriction**: it stays under the old plate. -/
theorem replated_unlinked : ¬ ∀ (cfg : Config) (clk : ℕ → ℤ) (ops : List RegistryOp)
    (w : Session Store), Registered w.committed w.nextId →
    Linked (Prog.afterEach clk (RegistryOp.handler cfg) ops w).committed := by
  intro h
  have hlinked := (h {} (fun _ => 0) (registerAndBan ++ [replateBanned]) (.fresh {} 0 0)
    registered_empty).restrictions
  revert hlinked
  decide +kernel

end ParkingSystem
