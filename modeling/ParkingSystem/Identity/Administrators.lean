import ParkingSystem.Identity.Staff
import ParkingSystem.Library.Scheduler

/-!
# An Administrator Remains

Any number of requests on users and roles at once. Two of them have a guard: nobody deactivates
themselves, and the role ADMIN is not deleted. Neither looks whether it is the last administrator
that goes.

## What a commit can take

Every commit is about one user at most, and only a deactivation and an assignment of roles without
ADMIN take anything from them. Everything else keeps the role ADMIN, and keeps active whoever is
active and an administrator whoever is one.
-/

namespace ParkingSystem

open Table Transaction

/-! ## Administrators -/

/-- A user who is active. -/
def ActiveUser (v : ℕ) (s : Store) : Prop := ∃ u ∈ s.users, u.id = v ∧ u.isActive = true

/-- An active user who holds the role ADMIN. -/
def ActiveAdmin (v : ℕ) (s : Store) : Prop := ActiveUser v s ∧ userIsAdmin v s = true

/-- The primary key and the unique index of the roles. -/
structure RoleKeys (s : Store) : Prop where
  ids : (s.roles.map Role.id).Nodup
  codes : (s.roles.map Role.code).Nodup

/-- The role ADMIN has the identifier `a`. -/
structure AdminRole (a : ℕ) (s : Store) : Prop where
  code : ∀ r ∈ s.roles, r.code = "ADMIN" ↔ r.id = a
  present : ∃ r ∈ s.roles, r.id = a

theorem userIsAdmin_iff {a : ℕ} {s : Store} (h : AdminRole a s) (v : ℕ) :
    userIsAdmin v s = true ↔ ⟨v, a⟩ ∈ s.userRoles := by
  simp only [userIsAdmin, List.any_eq_true, Bool.and_eq_true, beq_iff_eq, List.contains_iff_mem]
  constructor
  · rintro ⟨r, hr, hcode, hlink⟩
    rwa [← (h.code r hr).1 hcode]
  · intro hlink
    obtain ⟨r, hr, rfl⟩ := h.present
    exact ⟨r, hr, (h.code r hr).2 rfl, hlink⟩

/-- Where somebody holds the role ADMIN, it has an identifier. -/
theorem adminRole_of_admin {v : ℕ} {s : Store} (hkeys : RoleKeys s) (h : userIsAdmin v s = true) :
    ∃ a, AdminRole a s := by
  simp only [userIsAdmin, List.any_eq_true, Bool.and_eq_true, beq_iff_eq] at h
  obtain ⟨r, hr, hcode, -⟩ := h
  refine ⟨r.id, fun t ht => ⟨fun hcode' => ?_, fun hid => ?_⟩, r, hr, rfl⟩
  · rw [List.inj_on_of_nodup_map hkeys.codes ht hr (hcode'.trans hcode.symm)]
  · rw [List.inj_on_of_nodup_map hkeys.ids ht hr hid, hcode]

/-! ## What updates keep -/

/-- An update keeps the role ADMIN, whoever is active, but for `T`, and whoever holds the role, but
for `L`. -/
structure KeepsStaff (a : ℕ) (T L : ℕ → Prop) (f : Store → Store) : Prop where
  role : ∀ s, AdminRole a s → AdminRole a (f s)
  active : ∀ s v, ¬ T v → ActiveUser v s → ActiveUser v (f s)
  link : ∀ s v, ¬ L v → ⟨v, a⟩ ∈ s.userRoles → ⟨v, a⟩ ∈ (f s).userRoles

/-- Nobody. -/
def nobody : ℕ → Prop := fun _ => False

section

variable {a : ℕ} {T L : ℕ → Prop}

theorem KeepsStaff.id : KeepsStaff a T L id where
  role _ h := h
  active _ _ _ h := h
  link _ _ _ h := h

theorem KeepsStaff.comp {f g : Store → Store} (hf : KeepsStaff a T L f) (hg : KeepsStaff a T L g) :
    KeepsStaff a T L fun s => f (g s) where
  role s h := hf.role _ (hg.role s h)
  active s v hv h := hf.active _ v hv (hg.active s v hv h)
  link s v hv h := hf.link _ v hv (hg.link s v hv h)

/-- An update of other tables. -/
theorem KeepsStaff.of_same {f : Store → Store} (husers : ∀ s, (f s).users = s.users)
    (hroles : ∀ s, (f s).roles = s.roles) (hlinks : ∀ s, (f s).userRoles = s.userRoles) :
    KeepsStaff a T L f where
  role s h := ⟨by rw [hroles]; exact h.code, by rw [hroles]; exact h.present⟩
  active s v _ h := by
    unfold ActiveUser
    rw [husers]
    exact h
  link s v _ h := by
    rw [hlinks]
    exact h

/-- An UPDATE of users that leaves their identifiers. -/
theorem active_updateWhere {id v : ℕ} {f : User → User} {rows : List User}
    (hid : ∀ u, (f u).id = u.id)
    (hactive : v = id → ∀ u : User, u.isActive = true → (f u).isActive = true)
    (h : ∃ u ∈ rows, u.id = v ∧ u.isActive = true) :
    ∃ u ∈ updateWhere (fun u => u.id == id) f rows, u.id = v ∧ u.isActive = true := by
  obtain ⟨u, hu, rfl, hu'⟩ := h
  by_cases hsame : u.id = id
  · exact ⟨f u, mem_updateWhere.2 (Or.inl ⟨u, hu, beq_iff_eq.2 hsame, rfl⟩), hid u,
      hactive hsame u hu'⟩
  · exact ⟨u, mem_updateWhere.2 (Or.inr ⟨hu, beq_eq_false_iff_ne.2 hsame⟩), rfl, hu'⟩

theorem keepsStaff_updateUser (id : ℕ) (upd : UserUpdate)
    (h : upd.isActive = some false → T id) : KeepsStaff a T L (updateUser id upd).apply where
  role _ h := ⟨h.code, h.present⟩
  active s v hv hactive := by
    refine active_updateWhere (f := upd.on) (fun _ => rfl) (fun hid u hu => ?_) hactive
    -- the column is written for those of `T` only
    show upd.isActive.getD u.isActive = true
    cases hupd : upd.isActive with
    | none => exact hu
    | some b =>
      cases b with
      | true => rfl
      | false => exact absurd (h hupd) (hid ▸ hv)
  link _ _ _ h := h

theorem keepsStaff_updateProfile (id : ℕ) (fullName mobile : Option String) :
    KeepsStaff a T L (updateProfile id fullName mobile).apply where
  role _ h := ⟨h.code, h.present⟩
  active s v _ h := by
    refine active_updateWhere ?_ ?_ h
    · exact fun _ => rfl
    · exact fun _ _ hu => hu
  link _ _ _ h := h

theorem keepsStaff_insertUser (u : User) : KeepsStaff a T L (insertUser u).apply where
  role _ h := ⟨h.code, h.present⟩
  active _ _ _ h := by
    obtain ⟨w, hw, hid⟩ := h
    exact ⟨w, List.mem_append_left _ hw, hid⟩
  link _ _ _ h := h

theorem keepsStaff_insertUserRole (row : UserRole) :
    KeepsStaff a T L (insertUserRole row).apply where
  role _ h := ⟨h.code, h.present⟩
  active _ _ _ h := h
  link _ _ _ h := List.mem_append_left _ h

theorem keepsStaff_deleteUserRoles {rows : List UserRole} (h : ∀ v, ⟨v, a⟩ ∈ rows → L v) :
    KeepsStaff a T L (deleteUserRoles rows).apply where
  role _ h := ⟨h.code, h.present⟩
  active _ _ _ h := h
  link s v hv hlink := by
    refine List.mem_filter.2 ⟨hlink, ?_⟩
    simpa using fun hmem => hv (h v hmem)

theorem keepsStaff_insertRole {r : Role} (hcode : r.code ≠ "ADMIN") (hid : r.id ≠ a) :
    KeepsStaff a T L (insertRole r).apply where
  role s h := by
    refine ⟨fun t ht => ?_, ?_⟩
    · rcases List.mem_append.1 ht with ht | ht
      · exact h.code t ht
      · obtain rfl := List.mem_singleton.1 ht
        exact ⟨fun hcode' => absurd hcode' hcode, fun hid' => absurd hid' hid⟩
    · obtain ⟨t, ht, htid⟩ := h.present
      exact ⟨t, List.mem_append_left _ ht, htid⟩
  active _ _ _ h := h
  link _ _ _ h := h

theorem keepsStaff_updateRoleRow (id : ℕ) (title description : Option String) :
    KeepsStaff a T L (updateRoleRow id title description).apply where
  role s h := by
    refine ⟨fun t ht => ?_, ?_⟩
    · rcases mem_updateWhere.1 ht with ⟨r, hr, -, rfl⟩ | ⟨ht, -⟩
      · exact h.code r hr
      · exact h.code t ht
    · obtain ⟨r, hr, hid⟩ := h.present
      by_cases hsame : (r.id == id) = true
      · exact ⟨_, mem_updateWhere.2 (Or.inl ⟨r, hr, hsame, rfl⟩), hid⟩
      · exact ⟨r, mem_updateWhere.2 (Or.inr ⟨hr, Bool.eq_false_iff.2 hsame⟩), hid⟩
  active _ _ _ h := h
  link _ _ _ h := h

theorem keepsStaff_deleteRoleRow {id : ℕ} (hid : id ≠ a) :
    KeepsStaff a T L (deleteRoleRow id).apply where
  role s h := by
    refine ⟨fun t ht => h.code t (List.mem_filter.1 ht).1, ?_⟩
    obtain ⟨r, hr, rfl⟩ := h.present
    exact ⟨r, List.mem_filter.2 ⟨hr, by simpa using hid.symm⟩, rfl⟩
  active _ _ _ h := h
  link _ _ _ h := h

/-! ## The programs -/

/-- A statement whose update keeps the staff. -/
abbrev StaffStmt (a : ℕ) (T L : ℕ → Prop) (st : Stmt) : Prop := KeepsStaff a T L st.apply

section

variable {P : Stmt → Prop}

theorem readOnly_requirePermission (permCode : String) (currentUser : ℕ) :
    (requirePermission permCode currentUser).ReadOnly := by
  refine (Prog.writesOnly_select _).bind fun found => ?_
  split
  · exact Prog.writesOnly_raise _
  · split
    · exact Prog.writesOnly_raise _
    · refine (Prog.writesOnly_select _).bind fun admin => ?_
      split
      · trivial
      · refine (Prog.writesOnly_select _).bind fun has => ?_
        split
        · trivial
        · exact Prog.writesOnly_raise _

theorem writesOnly_requestedRoles (roleCodes : List String) :
    (requestedRoles roleCodes).WritesOnly P := by
  unfold requestedRoles
  split
  · trivial
  · refine (Prog.writesOnly_select _).bind fun roles => ?_
    split
    · exact Prog.writesOnly_raise _
    · trivial

theorem writesOnly_giveRoles (userId : ℕ) (roles : List Role)
    (h : ∀ r ∈ roles, P (insertUserRole ⟨userId, r.id⟩)) : (giveRoles userId roles).WritesOnly P := by
  induction roles with
  | nil => trivial
  | cons r roles ih =>
    rw [List.forall_mem_cons] at h
    exact (Prog.writesOnly_flush h.1).bind fun _ => ih h.2

theorem writesOnly_givePermissions (roleId : ℕ) (pcodes : List String)
    (h : ∀ id, P (insertRolePermission ⟨roleId, id⟩)) :
    (givePermissions roleId pcodes).WritesOnly P := by
  induction pcodes with
  | nil => trivial
  | cons pcode pcodes ih =>
    refine (Prog.writesOnly_select _).bind fun found => ?_
    split
    · exact (Prog.writesOnly_flush (h _)).bind fun _ => ih
    · exact ih

theorem writesOnly_takePermissions (roleId : ℕ) (h : ∀ rows, P (deleteRolePermissions rows)) :
    (takePermissions roleId).WritesOnly P :=
  (Prog.writesOnly_select _).bind fun _ => Prog.writesOnly_flush (h _)

theorem writesOnly_userPayload (u : User) : (userPayload u).WritesOnly P :=
  (Prog.writesOnly_select _).bind fun _ => trivial

end

/-- A part of a transaction, its commit, and what is read for the answer. -/
theorem allWrites_transaction {P : Stmt → Prop} {α β : Type} {p : Handler α} {k : α → Handler β}
    (hp : p.WritesOnly P) (hk : ∀ x, (k x).WritesOnly P) :
    (p.bind fun x => Prog.commitTx.bind fun _ => k x).AllWrites P :=
  hp.allWrites.bind fun x => Prog.allWrites_commitTx.bind fun _ => (hk x).allWrites

theorem keepsStaff_permissions (roleId id : ℕ) :
    StaffStmt a T L (insertRolePermission ⟨roleId, id⟩) :=
  .of_same (fun _ => rfl) (fun _ => rfl) fun _ => rfl

theorem allWrites_createUser (hasher : PasswordHasher) (body : UserCreate) :
    (createUser hasher body).AllWrites (StaffStmt a T L) := by
  unfold createUser
  split
  · trivial
  · split
    · trivial
    · refine (Prog.writesOnly_select _).allWrites.bind fun existing => ?_
      split
      · trivial
      · refine (writesOnly_requestedRoles body.roleCodes).allWrites.bind fun roles => ?_
        intro salt id
        refine (Prog.writesOnly_flush (keepsStaff_insertUser _)).allWrites.bind fun _ => ?_
        exact allWrites_transaction
          (writesOnly_giveRoles id roles fun _ _ => keepsStaff_insertUserRole _)
          fun _ => writesOnly_userPayload _

theorem allWrites_updateUserProfile (userId : ℕ) (fullName mobile : Option String) :
    (updateUserProfile userId fullName mobile).AllWrites (StaffStmt a T L) := by
  refine (Prog.writesOnly_select _).allWrites.bind fun found => ?_
  split
  · trivial
  · refine allWrites_transaction ?_ fun _ => writesOnly_userPayload _
    unfold flushProfile
    split
    · trivial
    · exact Prog.writesOnly_flush (keepsStaff_updateProfile _ _ _)

/-- The requests on an account that is found. -/
theorem allWrites_withUser {P : Stmt → Prop} (userId : ℕ) {change : User → Handler Unit}
    (h : ∀ u, u.id = userId → (change u).WritesOnly P) : (withUser userId change).AllWrites P := by
  refine Prog.allWrites_select fun s => ?_
  split
  · trivial
  · rename_i u hu
    have hid : u.id = userId := by simpa using List.find?_some hu
    exact (h u hid).allWrites.bind fun _ => Prog.allWrites_commitTx

theorem writesOnly_flushUser {P : Stmt → Prop} (id : ℕ) (upd : UserUpdate)
    (h : P (updateUser id upd)) : (flushUser id upd).WritesOnly P := by
  unfold flushUser
  split
  · trivial
  · exact Prog.writesOnly_flush h

theorem allWrites_activateUser (userId : ℕ) : (activateUser userId).AllWrites (StaffStmt a T L) := by
  refine allWrites_withUser userId fun u _ => writesOnly_flushUser _ _ (keepsStaff_updateUser _ _ ?_)
  -- the column is set to true, or not at all
  intro hset
  unfold ifChanged at hset
  split at hset <;> cases hset

theorem allWrites_deactivateUser (userId admin : ℕ) (h : T userId) :
    (deactivateUser userId admin).AllWrites (StaffStmt a T L) := by
  unfold deactivateUser
  split
  · trivial
  · refine allWrites_withUser userId fun u hid => ?_
    refine (writesOnly_flushUser _ _ (keepsStaff_updateUser _ _ fun _ => hid ▸ h)).bind fun _ => ?_
    refine Prog.writesOnly_getTime.bind fun now => (Prog.writesOnly_select _).bind fun tokens => ?_
    exact Prog.writesOnly_flush (.of_same (fun _ => rfl) (fun _ => rfl) fun _ => rfl)

theorem allWrites_updateRole (roleId : ℕ) (body : RoleUpdate) :
    (updateRole roleId body).AllWrites (StaffStmt a T L) := by
  refine (Prog.writesOnly_select _).allWrites.bind fun found => ?_
  split
  · trivial
  · refine Prog.AllWrites.bind ?_ fun _ => Prog.AllWrites.bind ?_ fun _ => Prog.allWrites_commitTx
    · unfold flushRole
      split
      · trivial
      · exact (Prog.writesOnly_flush <| keepsStaff_updateRoleRow _ _ _).allWrites
    · unfold replacePermissions
      split
      · trivial
      · refine ((writesOnly_takePermissions _ fun rows => ?_).bind fun _ =>
          writesOnly_givePermissions _ _ fun id => keepsStaff_permissions _ id).allWrites
        exact .of_same (fun _ => rfl) (fun _ => rfl) fun _ => rfl

theorem allWrites_assignRoles (userId : ℕ) (roleCodes : List String) (h : L userId) :
    (assignRoles userId roleCodes).AllWrites (StaffStmt a T L) := by
  refine Prog.allWrites_select fun s => ?_
  split
  · trivial
  · rename_i u hu
    have hid : u.id = userId := by simpa using List.find?_some hu
    refine (writesOnly_requestedRoles roleCodes).allWrites.bind fun roles => ?_
    refine Prog.allWrites_select fun s' => ?_
    refine (Prog.writesOnly_flush (keepsStaff_deleteUserRoles fun v hv => ?_)).allWrites.bind
      fun _ => allWrites_transaction
        (writesOnly_giveRoles _ _ fun _ _ => keepsStaff_insertUserRole _)
        fun _ => writesOnly_userPayload _
    -- only rows of this user are deleted
    obtain rfl : v = u.id := by simpa using (List.mem_filter.1 hv).2
    exact hid ▸ h

end

/-! ## What a request takes -/

/-- The user whose administration a request may end: the one who is deactivated, or who is given
roles without ADMIN. -/
def StaffRequest.takesFrom : StaffRequest → Option ℕ
  | assignRoles userId roleCodes => if "ADMIN" ∈ roleCodes then none else some userId
  | deactivate userId => some userId
  | _ => none

/-- The rest of the system leaves the roles and their users alone, and deactivates nobody. -/
def staffRegime : Regime Store Label where
  isFresh s n := (∀ u ∈ s.users, u.id ≠ n) ∧ ∀ r ∈ s.roles, r.id ≠ n
  allowed _ _ := True
  env s s' := s'.roles = s.roles ∧ s'.userRoles = s.userRoles ∧
    ∀ v, ActiveUser v s → ActiveUser v s'

/-- A commit spares whoever is not of `T`. -/
structure Spares (a : ℕ) (T : ℕ → Prop) (s s' : Store) : Prop where
  role : AdminRole a s → AdminRole a s'
  active : ∀ v, ¬ T v → ActiveUser v s → ActiveUser v s'
  link : ∀ v, ¬ T v → ⟨v, a⟩ ∈ s.userRoles → ⟨v, a⟩ ∈ s'.userRoles

theorem KeepsStaff.spares {a : ℕ} {T : ℕ → Prop} {f : Store → Store} (h : KeepsStaff a T T f)
    (s : Store) : Spares a T s (f s) where
  role := h.role s
  active := h.active s
  link := h.link s

/-- Who is spared stays an administrator. -/
theorem Spares.activeAdmin {a v : ℕ} {T : ℕ → Prop} {s s' : Store} (h : Spares a T s s')
    (hrole : AdminRole a s) (hv : ¬ T v) (hadmin : ActiveAdmin v s) : ActiveAdmin v s' := by
  refine ⟨h.active v hv hadmin.1, ?_⟩
  rw [userIsAdmin_iff (h.role hrole)]
  exact h.link v hv ((userIsAdmin_iff hrole v).1 hadmin.2)

/-- The others keep the role ADMIN. -/
def staffR (a : ℕ) : Interference Store Lock := fun _ s s' => AdminRole a s → AdminRole a s'

/-- What a request commits spares everybody but the one it is aimed at. -/
def staffG (a : ℕ) (request : StaffRequest) : Interference Store Lock := fun _ s s' =>
  Spares a (fun v => request.takesFrom = some v) s s'

theorem staffContract {ι : Type} (a : ℕ) (requests : ι → SentRequest) :
    World.Contract staffRegime (staffR a)
      (World.guarantees fun i => staffG a (requests i).request)
      fun _ : ι => anyEnd (ε := AppError) (α := Unit) where
  refl _ _ h := h
  trans _ _ _ _ h h' hs := h' (h hs)
  env s s' henv _ h := by
    obtain ⟨hroles, -, -⟩ := henv
    exact ⟨by rw [hroles]; exact h.code, by rw [hroles]; exact h.present⟩
  guarantee _ _ _ _ _ hG hs := by
    obtain ⟨i, hG⟩ := hG
    exact hG.role hs
  aborted _ _ := trivial
  closed _ _ _ _ _ _ _ _ _ := trivial

/-! ## The requests are safe -/

section

variable {a : ℕ} {T : ℕ → Prop} {pend : Store → Store} {b : Bool} {H : Held Lock} {s : Store}
  {α β : Type}

theorem safe_of_keepsStaff {p : Handler α} (h : p.AllWrites (StaffStmt a T T))
    (hpend : KeepsStaff a T T pend) :
    p.Safe staffRegime (staffR a) (fun _ => Spares a T) anyEnd pend b H s :=
  h.safe .id (fun _ hst _ hp => hst.comp hp) (fun _ hp _ s => hp.spares s) hpend

/-- A role that is found, and whose code is not ADMIN, is not the role ADMIN. -/
theorem AdminRole.ne_of_code (h : AdminRole a s) {r : Role} (hr : r ∈ s.roles)
    (hcode : r.code ≠ "ADMIN") : r.id ≠ a := fun hid => hcode ((h.code r hr).2 hid)

theorem AdminRole.exists_code (h : AdminRole a s) : ∃ r ∈ s.roles, r.code = "ADMIN" ∧ r.id = a := by
  obtain ⟨r, hr, hid⟩ := h.present
  exact ⟨r, hr, (h.code r hr).2 hid, hid⟩

theorem safe_deleteRole (roleId : ℕ) (hrole : AdminRole a s) :
    (deleteRole roleId).Safe staffRegime (staffR a) (fun _ => Spares a T) anyEnd id false H s := by
  refine Prog.safe_select (fun h => absurd h Bool.false_ne_true) fun _ s₁ hR => ?_
  split
  · exact fun _ _ => trivial
  · rename_i r hr
    split
    · exact fun _ _ => trivial
    · rename_i hcode
      -- the test of the code was made of the row that is deleted
      have hid : r.id ≠ a := (hR hrole).ne_of_code (List.mem_of_find?_eq_some hr) hcode
      refine safe_of_keepsStaff ((Prog.writesOnly_select _).allWrites.bind fun count => ?_) .id
      split
      · trivial
      · refine (writesOnly_takePermissions _ fun rows => ?_).allWrites.bind fun _ => ?_
        · exact .of_same (fun _ => rfl) (fun _ => rfl) fun _ => rfl
        · refine Prog.allWrites_select fun s₂ => ?_
          refine (Prog.writesOnly_flush (keepsStaff_deleteUserRoles fun v hv => ?_)).allWrites.bind
            fun _ => (Prog.writesOnly_flush (keepsStaff_deleteRoleRow hid)).allWrites.bind
              fun _ => Prog.allWrites_commitTx
          exact absurd (by simpa using (List.mem_filter.1 hv).2 : a = r.id) hid.symm

theorem safe_createRole (body : RoleCreate) (hrole : AdminRole a s) :
    (createRole body).Safe staffRegime (staffR a) (fun _ => Spares a T) anyEnd id false H s := by
  unfold createRole
  dsimp only
  split
  · exact fun _ _ => trivial
  · refine Prog.safe_select (fun h => absurd h Bool.false_ne_true) fun _ s₁ hR => ?_
    split
    · exact fun _ _ => trivial
    · rename_i hdup
      have hcode : stripText body.code ≠ "ADMIN" := by
        intro hcode
        obtain ⟨r, hr, hcode', -⟩ := (hR hrole).exists_code
        exact hdup (List.find?_isSome.2 ⟨r, hr, beq_iff_eq.2 (hcode'.trans hcode.symm)⟩)
      refine Prog.safe_newId fun s₂ n hR₂ hfresh => safe_of_keepsStaff ?_ .id
      have hid : n ≠ a := by
        obtain ⟨r, hr, hrid⟩ := (hR₂ (hR hrole)).present
        exact fun hn => hfresh.2 r hr (hrid.trans hn.symm)
      refine (Prog.writesOnly_flush (keepsStaff_insertRole hcode hid)).allWrites.bind fun _ => ?_
      refine allWrites_transaction
        (writesOnly_givePermissions _ _ fun id => keepsStaff_permissions _ id) fun _ => trivial

/-- What takes the role ADMIN from a user and gives it back takes nothing. -/
theorem KeepsStaff.regained {u : ℕ} (h : KeepsStaff a nobody (· = u) pend)
    (hback : ∀ s, ⟨u, a⟩ ∈ (pend s).userRoles) : KeepsStaff a nobody nobody pend where
  role := h.role
  active := h.active
  link s v _ hv := by
    by_cases hvu : v = u
    · exact hvu ▸ hback s
    · exact h.link s v hvu hv

/-- After the roles are given, the role ADMIN among them, nobody has lost anything. -/
theorem safe_giveRoles {u : ℕ} {k : Unit → Handler β} (roles : List Role)
    (hpend : KeepsStaff a nobody (· = u) pend)
    (hgives : (∃ r ∈ roles, r.id = a) ∨ ∀ s, ⟨u, a⟩ ∈ (pend s).userRoles)
    (h : ∀ pend H s, KeepsStaff a nobody nobody pend →
      (k ()).Safe staffRegime (staffR a) (fun _ => Spares a nobody) anyEnd pend false H s) :
    ((giveRoles u roles).bind k).Safe staffRegime (staffR a) (fun _ => Spares a nobody) anyEnd
      pend false H s := by
  induction roles generalizing pend H s with
  | nil =>
    refine h _ _ _ (hpend.regained ?_)
    simpa using hgives
  | cons r roles ih =>
    rw [giveRoles, Prog.bind_eq, Prog.bind_assoc]
    refine Prog.safe_flush (fun h => absurd h Bool.false_ne_true)
      (fun _ _ _ _ _ _ _ _ => trivial) fun _ s₁ _ _ _ => ?_
    refine ih ((keepsStaff_insertUserRole ⟨u, r.id⟩).comp hpend) ?_
    rcases hgives with ⟨t, ht, hid⟩ | hgives
    · rcases List.mem_cons.1 ht with rfl | ht
      · exact Or.inr fun s => hid ▸ List.mem_append_right _ (List.mem_singleton_self _)
      · exact Or.inl ⟨t, ht, hid⟩
    · exact Or.inr fun s => List.mem_append_left _ (hgives s)

/-- Roles asked for by their codes come with the role ADMIN, if its code is among them. -/
theorem safe_requestedRoles {G : Interference Store Lock} {roleCodes : List String}
    {k : List Role → Handler β} (hadmin : "ADMIN" ∈ roleCodes) (hrole : AdminRole a s)
    (h : ∀ roles s', (∃ r ∈ roles, r.id = a) →
      (k roles).Safe staffRegime (staffR a) G anyEnd id false H s') :
    ((requestedRoles roleCodes).bind k).Safe staffRegime (staffR a) G anyEnd id false H s := by
  have hsome : ¬ roleCodes.isEmpty = true := by
    rw [List.isEmpty_iff]
    exact List.ne_nil_of_mem hadmin
  rw [requestedRoles, if_neg hsome, Prog.bind_eq, Prog.bind_assoc]
  refine Prog.safe_select (fun h => absurd h Bool.false_ne_true) fun _ s₁ hR => ?_
  split
  · exact fun _ _ => trivial
  · refine h _ _ ?_
    obtain ⟨r, hr, hcode, hid⟩ := (hR hrole).exists_code
    exact ⟨r, List.mem_filter.2 ⟨hr, by simpa [hcode] using hadmin⟩, hid⟩

theorem safe_assignAdmin (userId : ℕ) {roleCodes : List String} (hadmin : "ADMIN" ∈ roleCodes)
    (hrole : AdminRole a s) : (assignRoles userId roleCodes).Safe staffRegime (staffR a)
      (fun _ => Spares a nobody) anyEnd id false H s := by
  have hlive {P : Prop} : false = true → P := fun h => absurd h Bool.false_ne_true
  refine Prog.safe_select hlive fun _ s₁ hR => ?_
  split
  · exact fun _ _ => trivial
  · rename_i u _
    refine safe_requestedRoles hadmin (hR hrole) fun roles s₂ hroles => ?_
    refine Prog.safe_select hlive fun _ s₃ _ => ?_
    refine Prog.safe_flush hlive (fun _ _ _ _ _ _ _ _ => trivial) fun _ s₄ _ _ _ => ?_
    refine safe_giveRoles roles (.comp (keepsStaff_deleteUserRoles fun v hv => ?_) .id)
      (Or.inl hroles) fun pend H s hpend => ?_
    · simpa using (List.mem_filter.1 hv).2
    · exact safe_of_keepsStaff
        (Prog.allWrites_commitTx.bind fun _ => (writesOnly_userPayload u).allWrites) hpend

/-- **Every request is safe**: it takes nothing but from the user it is aimed at. -/
theorem StaffRequest.safe (hasher : PasswordHasher) (currentUser : ℕ) (request : StaffRequest)
    (hrole : AdminRole a s) : (request.body hasher currentUser).Safe staffRegime (staffR a)
      (staffG a request) anyEnd id false H s := by
  have hanswer {α : Type} {T : ℕ → Prop} {p : Handler α}
      (h : p.Safe staffRegime (staffR a) (fun _ => Spares a T) anyEnd id false H s) :
      (p.bind fun _ => .ret ()).Safe staffRegime (staffR a) (fun _ => Spares a T) anyEnd id false
        H s :=
    h.bind (fun _ _ h => h) (fun _ _ _ _ _ _ _ _ => trivial) fun _ _ _ _ _ _ => trivial
  cases request with
  | createUser body => exact hanswer (safe_of_keepsStaff (allWrites_createUser hasher body) .id)
  | updateUser userId fullName mobile =>
    exact hanswer (safe_of_keepsStaff (allWrites_updateUserProfile userId fullName mobile) .id)
  | assignRoles userId roleCodes =>
    by_cases hadmin : "ADMIN" ∈ roleCodes
    · have hnone : (fun v => (StaffRequest.assignRoles userId roleCodes).takesFrom = some v) =
          nobody := by
        funext v
        simp [takesFrom, hadmin, nobody]
      unfold staffG
      rw [hnone]
      exact hanswer (safe_assignAdmin userId hadmin hrole)
    · refine hanswer (safe_of_keepsStaff (allWrites_assignRoles userId roleCodes ?_) .id)
      exact if_neg hadmin
  | activate userId => exact safe_of_keepsStaff (allWrites_activateUser userId) .id
  | deactivate userId =>
    exact safe_of_keepsStaff (allWrites_deactivateUser userId currentUser rfl) .id
  | createRole body => exact hanswer (safe_createRole body hrole)
  | updateRole roleId body => exact safe_of_keepsStaff (allWrites_updateRole roleId body) .id
  | deleteRole roleId => exact safe_deleteRole roleId hrole

theorem SentRequest.safe (hasher : PasswordHasher) (sent : SentRequest) (hrole : AdminRole a s) :
    (sent.handler hasher).Safe staffRegime (staffR a) (staffG a sent.request) anyEnd id false
      H s := by
  refine (readOnly_requirePermission sent.request.permission sent.currentUser).safe_bind
    (fun _ _ h => h) (fun _ _ _ _ h h' hs => h' (h hs)) (fun _ _ _ _ h => h)
    (fun _ _ _ _ _ => trivial) fun _ H' s' hR _ _ => ?_
  exact sent.request.safe hasher sent.currentUser (hR hrole)

end

/-! ## Every run -/

/-- The requests arrive at a store. -/
def staffWorld {ι : Type} (hasher : PasswordHasher) (requests : ι → SentRequest) (s : Store) :
    World ι Store Lock Label AppError Unit :=
  .start s fun i => (requests i).handler hasher

section

variable {ι : Type} [DecidableEq ι]

/-- A request that is aimed at a user commits only while somebody else is an active
administrator. -/
def LeavesAdministrator (requests : ι → SentRequest)
    (w w' : World ι Store Lock Label AppError Unit) : Prop :=
  ∀ i u, World.Commits i w w' → (requests i).request.takesFrom = some u →
    ∃ v, v ≠ u ∧ ActiveAdmin v w.committed

/-- A run in which every such commit leaves an administrator. -/
abbrev CarefulRun (requests : ι → SentRequest) :
    World ι Store Lock Label AppError Unit → World ι Store Lock Label AppError Unit → Prop :=
  Relation.ReflTransGen fun w w' => World.Step staffRegime w w' ∧ LeavesAdministrator requests w w'

/-- Every request is still safe, and the role ADMIN is there. -/
structure StaffInv (a : ℕ) (requests : ι → SentRequest)
    (w : World ι Store Lock Label AppError Unit) : Prop where
  ok : World.OkEach staffRegime (staffR a) (fun i => staffG a (requests i).request)
    (fun _ => anyEnd) w
  role : AdminRole a w.committed

variable {a : ℕ} {requests : ι → SentRequest} {w w' : World ι Store Lock Label AppError Unit}

omit [DecidableEq ι] in
theorem StaffInv.init (hasher : PasswordHasher) {s : Store} (hrole : AdminRole a s) :
    StaffInv a requests (staffWorld hasher requests s) where
  ok := World.OkEach.init fun i => (requests i).safe hasher hrole
  role := hrole

theorem StaffInv.step (h : StaffInv a requests w) (hstep : World.Step staffRegime w w') :
    StaffInv a requests w' := by
  obtain ⟨hok, hR⟩ := h.ok.step (staffContract a requests) hstep
  exact ⟨hok, hR h.role⟩

omit [DecidableEq ι] in
/-- A commit keeps an administrator at whom the request is not aimed. -/
theorem StaffInv.commit_keeps (h : StaffInv a requests w) {i : ι}
    {k : Bool → Prog Store Lock Label AppError Unit} {p : Store → Store} {H : Held Lock}
    (hc : w.conns i = ⟨.commit k, p, H, false⟩) {v : ℕ}
    (hspared : (requests i).request.takesFrom ≠ some v) (hv : ActiveAdmin v w.committed) :
    ActiveAdmin v (p w.committed) := by
  have hG := h.ok.commits (fun _ _ h => h) hc
  exact hG.activeAdmin h.role hspared hv

/-- So does the rest of the system. -/
theorem env_keeps {s s' : Store} (h : staffRegime.env s s') {v : ℕ} (hv : ActiveAdmin v s) :
    ActiveAdmin v s' := by
  obtain ⟨hroles, hlinks, hactive⟩ := h
  refine ⟨hactive v hv.1, ?_⟩
  rw [userIsAdmin, hroles, hlinks]
  exact hv.2

/-- One step leaves an administrator, if the request that commits in it does. -/
theorem StaffInv.someAdmin (h : StaffInv a requests w) (hstep : World.Step staffRegime w w')
    (hleaves : LeavesAdministrator requests w w') (hs : ∃ v, ActiveAdmin v w.committed) :
    ∃ v, ActiveAdmin v w'.committed := by
  rcases hstep.moves with hsame | ⟨i, k, p, H, hc, rfl⟩ | henv
  · rwa [hsame]
  · by_cases haimed : ∃ u, (requests i).request.takesFrom = some u
    · -- whoever else is one stays one
      obtain ⟨u, hu⟩ := haimed
      obtain ⟨v, hvu, hv⟩ := hleaves i u ⟨k, p, H, hc, rfl⟩ hu
      refine ⟨v, h.commit_keeps hc ?_ hv⟩
      rw [hu]
      exact fun heq => hvu (Option.some.inj heq).symm
    · obtain ⟨v, hv⟩ := hs
      exact ⟨v, h.commit_keeps hc (fun hv => haimed ⟨v, hv⟩) hv⟩
  · obtain ⟨v, hv⟩ := hs
    exact ⟨v, env_keeps henv hv⟩

/-- An administrator at whom no request is aimed stays one, and so every run leaves an
administrator. -/
theorem StaffInv.careful (h : StaffInv a requests w) {v : ℕ}
    (hspared : ∀ i, (requests i).request.takesFrom ≠ some v) (hv : ActiveAdmin v w.committed)
    (hrun : World.Run staffRegime w w') :
    CarefulRun requests w w' ∧ StaffInv a requests w' ∧ ActiveAdmin v w'.committed := by
  induction hrun with
  | refl => exact ⟨.refl, h, hv⟩
  | @tail w₁ w₂ _ hstep ih =>
    obtain ⟨hrun₁, h₁, hv₁⟩ := ih
    have hleaves : LeavesAdministrator requests w₁ w₂ := by
      intro i u _ hu
      refine ⟨v, fun hvu => hspared i ?_, hv₁⟩
      rw [hu, hvu]
    refine ⟨hrun₁.tail ⟨hstep, hleaves⟩, h₁.step hstep, ?_⟩
    rcases hstep.moves with hsame | ⟨i, k, p, H, hc, rfl⟩ | henv
    · rwa [hsame]
    · exact h₁.commit_keeps hc (hspared i) hv₁
    · exact env_keeps henv hv₁

/-- **An administrator remains**: in every run of any requests on users and roles, in which whoever
is deactivated, or given roles without ADMIN, is not the last one at the moment of the commit, an
active user holds the role ADMIN in every committed store. -/
theorem administrator_remains (hasher : PasswordHasher) (requests : ι → SentRequest) (s : Store)
    (hkeys : RoleKeys s) (hs : ∃ v, ActiveAdmin v s) (w : World ι Store Lock Label AppError Unit)
    (hrun : CarefulRun requests (staffWorld hasher requests s) w) :
    ∃ v, ActiveAdmin v w.committed := by
  obtain ⟨v, hv⟩ := hs
  obtain ⟨a, hrole⟩ := adminRole_of_admin hkeys hv.2
  suffices h : StaffInv a requests w ∧ ∃ v, ActiveAdmin v w.committed from h.2
  induction hrun with
  | refl => exact ⟨.init hasher hrole, v, hv⟩
  | tail _ hstep ih =>
    obtain ⟨hinv, hadmin⟩ := ih
    exact ⟨hinv.step hstep.1, hinv.someAdmin hstep.1 hstep.2 hadmin⟩

end

/-! ### Two administrators -/

instance (s : Store) (n : ℕ) : Decidable (staffRegime.isFresh s n) :=
  inferInstanceAs (Decidable ((∀ u ∈ s.users, u.id ≠ n) ∧ ∀ r ∈ s.roles, r.id ≠ n))

instance (l : Label) (s : Store) : Decidable (staffRegime.allowed l s) :=
  inferInstanceAs (Decidable True)

instance (v : ℕ) (s : Store) : Decidable (ActiveUser v s) :=
  inferInstanceAs (Decidable (∃ u ∈ s.users, u.id = v ∧ u.isActive = true))

instance (v : ℕ) (s : Store) : Decidable (ActiveAdmin v s) :=
  inferInstanceAs (Decidable (ActiveUser v s ∧ userIsAdmin v s = true))

/-- A library that does not hash. -/
def plainHasher : PasswordHasher where
  hash _ password := password
  verify password hash := password == hash

/-- The users of some numbers, all of them administrators. -/
def administrators (users : List ℕ) : Store where
  users := users.map fun id => { id, username := toString id, passwordHash := "" }
  roles := [{ id := 0, code := "ADMIN", title := "" }]
  userRoles := users.map fun id => ⟨id, 0⟩

/-- Administrator 1 deactivates administrator 2, who does the same to administrator 3. -/
def deactivations : Fin 2 → SentRequest :=
  World.pair ⟨1, .deactivate 2⟩ ⟨2, .deactivate 3⟩

/-- What a schedule of two requests leaves. -/
def afterStaff (requests : Fin 2 → SentRequest) (s : Store) (sched : List (Fin 2 × ℕ × ℤ)) :
    Option (World (Fin 2) Store Lock Label AppError Unit) :=
  World.runSchedule staffRegime sched 10 (staffWorld plainHasher requests s)

theorem administrator_remains_alone :
    ∃ w, CarefulRun deactivations
        (staffWorld plainHasher deactivations (administrators [1, 2, 3])) w ∧
      (¬ ActiveUser 2 w.committed ∧ ¬ ActiveUser 3 w.committed) ∧ ∃ v, ActiveAdmin v w.committed := by
  have hrun : (afterStaff deactivations (administrators [1, 2, 3])
      [(0, 3, 0), (1, 8, 0), (0, 8, 0)]).any (fun w =>
        decide (¬ ActiveUser 2 w.committed ∧ ¬ ActiveUser 3 w.committed)) = true := by decide
  obtain ⟨w, hw, hgone⟩ := (Option.any_eq_true _ _).1 hrun
  have hkeys : RoleKeys (administrators [1, 2, 3]) := ⟨by decide, by decide⟩
  have hadmin : ActiveAdmin 1 (administrators [1, 2, 3]) := by decide
  obtain ⟨a, hrole⟩ := adminRole_of_admin hkeys hadmin.2
  have hinv : StaffInv a deactivations
      (staffWorld plainHasher deactivations (administrators [1, 2, 3])) := .init plainHasher hrole
  -- nobody deactivates administrator 1
  have hspared : ∀ i, (deactivations i).request.takesFrom ≠ some 1 := by decide
  have hcareful := (hinv.careful hspared hadmin (World.runSchedule_run hw)).1
  exact ⟨w, hcareful, of_decide_eq_true hgone,
    administrator_remains plainHasher deactivations _ hkeys ⟨1, hadmin⟩ w hcareful⟩

/-- Two administrators deactivate each other at once. -/
def mutualDeactivations : Fin 2 → SentRequest :=
  World.pair ⟨1, .deactivate 2⟩ ⟨2, .deactivate 1⟩

theorem administrators_gone :
    ¬ ∀ (hasher : PasswordHasher) (requests : Fin 2 → SentRequest) (s : Store), RoleKeys s →
      (∃ v, ActiveAdmin v s) → ∀ w, World.Run staffRegime (staffWorld hasher requests s) w →
        ∃ v, ActiveAdmin v w.committed := by
  intro h
  -- both are permitted before one of them is deactivated
  have hrun : (afterStaff mutualDeactivations (administrators [1, 2])
      [(0, 3, 0), (1, 8, 0), (0, 8, 0)]).any (fun w =>
        w.committed.users.all fun u => !u.isActive) = true := by decide
  obtain ⟨w, hw, hgone⟩ := (Option.any_eq_true _ _).1 hrun
  obtain ⟨v, ⟨u, hu, -, hactive⟩, -⟩ := h plainHasher mutualDeactivations (administrators [1, 2])
    ⟨by decide, by decide⟩ ⟨1, by decide⟩ w (World.runSchedule_run hw)
  have hnot := List.all_eq_true.1 hgone u hu
  simp [hactive] at hnot

end ParkingSystem
