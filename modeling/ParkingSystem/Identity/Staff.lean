import ParkingSystem.Identity.Accounts
import ParkingSystem.Library.PyText

/-!
# Users, Roles and Permissions

The endpoints of `users.py` and `roles.py` that write: users are created, renamed, activated,
deactivated and given roles; roles are created, changed and deleted. Each one first asks for a
permission of the user who sends the request. Whoever holds the role ADMIN has all permissions.

What a session has changed is sent with its next query or at the commit. An association row is
deleted as it was seen by the statement.
-/

namespace ParkingSystem

open PyText Table Transaction

/-! ## Permissions -/

/-- `user_is_admin`. -/
def userIsAdmin (userId : ℕ) (s : Store) : Bool :=
  s.roles.any fun r => r.code == "ADMIN" && s.userRoles.contains ⟨userId, r.id⟩

/-- Whether a role of the user has the permission. -/
def userHasPermission (userId : ℕ) (permCode : String) (s : Store) : Bool :=
  s.permissions.any fun p => p.code == permCode && s.rolePermissions.any fun rp =>
    rp.permissionId == p.id && s.userRoles.contains ⟨userId, rp.roleId⟩

/-- `get_current_user` and `require_permission`; the token was checked. -/
def requirePermission (permCode : String) (currentUser : ℕ) : Handler Unit := do
  let found ← .select (userById currentUser)
  match found with
  | none => Prog.raise (.unauthorized "کاربر یافت نشد یا غیرفعال است")
  | some u =>
    if !u.isActive then Prog.raise (.unauthorized "کاربر یافت نشد یا غیرفعال است")
    else do
      let admin ← .select (userIsAdmin u.id)
      if admin then return ()
      else do
        let has ← .select (userHasPermission u.id permCode)
        if has then return () else Prog.raise (.forbidden "دسترسی مجاز نیست")

/-! ## Statements -/

/-- INSERT of a user. -/
def insertUser (u : User) : Stmt where
  label := .identity .insertUser
  locks := [.username u.username]
  check s :=
    if !(fitsChar 64 u.username && fitsChar 256 u.passwordHash && fitsChar 128 u.fullName &&
        fitsChar? 20 u.mobile) then some .data
    else if s.users.any fun v => v.username == u.username then some .integrity
    else none
  apply s := { s with users := s.users ++ [u] }

/-- UPDATE of the name and the mobile of a user. -/
def updateProfile (id : ℕ) (fullName mobile : Option String) : Stmt where
  label := .identity .updateProfile
  locks := [.userRow id]
  check _ := if !(fitsChar? 128 fullName && fitsChar? 20 mobile) then some .data else none
  apply s := { s with
    users := updateWhere (fun u => u.id == id)
      (fun u => { u with fullName := fullName.getD u.fullName, mobile := mobile <|> u.mobile })
      s.users }

/-- INSERT into `user_roles`. -/
def insertUserRole (row : UserRole) : Stmt where
  label := .identity .insertUserRole
  locks := [.userRole row.userId row.roleId]
  check s :=
    if s.userRoles.contains row then some .integrity
    else if !((s.users.any fun u => u.id == row.userId) && s.roles.any fun r => r.id == row.roleId)
    then some .integrity
    else none
  apply s := { s with userRoles := s.userRoles ++ [row] }

/-- DELETE from `user_roles`. -/
def deleteUserRoles (rows : List UserRole) : Stmt where
  label := .identity .deleteUserRoles
  locks := rows.map fun row => .userRole row.userId row.roleId
  check _ := none
  apply s := { s with userRoles := s.userRoles.filter fun row => !rows.contains row }

/-- INSERT of a role. -/
def insertRole (r : Role) : Stmt where
  label := .identity .insertRole
  locks := [.roleCode r.code]
  check s :=
    if !(fitsChar 64 r.code && fitsChar 128 r.title) then some .data
    else if s.roles.any fun t => t.code == r.code then some .integrity
    else none
  apply s := { s with roles := s.roles ++ [r] }

/-- UPDATE of the title and the description of a role. -/
def updateRoleRow (id : ℕ) (title description : Option String) : Stmt where
  label := .identity .updateRole
  locks := [.roleRow id]
  check _ := if !fitsChar? 128 title then some .data else none
  apply s := { s with
    roles := updateWhere (fun r => r.id == id)
      (fun r => { r with title := title.getD r.title, description := description <|> r.description })
      s.roles }

/-- DELETE of a role. -/
def deleteRoleRow (id : ℕ) : Stmt where
  label := .identity .deleteRole
  locks := [.roleRow id]
  check s :=
    if (s.userRoles.any fun row => row.roleId == id) ||
        s.rolePermissions.any fun row => row.roleId == id then some .integrity
    else none
  apply s := { s with roles := s.roles.filter fun r => r.id != id }

/-- INSERT into `role_permissions`. -/
def insertRolePermission (row : RolePermission) : Stmt where
  label := .identity .insertRolePermission
  locks := [.rolePermission row.roleId row.permissionId]
  check s :=
    if s.rolePermissions.contains row then some .integrity
    else if !((s.roles.any fun r => r.id == row.roleId) &&
        s.permissions.any fun p => p.id == row.permissionId) then some .integrity
    else none
  apply s := { s with rolePermissions := s.rolePermissions ++ [row] }

/-- DELETE from `role_permissions`. -/
def deleteRolePermissions (rows : List RolePermission) : Stmt where
  label := .identity .deleteRolePermissions
  locks := rows.map fun row => .rolePermission row.roleId row.permissionId
  check _ := none
  apply s := { s with rolePermissions := s.rolePermissions.filter fun row => !rows.contains row }

/-! ## Users -/

/-- `UserCreate`. -/
structure UserCreate where
  username : String
  password : String
  fullName : String
  mobile : Option String := none
  roleCodes : List String := []
  deriving DecidableEq, Repr

/-- What the endpoints answer of a user. -/
structure UserPayload where
  id : ℕ
  username : String
  fullName : String
  mobile : Option String
  isActive : Bool
  isLocked : Bool
  failedLoginCount : ℤ
  lastLoginAt : Option ℤ
  roles : List String
  deriving DecidableEq, Repr

/-- `_role_codes_for`. -/
def roleCodesFor (userId : ℕ) (s : Store) : List String :=
  (s.roles.filter fun r => s.userRoles.contains ⟨userId, r.id⟩).map Role.code

/-- `_user_payload`. -/
def userPayload (u : User) : Handler UserPayload := do
  let roles ← .select (roleCodesFor u.id)
  return {
    id := u.id, username := u.username, fullName := u.fullName, mobile := u.mobile
    isActive := u.isActive, isLocked := u.isLocked, failedLoginCount := u.failedLoginCount
    lastLoginAt := u.lastLoginAt, roles }

/-- The roles of the codes, which must all be there. -/
def requestedRoles (roleCodes : List String) : Handler (List Role) :=
  if roleCodes.isEmpty then return []
  else do
    let roles ← .select fun s : Store => s.roles.filter fun r => roleCodes.contains r.code
    if roles.length ≠ roleCodes.dedup.length then Prog.raise .notFound else return roles

/-- `for r in roles`. -/
def giveRoles (userId : ℕ) : List Role → Handler Unit
  | [] => return ()
  | r :: roles => do
    Prog.flush (insertUserRole ⟨userId, r.id⟩)
    giveRoles userId roles

/-- `create_user`. -/
def createUser (hasher : PasswordHasher) (body : UserCreate) : Handler UserPayload :=
  if body.username.length < 3 ∨ 64 < body.username.length then Prog.raise (.unprocessable "username")
  else if body.password.length < 8 then Prog.raise (.unprocessable "password")
  else do
    let existing ← .select (userByName body.username)
    if existing.isSome then Prog.raise .conflict
    else do
      let roles ← requestedRoles body.roleCodes
      let salt ← Prog.newId
      let id ← Prog.newId
      let user : User :=
        { id, username := body.username, passwordHash := hasher.hash salt body.password
          fullName := body.fullName, mobile := body.mobile }
      Prog.flush (insertUser user)
      giveRoles id roles
      Prog.commitTx
      userPayload user

/-- Send what changed of the name and the mobile of a user. -/
def flushProfile (u : User) (fullName mobile : Option String) : Handler Unit :=
  if fullName.getD u.fullName = u.fullName ∧ (mobile <|> u.mobile) = u.mobile then return ()
  else Prog.flush (updateProfile u.id fullName mobile)

/-- `update_user`; a field that is missing or null is left alone. -/
def updateUserProfile (userId : ℕ) (fullName mobile : Option String) : Handler UserPayload := do
  let found ← .select (userById userId)
  match found with
  | none => Prog.raise .notFound
  | some u => do
    flushProfile u fullName mobile
    Prog.commitTx
    userPayload { u with fullName := fullName.getD u.fullName, mobile := mobile <|> u.mobile }

/-- `assign_roles`. -/
def assignRoles (userId : ℕ) (roleCodes : List String) : Handler UserPayload := do
  let found ← .select (userById userId)
  match found with
  | none => Prog.raise .notFound
  | some u => do
    let roles ← requestedRoles roleCodes
    let held ← .select fun s : Store => s.userRoles.filter fun row => row.userId == u.id
    Prog.flush (deleteUserRoles held)
    giveRoles u.id roles
    Prog.commitTx
    userPayload u

/-! ## Roles -/

/-- `RoleCreate`. -/
structure RoleCreate where
  code : String
  name : String
  description : Option String := none
  permissionCodes : List String := []
  deriving DecidableEq, Repr

/-- `RoleUpdate`. -/
structure RoleUpdate where
  name : Option String := none
  description : Option String := none
  permissionCodes : Option (List String) := none
  deriving DecidableEq, Repr

/-- `for pcode in body.permission_codes`: a code without a permission is passed over. -/
def givePermissions (roleId : ℕ) : List String → Handler Unit
  | [] => return ()
  | pcode :: pcodes => do
    let found ← .select fun s : Store => s.permissions.find? fun p => p.code == pcode
    match found with
    | some p => do
      Prog.flush (insertRolePermission ⟨roleId, p.id⟩)
      givePermissions roleId pcodes
    | none => givePermissions roleId pcodes

/-- The text of a field, stripped. -/
def stripText (s : String) : String := String.ofList (strip s.toList)

/-- `create_role`; it answers with the identifier. -/
def createRole (body : RoleCreate) : Handler ℕ :=
  let code := stripText body.code
  let name := stripText body.name
  if code = "" ∨ name = "" then Prog.raise .conflict
  else do
    let dup ← .select fun s : Store => s.roles.find? fun r => r.code == code
    if dup.isSome then Prog.raise .conflict
    else do
      let id ← Prog.newId
      Prog.flush (insertRole { id, code, title := name, description := body.description })
      givePermissions id body.permissionCodes
      Prog.commitTx
      return id

/-- The permissions of a role are taken away. -/
def takePermissions (roleId : ℕ) : Handler Unit := do
  let held ← .select fun s : Store => s.rolePermissions.filter fun row => row.roleId == roleId
  Prog.flush (deleteRolePermissions held)

/-- Send what changed of the title and the description of a role. -/
def flushRole (r : Role) (title description : Option String) : Handler Unit :=
  if title.getD r.title = r.title ∧ (description <|> r.description) = r.description then return ()
  else Prog.flush (updateRoleRow r.id title description)

/-- The permissions of a role are replaced, if the request says by which. -/
def replacePermissions (roleId : ℕ) : Option (List String) → Handler Unit
  | none => return ()
  | some pcodes => do
    takePermissions roleId
    givePermissions roleId pcodes

/-- `update_role`. -/
def updateRole (roleId : ℕ) (body : RoleUpdate) : Handler Unit := do
  let found ← .select fun s : Store => s.roles.find? fun r => r.id == roleId
  match found with
  | none => Prog.raise .notFound
  | some r => do
    flushRole r (body.name.map stripText) body.description
    replacePermissions r.id body.permissionCodes
    Prog.commitTx

/-- `delete_role`. With the role goes what the mapper finds of its users. -/
def deleteRole (roleId : ℕ) : Handler Unit := do
  let found ← .select fun s : Store => s.roles.find? fun r => r.id == roleId
  match found with
  | none => Prog.raise .notFound
  | some r =>
    if r.code = "ADMIN" then Prog.raise .conflict
    else do
      let usersCount ← .select fun s : Store => s.userRoles.countP fun row => row.roleId == r.id
      if usersCount ≠ 0 then Prog.raise .conflict
      else do
        takePermissions r.id
        let held ← .select fun s : Store => s.userRoles.filter fun row => row.roleId == r.id
        Prog.flush (deleteUserRoles held)
        Prog.flush (deleteRoleRow r.id)
        Prog.commitTx

/-! ## Requests -/

/-- A request on users and roles. -/
inductive StaffRequest where
  | createUser (body : UserCreate)
  | updateUser (userId : ℕ) (fullName mobile : Option String)
  | assignRoles (userId : ℕ) (roleCodes : List String)
  | activate (userId : ℕ)
  | deactivate (userId : ℕ)
  | createRole (body : RoleCreate)
  | updateRole (roleId : ℕ) (body : RoleUpdate)
  | deleteRole (roleId : ℕ)
  deriving DecidableEq, Repr

/-- The permission a request asks for. -/
def StaffRequest.permission : StaffRequest → String
  | createRole _ => "roles.create"
  | updateRole _ _ => "roles.edit"
  | deleteRole _ => "roles.delete"
  | _ => "user.manage"

/-- What a request does once it is permitted; its answer does not matter here. -/
def StaffRequest.body (hasher : PasswordHasher) (currentUser : ℕ) : StaffRequest → Handler Unit
  | createUser body => (ParkingSystem.createUser hasher body).bind fun _ => .ret ()
  | updateUser userId fullName mobile =>
    (updateUserProfile userId fullName mobile).bind fun _ => .ret ()
  | assignRoles userId roleCodes =>
    (ParkingSystem.assignRoles userId roleCodes).bind fun _ => .ret ()
  | activate userId => activateUser userId
  | deactivate userId => deactivateUser userId currentUser
  | createRole body => (ParkingSystem.createRole body).bind fun _ => .ret ()
  | updateRole roleId body => ParkingSystem.updateRole roleId body
  | deleteRole roleId => ParkingSystem.deleteRole roleId

/-- A request, and who sends it. -/
structure SentRequest where
  currentUser : ℕ
  request : StaffRequest
  deriving DecidableEq, Repr

def SentRequest.handler (hasher : PasswordHasher) (sent : SentRequest) : Handler Unit :=
  (requirePermission sent.request.permission sent.currentUser).bind fun _ =>
    sent.request.body hasher sent.currentUser

end ParkingSystem
