import ParkingSystem.Library.Hoare
import ParkingSystem.Store

/-!
# Accounts

`AuthService` and the account endpoints: a login checks the password and issues two tokens, a
refresh token is exchanged for two new ones, and an administrator activates, deactivates and
unlocks an account and resets its password.

An attribute that is set to the value it has is not written. What a session has changed is sent
with its next query or at the commit, an UPDATE before an INSERT.
-/

namespace ParkingSystem

open PyText Table Transaction

/-! ## Libraries -/

/-- The claims of a token. -/
structure TokenPayload where
  sub : ℕ
  type : String
  iat : ℤ
  exp : ℤ
  jti : ℕ
  username : Option String := none
  deriving DecidableEq, Repr

/-- The library that signs tokens, with the key; `decode` at an instant is `none` where it
raises. -/
structure Jwt where
  encode : TokenPayload → String
  decode : ℤ → String → Option TokenPayload

/-- The library that hashes passwords, given a salt. -/
structure PasswordHasher where
  hash : ℕ → String → String
  verify : String → String → Bool

/-- What the identity module is run with. -/
structure AuthConfig where
  jwt : Jwt
  hasher : PasswordHasher
  jwtAccessExpireMinutes : ℤ := 15
  jwtRefreshExpireDays : ℤ := 7

/-- `MAX_FAILED_LOGINS`. -/
def maxFailedLogins : ℤ := 5

/-- What a request says of its client. -/
structure ClientInfo where
  userAgent : Option String := none
  host : Option String := none

/-! ## Statements -/

/-- UPDATE of a user. -/
def updateUser (id : ℕ) (u : UserUpdate) : Stmt where
  label := .identity .updateUser
  locks := [.userRow id]
  check _ :=
    if !(fitsChar? 256 u.passwordHash && u.failedLoginCount.all fitsInt) then some .data else none
  apply s := { s with users := updateWhere (fun user => user.id == id) u.on s.users }

/-- INSERT of a token, which may be issued in exchange for another one. Its `token_jti` was drawn
for it, so that the unique index has nothing to refuse. -/
def insertToken (exchanged : Option ℕ) (t : RefreshToken) : Stmt where
  label := .identity .insertToken
  locks := []
  check s :=
    if !fitsChar? 64 t.ipAddress then some .data
    else if !s.users.any fun u => u.id == t.userId then some .integrity
    else none
  apply s := { s with
    refreshTokens := s.refreshTokens ++ [t]
    rotations := s.rotations ++ (exchanged.map fun token => { token, issued := t.id }).toList }

/-- UPDATE of a token that is exchanged. -/
def revokeToken (t : RefreshToken) (now : ℤ) : Stmt where
  label := .identity (.exchangeToken t)
  locks := [.tokenRow t.id]
  check _ := none
  apply s := { s with
    refreshTokens := updateWhere (fun r => r.id == t.id) (fun r => { r with revokedAt := some now })
      s.refreshTokens }

/-- UPDATE of the tokens of a user, those of `tokens` that are not revoked yet. -/
def revokeTokens (userId : ℕ) (tokens : List ℕ) (now : ℤ) : Stmt where
  label := .identity (.revokeTokens userId tokens)
  locks := tokens.map .tokenRow
  check _ := none
  apply s := { s with
    refreshTokens := updateWhere
      (fun r => tokens.contains r.id && r.userId == userId && r.revokedAt.isNone)
      (fun r => { r with revokedAt := some now }) s.refreshTokens
    revocations := s.revocations ++ [userId] }

/-! ## Lookups -/

/-- The user of a name. -/
def userByName (username : String) (s : Store) : Option User :=
  s.users.find? fun u => u.username == username

/-- `db.get(User, id)`. -/
def userById (id : ℕ) (s : Store) : Option User := s.users.find? fun u => u.id == id

/-- The token of an identifier. -/
def tokenByJti (jti : ℕ) (s : Store) : Option RefreshToken :=
  s.refreshTokens.find? fun t => t.tokenJti == jti

/-- The tokens of a user that are not revoked. -/
def liveTokens (userId : ℕ) (s : Store) : List ℕ :=
  (s.refreshTokens.filter fun t => t.userId == userId && t.revokedAt.isNone).map RefreshToken.id

/-- A column that is set: written where the value is another one. -/
def ifChanged {α : Type} [DecidableEq α] (old new : α) : Option α := if old = new then none else some new

/-- Send what changed of a user. -/
def flushUser (id : ℕ) (u : UserUpdate) : Handler Unit :=
  if u = {} then return () else Prog.flush (updateUser id u)

/-! ## Logins -/

/-- The columns a wrong password writes. -/
def User.failedLogin (u : User) : UserUpdate :=
  { failedLoginCount := some (u.failedLoginCount + 1)
    isLocked := if maxFailedLogins ≤ u.failedLoginCount + 1 then ifChanged u.isLocked true else none }

/-- The columns a login writes. -/
def User.loggedIn (u : User) (now : ℤ) : UserUpdate :=
  { failedLoginCount := ifChanged u.failedLoginCount 0, lastLoginAt := some (some now) }

/-- `authenticate`: the user, and what the session has still to write of it. -/
def authenticate (auth : AuthConfig) (username password : String) : Handler (User × UserUpdate) := do
  let found ← .select (userByName username)
  match found with
  | none => Prog.raise (.unauthorized "نام کاربری یا رمز عبور نادرست است")
  | some u =>
    if !auth.hasher.verify password u.passwordHash then do
      Prog.flush (updateUser u.id u.failedLogin)
      Prog.commitTx
      Prog.raise (.unauthorized "نام کاربری یا رمز عبور نادرست است")
    else if u.isLocked then Prog.raise (.unauthorized "حساب کاربری قفل شده است؛ با مدیر تماس بگیرید")
    else if !u.isActive then Prog.raise (.unauthorized "حساب کاربری غیرفعال است")
    else do
      let now ← Prog.getTime
      return (u, u.loggedIn now)

/-- `TokenResponse`. -/
structure TokenResponse where
  accessToken : String
  refreshToken : String
  tokenType : String := "bearer"
  expiresIn : ℤ
  deriving DecidableEq, Repr

/-- Microseconds in a minute. -/
def minuteMicros : ℤ := 60000000

/-- The row of a token. -/
def tokenRow (auth : AuthConfig) (userId : ℕ) (client : ClientInfo) (id jti : ℕ) (now : ℤ) :
    RefreshToken :=
  { id, userId, tokenJti := jti
    deviceInfo := some (String.ofList ((client.userAgent.getD "").toList.take 250))
    ipAddress := client.host, expiresAt := now + auth.jwtRefreshExpireDays * 1440 * minuteMicros }

/-- `issue_tokens`: `dirty` is what the session has still to write, and `exchanged` the token it
revoked, if it did. -/
def issueTokens (auth : AuthConfig) (user : User) (client : ClientInfo) (dirty : Stmt)
    (exchanged : Option ℕ) : Handler TokenResponse := do
  let accessAt ← Prog.getTime
  let accessJti ← Prog.newId
  let jti ← Prog.newId
  let refreshAt ← Prog.getTime
  let now ← Prog.getTime
  let id ← Prog.newId
  Prog.flush dirty
  Prog.flush (insertToken exchanged (tokenRow auth user.id client id jti now))
  Prog.commitTx
  return {
    accessToken := auth.jwt.encode
      { sub := user.id, type := "access", iat := accessAt
        exp := accessAt + auth.jwtAccessExpireMinutes * minuteMicros, jti := accessJti
        username := some user.username }
    refreshToken := auth.jwt.encode
      { sub := user.id, type := "refresh", iat := refreshAt
        exp := refreshAt + auth.jwtRefreshExpireDays * 1440 * minuteMicros, jti }
    expiresIn := auth.jwtAccessExpireMinutes * 60 }

/-- `login`. -/
def login (auth : AuthConfig) (username password : String) (client : ClientInfo) :
    Handler TokenResponse := do
  let found ← authenticate auth username password
  issueTokens auth found.1 client (updateUser found.1.id found.2) none

/-! ## Refreshes -/

/-- The claims of a text that is a refresh token. -/
def refreshPayload (auth : AuthConfig) (text : String) : Handler TokenPayload := do
  let now ← Prog.getTime
  match auth.jwt.decode now text with
  | none => Prog.raise (.unauthorized "توکن refresh نامعتبر یا منقضی است")
  | some payload =>
    if payload.type ≠ "refresh" then Prog.raise (.unauthorized "نوع توکن نامعتبر است")
    else return payload

/-- `rotate_refresh`. -/
def rotateRefresh (auth : AuthConfig) (text : String) (client : ClientInfo) :
    Handler TokenResponse := do
  let payload ← refreshPayload auth text
  let stored ← .select (tokenByJti payload.jti)
  match stored with
  | none => Prog.raise (.unauthorized "نشست ابطال شده یا وجود ندارد")
  | some t =>
    if t.revokedAt.isSome then Prog.raise (.unauthorized "نشست ابطال شده یا وجود ندارد")
    else do
      let user ← .select (userById payload.sub)
      match user with
      | none => Prog.raise (.unauthorized "کاربر یافت نشد یا غیرفعال است")
      | some u =>
        if !u.isActive then Prog.raise (.unauthorized "کاربر یافت نشد یا غیرفعال است")
        else do
          let now ← Prog.getTime
          issueTokens auth u client (revokeToken t now) (some t.id)

/-! ## Administration -/

/-- The bulk UPDATE: it revokes the tokens that it sees when it starts, once their rows are free. -/
def revokeAll (userId : ℕ) : Handler Unit := do
  let now ← Prog.getTime
  let tokens ← .select (liveTokens userId)
  Prog.flush (revokeTokens userId tokens now)

/-- The account an administrator changes. -/
def withUser (userId : ℕ) (change : User → Handler Unit) : Handler Unit := do
  let found ← .select (userById userId)
  match found with
  | none => Prog.raise .notFound
  | some u => do
    change u
    Prog.commitTx

/-- `activate_user`. -/
def activateUser (userId : ℕ) : Handler Unit :=
  withUser userId fun u => flushUser u.id { isActive := ifChanged u.isActive true }

/-- `deactivate_user`, by an administrator who is somebody else. -/
def deactivateUser (userId admin : ℕ) : Handler Unit :=
  if userId = admin then Prog.raise (.forbidden "نمی‌توانید حساب خودتان را غیرفعال کنید")
  else withUser userId fun u => do
    flushUser u.id { isActive := ifChanged u.isActive false }
    revokeAll u.id

/-- `unlock_user`. -/
def unlockUser (userId : ℕ) : Handler Unit :=
  withUser userId fun u => flushUser u.id
    { isLocked := ifChanged u.isLocked false, failedLoginCount := ifChanged u.failedLoginCount 0 }

/-- `reset_password`. -/
def resetPassword (auth : AuthConfig) (userId : ℕ) (newPassword : String) : Handler Unit :=
  if newPassword.length < 8 then Prog.raise (.unprocessable "new_password")
  else withUser userId fun u => do
    let salt ← Prog.newId
    flushUser u.id
      { passwordHash := ifChanged u.passwordHash (auth.hasher.hash salt newPassword)
        failedLoginCount := ifChanged u.failedLoginCount 0 }
    revokeAll u.id

/-! ## Requests -/

/-- A request on an account. -/
inductive AccountRequest where
  | login (username password : String) (client : ClientInfo)
  | refresh (token : String) (client : ClientInfo)
  | activate (userId : ℕ)
  | deactivate (userId admin : ℕ)
  | unlock (userId : ℕ)
  | resetPassword (userId : ℕ) (newPassword : String)

/-- An endpoint that answers without tokens. -/
def withoutTokens (p : Handler Unit) : Handler (Option TokenResponse) := do
  p
  return none

/-- An endpoint that answers with tokens. -/
def withTokens (p : Handler TokenResponse) : Handler (Option TokenResponse) := do
  let tokens ← p
  return some tokens

/-- The handler of a request; it answers with the tokens it issued, if any. -/
def AccountRequest.handler (auth : AuthConfig) : AccountRequest → Handler (Option TokenResponse)
  | .login username password client => withTokens (ParkingSystem.login auth username password client)
  | .refresh token client => withTokens (rotateRefresh auth token client)
  | .activate userId => withoutTokens (activateUser userId)
  | .deactivate userId admin => withoutTokens (deactivateUser userId admin)
  | .unlock userId => withoutTokens (unlockUser userId)
  | .resetPassword userId newPassword =>
    withoutTokens (ParkingSystem.resetPassword auth userId newPassword)

/-! ## A user with a token -/

/-- The claims of a refresh token that was its user holds. -/
def heldPayload : TokenPayload :=
  { sub := 1, type := "refresh", iat := 0, exp := 604800000000, jti := 4 }

/-- A library that signs this one token. -/
def heldAuth : AuthConfig where
  jwt :=
    { encode := fun payload => if payload = heldPayload then "held" else payload.type
      decode := fun now text => if text = "held" ∧ now < heldPayload.exp then some heldPayload else none }
  hasher :=
    { hash := fun _ password => password
      verify := fun password hash => password == hash }

/-- The database of a user, who holds a live token. -/
def heldBy (u : User) : Session Store :=
  .fresh { users := [u], refreshTokens := [{ id := 3, userId := 1, tokenJti := 4, expiresAt := 604800000000 }] }
    5 0

/-- A user. -/
def freeUser : User := { id := 1, username := "operator", passwordHash := "secret" }

/-- The refresh of the token. -/
def heldRefresh : AccountRequest := .refresh "held" {}

end ParkingSystem
