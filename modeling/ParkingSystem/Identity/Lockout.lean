import ParkingSystem.Identity.Accounts

/-!
# Locked and Inactive Accounts

What a request on an account does is said once (`AccountEffect`), and what a run of requests keeps
is derived from it: the fifth failed login in a row locks the account, and tokens are issued to an
account that is active and not locked.

## What goes wrong

A login asks for both flags, a refresh for one: `rotate_refresh` does not look at `is_locked`.
-/

namespace ParkingSystem

open Table Transaction

/-! ## What a request does -/

/-- The token and the user a refresh exchanges, on a store at an instant. -/
def exchangeable (auth : AuthConfig) (now : ℤ) (text : String) (client : ClientInfo) (s : Store) :
    Option (RefreshToken × User) := do
  let payload ← auth.jwt.decode now text
  let t ← tokenByJti payload.jti s
  let u ← userById payload.sub s
  if payload.type = "refresh" ∧ t.revokedAt = none ∧ u.isActive = true ∧
      fitsChar? 64 client.host = true then some (t, u) else none

/-- What a request may make of a store. -/
inductive AccountEffect (auth : AuthConfig) (s : Store) : AccountRequest → Store → Prop where
  | refused {b} (uncounted : ∀ username password client u, b = .login username password client →
      userByName username s = some u → auth.hasher.verify password u.passwordHash = false →
      fitsInt (u.failedLoginCount + 1) = false) : AccountEffect auth s b s
  | failed {username password client u} (found : userByName username s = some u)
      (wrong : auth.hasher.verify password u.passwordHash = false) :
      AccountEffect auth s (.login username password client)
        ((updateUser u.id u.failedLogin).apply s)
  | loggedIn {username password client u now row} (found : userByName username s = some u)
      (right : auth.hasher.verify password u.passwordHash = true) (unlocked : u.isLocked = false)
      (active : u.isActive = true) (user : row.userId = u.id) :
      AccountEffect auth s (.login username password client)
        ((insertToken none row).apply ((updateUser u.id (u.loggedIn now)).apply s))
  | refreshed {token client t u now revokedAt row}
      (exchange : exchangeable auth now token client s = some (t, u)) (user : row.userId = u.id) :
      AccountEffect auth s (.refresh token client)
        ((insertToken (some t.id) row).apply ((revokeToken t revokedAt).apply s))
  | activated {userId u} (found : userById userId s = some u) :
      AccountEffect auth s (.activate userId)
        ((updateUser u.id { isActive := ifChanged u.isActive true }).apply s)
  | deactivated {userId admin u tokens now} (found : userById userId s = some u) :
      AccountEffect auth s (.deactivate userId admin) ((revokeTokens u.id tokens now).apply
        ((updateUser u.id { isActive := ifChanged u.isActive false }).apply s))
  | unlocked {userId u} (found : userById userId s = some u) :
      AccountEffect auth s (.unlock userId) ((updateUser u.id
        { isLocked := ifChanged u.isLocked false
          failedLoginCount := ifChanged u.failedLoginCount 0 }).apply s)
  | reset {userId newPassword u hash tokens now} (found : userById userId s = some u) :
      AccountEffect auth s (.resetPassword userId newPassword) ((revokeTokens u.id tokens now).apply
        ((updateUser u.id
          { passwordHash := hash, failedLoginCount := ifChanged u.failedLoginCount 0 }).apply s))

section

variable {auth : AuthConfig} {clk : ℕ → ℤ} {w : Session Store}

/-- A request that is no login counts no failure. -/
theorem AccountEffect.unchanged {s : Store} {b : AccountRequest}
    (h : ∀ username password client, b ≠ .login username password client) :
    AccountEffect auth s b s :=
  .refused fun username password client _ hb => absurd hb (h username password client)

/-- The row of a token that is issued from a session. -/
def issuedRow (auth : AuthConfig) (clk : ℕ → ℤ) (user : User) (client : ClientInfo)
    (w : Session Store) : RefreshToken :=
  tokenRow auth user.id client (w.nextId + 2) (w.nextId + 1) (clk (w.tick + 2))

/-- Issuing tokens: both statements are accepted and committed, or nothing is. -/
theorem issueTokens_wp (hlive : w.broken = false) (user : User) (client : ClientInfo) (dirty : Stmt)
    (exchanged : Option ℕ) :
    (issueTokens auth user client dirty exchanged).wp clk (fun _ w' => w'.committed =
      if dirty.check w.view = none ∧
        (insertToken exchanged (issuedRow auth clk user client w)).check (dirty.apply w.view) = none
      then (insertToken exchanged (issuedRow auth clk user client w)).apply (dirty.apply w.view)
      else w.committed) w := by
  refine Prog.wp_getTime (Prog.wp_newId (Prog.wp_newId ?_))
  refine Prog.wp_getTime (Prog.wp_getTime (Prog.wp_newId ?_))
  refine Prog.wp_flush (fun hbroken => absurd hbroken (by simp [hlive])) ?_ ?_
  · intro _ reject hcheck
    rw [if_neg fun h => absurd (hcheck.symm.trans h.1) (by simp)]
  · intro _ hdirty
    refine Prog.wp_flush (fun hbroken => absurd hbroken (by simp [hlive])) ?_ ?_
    · intro _ reject hcheck
      rw [if_neg fun h => absurd (hcheck.symm.trans h.2) (by simp)]
    · intro _ hinsert
      refine Prog.wp_commit (fun hbroken => absurd hbroken (by simp [hlive])) fun _ => ?_
      refine Prog.wp_ret ?_
      rw [if_pos ⟨hdirty, hinsert⟩]
      rfl

theorem mem_users_of_userById {id : ℕ} {s : Store} {u : User} (h : userById id s = some u) :
    u ∈ s.users ∧ u.id = id := by
  exact ⟨List.mem_of_find?_eq_some h, by simpa using List.find?_some h⟩

/-- A token of a user who is there is inserted unless its address does not fit. -/
theorem insertToken_check (exchanged : Option ℕ) (row : RefreshToken) {s : Store} {u : User}
    (hu : u ∈ s.users) (hrow : row.userId = u.id) :
    (insertToken exchanged row).check s = none ↔ fitsChar? 64 row.ipAddress = true := by
  have huser : (s.users.any fun u => u.id == row.userId) = true :=
    List.any_eq_true.2 ⟨u, hu, by simp [hrow]⟩
  simp only [insertToken, huser, Bool.not_true, Bool.false_eq_true, if_false]
  cases fitsChar? 64 row.ipAddress <;> simp

/-- What a refresh leaves, by what can be exchanged. -/
def RefreshLeaves (found : Option (RefreshToken × User)) (s s' : Store) : Prop :=
  (found = none ∧ s' = s) ∨ ∃ t u now row, found = some (t, u) ∧ row.userId = u.id ∧
    s' = (insertToken (some t.id) row).apply ((revokeToken t now).apply s)

/-- The end of a refresh, once the token may be exchanged. -/
theorem exchange_wp (hlive : w.broken = false) (hview : w.view = w.committed)
    (t : RefreshToken) (now : ℤ) {u : User} (hu : u ∈ w.committed.users) (client : ClientInfo) :
    (issueTokens auth u client (revokeToken t now) (some t.id)).wp clk (fun _ w' => RefreshLeaves
      (if fitsChar? 64 client.host = true then some (t, u) else none) w.committed w'.committed) w := by
  refine (issueTokens_wp hlive u client _ _).mono fun _ w' hw' => ?_
  have hcheck := insertToken_check (some t.id) (issuedRow auth clk u client w)
    (s := (revokeToken t now).apply w.committed) hu rfl
  rw [hview] at hw'
  by_cases hfits : fitsChar? 64 client.host = true
  · rw [if_pos ⟨rfl, hcheck.2 hfits⟩] at hw'
    rw [if_pos hfits]
    exact Or.inr ⟨t, u, now, _, rfl, rfl, hw'⟩
  · rw [if_neg fun h => hfits (hcheck.1 h.2)] at hw'
    rw [if_neg hfits]
    exact Or.inl ⟨rfl, hw'⟩

/-- **A refresh**: what is exchangeable is exchanged, and nothing else happens. -/
theorem rotateRefresh_wp (hlive : w.broken = false) (hview : w.view = w.committed)
    (text : String) (client : ClientInfo) :
    (rotateRefresh auth text client).wp clk (fun _ w' => RefreshLeaves
      (exchangeable auth (clk w.tick) text client w.committed) w.committed w'.committed) w := by
  unfold rotateRefresh refreshPayload exchangeable
  refine Prog.wp_bind (Prog.wp_getTime ?_)
  cases auth.jwt.decode (clk w.tick) text with
  | none => exact Prog.wp_raise (Or.inl ⟨rfl, rfl⟩)
  | some payload =>
    simp only [Option.bind_eq_bind, Option.bind_some]
    by_cases htype : payload.type = "refresh"
    swap
    · rw [if_pos htype]
      exact Prog.wp_raise (Or.inl ⟨by simp [htype], rfl⟩)
    rw [if_neg (not_not_intro htype)]
    refine Prog.wp_ret ?_
    refine Prog.wp_select (fun hbroken => absurd hbroken (by simp [hlive])) fun _ => ?_
    dsimp only
    rw [hview]
    cases tokenByJti payload.jti w.committed with
    | none => exact Prog.wp_raise (Or.inl ⟨rfl, rfl⟩)
    | some t =>
      simp only [Option.bind_some]
      cases hrevoked : t.revokedAt with
      | some _ => exact Prog.wp_raise (Or.inl ⟨by simp, rfl⟩)
      | none =>
        refine Prog.wp_select (fun hbroken => absurd hbroken (by simp [hlive])) fun _ => ?_
        cases hu : userById payload.sub w.committed with
        | none => exact Prog.wp_raise (Or.inl ⟨rfl, rfl⟩)
        | some u =>
          simp only [Option.bind_some]
          cases hactive : u.isActive with
          | false => exact Prog.wp_raise (Or.inl ⟨by simp, rfl⟩)
          | true =>
            refine Prog.wp_getTime ?_
            simp only [htype, true_and]
            exact exchange_wp (w := { w with view := w.committed, tick := w.tick + 1 + 1 }) hlive rfl
              t _ (mem_users_of_userById hu).1 client

theorem refresh_wp (hlive : w.broken = false) (hview : w.view = w.committed) (text : String)
    (client : ClientInfo) :
    ((AccountRequest.refresh text client).handler auth).wp clk (fun _ w' => RefreshLeaves
      (exchangeable auth (clk w.tick) text client w.committed) w.committed w'.committed) w := by
  refine Prog.wp_bind ((rotateRefresh_wp hlive hview text client).mono fun r w' hr => ?_)
  cases r with
  | ok tokens => exact Prog.wp_ret hr
  | error e => exact hr

/-- A login does one of four things: it is refused, counts a wrong password, runs into a column that
does not fit, or issues tokens. -/
theorem login_wp (hlive : w.broken = false) (hview : w.view = w.committed)
    (username password : String) (client : ClientInfo) :
    (login auth username password client).wp clk (fun _ w' =>
      AccountEffect auth w.committed (.login username password client) w'.committed) w := by
  -- a login that nothing is written for had no wrong password to count
  have hrefused {u : User} (hu : userByName username w.committed = some u)
      (hright : auth.hasher.verify password u.passwordHash = true) :
      AccountEffect auth w.committed (.login username password client) w.committed := by
    refine .refused fun name pw client' u' hreq hu' hwrong => ?_
    cases hreq
    rw [hu] at hu'
    cases hu'
    simp [hright] at hwrong
  refine Prog.wp_bind (Prog.wp_select (fun hbroken => absurd hbroken (by simp [hlive])) fun _ => ?_)
  rw [hview]
  cases hu : userByName username w.committed with
  | none =>
    refine Prog.wp_raise (.refused fun name pw client' u' hreq hu' => ?_)
    cases hreq
    simp [hu] at hu'
  | some u =>
    dsimp only
    cases hverify : auth.hasher.verify password u.passwordHash with
    | false =>
      rw [if_pos (by rfl)]
      refine Prog.wp_flush (fun hbroken => absurd hbroken (by simp [hlive])) ?_ fun _ hfits => ?_
      · intro _ reject hcheck
        refine .refused fun name pw client' u' hreq hu' _ => ?_
        cases hreq
        rw [hu] at hu'
        cases hu'
        cases hfits : fitsInt (u.failedLoginCount + 1) with
        | false => rfl
        | true => simp [updateUser, User.failedLogin, fitsChar?, hfits] at hcheck
      · refine Prog.wp_commit (fun hbroken => absurd hbroken (by simp [hlive])) fun _ => ?_
        refine Prog.wp_raise ?_
        show AccountEffect auth _ _ ((updateUser u.id u.failedLogin).apply w.view)
        rw [hview]
        exact .failed hu hverify
    | true =>
      rw [if_neg (by simp)]
      cases hlocked : u.isLocked with
      | true => exact Prog.wp_raise (hrefused hu hverify)
      | false =>
        rw [if_neg (by simp)]
        cases hactive : u.isActive with
        | false => exact Prog.wp_raise (hrefused hu hverify)
        | true =>
          refine Prog.wp_getTime (Prog.wp_ret ?_)
          refine (issueTokens_wp ?_ u client _ _).mono fun _ w' hw' => ?_
          · exact hlive
          · dsimp only at hw'
            rw [hview] at hw'
            split at hw'
            · rw [hw']
              exact .loggedIn hu hverify hlocked hactive rfl
            · rw [hw']
              exact hrefused hu hverify

/-- Writing what changed of a user: nothing is sent where nothing changed, and then there is nothing
the UPDATE would do. -/
theorem wp_flushUser {β : Type} {Q : Except (Exc AppError) β → Session Store → Prop} {id : ℕ}
    {upd : UserUpdate} {k : Unit → Handler β} (hlive : w.broken = false)
    (hrefused : ∀ r, Q (.error (.rejected r)) { w with broken := true })
    (h : (k ()).wp clk Q { w with view := (updateUser id upd).apply w.view }) :
    ((flushUser id upd).bind k).wp clk Q w := by
  unfold flushUser
  split
  · rename_i hnothing
    have hsame : (updateUser id upd).apply w.view = w.view := by
      subst hnothing
      simp [updateUser, updateWhere, UserUpdate.on]
    rw [hsame] at h
    exact h
  · exact Prog.wp_flush (fun hbroken => absurd hbroken (by simp [hlive])) (fun _ r _ => hrefused r)
      fun _ _ => h

/-- The bulk UPDATE is not refused. -/
theorem revokeAll_wp {Q : Except (Exc AppError) Unit → Session Store → Prop} {userId : ℕ}
    (hlive : w.broken = false)
    (h : ∀ tokens now, Q (.ok ())
      { w with view := (revokeTokens userId tokens now).apply w.view, tick := w.tick + 1 }) :
    (revokeAll userId).wp clk Q w := by
  refine Prog.wp_getTime (Prog.wp_select (fun hbroken => absurd hbroken ?_) fun _ => ?_)
  · simp [hlive]
  · exact Prog.wp_flush_last (fun hbroken => absurd hbroken (by simp [hlive])) nofun fun _ _ => h _ _

/-- An administration request is refused, or does what it does to the user it is about. -/
theorem withUser_wp {b : AccountRequest} (hlive : w.broken = false) (hview : w.view = w.committed)
    {userId : ℕ} {change : User → Handler Unit}
    (hrefused : AccountEffect auth w.committed b w.committed)
    (hchange : ∀ u, userById userId w.committed = some u →
      ((change u).bind fun _ => Prog.commitTx).wp clk (fun _ w' =>
        AccountEffect auth w.committed b w'.committed) w) :
    (withUser userId change).wp clk (fun _ w' =>
      AccountEffect auth w.committed b w'.committed) w := by
  refine Prog.wp_select (fun hbroken => absurd hbroken (by simp [hlive])) fun _ => ?_
  rw [hview]
  cases hu : userById userId w.committed with
  | none => exact Prog.wp_raise hrefused
  | some u => exact hchange u hu

/-- **What a request does to the accounts.** -/
theorem accountEffect_wp (hlive : w.broken = false) (hview : w.view = w.committed)
    (b : AccountRequest) :
    (b.handler auth).wp clk (fun _ w' => AccountEffect auth w.committed b w'.committed) w := by
  have hcommit {Q : Store → Prop} {w : Session Store} (hlive : w.broken = false) (h : Q w.view) :
      (Prog.commitTx : Handler Unit).wp clk (fun _ w' => Q w'.committed) w :=
    Prog.wp_commit_last (fun hbroken => absurd hbroken (by simp [hlive])) fun _ => h
  have hadmin {p : Handler Unit}
      (h : p.wp clk (fun _ w' => AccountEffect auth w.committed b w'.committed) w) :
      (withoutTokens p).wp clk (fun _ w' => AccountEffect auth w.committed b w'.committed) w := by
    refine Prog.wp_bind (h.mono fun r w' hr => ?_)
    cases r with
    | ok u => exact Prog.wp_ret hr
    | error e => exact hr
  cases b with
  | login username password client =>
    refine Prog.wp_bind ((login_wp hlive hview username password client).mono fun r w' hr => ?_)
    cases r with
    | ok tokens => exact Prog.wp_ret hr
    | error e => exact hr
  | refresh token client =>
    refine (refresh_wp hlive hview token client).mono fun _ w' hw' => ?_
    rcases hw' with ⟨-, hsame⟩ | ⟨t, u, now, row, hfound, hrow, hs⟩
    · rw [hsame]
      exact .unchanged nofun
    · rw [hs]
      exact .refreshed hfound hrow
  | activate userId =>
    refine hadmin (withUser_wp hlive hview (.unchanged nofun) fun u hu => ?_)
    refine wp_flushUser hlive (fun _ => .unchanged nofun) (hcommit hlive ?_)
    rw [hview]
    exact .activated hu
  | deactivate userId admin =>
    refine hadmin ?_
    unfold deactivateUser
    split
    · exact Prog.wp_raise (.unchanged nofun)
    · refine withUser_wp hlive hview (.unchanged nofun) fun u hu => ?_
      refine Prog.wp_bind (wp_flushUser hlive (fun _ => .unchanged nofun) ?_)
      refine revokeAll_wp (by exact hlive) fun tokens now =>
        hcommit (Q := AccountEffect auth w.committed (.deactivate userId admin)) (by exact hlive) ?_
      rw [hview]
      exact .deactivated hu
  | unlock userId =>
    refine hadmin (withUser_wp hlive hview (.unchanged nofun) fun u hu => ?_)
    refine wp_flushUser hlive (fun _ => .unchanged nofun) (hcommit hlive ?_)
    rw [hview]
    exact .unlocked hu
  | resetPassword userId newPassword =>
    refine hadmin ?_
    unfold resetPassword
    split
    · exact Prog.wp_raise (.unchanged nofun)
    · refine withUser_wp hlive hview (.unchanged nofun) fun u hu => ?_
      refine Prog.wp_bind (Prog.wp_newId (wp_flushUser (by exact hlive) (fun _ => .unchanged nofun) ?_))
      refine revokeAll_wp (by exact hlive) fun tokens now =>
        hcommit (Q := AccountEffect auth w.committed (.resetPassword userId newPassword)) (by exact hlive) ?_
      rw [hview]
      exact .reset hu

theorem accountEffect_after (auth : AuthConfig) (clk : ℕ → ℤ) (b : AccountRequest)
    (w : Session Store) :
    AccountEffect auth w.committed b ((b.handler auth).after clk w).committed :=
  (accountEffect_wp (w := .fresh w.committed w.nextId w.tick) rfl rfl b).ends

theorem refreshLeaves_after (auth : AuthConfig) (clk : ℕ → ℤ) (text : String) (client : ClientInfo)
    (w : Session Store) :
    RefreshLeaves (exchangeable auth (clk w.tick) text client w.committed) w.committed
      (((AccountRequest.refresh text client).handler auth).after clk w).committed :=
  (refresh_wp (w := .fresh w.committed w.nextId w.tick) rfl rfl text client).ends

end

/-! ## Counting failed logins -/

/-- Identifiers are distinct, and a count of failed logins is not negative and locks at its
bound. -/
structure WellCounted (s : Store) : Prop where
  distinct : (s.users.map User.id).Nodup
  counted : ∀ u ∈ s.users, 0 ≤ u.failedLoginCount ∧
    (maxFailedLogins ≤ u.failedLoginCount → u.isLocked = true)

/-- Whether a request is a login of a user with a wrong password. -/
def AccountRequest.failsLogin (auth : AuthConfig) (userId : ℕ) (s : Store) : AccountRequest → Bool
  | .login username password _ => (userByName username s).any fun u =>
      u.id == userId && !auth.hasher.verify password u.passwordHash
  | _ => false

/-- Whether a request starts the count of a user again: a login that succeeds, or an administrator
who unlocks the account or resets its password. -/
def AccountRequest.resets (auth : AuthConfig) (userId : ℕ) (s : Store) : AccountRequest → Bool
  | .login username password _ => (userByName username s).any fun u =>
      u.id == userId && auth.hasher.verify password u.passwordHash && !u.isLocked && u.isActive
  | .unlock id => id == userId
  | .resetPassword id _ => id == userId
  | _ => false

/-- The failed logins in a row, after a request. -/
def AccountRequest.nextStreak (auth : AuthConfig) (userId : ℕ) (b : AccountRequest) (s : Store)
    (n : ℕ) : ℕ :=
  if b.failsLogin auth userId s then n + 1 else if b.resets auth userId s then 0 else n

/-- The failed logins of a user in a row at the end of a sequence. -/
def loginStreak (auth : AuthConfig) (clk : ℕ → ℤ) (userId : ℕ) :
    List AccountRequest → Session Store → ℕ → ℕ
  | [], _, n => n
  | b :: bs, w, n => loginStreak auth clk userId bs ((b.handler auth).after clk w)
      (b.nextStreak auth userId w.committed n)

/-- A user whose last `n` logins failed is locked, or they are counted. -/
def StreakCounted (userId n : ℕ) (s : Store) : Prop :=
  ∀ u ∈ s.users, u.id = userId → u.isLocked = true ∨ (n : ℤ) ≤ u.failedLoginCount

/-- What a request writes to the user it is about. -/
inductive UserChange (auth : AuthConfig) (s : Store) (b : AccountRequest) (u : User) :
    UserUpdate → Prop where
  | failed (fails : ∀ userId, b.failsLogin auth userId s = true ↔ u.id = userId) :
      UserChange auth s b u u.failedLogin
  | restarted {upd : UserUpdate} (fails : ∀ userId, b.failsLogin auth userId s = false)
      (resets : b.resets auth u.id s = true)
      (count : upd.failedLoginCount = ifChanged u.failedLoginCount 0) : UserChange auth s b u upd
  | flags {upd : UserUpdate} (fails : ∀ userId, b.failsLogin auth userId s = false)
      (count : upd.failedLoginCount = none) (locked : upd.isLocked = none) : UserChange auth s b u upd

theorem getD_ifChanged {α : Type} [DecidableEq α] (old new : α) : (ifChanged old new).getD old = new := by
  unfold ifChanged
  split
  · assumption
  · rfl

section

variable {auth : AuthConfig} {clk : ℕ → ℤ} {s s' : Store} {b : AccountRequest}

theorem mem_of_userByName {username : String} {u : User} (h : userByName username s = some u) :
    u ∈ s.users := List.mem_of_find?_eq_some h

theorem failsLogin_iff {username password : String} {client : ClientInfo} {u : User}
    (h : userByName username s = some u) (userId : ℕ) :
    (AccountRequest.login username password client).failsLogin auth userId s = true ↔
      u.id = userId ∧ auth.hasher.verify password u.passwordHash = false := by
  simp [AccountRequest.failsLogin, h]

/-- A request leaves the users alone, or changes the one that it is about. A wrong password goes
uncounted only where the count would not fit its column. -/
theorem AccountEffect.users (hs : WellCounted s) (h : AccountEffect auth s b s') :
    (s'.users = s.users ∧ ∀ u ∈ s.users, b.failsLogin auth u.id s = true →
      fitsInt (u.failedLoginCount + 1) = false) ∨
    ∃ u ∈ s.users, ∃ upd, UserChange auth s b u upd ∧
      s'.users = updateWhere (fun v => v.id == u.id) upd.on s.users := by
  cases h with
  | refused uncounted =>
    refine Or.inl ⟨rfl, fun u hu hfails => ?_⟩
    cases b with
    | login username password client =>
      cases hname : userByName username s with
      | none => simp [AccountRequest.failsLogin, hname] at hfails
      | some v =>
        obtain ⟨hid, hwrong⟩ := (failsLogin_iff hname u.id).1 hfails
        obtain rfl := List.inj_on_of_nodup_map hs.distinct (mem_of_userByName hname) hu hid
        exact uncounted username password client v rfl hname hwrong
    | _ => cases hfails
  | @failed username password client u found wrong =>
    refine Or.inr ⟨u, mem_of_userByName found, _, .failed fun userId => ?_, rfl⟩
    rw [failsLogin_iff found, and_iff_left wrong]
  | @loggedIn username password client u now row found right unlocked active user =>
    refine Or.inr ⟨u, mem_of_userByName found, _, .restarted (fun userId => ?_) ?_ rfl, rfl⟩
    · simp [AccountRequest.failsLogin, found, right]
    · simp [AccountRequest.resets, found, right, unlocked, active]
  | refreshed => exact Or.inl ⟨rfl, nofun⟩
  | activated found =>
    exact Or.inr ⟨_, (mem_users_of_userById found).1, _, .flags (fun _ => rfl) rfl rfl, rfl⟩
  | deactivated found =>
    exact Or.inr ⟨_, (mem_users_of_userById found).1, _, .flags (fun _ => rfl) rfl rfl, rfl⟩
  | unlocked found =>
    obtain ⟨hu, rfl⟩ := mem_users_of_userById found
    exact Or.inr ⟨_, hu, _, .restarted (fun _ => rfl) (by simp [AccountRequest.resets]) rfl, rfl⟩
  | reset found =>
    obtain ⟨hu, rfl⟩ := mem_users_of_userById found
    exact Or.inr ⟨_, hu, _, .restarted (fun _ => rfl) (by simp [AccountRequest.resets]) rfl, rfl⟩

/-- A request that is no failed login does not lengthen the streak. -/
theorem nextStreak_le {userId : ℕ} (h : b.failsLogin auth userId s = false) (n : ℕ) :
    b.nextStreak auth userId s n ≤ n := by
  unfold AccountRequest.nextStreak
  rw [h, if_neg (by simp)]
  split
  · exact Nat.zero_le n
  · exact Nat.le_refl n

/-- The user a request changed: the count still locks at its bound, and it counts the streak. -/
theorem UserChange.counted {u : User} {upd : UserUpdate} (h : UserChange auth s b u upd)
    (hcount : 0 ≤ u.failedLoginCount)
    (hlocks : maxFailedLogins ≤ u.failedLoginCount → u.isLocked = true) :
    (0 ≤ (upd.on u).failedLoginCount ∧
      (maxFailedLogins ≤ (upd.on u).failedLoginCount → (upd.on u).isLocked = true)) ∧
    ∀ n : ℕ, u.isLocked = true ∨ (n : ℤ) ≤ u.failedLoginCount → (upd.on u).isLocked = true ∨
      (b.nextStreak auth u.id s n : ℤ) ≤ (upd.on u).failedLoginCount := by
  cases h with
  | failed fails =>
    have hnext (n : ℕ) : b.nextStreak auth u.id s n = n + 1 := if_pos ((fails u.id).2 rfl)
    have hnew : (u.failedLogin.on u).failedLoginCount = u.failedLoginCount + 1 := rfl
    -- the lock is set with the count
    have hlock : maxFailedLogins ≤ u.failedLoginCount + 1 →
        (u.failedLogin.on u).isLocked = true := by
      intro hmax
      simp only [User.failedLogin, UserUpdate.on, if_pos hmax]
      exact getD_ifChanged _ _
    have hkeeps : u.isLocked = true → (u.failedLogin.on u).isLocked = true := by
      intro hlocked
      by_cases hmax : maxFailedLogins ≤ u.failedLoginCount + 1
      · exact hlock hmax
      · simp [User.failedLogin, UserUpdate.on, if_neg hmax, hlocked]
    refine ⟨⟨by omega, fun hmax => hlock (by omega)⟩, fun n hn => ?_⟩
    rw [hnext, hnew]
    rcases hn with hlocked | hn
    · exact Or.inl (hkeeps hlocked)
    · exact Or.inr (by push_cast; omega)
  | restarted fails resets count =>
    have hnew : (upd.on u).failedLoginCount = 0 := by
      simp only [UserUpdate.on, count]
      exact getD_ifChanged _ _
    rw [hnew]
    refine ⟨⟨Int.le_refl 0, fun hmax => absurd hmax (by decide)⟩, fun n _ => Or.inr ?_⟩
    simp [AccountRequest.nextStreak, fails, resets]
  | flags fails count locked =>
    have hnew : (upd.on u).failedLoginCount = u.failedLoginCount := by simp [UserUpdate.on, count]
    have hlocked : (upd.on u).isLocked = u.isLocked := by simp [UserUpdate.on, locked]
    rw [hnew, hlocked]
    refine ⟨⟨hcount, hlocks⟩, fun n hn => hn.imp_right fun hn => ?_⟩
    have hle := nextStreak_le (fails u.id) n
    omega

/-- **Step**: every request keeps the counts, and they count the streak of every user. -/
theorem AccountEffect.keeps (hs : WellCounted s) (h : AccountEffect auth s b s') :
    WellCounted s' ∧ ∀ userId n, StreakCounted userId n s →
      StreakCounted userId (b.nextStreak auth userId s n) s' := by
  rcases h.users hs with ⟨husers, huncounted⟩ | ⟨u, hu, upd, hchange, husers⟩
  · refine ⟨⟨husers ▸ hs.distinct, husers ▸ hs.counted⟩, fun userId n hn v hv hid => ?_⟩
    rw [husers] at hv
    cases hfails : b.failsLogin auth userId s with
    | false =>
      have hle := nextStreak_le hfails n
      exact (hn v hv hid).imp_right fun hn => by omega
    | true =>
      -- such a count is beyond the bound already
      refine Or.inl ((hs.counted v hv).2 ?_)
      have hfits := huncounted v hv (hid ▸ hfails)
      have hpos := (hs.counted v hv).1
      simp only [fitsInt, decide_eq_false_iff_not] at hfits
      unfold maxFailedLogins
      omega
  · have hcounted := hchange.counted (hs.counted u hu).1 (hs.counted u hu).2
    -- the row that is written is the user's
    have hrow {v : User} (hv : v ∈ s'.users) :
        v = upd.on u ∨ v ∈ s.users ∧ v.id ≠ u.id := by
      rw [husers] at hv
      rcases mem_updateWhere.1 hv with ⟨v', hv', hid, rfl⟩ | ⟨hv, hid⟩
      · rw [List.inj_on_of_nodup_map hs.distinct hv' hu (by simpa using hid)]
        exact Or.inl rfl
      · exact Or.inr ⟨hv, by simpa using hid⟩
    refine ⟨⟨?_, fun v hv => ?_⟩, fun userId n hn v hv hid => ?_⟩
    · have hids : s'.users.map User.id = s.users.map User.id := by
        rw [husers]
        exact map_updateWhere (g := User.id) (f := upd.on) (fun _ => rfl) _
      rw [hids]
      exact hs.distinct
    · rcases hrow hv with rfl | ⟨hv, -⟩
      · exact hcounted.1
      · exact hs.counted v hv
    · rcases hrow hv with rfl | ⟨hv, hother⟩
      · subst hid
        exact hcounted.2 n (hn u hu rfl)
      · -- the request is not about this user
        have hfails : b.failsLogin auth userId s = false := by
          cases hchange with
          | failed fails =>
            rw [Bool.eq_false_iff, ne_eq, fails]
            exact fun h => hother (hid.trans h.symm)
          | restarted fails _ _ => exact fails userId
          | flags fails _ _ => exact fails userId
        have hle := nextStreak_le hfails n
        exact (hn v hv hid).imp_right fun hn => by omega

end

/-! ## Issued tokens -/

/-- The rows that a step added. -/
def issuedRows (s s' : Store) : List RefreshToken := s'.refreshTokens.drop s.refreshTokens.length

/-- The tokens of a step went to users who are active and not locked. -/
def IssuedWell (s s' : Store) : Prop :=
  ∀ t ∈ issuedRows s s', ∃ u, userById t.userId s' = some u ∧ u.isActive = true ∧ u.isLocked = false

/-- The condition on a request: a refresh that is carried out is one of a user who is not locked. -/
def UnlockedRefresh (auth : AuthConfig) (clk : ℕ → ℤ) (b : AccountRequest) (w : Session Store) :
    Prop :=
  ∀ text client, b = .refresh text client → ∀ t u,
    exchangeable auth (clk w.tick) text client w.committed = some (t, u) → u.isLocked = false

section

variable {auth : AuthConfig} {clk : ℕ → ℤ} {s s' : Store} {b : AccountRequest}

theorem issuedRows_of_length (h : s'.refreshTokens.length = s.refreshTokens.length) :
    issuedRows s s' = [] := List.drop_eq_nil_iff.2 (Nat.le_of_eq h)

theorem issuedRows_insert {exchanged : Option ℕ} {row : RefreshToken}
    (h : s'.refreshTokens.length = s.refreshTokens.length) :
    issuedRows s ((insertToken exchanged row).apply s') = [row] := by
  show (s'.refreshTokens ++ [row]).drop s.refreshTokens.length = [row]
  rw [← h, List.drop_left]

/-- A request that is no refresh issues tokens to a user who is active and not locked. -/
theorem AccountEffect.issuedWell (hs : WellCounted s) (h : AccountEffect auth s b s')
    (hother : ∀ text client, b ≠ .refresh text client) : IssuedWell s s' := by
  have hnone {s₁ : Store} (hlength : s₁.refreshTokens.length = s.refreshTokens.length) :
      IssuedWell s s₁ := by
    intro t ht
    rw [issuedRows_of_length hlength] at ht
    cases ht
  cases h with
  | refused => exact hnone rfl
  | failed => exact hnone rfl
  | @loggedIn username password client u now row found right unlocked active user =>
    intro t ht
    have hissued : issuedRows s ((insertToken none row).apply
        ((updateUser u.id (u.loggedIn now)).apply s)) = [row] := issuedRows_insert rfl
    rw [hissued, List.mem_singleton] at ht
    subst ht
    have hu : userById u.id s = some u := find?_key_of_mem hs.distinct (mem_of_userByName found)
    have hkey (v : User) : ((u.loggedIn now).on v).id = v.id := rfl
    have hfound := find?_updateWhere_self hkey u.id s.users
    rw [← userById, hu] at hfound
    rw [user]
    exact ⟨_, hfound, active, unlocked⟩
  | refreshed => exact absurd rfl (hother _ _)
  | activated => exact hnone rfl
  | deactivated => exact hnone (List.length_map _)
  | unlocked => exact hnone rfl
  | reset => exact hnone (List.length_map _)

/-- What is exchangeable belongs to a user who is active. -/
theorem exchangeable_some {now : ℤ} {text : String} {client : ClientInfo} {t : RefreshToken}
    {u : User} (h : exchangeable auth now text client s = some (t, u)) :
    userById u.id s = some u ∧ u.isActive = true := by
  simp only [exchangeable, Option.bind_eq_bind, Option.bind_eq_some_iff] at h
  obtain ⟨payload, -, t', -, u', hu', hif⟩ := h
  split at hif
  · rename_i hcond
    have hactive := hcond.2.2.1
    cases hif
    have hid := (mem_users_of_userById hu').2
    exact ⟨hid ▸ hu', hactive⟩
  · cases hif

/-- **A refresh issues tokens well exactly when the user is not locked.** -/
theorem refresh_issuedWell (text : String) (client : ClientInfo) (w : Session Store) :
    IssuedWell w.committed (((AccountRequest.refresh text client).handler auth).after clk w).committed ↔
      ∀ t u, exchangeable auth (clk w.tick) text client w.committed = some (t, u) →
        u.isLocked = false := by
  rcases refreshLeaves_after auth clk text client w with
    ⟨hnone, hs⟩ | ⟨t, u, now, row, hfound, hrow, hs⟩
  · rw [hs, hnone]
    refine ⟨fun _ t u h => absurd h (by simp), fun _ t ht => ?_⟩
    rw [issuedRows_of_length rfl] at ht
    cases ht
  · rw [hs, hfound]
    obtain ⟨huser, hactive⟩ := exchangeable_some hfound
    have hissued : issuedRows w.committed
        ((insertToken (some t.id) row).apply ((revokeToken t now).apply w.committed)) = [row] :=
      issuedRows_insert (List.length_map _)
    constructor
    · intro hwell t' u' heq
      cases heq
      obtain ⟨v, hv, -, hunlocked⟩ := hwell row (hissued ▸ List.mem_singleton.2 rfl)
      rw [hrow] at hv
      rw [← Option.some.inj (hv.symm.trans huser)]
      exact hunlocked
    · intro hunlocked t' ht'
      rw [hissued, List.mem_singleton] at ht'
      subst ht'
      rw [hrow]
      exact ⟨u, huser, hactive, hunlocked t u rfl⟩

/-- The condition of a request says of its step that it issues tokens well. -/
theorem issuedWell_iff {w : Session Store} (hs : WellCounted w.committed) (b : AccountRequest) :
    IssuedWell w.committed ((b.handler auth).after clk w).committed ↔ UnlockedRefresh auth clk b w := by
  cases b with
  | refresh text client =>
    rw [refresh_issuedWell]
    constructor
    · rintro hunlocked _ _ ⟨⟩
      exact hunlocked
    · exact fun h => h text client rfl
  | _ => exact ⟨fun _ => nofun, fun _ => (accountEffect_after auth clk _ w).issuedWell hs nofun⟩

end

/-! ## Runs -/

/-- After every beginning of a sequence, a user whose last five logins failed is locked. -/
def LocksInTime (auth : AuthConfig) (clk : ℕ → ℤ) (bs : List AccountRequest) (w : Session Store) :
    Prop :=
  ∀ done rest, bs = done ++ rest → ∀ userId, 5 ≤ loginStreak auth clk userId done w 0 →
    ∀ u ∈ (Prog.afterEach clk (AccountRequest.handler auth) done w).committed.users,
      u.id = userId → u.isLocked = true

section

variable {auth : AuthConfig} {clk : ℕ → ℤ} {w : Session Store}

/-- **Run**: every sequence of requests keeps the counts, and they count the streak of every user. -/
theorem afterEach_counted (auth : AuthConfig) (clk : ℕ → ℤ) (bs : List AccountRequest) {n : ℕ}
    (hs : WellCounted w.committed) {userId : ℕ} (hn : StreakCounted userId n w.committed) :
    WellCounted (Prog.afterEach clk (AccountRequest.handler auth) bs w).committed ∧
      StreakCounted userId (loginStreak auth clk userId bs w n)
        (Prog.afterEach clk (AccountRequest.handler auth) bs w).committed := by
  induction bs generalizing w n with
  | nil => exact ⟨hs, hn⟩
  | cons b bs ih =>
    have hstep := (accountEffect_after auth clk b w).keeps hs
    exact ih hstep.1 (hstep.2 userId n hn)

theorem locksInTime (bs : List AccountRequest) (hs : WellCounted w.committed) :
    LocksInTime auth clk bs w := by
  intro done rest _ userId hfive u hu hid
  have hstart : StreakCounted userId 0 w.committed := fun v hv _ => Or.inr (hs.counted v hv).1
  obtain ⟨hcounted, hstreak⟩ := afterEach_counted auth clk done hs hstart
  rcases hstreak u hu hid with hlocked | hcount
  · exact hlocked
  · refine (hcounted.counted u hu).2 ?_
    unfold maxFailedLogins
    omega

/-- **Locked and inactive accounts: in a run of requests every token goes to a user who is active
and not locked, and the fifth failed login in a row locks the account, exactly when no refresh that
is carried out is one of a locked user.** -/
theorem accounts_iff (bs : List AccountRequest) (hs : WellCounted w.committed) :
    (Prog.EachMeets clk (AccountRequest.handler auth)
        (fun b w => IssuedWell w.committed ((b.handler auth).after clk w).committed) bs w ∧
      LocksInTime auth clk bs w) ↔
    Prog.EachMeets clk (AccountRequest.handler auth) (UnlockedRefresh auth clk) bs w := by
  rw [and_iff_left (locksInTime bs hs)]
  refine Prog.EachMeets.iff_of_invariant (I := fun w => WellCounted w.committed)
    (fun b w hw => issuedWell_iff hw b) (fun b w hw _ => ?_) hs
  exact ((accountEffect_after auth clk b w).keeps hw).1

end

/-! ### A locked user refreshes -/

/-- The user after five wrong passwords. -/
def lockedUser : User := { freeUser with isLocked := true, failedLoginCount := 5 }

theorem wellCounted_heldBy {u : User} (h : 0 ≤ u.failedLoginCount)
    (hlocks : maxFailedLogins ≤ u.failedLoginCount → u.isLocked = true) :
    WellCounted (heldBy u).committed where
  distinct := List.nodup_singleton _
  counted v hv := by
    obtain rfl := List.mem_singleton.1 hv
    exact ⟨h, hlocks⟩

theorem accounts_iff_refresh :
    (Prog.EachMeets (fun _ => 0) (AccountRequest.handler heldAuth)
        (fun b w => IssuedWell w.committed
          ((b.handler heldAuth).after (fun _ => 0) w).committed) [heldRefresh] (heldBy freeUser) ∧
      LocksInTime heldAuth (fun _ => 0) [heldRefresh] (heldBy freeUser)) ↔
    Prog.EachMeets (fun _ => 0) (AccountRequest.handler heldAuth)
      (UnlockedRefresh heldAuth (fun _ => 0)) [heldRefresh] (heldBy freeUser) :=
  accounts_iff [heldRefresh] (wellCounted_heldBy (by decide) (by decide))

theorem lockedUser_refreshes :
    ¬ ∀ (auth : AuthConfig) (clk : ℕ → ℤ) (bs : List AccountRequest) (w : Session Store),
      WellCounted w.committed →
        Prog.EachMeets clk (AccountRequest.handler auth)
          (fun b w => IssuedWell w.committed ((b.handler auth).after clk w).committed) bs w ∧
        LocksInTime auth clk bs w := by
  intro hall
  have hmeets := hall heldAuth (fun _ => 0) [heldRefresh] (heldBy lockedUser)
    (wellCounted_heldBy (by decide) (by decide))
  -- the token is live and the account active, which is all that is looked at
  have hlocked := (refresh_issuedWell "held" {} (heldBy lockedUser)).1 hmeets.1.1 _ _ rfl
  exact absurd hlocked (by decide)

end ParkingSystem
