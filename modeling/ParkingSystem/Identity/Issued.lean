import ParkingSystem.Identity.Lockout
import ParkingSystem.Identity.Rotation

/-!
# Issued Tokens

Who the sender of a request is, the endpoint that ends a session, and what every request on accounts
does to the tokens: it issues none, or one with an identifier that no token had before, for a login
or in exchange for the token that a refresh presents.
-/

namespace ParkingSystem

open Table Transaction

/-! ## The end of a session -/

/-- `get_current_user`, by the token of the Authorization header. -/
def getCurrentUser (auth : AuthConfig) (credentials : Option String) : Handler User := do
  match credentials with
  | none => Prog.raise (.unauthorized "توکن ارائه نشده است")
  | some text => do
    let now ← Prog.getTime
    match auth.jwt.decode now text with
    | none => Prog.raise (.unauthorized "توکن نامعتبر است")
    | some payload =>
      if payload.type ≠ "access" then Prog.raise (.unauthorized "نوع توکن نامعتبر است")
      else do
        let found ← .select (userById payload.sub)
        match found with
        | none => Prog.raise (.unauthorized "کاربر یافت نشد یا غیرفعال است")
        | some u =>
          if !u.isActive then Prog.raise (.unauthorized "کاربر یافت نشد یا غیرفعال است")
          else return u

/-- The token a logout names is revoked; a text that is no token raises. -/
def revokePresented (auth : AuthConfig) (text : String) : Handler Unit := do
  let now ← Prog.getTime
  match auth.jwt.decode now text with
  | none => Prog.raise (.unauthorized "توکن نامعتبر است")
  | some payload => do
    let stored ← .select (tokenByJti payload.jti)
    match stored with
    | none => return ()
    | some t =>
      if t.revokedAt.isSome then return ()
      else do
        let revokedAt ← Prog.getTime
        Prog.flush (revokeToken t revokedAt)
        Prog.commitTx

/-- `logout`: whatever goes wrong once the sender is known is passed over. -/
def logout (auth : AuthConfig) (credentials : Option String) (text : String) : Handler Unit := do
  let _ ← getCurrentUser auth credentials
  let _ ← (revokePresented auth text).attempt
  return ()

/-- `change_password`: unlike `reset_password` it revokes no token. -/
def changePassword (auth : AuthConfig) (credentials : Option String)
    (currentPassword newPassword : String) : Handler Unit :=
  if newPassword.length < 8 then Prog.raise (.unprocessable "new_password")
  else do
    let u ← getCurrentUser auth credentials
    if !auth.hasher.verify currentPassword u.passwordHash then
      Prog.raise (.unauthorized "رمز عبور فعلی نادرست است")
    else do
      let salt ← Prog.newId
      flushUser u.id { passwordHash := ifChanged u.passwordHash (auth.hasher.hash salt newPassword) }
      Prog.commitTx

/-- A request that concerns tokens. -/
inductive TokenRequest where
  | account (request : AccountRequest)
  | logout (credentials : Option String) (text : String)

/-- The handler of a request; it answers with the tokens it issued, if any. -/
def TokenRequest.handler (auth : AuthConfig) : TokenRequest → Handler (Option TokenResponse)
  | .account request => request.handler auth
  | .logout credentials text => withoutTokens (ParkingSystem.logout auth credentials text)

/-! ## What a request does to the tokens -/

/-- The tokens by what no UPDATE writes. -/
def tokenKeys (s : Store) : List (ℕ × ℕ) := s.refreshTokens.map fun t => (t.id, t.tokenJti)

/-- A token that a request may exchange: the one its text names. -/
def TokenRequest.Names (auth : AuthConfig) (b : TokenRequest) (jti : ℕ) : Prop :=
  ∃ text client now payload, b = .account (.refresh text client) ∧
    auth.jwt.decode now text = some payload ∧ payload.jti = jti

/-- What a request may make of the tokens, with its answer. -/
inductive TokenEffect (auth : AuthConfig) (w : Session Store) (b : TokenRequest) :
    Except (Exc AppError) (Option TokenResponse) → Session Store → Prop where
  | kept {r w'} (keys : tokenKeys w'.committed = tokenKeys w.committed)
      (rotations : w'.committed.rotations = w.committed.rotations)
      (silent : ∀ tokens, r ≠ .ok (some tokens)) : TokenEffect auth w b r w'
  | issued {tokens payload w'} (exchanged : Option ℕ) (id : ℕ)
      (text : tokens.refreshToken = auth.jwt.encode payload)
      (fresh : w.nextId ≤ id ∧ w.nextId ≤ payload.jti)
      (drawn : id < w'.nextId ∧ payload.jti < w'.nextId)
      (keys : tokenKeys w'.committed = tokenKeys w.committed ++ [(id, payload.jti)])
      (rotations : w'.committed.rotations =
        w.committed.rotations ++ (exchanged.map fun token => ⟨token, id⟩).toList)
      (presented : ∀ token, exchanged = some token → ∃ t,
        tokenByJti t.tokenJti w.committed = some t ∧ t.id = token ∧ b.Names auth t.tokenJti) :
      TokenEffect auth w b (.ok (some tokens)) w'

section

variable {auth : AuthConfig} {clk : ℕ → ℤ} {w : Session Store} {b : TokenRequest}

theorem tokenKeys_revoke (t : RefreshToken) (now : ℤ) (s : Store) :
    tokenKeys ((revokeToken t now).apply s) = tokenKeys s :=
  map_updateWhere (g := fun r : RefreshToken => (r.id, r.tokenJti))
    (f := fun r => { r with revokedAt := some now }) (fun _ => rfl) _

theorem tokenKeys_revokeAll (userId : ℕ) (tokens : List ℕ) (now : ℤ) (s : Store) :
    tokenKeys ((revokeTokens userId tokens now).apply s) = tokenKeys s :=
  map_updateWhere (g := fun r : RefreshToken => (r.id, r.tokenJti))
    (f := fun r => { r with revokedAt := some now }) (fun _ => rfl) _

theorem tokenKeys_insert (exchanged : Option ℕ) (row : RefreshToken) (s : Store) :
    tokenKeys ((insertToken exchanged row).apply s) = tokenKeys s ++ [(row.id, row.tokenJti)] :=
  List.map_append

/-- Issuing tokens: the answer names what was inserted, or nothing was. -/
theorem issueTokens_issued (hlive : w.broken = false) (user : User) (client : ClientInfo)
    (dirty : Stmt) (exchanged : Option ℕ) :
    (issueTokens auth user client dirty exchanged).wp clk (fun r w' =>
      (∃ e, r = .error e ∧ w'.committed = w.committed) ∨
      ∃ tokens payload, r = .ok tokens ∧ tokens.refreshToken = auth.jwt.encode payload ∧
        payload.jti = w.nextId + 1 ∧ w'.nextId = w.nextId + 3 ∧ w'.committed =
          (insertToken exchanged (issuedRow auth clk user client w)).apply (dirty.apply w.view)) w := by
  refine Prog.wp_getTime (Prog.wp_newId (Prog.wp_newId ?_))
  refine Prog.wp_getTime (Prog.wp_getTime (Prog.wp_newId ?_))
  refine Prog.wp_flush (fun hbroken => absurd hbroken (by simp [hlive])) ?_ ?_
  · exact fun _ reject _ => Or.inl ⟨_, rfl, rfl⟩
  · intro _ _
    refine Prog.wp_flush (fun hbroken => absurd hbroken (by simp [hlive])) ?_ ?_
    · exact fun _ reject _ => Or.inl ⟨_, rfl, rfl⟩
    · intro _ _
      refine Prog.wp_commit (fun hbroken => absurd hbroken (by simp [hlive])) fun _ => ?_
      exact Prog.wp_ret (Or.inr ⟨_, _, rfl, rfl, rfl, rfl, rfl⟩)

/-- A refused request leaves the tokens alone. -/
theorem TokenEffect.refused {e : Exc AppError} {w' : Session Store}
    (h : w'.committed = w.committed) : TokenEffect auth w b (.error e) w' :=
  .kept (congrArg tokenKeys h) (congrArg Store.rotations h) nofun

/-- A request that hands the tokens it issued on. -/
theorem withTokens_effect {p : Handler TokenResponse}
    (h : p.wp clk (fun r w' => TokenEffect auth w b (r.map some) w') w) :
    (withTokens p).wp clk (fun r w' => TokenEffect auth w b r w') w := by
  refine Prog.wp_bind (h.mono fun r w' hr => ?_)
  cases r with
  | error e => exact hr
  | ok tokens => exact Prog.wp_ret hr

/-- A request that answers without tokens, and leaves the tokens but for their revocation. -/
theorem withoutTokens_effect {p : Handler Unit}
    (h : p.wp clk (fun _ w' => tokenKeys w'.committed = tokenKeys w.committed ∧
      w'.committed.rotations = w.committed.rotations) w) :
    (withoutTokens p).wp clk (fun r w' => TokenEffect auth w b r w') w := by
  refine Prog.wp_bind (h.mono fun r w' hr => ?_)
  cases r with
  | error e => exact .kept hr.1 hr.2 nofun
  | ok u => exact Prog.wp_ret (.kept hr.1 hr.2 nofun)

/-- Issuing tokens once the statement before is known to touch the tokens' revocation only. -/
theorem issueTokens_effect (hlive : w.broken = false) (hview : w.view = w.committed)
    (w₀ : Session Store) (hnext : w₀.nextId ≤ w.nextId) (hcommitted : w.committed = w₀.committed)
    (user : User) (client : ClientInfo) {dirty : Stmt} {exchanged : Option ℕ}
    (hkeys : ∀ s, tokenKeys (dirty.apply s) = tokenKeys s)
    (hrotations : ∀ s, (dirty.apply s).rotations = s.rotations)
    (hpresented : ∀ token, exchanged = some token → ∃ t,
      tokenByJti t.tokenJti w₀.committed = some t ∧ t.id = token ∧ b.Names auth t.tokenJti) :
    (issueTokens auth user client dirty exchanged).wp clk (fun r w' =>
      TokenEffect auth w₀ b (r.map some) w') w := by
  refine (issueTokens_issued hlive user client dirty exchanged).mono fun r w' hr => ?_
  rcases hr with ⟨e, rfl, hsame⟩ | ⟨tokens, payload, rfl, htext, hjti, hdrawn, hw'⟩
  · exact .refused (hsame.trans hcommitted)
  · rw [hview, hcommitted] at hw'
    refine .issued exchanged (w.nextId + 2) htext ⟨by omega, by omega⟩ ⟨by omega, by omega⟩ ?_ ?_
      hpresented
    · rw [hw', tokenKeys_insert, hkeys, hjti]
      rfl
    · rw [hw', ← hrotations w₀.committed]
      rfl

/-- **A login** exchanges nothing. -/
theorem login_effect (hlive : w.broken = false) (hview : w.view = w.committed)
    (username password : String) (client : ClientInfo) :
    (login auth username password client).wp clk (fun r w' => TokenEffect auth w b (r.map some) w') w := by
  refine Prog.wp_bind (Prog.wp_select (fun hbroken => absurd hbroken (by simp [hlive])) fun _ => ?_)
  cases userByName username w.view with
  | none => exact Prog.wp_raise (.refused rfl)
  | some u =>
    dsimp only
    cases auth.hasher.verify password u.passwordHash with
    | false =>
      rw [if_pos (by rfl)]
      refine Prog.wp_flush (fun hbroken => absurd hbroken (by simp [hlive])) ?_ fun _ _ => ?_
      · exact fun _ _ _ => .refused rfl
      · refine Prog.wp_commit (fun hbroken => absurd hbroken (by simp [hlive])) fun _ => ?_
        refine Prog.wp_raise (.kept ?_ ?_ nofun)
        · show tokenKeys w.view = _
          rw [hview]
        · show w.view.rotations = _
          rw [hview]
    | true =>
      rw [if_neg (by simp)]
      cases u.isLocked with
      | true => exact Prog.wp_raise (.refused rfl)
      | false =>
        rw [if_neg (by simp)]
        cases u.isActive with
        | false => exact Prog.wp_raise (.refused rfl)
        | true =>
          refine Prog.wp_getTime (Prog.wp_ret ?_)
          refine issueTokens_effect ?_ ?_ w ?_ ?_ u client (fun _ => rfl) (fun _ => rfl) ?_
          · exact hlive
          · exact hview
          · exact Nat.le_refl _
          · rfl
          · exact nofun

/-- **A refresh** exchanges the token that its text names. -/
theorem rotateRefresh_effect (hlive : w.broken = false) (hview : w.view = w.committed)
    (text : String) (client : ClientInfo) :
    (rotateRefresh auth text client).wp clk (fun r w' =>
      TokenEffect auth w (.account (.refresh text client)) (r.map some) w') w := by
  unfold rotateRefresh refreshPayload
  refine Prog.wp_bind (Prog.wp_getTime ?_)
  cases hdecode : auth.jwt.decode (clk w.tick) text with
  | none => exact Prog.wp_raise (.refused rfl)
  | some payload =>
    dsimp only
    split
    · exact Prog.wp_raise (.refused rfl)
    refine Prog.wp_ret ?_
    refine Prog.wp_select (fun hbroken => absurd hbroken (by simp [hlive])) fun _ => ?_
    dsimp only
    rw [hview]
    cases hfound : tokenByJti payload.jti w.committed with
    | none => exact Prog.wp_raise (.refused rfl)
    | some t =>
      dsimp only
      split
      · exact Prog.wp_raise (.refused rfl)
      refine Prog.wp_select (fun hbroken => absurd hbroken (by simp [hlive])) fun _ => ?_
      cases userById payload.sub w.committed with
      | none => exact Prog.wp_raise (.refused rfl)
      | some u =>
        dsimp only
        split
        · exact Prog.wp_raise (.refused rfl)
        refine Prog.wp_getTime ?_
        have hjti : t.tokenJti = payload.jti := by simpa using List.find?_some hfound
        refine issueTokens_effect ?_ ?_ w ?_ ?_ u client (tokenKeys_revoke t _) (fun _ => rfl) ?_
        · exact hlive
        · rfl
        · exact Nat.le_refl _
        · rfl
        intro token htoken
        exact ⟨t, hjti ▸ hfound, Option.some.inj htoken, text, client, _, payload, rfl, hdecode, hjti.symm⟩

/-- An administration request leaves the tokens but for their revocation. -/
theorem AccountEffect.tokenKeys_eq {s s' : Store} {request : AccountRequest}
    (h : AccountEffect auth s request s') (hlogin : ∀ username password client,
      request ≠ .login username password client) (hrefresh : ∀ text client,
      request ≠ .refresh text client) :
    tokenKeys s' = tokenKeys s ∧ s'.rotations = s.rotations := by
  cases h with
  | refused _ => exact ⟨rfl, rfl⟩
  | failed _ _ | loggedIn _ _ _ _ _ => exact absurd rfl (hlogin _ _ _)
  | refreshed _ _ => exact absurd rfl (hrefresh _ _)
  | activated _ | unlocked _ => exact ⟨rfl, rfl⟩
  | deactivated _ | reset _ => exact ⟨tokenKeys_revokeAll _ _ _ _, rfl⟩

theorem revokePresented_keys (hlive : w.broken = false) (hview : w.view = w.committed)
    (text : String) :
    (revokePresented auth text).wp clk (fun _ w' => tokenKeys w'.committed = tokenKeys w.committed ∧
      w'.committed.rotations = w.committed.rotations) w := by
  refine Prog.wp_getTime ?_
  cases auth.jwt.decode (clk w.tick) text with
  | none => exact Prog.wp_raise ⟨rfl, rfl⟩
  | some payload =>
    refine Prog.wp_select (fun hbroken => absurd hbroken (by simp [hlive])) fun _ => ?_
    dsimp only
    cases tokenByJti payload.jti w.view with
    | none => exact Prog.wp_ret ⟨rfl, rfl⟩
    | some t =>
      dsimp only
      split
      · exact Prog.wp_ret ⟨rfl, rfl⟩
      refine Prog.wp_getTime (Prog.wp_flush (fun hbroken => absurd hbroken (by simp [hlive])) ?_ ?_)
      · exact nofun
      · intro _ _
        refine Prog.wp_commit_last (fun hbroken => absurd hbroken (by simp [hlive])) fun _ => ?_
        rw [hview]
        exact ⟨tokenKeys_revoke t _ _, rfl⟩

theorem getCurrentUser_same (hlive : w.broken = false) (credentials : Option String) :
    (getCurrentUser auth credentials).wp clk (fun _ w' => w'.committed = w.committed ∧
      w'.view = w.view ∧ w'.broken = false) w := by
  cases credentials with
  | none => exact Prog.wp_raise ⟨rfl, rfl, hlive⟩
  | some text =>
    refine Prog.wp_getTime ?_
    cases auth.jwt.decode (clk w.tick) text with
    | none => exact Prog.wp_raise ⟨rfl, rfl, hlive⟩
    | some payload =>
      dsimp only
      split
      · exact Prog.wp_raise ⟨rfl, rfl, hlive⟩
      refine Prog.wp_select (fun hbroken => absurd hbroken (by simp [hlive])) fun _ => ?_
      dsimp only
      cases userById payload.sub w.view with
      | none => exact Prog.wp_raise ⟨rfl, rfl, hlive⟩
      | some u =>
        dsimp only
        split
        · exact Prog.wp_raise ⟨rfl, rfl, hlive⟩
        · exact Prog.wp_ret ⟨rfl, rfl, hlive⟩

/-- **A logout** revokes a token at most. -/
theorem logout_keys (hlive : w.broken = false) (hview : w.view = w.committed)
    (credentials : Option String) (text : String) :
    (logout auth credentials text).wp clk (fun _ w' => tokenKeys w'.committed = tokenKeys w.committed ∧
      w'.committed.rotations = w.committed.rotations) w := by
  refine Prog.wp_bind ((getCurrentUser_same hlive credentials).mono fun r w₁ hr => ?_)
  obtain ⟨hcommitted, hview₁, hlive₁⟩ := hr
  cases r with
  | error e => exact ⟨congrArg tokenKeys hcommitted, congrArg Store.rotations hcommitted⟩
  | ok u =>
    refine Prog.wp_attempt ?_
    rw [← hcommitted]
    refine (revokePresented_keys hlive₁ (hview₁.trans (hview.trans hcommitted.symm)) text).mono ?_
    exact fun _ _ h => Prog.wp_ret h

/-- **What a request does to the tokens.** -/
theorem tokenEffect_wp (hlive : w.broken = false) (hview : w.view = w.committed) (b : TokenRequest) :
    (b.handler auth).wp clk (fun r w' => TokenEffect auth w b r w') w := by
  have hadmin {p : Handler Unit} (request : AccountRequest)
      (hp : request.handler auth = withoutTokens p)
      (hlogin : ∀ username password client, request ≠ .login username password client)
      (hrefresh : ∀ text client, request ≠ .refresh text client) :
      (request.handler auth).wp clk (fun r w' => TokenEffect auth w b r w') w := by
    have heffect : (request.handler auth).wp clk (fun _ w' =>
        AccountEffect auth w.committed request w'.committed) w := accountEffect_wp hlive hview request
    have hkept := heffect.ends.tokenKeys_eq hlogin hrefresh
    have hsilent : (request.handler auth).Returns (· = none) := by
      rw [hp]
      exact Prog.returns_bind fun _ => rfl
    refine ⟨.kept hkept.1 hkept.2 fun tokens hr => ?_⟩
    exact absurd (hsilent.exec_ok (Prod.ext hr rfl)) nofun
  cases b with
  | logout credentials text => exact withoutTokens_effect (logout_keys hlive hview credentials text)
  | account request =>
    cases request with
    | login username password client =>
      exact withTokens_effect (login_effect hlive hview username password client)
    | refresh text client => exact withTokens_effect (rotateRefresh_effect hlive hview text client)
    | activate userId => exact hadmin (.activate userId) rfl nofun nofun
    | deactivate userId admin => exact hadmin (.deactivate userId admin) rfl nofun nofun
    | unlock userId => exact hadmin (.unlock userId) rfl nofun nofun
    | resetPassword userId newPassword =>
      exact hadmin (.resetPassword userId newPassword) rfl nofun nofun

end

/-- **What a request does to the tokens**, in a session of its own. -/
theorem tokenEffect_after (auth : AuthConfig) (clk : ℕ → ℤ) (w : Session Store) (b : TokenRequest) :
    TokenEffect auth w b ((b.handler auth).exec clk (.fresh w.committed w.nextId w.tick)).1
      ((b.handler auth).after clk w) := by
  have hwp : (b.handler auth).wp clk
      (fun r w' => TokenEffect auth (.fresh w.committed w.nextId w.tick) b r w')
      (.fresh w.committed w.nextId w.tick) := tokenEffect_wp rfl rfl b
  have heffect := hwp.ends
  unfold Prog.after
  generalize (b.handler auth).exec clk (.fresh w.committed w.nextId w.tick) = result at heffect ⊢
  obtain ⟨r, w'⟩ := result
  cases heffect with
  | kept keys rotations silent => exact .kept keys rotations silent
  | issued exchanged id text fresh drawn keys rotations presented =>
    exact .issued exchanged id text fresh drawn keys rotations presented

/-! ## What a request keeps -/

/-- Every token has identifiers that were drawn, an `id` of its own, and only tokens were exchanged. -/
structure TokensDrawn (w : Session Store) : Prop where
  distinct : ((tokenKeys w.committed).map Prod.fst).Nodup
  drawn : ∀ key ∈ tokenKeys w.committed, key.1 < w.nextId ∧ key.2 < w.nextId
  known : ∀ r ∈ w.committed.rotations, r.token ∈ (tokenKeys w.committed).map Prod.fst

/-- The token of an identifier was exchanged. -/
def Exchanged (jti : ℕ) (s : Store) : Prop :=
  ∃ id, (id, jti) ∈ tokenKeys s ∧ ∃ r ∈ s.rotations, r.token = id

section

variable {auth : AuthConfig} {w w' : Session Store} {b : TokenRequest}
  {r : Except (Exc AppError) (Option TokenResponse)}

theorem Exchanged.drawn {jti : ℕ} (h : Exchanged jti w.committed) (hw : TokensDrawn w) :
    jti < w.nextId := by
  obtain ⟨id, hkey, -⟩ := h
  exact (hw.drawn _ hkey).2

theorem TokensDrawn.mono (h : TokensDrawn w) (hkeys : tokenKeys w'.committed = tokenKeys w.committed)
    (hrotations : w'.committed.rotations = w.committed.rotations) (hnext : w.nextId ≤ w'.nextId) :
    TokensDrawn w' where
  distinct := hkeys ▸ h.distinct
  drawn key hkey := by
    have hdrawn := h.drawn key (hkeys ▸ hkey)
    exact ⟨hdrawn.1.trans_le hnext, hdrawn.2.trans_le hnext⟩
  known := by
    rw [hkeys, hrotations]
    exact h.known

/-- The key of a token that was found. -/
theorem mem_tokenKeys_of_tokenByJti {jti : ℕ} {s : Store} {t : RefreshToken}
    (h : tokenByJti jti s = some t) : (t.id, t.tokenJti) ∈ tokenKeys s :=
  List.mem_map_of_mem (List.mem_of_find?_eq_some h)

/-- **Step**: requests draw the identifiers of the tokens they issue. -/
theorem TokenEffect.drawn (h : TokenEffect auth w b r w') (hw : TokensDrawn w)
    (hnext : w.nextId ≤ w'.nextId) : TokensDrawn w' := by
  cases h with
  | kept keys rotations _ => exact hw.mono keys rotations hnext
  | issued exchanged id text fresh drawn keys rotations presented =>
    have hunused : id ∉ (tokenKeys w.committed).map Prod.fst := by
      intro hmem
      obtain ⟨key, hkey, rfl⟩ := List.mem_map.1 hmem
      exact absurd (hw.drawn key hkey).1 (Nat.not_lt.2 fresh.1)
    refine ⟨?_, fun key hkey => ?_, fun r hr => ?_⟩
    · rw [keys, List.map_append]
      exact hw.distinct.append (List.nodup_singleton _) (by simpa using hunused)
    · rw [keys] at hkey
      rcases List.mem_append.1 hkey with hkey | hkey
      · exact ⟨(hw.drawn key hkey).1.trans_le hnext, (hw.drawn key hkey).2.trans_le hnext⟩
      · rw [List.mem_singleton.1 hkey]
        exact drawn
    · rw [rotations] at hr
      rw [keys, List.map_append]
      refine List.mem_append_left _ ?_
      rcases List.mem_append.1 hr with hr | hr
      · exact hw.known r hr
      · obtain ⟨token, htoken, rfl⟩ : ∃ token, exchanged = some token ∧ r = ⟨token, id⟩ := by
          cases exchanged with
          | none => cases hr
          | some token => exact ⟨token, rfl, List.mem_singleton.1 hr⟩
        obtain ⟨t, hfound, rfl, -⟩ := presented token htoken
        exact List.mem_map_of_mem (mem_tokenKeys_of_tokenByJti hfound)

/-- **Step**: a request exchanges the token that it names, and no other. -/
theorem TokenEffect.exchanged (h : TokenEffect auth w b r w') (hw : TokensDrawn w) {jti : ℕ}
    (hjti : Exchanged jti w'.committed) :
    Exchanged jti w.committed ∨ b.Names auth jti ∧ jti < w.nextId := by
  cases h with
  | kept keys rotations _ =>
    unfold Exchanged at hjti ⊢
    rw [keys, rotations] at hjti
    exact Or.inl hjti
  | issued exchanged id text fresh drawn keys rotations presented =>
    obtain ⟨old, hkey, rot, hrot, hold⟩ := hjti
    rw [rotations] at hrot
    -- a token that was exchanged was there before
    rcases List.mem_append.1 hrot with hrot | hrot
    · have hthere : old ∈ (tokenKeys w.committed).map Prod.fst := hold ▸ hw.known _ hrot
      rw [keys] at hkey
      rcases List.mem_append.1 hkey with hkey | hkey
      · exact Or.inl ⟨old, hkey, rot, hrot, hold⟩
      · obtain ⟨key, hmem, hfst⟩ := List.mem_map.1 hthere
        have hid : old = id := congrArg Prod.fst (List.mem_singleton.1 hkey)
        have hlt : old < w.nextId := hfst ▸ (hw.drawn key hmem).1
        exact absurd (hid ▸ hlt) (Nat.not_lt.2 fresh.1)
    · obtain ⟨token, htoken, rfl⟩ : ∃ token, exchanged = some token ∧ rot = ⟨token, id⟩ := by
        cases exchanged with
        | none => cases hrot
        | some token => exact ⟨token, rfl, List.mem_singleton.1 hrot⟩
      obtain ⟨t, hfound, rfl, hnames⟩ := presented token htoken
      have hmem := mem_tokenKeys_of_tokenByJti hfound
      cases hold
      rw [keys] at hkey
      rcases List.mem_append.1 hkey with hkey | hkey
      · -- the `id` tells the token
        have hsame : jti = t.tokenJti :=
          congrArg Prod.snd (List.inj_on_of_nodup_map hw.distinct hkey hmem rfl)
        exact Or.inr ⟨hsame ▸ hnames, hsame ▸ (hw.drawn _ hmem).2⟩
      · have hid : t.id = id := congrArg Prod.fst (List.mem_singleton.1 hkey)
        exact absurd (hid ▸ (hw.drawn _ hmem).1) (Nat.not_lt.2 fresh.1)

/-- The tokens that are answered have identifiers drawn by the request. -/
theorem TokenEffect.answered (h : TokenEffect auth w b r w') {tokens : TokenResponse}
    (hr : r = .ok (some tokens)) : ∃ payload, tokens.refreshToken = auth.jwt.encode payload ∧
      w.nextId ≤ payload.jti ∧ payload.jti < w'.nextId := by
  cases h with
  | kept _ _ silent => exact absurd hr (silent tokens)
  | issued exchanged id text fresh drawn keys rotations presented =>
    cases hr
    exact ⟨_, text, fresh.2, drawn.2⟩

end

end ParkingSystem
