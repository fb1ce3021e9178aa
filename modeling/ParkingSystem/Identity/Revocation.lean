import ParkingSystem.Identity.Rotation

/-!
# Revocation

Deactivating an account and resetting its password revoke the user's tokens, while refreshes of the
user are under way. What either has committed should leave no live token behind, then or later.

## What goes wrong

The bulk UPDATE revokes the tokens it sees when it starts. A refresh that is not committed by then
adds one that it does not see, and a refresh that read its token before goes on after it.
-/

namespace ParkingSystem

open Table Transaction

/-! ## Requests on one user -/

/-- A request on a user that is no login. What a token says of its user is what was signed. -/
def AccountRequest.OnUser (auth : AuthConfig) (userId : ℕ) : AccountRequest → Prop
  | .login _ _ _ => False
  | .refresh text _ =>
    ∀ now payload, auth.jwt.decode now text = some payload → payload.sub = userId
  | .activate id | .deactivate id _ | .unlock id | .resetPassword id _ => id = userId

/-- What a token that a request presents decodes to names its row. -/
def AccountRequest.Presents (auth : AuthConfig) (jti : ℕ) : AccountRequest → Prop
  | .refresh text _ => ∃ now payload, auth.jwt.decode now text = some payload ∧ payload.jti = jti
  | _ => False

/-- The requests arrive at a store. -/
def accountWorld {ι : Type} (auth : AuthConfig) (requests : ι → AccountRequest) (s : Store) :
    World ι Store Lock Label AppError (Option TokenResponse) :=
  .start s fun i => (requests i).handler auth

/-- The tokens that are presented are the user's, and once the user's tokens were revoked all of
them are. -/
structure RevocationKept (presented : ℕ → Prop) (userId : ℕ) (s : Store) : Prop where
  owned : ∀ t ∈ s.refreshTokens, presented t.tokenJti → t.userId = userId
  complete : userId ∈ s.revocations → ∀ t ∈ s.refreshTokens, t.userId = userId → t.revokedAt ≠ none

/-- **The condition.** The UPDATE of a refresh finds its token as it was read, and the bulk UPDATE finds no
live token of the user but those it saw when it started. -/
def FindsTokensAsRead : Label → Store → Prop
  | .identity (.exchangeToken loaded), v => loaded ∈ v.refreshTokens
  | .identity (.revokeTokens userId tokens), v => ∀ t ∈ v.refreshTokens,
    t.userId = userId → t.revokedAt = none → t.id ∈ tokens
  | _, _ => True

/-! ## Rely and guarantee -/

/-- A transaction has locked every live token of a user. -/
def Covered (userId : ℕ) (H : Held Lock) (s : Store) : Prop :=
  ∀ t ∈ s.refreshTokens, t.userId = userId → t.revokedAt = none → .tokenRow t.id ∈ H.locks

/-- What a transaction leaves live of a user was live before, or comes from a live token of the
user that it locked. -/
def ComesFromLocked (userId : ℕ) (H : Held Lock) (s s' : Store) : Prop :=
  ∀ t' ∈ s'.refreshTokens, t'.userId = userId → t'.revokedAt = none →
    ∃ t ∈ s.refreshTokens, t.userId = userId ∧ t.revokedAt = none ∧
      (t.id = t'.id ∨ .tokenRow t.id ∈ H.locks)

/-- Once every live token of a user is locked, the others issue none. -/
theorem ComesFromLocked.covered {userId : ℕ} {H H' : Held Lock} {s s' : Store}
    (h : ComesFromLocked userId H s s') (hd : H.Disjoint H') (hcovered : Covered userId H' s) :
    Covered userId H' s' := by
  intro t' ht' huser' hlive'
  obtain ⟨t, ht, huser, hlive, hid | hlock⟩ := h t' ht' huser' hlive'
  · exact hid ▸ hcovered t ht huser hlive
  · exact absurd (hcovered t ht huser hlive) (hd.locks _ hlock)

/-- The others keep revocations complete, leave locked tokens alone, and issue nothing on a token
that somebody else locked. -/
def revocationR (presented : ℕ → Prop) (userId : ℕ) : Interference Store Lock := fun H s s' =>
  (RevocationKept presented userId s → RevocationKept presented userId s') ∧ KeepsTokens H s s' ∧
    (Covered userId H s → Covered userId H s')

def revocationG (presented : ℕ → Prop) (userId : ℕ) : Interference Store Lock := fun H s s' =>
  (RevocationKept presented userId s → RevocationKept presented userId s') ∧ TouchesTokens H s s' ∧
    ComesFromLocked userId H s s'

section

variable {presented : ℕ → Prop} {userId : ℕ}

theorem revocationR_of_same {s s' : Store} (htokens : s'.refreshTokens = s.refreshTokens)
    (hrevocations : s'.revocations = s.revocations) (H : Held Lock) :
    revocationR presented userId H s s' := by
  refine ⟨fun h => ⟨?_, ?_⟩, keepsTokens_of_same htokens H, fun h => ?_⟩
  · rw [htokens]
    exact h.owned
  · rw [htokens, hrevocations]
    exact h.complete
  · unfold Covered
    rw [htokens]
    exact h

theorem revocationG_of_same {s s' : Store} (htokens : s'.refreshTokens = s.refreshTokens)
    (hrevocations : s'.revocations = s.revocations) (H : Held Lock) :
    revocationG presented userId H s s' := by
  have hids : tokenIds s' = tokenIds s := congrArg (List.map RefreshToken.id) htokens
  refine ⟨(revocationR_of_same htokens hrevocations H).1,
    ⟨fun t ht _ _ => htokens ▸ ht, fun n _ hn => ?_⟩, ?_⟩
  · rw [hids]
    exact hn
  · exact fun t ht huser hlive => ⟨t, htokens ▸ ht, huser, hlive, Or.inl rfl⟩

/-- Only the tokens and the revocations of the store before count. -/
theorem revocationG_congr {s₁ s s' : Store} {H : Held Lock} (htokens : s₁.refreshTokens = s.refreshTokens)
    (hrevocations : s₁.revocations = s.revocations) (h : revocationG presented userId H s₁ s') :
    revocationG presented userId H s s' := by
  have hids : tokenIds s₁ = tokenIds s := congrArg (List.map RefreshToken.id) htokens
  refine ⟨fun hs => h.1 ((revocationR_of_same htokens hrevocations H).1 hs), ⟨?_, ?_⟩, ?_⟩
  · rw [← htokens]
    exact h.2.1.1
  · rw [← hids]
    exact h.2.1.2
  · unfold ComesFromLocked
    rw [← htokens]
    exact h.2.2

theorem revocationR_refl (H : Held Lock) (s : Store) : revocationR presented userId H s s :=
  revocationR_of_same rfl rfl H

theorem revocationR_trans (H : Held Lock) (s₁ s₂ s₃ : Store)
    (h : revocationR presented userId H s₁ s₂) (h' : revocationR presented userId H s₂ s₃) :
    revocationR presented userId H s₁ s₃ :=
  ⟨fun hs => h'.1 (h.1 hs), keepsTokens_trans h.2.1 h'.2.1, fun hs => h'.2.2 (h.2.2 hs)⟩

theorem revocationContract {ι α : Type} (allowed : Label → Store → Prop) :
    World.Contract (tokenRegime allowed) (revocationR presented userId)
      (revocationG presented userId) fun _ : ι => anyEnd (ε := AppError) (α := α) where
  refl := revocationR_refl
  trans := revocationR_trans
  env _ _ h H := revocationR_of_same h.1 h.2.2 H
  guarantee _ _ _ _ hd hG := ⟨hG.1, hG.2.1.keeps hd, hG.2.2.covered hd⟩
  aborted _ _ := trivial
  closed _ _ _ _ _ _ _ _ _ := trivial

/-! ## What a commit does -/

/-- **A refresh**: a live token of the user is exchanged, so that nothing was revoked yet. -/
theorem revocationG_exchange {H : Held Lock} {t row : RefreshToken} {s : Store} (now : ℤ)
    (hlock : .tokenRow t.id ∈ H.locks) (hdrawn : row.id ∈ H.ids) (hrow : row.userId = userId)
    (ht : t ∈ s.refreshTokens) (huser : t.userId = userId) (hlive : t.revokedAt = none) :
    revocationG presented userId H s (exchange t now row s) := by
  refine ⟨fun h => ⟨fun v hv hpresented => ?_, fun hrevoked => ?_⟩,
    touchesTokens_exchange hlock hdrawn now s, fun v hv hvuser hvlive => ?_⟩
  · rcases List.mem_append.1 hv with hv | hv
    · rcases mem_updateWhere.1 hv with ⟨v', hv', -, rfl⟩ | ⟨hv, -⟩
      · exact h.owned v' hv' hpresented
      · exact h.owned v hv hpresented
    · rw [List.mem_singleton.1 hv]
      exact hrow
  · exact absurd hlive (h.complete hrevoked t ht huser)
  · rcases live_exchange hv hvlive with rfl | ⟨hv, -⟩
    · exact ⟨t, ht, huser, hlive, Or.inr hlock⟩
    · exact ⟨v, hv, hvuser, hvlive, Or.inl rfl⟩

/-- The tokens that the bulk UPDATE leaves live are others than those it was to revoke. -/
theorem live_revokeTokens {tokens : List ℕ} {now : ℤ} {s : Store} {t : RefreshToken}
    (h : t ∈ ((revokeTokens userId tokens now).apply s).refreshTokens) (hlive : t.revokedAt = none) :
    t ∈ s.refreshTokens ∧ (t.userId = userId → t.id ∉ tokens) := by
  rcases mem_updateWhere.1 h with ⟨t', -, -, rfl⟩ | ⟨ht, hother⟩
  · cases hlive
  · refine ⟨ht, fun huser hmem => ?_⟩
    simp [huser, hlive, hmem] at hother

/-- **A revocation**: every live token of the user is among those it revokes. -/
theorem revocationG_revokeTokens {H : Held Lock} {tokens : List ℕ} {s : Store} (now : ℤ)
    (hlocks : ∀ id ∈ tokens, .tokenRow id ∈ H.locks)
    (hcovered : ∀ t ∈ s.refreshTokens, t.userId = userId → t.revokedAt = none → t.id ∈ tokens) :
    revocationG presented userId H s ((revokeTokens userId tokens now).apply s) := by
  have hids : tokenIds ((revokeTokens userId tokens now).apply s) = tokenIds s :=
    map_updateWhere (g := RefreshToken.id) (f := fun r => { r with revokedAt := some now })
      (fun _ => rfl) _
  -- nothing of the user stays live
  have hnone {t : RefreshToken} (ht : t ∈ ((revokeTokens userId tokens now).apply s).refreshTokens)
      (huser : t.userId = userId) : t.revokedAt ≠ none := by
    intro hlive
    obtain ⟨hmem, hother⟩ := live_revokeTokens ht hlive
    exact hother huser (hcovered t hmem huser hlive)
  refine ⟨fun h => ⟨fun t ht hpresented => ?_, fun _ t ht huser => hnone ht huser⟩,
    ⟨fun t ht hfree _ => ?_, fun n _ hn => ?_⟩, fun t ht huser hlive => absurd hlive (hnone ht huser)⟩
  · rcases mem_updateWhere.1 ht with ⟨t', ht', -, rfl⟩ | ⟨ht, -⟩
    · exact h.owned t' ht' hpresented
    · exact h.owned t ht hpresented
  · have hother : t.id ∉ tokens := fun hmem => hfree (hlocks _ hmem)
    exact mem_updateWhere.2 (Or.inr ⟨ht, by simp [hother]⟩)
  · rw [hids]
    exact hn

/-! ## The requests -/

/-- Updates that leave the tokens and their revocations alone. -/
def LeavesTokens (pend : Store → Store) : Prop :=
  ∀ s, (pend s).refreshTokens = s.refreshTokens ∧ (pend s).revocations = s.revocations

variable {auth : AuthConfig}

/-- Sending what changed of a user is safe. -/
theorem safe_flushUser {α : Type} {id : ℕ} {upd : UserUpdate} {k : Unit → Handler α} {H : Held Lock}
    {s : Store} (hH : H.locks = [])
    (h : ∀ pend H s', LeavesTokens pend → (∀ token, .tokenRow token ∉ H.locks) →
      (k ()).Safe (tokenRegime FindsTokensAsRead) (revocationR presented userId)
        (revocationG presented userId) anyEnd pend false H s') :
    ((flushUser id upd).bind k).Safe (tokenRegime FindsTokensAsRead) (revocationR presented userId)
      (revocationG presented userId) anyEnd (fun s => s) false H s := by
  unfold flushUser
  split
  · exact h _ H s (fun _ => ⟨rfl, rfl⟩) (by simp [hH])
  · refine Prog.safe_flush nofun (fun _ _ _ _ _ _ _ _ => trivial) fun _ s' _ _ _ => ?_
    exact h _ _ s' (fun _ => ⟨rfl, rfl⟩) (by simp [updateUser, hH])

/-- Committing what leaves the tokens alone is safe. -/
theorem safe_commitUser {pend : Store → Store} (hpend : LeavesTokens pend) (H : Held Lock)
    (s : Store) : (Prog.commitTx : Handler Unit).Safe (tokenRegime FindsTokensAsRead)
      (revocationR presented userId) (revocationG presented userId) anyEnd pend false H s := by
  refine Prog.safe_commit_last nofun fun _ s' _ => ⟨?_, fun _ _ => trivial⟩
  exact revocationG_of_same (hpend s').1 (hpend s').2 H

/-- **The bulk revocation is safe**: from its UPDATE to the commit the locks cover the user's
tokens. -/
theorem safe_revokeAll {pend : Store → Store} {H : Held Lock} (hpend : LeavesTokens pend)
    (hH : ∀ token, .tokenRow token ∉ H.locks) (s : Store) :
    ((revokeAll userId).bind fun _ => Prog.commitTx).Safe (tokenRegime FindsTokensAsRead)
      (revocationR presented userId) (revocationG presented userId) anyEnd pend false H s := by
  unfold revokeAll
  simp only [Prog.bind_eq, Prog.bind_assoc]
  refine Prog.safe_getTime fun s₁ now _ => Prog.safe_select nofun fun _ s₂ _ => ?_
  refine Prog.safe_flush nofun (fun _ _ _ _ _ _ _ _ => trivial) fun _ s₃ _ hfinds _ => ?_
  refine Prog.safe_commit_last nofun fun _ s₄ hR => ⟨?_, fun _ _ => trivial⟩
  have hcovered : Covered userId (H.lock ((liveTokens userId (pend s₂)).map .tokenRow)) s₃ := by
    intro t ht huser hlive
    have hmem := hfinds t ((hpend s₃).1 ▸ ht) huser hlive
    simp [hmem]
  -- no other transaction issues a token of the user in between
  have hkept := hR.2.2 hcovered
  refine revocationG_congr (hpend s₄).1 (hpend s₄).2 (revocationG_revokeTokens now ?_ ?_)
  · intro id hid
    simp only [Held.lock_locks, List.mem_append]
    exact Or.inl (List.mem_map_of_mem hid)
  · intro t ht huser hlive
    have hlock := hkept t ((hpend s₄).1 ▸ ht) huser hlive
    simpa [revokeTokens, hH] using hlock

/-- A request on the user's account is safe once what it does to the user is. -/
theorem safe_withUser {change : User → Handler Unit} {s : Store}
    (h : ∀ u s', u.id = userId →
      ((change u).bind fun _ => Prog.commitTx).Safe (tokenRegime FindsTokensAsRead)
        (revocationR presented userId) (revocationG presented userId) anyEnd id false {} s') :
    (withoutTokens (withUser userId change)).Safe (tokenRegime FindsTokensAsRead)
      (revocationR presented userId) (revocationG presented userId) anyEnd id false {} s := by
  refine Prog.Safe.bind revocationR_refl (Q := anyEnd) ?_ (fun _ _ _ _ _ _ _ _ => trivial)
    fun _ _ _ _ _ _ => trivial
  refine Prog.safe_select nofun fun _ s' _ => ?_
  dsimp only [id]
  cases hu : userById userId s' with
  | none => exact fun _ _ => trivial
  | some u => exact h u s' (by simpa using List.find?_some hu)

/-- **Step**: every request on the user is safe where presented tokens are the user's. -/
theorem AccountRequest.safe {b : AccountRequest} (hb : b.OnUser auth userId)
    (hpresented : ∀ jti, b.Presents auth jti → presented jti) {s : Store}
    (hs : RevocationKept presented userId s) :
    (b.handler auth).Safe (tokenRegime FindsTokensAsRead) (revocationR presented userId)
      (revocationG presented userId) anyEnd id false {} s := by
  cases b with
  | login username password client => exact hb.elim
  | refresh text client =>
    refine Prog.Safe.bind revocationR_refl (Q := anyEnd) ?_ (fun _ _ _ _ _ _ _ _ => trivial)
      fun _ _ _ _ _ _ => trivial
    refine safe_rotateRefresh revocationR_trans (fun _ _ _ h => h.2.1) (fun _ _ h => h) text client s ?_
    intro at' payload t u row now H s₁ s₂ hdecode hR hfound hsub hrow hlock hdrawn ht hlive _
    have ht₁ : t ∈ s₁.refreshTokens := List.mem_of_find?_eq_some hfound
    have hjti : t.tokenJti = payload.jti := by simpa using List.find?_some hfound
    -- what was presented belongs to the user, and so does what is issued
    have huser : t.userId = userId :=
      (hR.1 hs).owned t ht₁ (hpresented _ ⟨at', payload, hdecode, hjti.symm⟩)
    exact revocationG_exchange now hlock hdrawn (hrow.trans (hsub.trans (hb at' payload hdecode))) ht
      huser hlive
  | activate id =>
    cases hb
    exact safe_withUser fun u s' _ => safe_flushUser rfl fun pend H s'' hpend _ =>
      safe_commitUser hpend H s''
  | unlock id =>
    cases hb
    exact safe_withUser fun u s' _ => safe_flushUser rfl fun pend H s'' hpend _ =>
      safe_commitUser hpend H s''
  | deactivate id admin =>
    cases hb
    simp only [AccountRequest.handler, deactivateUser]
    split
    · exact fun _ _ => trivial
    · refine safe_withUser fun u s' hu => ?_
      simp only [Prog.bind_eq, Prog.bind_assoc, hu]
      exact safe_flushUser rfl fun pend H s'' hpend hH => safe_revokeAll hpend hH s''
  | resetPassword id newPassword =>
    cases hb
    simp only [AccountRequest.handler, ParkingSystem.resetPassword]
    split
    · exact fun _ _ => trivial
    · refine safe_withUser fun u s' hu => ?_
      simp only [Prog.bind_eq, Prog.bind_assoc, hu]
      refine Prog.safe_newId fun s₁ salt _ _ => ?_
      exact safe_flushUser rfl fun pend H s'' hpend hH => safe_revokeAll hpend hH s''

end

/-! ## Runs -/

/-- **Revocation: in every run of refreshes, deactivations, password resets and activations of a user
in which each UPDATE of tokens finds them as they were read, every token of the user is revoked in
every state after one of the revocations has committed.** -/
theorem revocations_run {ι : Type} [DecidableEq ι] (auth : AuthConfig) (userId : ℕ)
    (requests : ι → AccountRequest) (hrequests : ∀ i, (requests i).OnUser auth userId) (s : Store)
    (hs : RevocationKept (fun jti => ∃ i, (requests i).Presents auth jti) userId s)
    (w : World ι Store Lock Label AppError (Option TokenResponse))
    (hrun : World.Run (tokenRegime FindsTokensAsRead) (accountWorld auth requests s) w) :
    userId ∈ w.committed.revocations →
      ∀ t ∈ w.committed.refreshTokens, t.userId = userId → t.revokedAt ≠ none := by
  have hok : World.Ok (tokenRegime FindsTokensAsRead)
      (revocationR (fun jti => ∃ i, (requests i).Presents auth jti) userId)
      (revocationG (fun jti => ∃ i, (requests i).Presents auth jti) userId)
      (fun _ : ι => anyEnd) (accountWorld auth requests s) :=
    World.Ok.init fun i => (requests i).safe (hrequests i) (fun jti h => ⟨i, h⟩) hs
  exact ((hok.run (revocationContract _) hrun).2.1 hs).complete

/-! ### A refresh under a deactivation -/

instance : ∀ (l : Label) (v : Store), Decidable (FindsTokensAsRead l v)
  | .identity (.exchangeToken loaded), v => inferInstanceAs (Decidable (loaded ∈ v.refreshTokens))
  | .identity (.revokeTokens userId tokens), v => inferInstanceAs (Decidable (∀ t ∈ v.refreshTokens,
      t.userId = userId → t.revokedAt = none → t.id ∈ tokens))
  | .identity .updateUser, _ | .identity .insertToken, _
  | .identity .insertUser, _ | .identity .updateProfile, _ | .identity .insertRole, _
  | .identity .updateRole, _ | .identity .deleteRole, _ | .identity .insertUserRole, _
  | .identity .deleteUserRoles, _ | .identity .insertRolePermission, _
  | .identity .deleteRolePermissions, _
  | .insertSession _, _ | .insertRecognition _, _ | .insertEvent _, _ | .updateSession, _
  | .insertCharge, _ | .updateCharge _, _ | .insertPayment, _ | .insertAllocation, _
  | .insertAdjustment _, _ | .updateAdjustment _, _ | .updatePermit _, _ | .insertOccupancy, _
  | .updateOccupancy, _ | .lockSpace, _ | .updateSpace, _ | .insertAssignment, _
  | .updateAssignment, _ | .insertRule, _ | .updateRule _ _, _ | .insertTariff _, _
  | .updateTariff _ _, _ | .updateViolation, _ | .updateAppeal, _ | .registry _, _ =>
    inferInstanceAs (Decidable True)

instance (l : Label) (v : Store) : Decidable ((tokenRegime FindsTokensAsRead).allowed l v) :=
  inferInstanceAs (Decidable (FindsTokensAsRead l v))

/-- The user refreshes, and an administrator deactivates the account. -/
def underDeactivation : Fin 2 → AccountRequest
  | 0 => heldRefresh
  | 1 => .deactivate 1 9

/-- What a schedule of the two leads to. -/
def afterDeactivation (allowed : Label → Store → Prop)
    [∀ l v, Decidable ((tokenRegime allowed).allowed l v)] (sched : List (Fin 2 × ℕ × ℤ)) :
    Option (World (Fin 2) Store Lock Label AppError (Option TokenResponse)) :=
  World.runSchedule (tokenRegime allowed) sched 10
    (accountWorld heldAuth underDeactivation (heldBy freeUser).committed)

theorem heldPayload_of_decode {now : ℤ} {text : String} {payload : TokenPayload}
    (h : heldAuth.jwt.decode now text = some payload) : payload = heldPayload := by
  simp only [heldAuth] at h
  split at h
  · exact (Option.some.inj h).symm
  · cases h

theorem underDeactivation_onUser (i : Fin 2) : (underDeactivation i).OnUser heldAuth 1 := by
  match i with
  | 0 => exact fun now payload h => by rw [heldPayload_of_decode h]; rfl
  | 1 => rfl

theorem revocationKept_heldBy (presented : ℕ → Prop) (u : User) :
    RevocationKept presented 1 (heldBy u).committed where
  owned t ht _ := by rw [List.mem_singleton.1 ht]
  complete := nofun

/-- The deactivation alone revokes the token. -/
theorem revocations_run_deactivation :
    ∃ w, World.Run (tokenRegime FindsTokensAsRead)
        (accountWorld heldAuth underDeactivation (heldBy freeUser).committed) w ∧
      1 ∈ w.committed.revocations ∧
      ∀ t ∈ w.committed.refreshTokens, t.userId = 1 → t.revokedAt ≠ none := by
  have hrun : (afterDeactivation FindsTokensAsRead [(1, 6, 0)]).any
      (fun w => w.committed.revocations == [1]) = true := by decide
  obtain ⟨w, hw, hrevoked⟩ := (Option.any_eq_true _ _).1 hrun
  have hsteps := World.runSchedule_run hw
  have hmem : 1 ∈ w.committed.revocations := by simp [beq_iff_eq.1 hrevoked]
  exact ⟨w, hsteps, hmem, revocations_run heldAuth 1 underDeactivation underDeactivation_onUser
    (heldBy freeUser).committed (revocationKept_heldBy _ _) w hsteps hmem⟩

/-- **A token that survives**: the refresh has inserted its token when the deactivation looks for
the live ones, and commits it while the deactivation waits for the old one. -/
theorem token_survives_deactivation :
    ¬ ∀ (auth : AuthConfig) (userId : ℕ) (requests : Fin 2 → AccountRequest) (s : Store),
      (∀ i, (requests i).OnUser auth userId) →
      RevocationKept (fun jti => ∃ i, (requests i).Presents auth jti) userId s →
      ∀ w, World.Run (tokenRegime fun _ _ => True) (accountWorld auth requests s) w →
        userId ∈ w.committed.revocations →
          ∀ t ∈ w.committed.refreshTokens, t.userId = userId → t.revokedAt ≠ none := by
  intro hall
  have hrun : (afterDeactivation (fun _ _ => True) [(0, 12, 0), (1, 4, 0), (0, 1, 0), (1, 2, 0)]).any
      (fun w => w.allReturned && w.committed.revocations == [1] &&
        w.committed.refreshTokens.any fun t => t.userId == 1 && t.revokedAt == none) = true := by decide
  obtain ⟨w, hw, hall'⟩ := (Option.any_eq_true _ _).1 hrun
  simp only [Bool.and_eq_true, beq_iff_eq, List.any_eq_true] at hall'
  obtain ⟨⟨-, hrevoked⟩, t, ht, huser, hlive⟩ := hall'
  exact hall heldAuth 1 underDeactivation (heldBy freeUser).committed underDeactivation_onUser
    (revocationKept_heldBy _ _) w (World.runSchedule_run hw) (by simp [hrevoked]) t ht huser hlive

end ParkingSystem
