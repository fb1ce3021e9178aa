import ParkingSystem.Identity.Accounts
import ParkingSystem.Library.Scheduler

/-!
# Rotation of Refresh Tokens

Refreshes at once, one statement at a time. A session is a token that a login issued and the tokens
it was exchanged for in turn; it should have one live token.

## What goes wrong

The UPDATE that revokes a token does not ask whether it is still live. A refresh that waited for
the row of its token revokes it again and issues a second one.
-/

namespace ParkingSystem

open Table Transaction

/-! ## Sessions -/

/-- The identifiers of the tokens. -/
def tokenIds (s : Store) : List ℕ := s.refreshTokens.map RefreshToken.id

/-- A token is stored and not revoked. -/
def LiveToken (id : ℕ) (s : Store) : Prop := ∃ t ∈ s.refreshTokens, t.id = id ∧ t.revokedAt = none

/-- A token is one of the session of another. -/
def InSession (s : Store) : ℕ → ℕ → Prop :=
  Relation.ReflTransGen fun token issued => ⟨token, issued⟩ ∈ s.rotations

/-- Every token was exchanged at most once, and is revoked once it was. -/
structure ExchangedOnce (s : Store) : Prop where
  distinct : (tokenIds s).Nodup
  known : ∀ r ∈ s.rotations, r.token ∈ tokenIds s
  once : (s.rotations.map Rotation.token).Nodup
  revoked : ∀ r ∈ s.rotations, ¬ LiveToken r.token s

/-- Every session has at most one live token. -/
def OneLiveToken (s : Store) : Prop :=
  ∀ root, ∀ t ∈ s.refreshTokens, ∀ t' ∈ s.refreshTokens, InSession s root t.id →
    InSession s root t'.id → t.revokedAt = none → t'.revokedAt = none → t = t'

/-- The end of a session is one token: the exchanges make a chain. -/
theorem ExchangedOnce.oneLiveToken {s : Store} (h : ExchangedOnce s) : OneLiveToken s := by
  intro root t ht t' ht' hsession hsession' hlive hlive'
  have hunique : Relator.RightUnique fun token issued => (⟨token, issued⟩ : Rotation) ∈ s.rotations := by
    intro token issued issued' hr hr'
    exact congrArg Rotation.issued (List.inj_on_of_nodup_map h.once hr hr' rfl)
  -- a live token was not exchanged
  have hlast {u : RefreshToken} (hu : u ∈ s.refreshTokens) (hulive : u.revokedAt = none) {id : ℕ}
      (hsteps : InSession s u.id id) : u.id = id := by
    rcases Relation.ReflTransGen.cases_head hsteps with heq | ⟨issued, hr, -⟩
    · exact heq
    · exact absurd ⟨u, hu, rfl, hulive⟩ (h.revoked _ hr)
  refine List.inj_on_of_nodup_map h.distinct ht ht' ?_
  rcases Relation.ReflTransGen.total_of_right_unique hunique hsession hsession' with hsteps | hsteps
  · exact hlast ht hlive hsteps
  · exact (hlast ht' hlive' hsteps).symm

/-! ## An exchange -/

/-- What a refresh makes of the store. -/
def exchange (t : RefreshToken) (now : ℤ) (row : RefreshToken) (s : Store) : Store :=
  (insertToken (some t.id) row).apply ((revokeToken t now).apply s)

section

variable {t row : RefreshToken} {now : ℤ} {s : Store}

theorem exchange_rotations : (exchange t now row s).rotations = s.rotations ++ [⟨t.id, row.id⟩] := rfl

theorem tokenIds_exchange : tokenIds (exchange t now row s) = tokenIds s ++ [row.id] := by
  show (((revokeToken t now).apply s).refreshTokens ++ [row]).map RefreshToken.id = _
  rw [List.map_append]
  have hkept : tokenIds ((revokeToken t now).apply s) = tokenIds s :=
    map_updateWhere (g := RefreshToken.id) (f := fun r => { r with revokedAt := some now })
      (fun _ => rfl) _
  exact congrArg (· ++ [row.id]) hkept

/-- The tokens after an exchange that are live: others that were, and the new one. -/
theorem live_exchange {u : RefreshToken} (h : u ∈ (exchange t now row s).refreshTokens)
    (hlive : u.revokedAt = none) : u = row ∨ u ∈ s.refreshTokens ∧ u.id ≠ t.id := by
  rcases List.mem_append.1 h with h | h
  · rcases mem_updateWhere.1 h with ⟨u', -, -, rfl⟩ | ⟨hu, hid⟩
    · cases hlive
    · exact Or.inr ⟨hu, by simpa using hid⟩
  · exact Or.inl (List.mem_singleton.1 h)

/-- The other tokens stay as they are. -/
theorem mem_exchange {u : RefreshToken} (h : u ∈ s.refreshTokens) (hid : u.id ≠ t.id) :
    u ∈ (exchange t now row s).refreshTokens :=
  List.mem_append_left _ (mem_updateWhere.2 (Or.inr ⟨h, by simpa using hid⟩))

/-- **Step**: exchanging a live token for a fresh one keeps every token exchanged at most once. -/
theorem ExchangedOnce.exchange (h : ExchangedOnce s) (ht : t ∈ s.refreshTokens)
    (hlive : t.revokedAt = none) (hfresh : row.id ∉ tokenIds s) : ExchangedOnce (exchange t now row s) where
  distinct := by
    rw [tokenIds_exchange]
    exact h.distinct.append (List.nodup_singleton _) (by simpa using hfresh)
  known r hr := by
    rw [exchange_rotations] at hr
    rw [tokenIds_exchange]
    refine List.mem_append_left _ ?_
    rcases List.mem_append.1 hr with hr | hr
    · exact h.known r hr
    · rw [List.mem_singleton.1 hr]
      exact List.mem_map_of_mem ht
  once := by
    rw [exchange_rotations, List.map_append]
    refine h.once.append (List.nodup_singleton _) ?_
    -- a token that was exchanged is not live
    simp only [List.map_cons, List.map_nil, List.disjoint_singleton, List.mem_map]
    rintro ⟨r, hr, hid⟩
    exact h.revoked r hr ⟨t, ht, hid.symm, hlive⟩
  revoked r hr := by
    rintro ⟨u, hu, huid, hulive⟩
    rw [exchange_rotations] at hr
    rcases live_exchange hu hulive with rfl | ⟨hu, hother⟩ <;> rcases List.mem_append.1 hr with hr | hr
    · exact hfresh (huid ▸ h.known r hr)
    · rw [List.mem_singleton.1 hr] at huid
      exact hfresh (huid ▸ List.mem_map_of_mem ht)
    · exact h.revoked r hr ⟨u, hu, huid, hulive⟩
    · rw [List.mem_singleton.1 hr] at huid
      exact hother huid

end

/-! ## Rely and guarantee -/

/-- **The condition.** The UPDATE that revokes a token finds it as it was read, which is live. -/
def FindsTokenAsRead : Label → Store → Prop
  | .identity (.exchangeToken loaded), v => loaded ∈ v.refreshTokens
  | _, _ => True

/-- Requests on accounts under a condition on their statements; the rest of the system leaves the
tokens alone. -/
def tokenRegime (allowed : Label → Store → Prop) : Regime Store Label where
  isFresh s n := n ∉ tokenIds s
  allowed := allowed
  env s s' := s'.refreshTokens = s.refreshTokens ∧ s'.rotations = s.rotations ∧
    s'.revocations = s.revocations

/-- The others leave locked tokens live, and drawn identifiers unused. -/
def KeepsTokens (H : Held Lock) (s s' : Store) : Prop :=
  (∀ t ∈ s.refreshTokens, .tokenRow t.id ∈ H.locks → t.revokedAt = none → t ∈ s'.refreshTokens) ∧
    ∀ n ∈ H.ids, n ∉ tokenIds s → n ∉ tokenIds s'

/-- A commit revokes locked tokens only, and uses drawn identifiers only. -/
def TouchesTokens (H : Held Lock) (s s' : Store) : Prop :=
  (∀ t ∈ s.refreshTokens, .tokenRow t.id ∉ H.locks → t.revokedAt = none → t ∈ s'.refreshTokens) ∧
    ∀ n, n ∉ H.ids → n ∉ tokenIds s → n ∉ tokenIds s'

theorem keepsTokens_trans {H : Held Lock} {s₁ s₂ s₃ : Store} (h : KeepsTokens H s₁ s₂)
    (h' : KeepsTokens H s₂ s₃) : KeepsTokens H s₁ s₃ :=
  ⟨fun t ht hl hlive => h'.1 t (h.1 t ht hl hlive) hl hlive, fun n hn hs => h'.2 n hn (h.2 n hn hs)⟩

theorem keepsTokens_of_same {s s' : Store} (h : s'.refreshTokens = s.refreshTokens) (H : Held Lock) :
    KeepsTokens H s s' := by
  have hids : tokenIds s' = tokenIds s := congrArg (List.map RefreshToken.id) h
  refine ⟨fun t ht _ _ => h ▸ ht, fun n _ hn => ?_⟩
  rw [hids]
  exact hn

theorem TouchesTokens.keeps {H H' : Held Lock} {s s' : Store} (h : TouchesTokens H s s')
    (hd : H.Disjoint H') : KeepsTokens H' s s' :=
  ⟨fun t ht hl => h.1 t ht fun hl' => hd.locks _ hl' hl, fun n hn => h.2 n fun hn' => hd.ids n hn' hn⟩

/-- An exchange revokes the token it locked, and uses the identifier it drew. -/
theorem touchesTokens_exchange {H : Held Lock} {t row : RefreshToken} (hlock : .tokenRow t.id ∈ H.locks)
    (hdrawn : row.id ∈ H.ids) (now : ℤ) (s : Store) : TouchesTokens H s (exchange t now row s) := by
  refine ⟨fun u hu hl _ => mem_exchange hu fun hid => hl (hid ▸ hlock), fun n hn hs => ?_⟩
  rw [tokenIds_exchange, List.mem_append, List.mem_singleton]
  rintro (hmem | rfl)
  · exact hs hmem
  · exact hn hdrawn

section

variable {auth : AuthConfig} {allowed : Label → Store → Prop} {R G : Interference Store Lock}

/-- A refusal is safe. -/
theorem safe_unauthorized {α : Type} (message : String) {H : Held Lock} {s : Store} :
    (Prog.raise (.unauthorized message) : Handler α).Safe (tokenRegime allowed) R G anyEnd id
      false H s := fun _ _ => trivial

theorem safe_refreshPayload {α : Type} {text : String} {k : TokenPayload → Handler α} {s : Store}
    (h : ∀ at' payload s', R {} s s' → auth.jwt.decode at' text = some payload →
      (k payload).Safe (tokenRegime allowed) R G anyEnd id false {} s') :
    ((refreshPayload auth text).bind k).Safe (tokenRegime allowed) R G anyEnd id false {} s := by
  unfold refreshPayload
  simp only [Prog.bind_eq, Prog.bind_assoc]
  refine Prog.safe_getTime fun s' now hR => ?_
  cases hdecode : auth.jwt.decode now text with
  | none => exact safe_unauthorized _
  | some payload =>
    dsimp only
    split
    · exact safe_unauthorized _
    · exact h now payload s' hR hdecode

/-- **A refresh is safe** where exchanging a live token for a fresh one is: the lock keeps the token
live from its UPDATE to the commit. `hexchange` may use what was read of the token and the user. -/
theorem safe_rotateRefresh (htrans : ∀ H s₁ s₂ s₃, R H s₁ s₂ → R H s₂ s₃ → R H s₁ s₃)
    (hkeeps : ∀ H s s', R H s s' → KeepsTokens H s s')
    (hallowed : ∀ t v, allowed (.identity (.exchangeToken t)) v → t ∈ v.refreshTokens)
    (text : String) (client : ClientInfo) (s : Store)
    (hexchange : ∀ at' payload t (u : User) row now H s₁ s₂, auth.jwt.decode at' text = some payload →
      R {} s s₁ → tokenByJti payload.jti s₁ = some t → u.id = payload.sub → row.userId = u.id →
      .tokenRow t.id ∈ H.locks → row.id ∈ H.ids → t ∈ s₂.refreshTokens → t.revokedAt = none →
      row.id ∉ tokenIds s₂ → G H s₂ (exchange t now row s₂)) :
    (rotateRefresh auth text client).Safe (tokenRegime allowed) R G anyEnd id false {} s := by
  refine safe_refreshPayload fun at' payload s₀ hR₀ hdecode => ?_
  refine Prog.safe_select nofun fun _ s₁ hR₁ => ?_
  dsimp only [id]
  cases hfound : tokenByJti payload.jti s₁ with
  | none => exact safe_unauthorized _
  | some t =>
    dsimp only
    split
    · exact safe_unauthorized _
    rename_i hnot
    have hlive : t.revokedAt = none := by simpa using hnot
    refine Prog.safe_select nofun fun _ s₂ hR₂ => ?_
    dsimp only [id]
    cases huser : userById payload.sub s₂ with
    | none => exact safe_unauthorized _
    | some u =>
      dsimp only
      split
      · exact safe_unauthorized _
      have hsub : u.id = payload.sub := by simpa using List.find?_some huser
      refine Prog.safe_getTime fun s₃ now hR₃ => ?_
      refine Prog.safe_getTime fun s₄ accessAt hR₄ => Prog.safe_newId fun s₅ accessJti hR₅ _ => ?_
      refine Prog.safe_newId fun s₆ jti hR₆ _ => Prog.safe_getTime fun s₇ refreshAt hR₇ => ?_
      refine Prog.safe_getTime fun s₈ rowAt hR₈ => Prog.safe_newId fun s₉ n hR₉ hfresh => ?_
      refine Prog.safe_flush nofun (fun _ _ _ _ _ _ _ _ => trivial) fun _ s₁₀ hR₁₀ hexch _ => ?_
      refine Prog.safe_flush nofun (fun _ _ _ _ _ _ _ _ => trivial) fun _ s₁₁ hR₁₁ _ _ => ?_
      refine Prog.safe_commit nofun fun _ s₁₂ hR₁₂ => ⟨?_, Prog.safe_ret fun _ _ => trivial⟩
      -- the token was live at its UPDATE, and the identifier fresh when it was drawn
      refine hexchange at' payload t u _ now _ s₁ s₁₂ hdecode (htrans _ _ _ _ hR₀ hR₁) hfound hsub
        rfl ?_ ?_ ?_ hlive ?_
      · simp [revokeToken, insertToken]
      · simp [tokenRow]
      · have hupdated := (hkeeps _ _ _ hR₁₁).1 t (hallowed t _ hexch) (by simp [revokeToken]) hlive
        exact (hkeeps _ _ _ hR₁₂).1 t hupdated (by simp [revokeToken]) hlive
      · have hdrawn₁₀ := (hkeeps _ _ _ hR₁₀).2 n (by simp) hfresh
        have hdrawn₁₁ := (hkeeps _ _ _ hR₁₁).2 n (by simp) hdrawn₁₀
        exact (hkeeps _ _ _ hR₁₂).2 n (by simp) hdrawn₁₁

end

/-! ## Runs -/

/-- The refreshes arrive at a store. -/
def refreshWorld {ι : Type} (auth : AuthConfig) (requests : ι → String × ClientInfo) (s : Store) :
    World ι Store Lock Label AppError TokenResponse :=
  .start s fun i => rotateRefresh auth (requests i).1 (requests i).2

/-- The others keep every token exchanged at most once. -/
def rotationR : Interference Store Lock := fun H s s' =>
  (ExchangedOnce s → ExchangedOnce s') ∧ KeepsTokens H s s'

def rotationG : Interference Store Lock := fun H s s' =>
  (ExchangedOnce s → ExchangedOnce s') ∧ TouchesTokens H s s'

theorem rotationR_trans (H : Held Lock) (s₁ s₂ s₃ : Store) (h : rotationR H s₁ s₂)
    (h' : rotationR H s₂ s₃) : rotationR H s₁ s₃ :=
  ⟨fun hs => h'.1 (h.1 hs), keepsTokens_trans h.2 h'.2⟩

/-- What is said of the tokens and of their exchanges is kept by those who leave both alone. -/
theorem exchangedOnce_of_same {s s' : Store} (htokens : s'.refreshTokens = s.refreshTokens)
    (hrotations : s'.rotations = s.rotations) (h : ExchangedOnce s) : ExchangedOnce s' := by
  have hids : tokenIds s' = tokenIds s := congrArg (List.map RefreshToken.id) htokens
  exact {
    distinct := hids ▸ h.distinct
    known := by rw [hrotations, hids]; exact h.known
    once := by rw [hrotations]; exact h.once
    revoked := by
      rw [hrotations]
      rintro r hr ⟨t, ht, hid, hlive⟩
      exact h.revoked r hr ⟨t, htokens ▸ ht, hid, hlive⟩ }

theorem rotationContract {ι α : Type} (allowed : Label → Store → Prop) :
    World.Contract (tokenRegime allowed) rotationR rotationG
      fun _ : ι => anyEnd (ε := AppError) (α := α) where
  refl _ _ := ⟨id, keepsTokens_of_same rfl _⟩
  trans := rotationR_trans
  env _ _ h H := ⟨exchangedOnce_of_same h.1 h.2.1, keepsTokens_of_same h.1 H⟩
  guarantee _ _ _ _ hd hG := ⟨hG.1, hG.2.keeps hd⟩
  aborted _ _ := trivial
  closed _ _ _ _ _ _ _ _ _ := trivial

/-- **Refresh tokens: in every run in which the UPDATE of each refresh finds its token as it was
read, every token is exchanged at most once, and every session has at most one live token.** -/
theorem rotations_run {ι : Type} [DecidableEq ι] (auth : AuthConfig)
    (requests : ι → String × ClientInfo) (s : Store) (hs : ExchangedOnce s)
    (w : World ι Store Lock Label AppError TokenResponse)
    (hrun : World.Run (tokenRegime FindsTokenAsRead) (refreshWorld auth requests s) w) :
    (w.committed.rotations.map Rotation.token).Nodup ∧ OneLiveToken w.committed := by
  have hok : World.Ok (tokenRegime FindsTokenAsRead) rotationR rotationG (fun _ : ι => anyEnd)
      (refreshWorld auth requests s) :=
    World.Ok.init fun i => safe_rotateRefresh rotationR_trans (fun _ _ _ h => h.2) (fun _ _ h => h)
      _ _ s fun _ _ _ _ _ now _ _ s₂ _ _ _ _ _ hlock hdrawn ht hlive hfresh =>
        ⟨fun h => h.exchange ht hlive hfresh, touchesTokens_exchange hlock hdrawn now s₂⟩
  have honce := (hok.run (rotationContract _) hrun).2.1 hs
  exact ⟨honce.once, honce.oneLiveToken⟩

/-! ### Two refreshes of one token -/

instance : ∀ (l : Label) (v : Store), Decidable (FindsTokenAsRead l v)
  | .identity (.exchangeToken loaded), v => inferInstanceAs (Decidable (loaded ∈ v.refreshTokens))
  | .identity .updateUser, _ | .identity .insertToken, _ | .identity (.revokeTokens _ _), _
  | .identity .insertUser, _ | .identity .updateProfile, _ | .identity .insertRole, _
  | .identity .updateRole, _ | .identity .deleteRole, _ | .identity .insertUserRole, _
  | .identity .deleteUserRoles, _ | .identity .insertRolePermission, _
  | .identity .deleteRolePermissions, _
  | .insertSession _, _ | .insertRecognition _, _ | .insertEvent _, _ | .updateSession, _
  | .insertCharge, _ | .updateCharge _, _ | .insertPayment, _ | .insertAllocation, _
  | .insertAdjustment _, _ | .updateAdjustment _, _ | .updatePermit _, _ | .insertOccupancy, _
  | .updateOccupancy, _ | .lockSpace, _ | .updateSpace, _ | .insertAssignment, _
  | .updateAssignment, _ | .insertRule, _ | .updateRule _ _, _ | .insertTariff _, _
  | .updateTariff _ _, _ | .updateViolation, _ | .updateAppeal, _ | .registry _, _ =>
    inferInstanceAs (Decidable True)

instance (allowed : Label → Store → Prop) (s : Store) (n : ℕ) :
    Decidable ((tokenRegime allowed).isFresh s n) := inferInstanceAs (Decidable (n ∉ tokenIds s))

instance (l : Label) (v : Store) : Decidable ((tokenRegime FindsTokenAsRead).allowed l v) :=
  inferInstanceAs (Decidable (FindsTokenAsRead l v))

instance (l : Label) (v : Store) : Decidable ((tokenRegime fun _ _ => True).allowed l v) :=
  inferInstanceAs (Decidable True)

/-- What a schedule of two refreshes of one token leads to. -/
def afterRefreshes (allowed : Label → Store → Prop)
    [∀ l v, Decidable ((tokenRegime allowed).allowed l v)] (sched : List (Fin 2 × ℕ × ℤ)) :
    Option (World (Fin 2) Store Lock Label AppError TokenResponse) :=
  World.runSchedule (tokenRegime allowed) sched 10
    (refreshWorld heldAuth (fun _ => ("held", {})) (heldBy freeUser).committed)

theorem exchangedOnce_heldBy (u : User) : ExchangedOnce (heldBy u).committed where
  distinct := List.nodup_singleton _
  known := nofun
  once := List.nodup_nil
  revoked := nofun

/-- One of them alone exchanges the token. -/
theorem rotations_run_once :
    ∃ w, World.Run (tokenRegime FindsTokenAsRead)
        (refreshWorld heldAuth (fun _ : Fin 2 => ("held", {})) (heldBy freeUser).committed) w ∧
      w.committed.rotations.map Rotation.token = [3] ∧
      (w.committed.rotations.map Rotation.token).Nodup ∧ OneLiveToken w.committed := by
  have hrun : (afterRefreshes FindsTokenAsRead [(0, 13, 0)]).any
      (fun w => w.committed.rotations.map Rotation.token == [3]) = true := by decide
  obtain ⟨w, hw, hone⟩ := (Option.any_eq_true _ _).1 hrun
  have hsteps := World.runSchedule_run hw
  exact ⟨w, hsteps, beq_iff_eq.1 hone, rotations_run heldAuth (fun _ => ("held", {}))
    (heldBy freeUser).committed (exchangedOnce_heldBy _) w hsteps⟩

/-- **One token, two answers**: both refreshes read the token before either commits. -/
theorem token_exchanged_twice :
    ¬ ∀ (auth : AuthConfig) (requests : Fin 2 → String × ClientInfo) (s : Store),
      ExchangedOnce s → ∀ w, World.Run (tokenRegime fun _ _ => True) (refreshWorld auth requests s) w →
        (w.committed.rotations.map Rotation.token).Nodup ∧ OneLiveToken w.committed := by
  intro hall
  have hrun : (afterRefreshes (fun _ _ => True) [(1, 2, 0), (0, 13, 0), (1, 11, 0)]).any
      (fun w => w.allReturned && w.committed.rotations.map Rotation.token == [3, 3]) = true := by
    decide
  obtain ⟨w, hw, hboth⟩ := (Option.any_eq_true _ _).1 hrun
  simp only [Bool.and_eq_true, beq_iff_eq] at hboth
  have hnodup := (hall heldAuth (fun _ => ("held", {})) (heldBy freeUser).committed
    (exchangedOnce_heldBy _) w (World.runSchedule_run hw)).1
  rw [hboth.2] at hnodup
  exact absurd hnodup (by decide)

end ParkingSystem
