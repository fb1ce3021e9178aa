import ParkingSystem.Frontend.PageSession

/-!
# What a Page Sends

A request that fails is not sent again and again: a request of the pages is sent twice at most and
starts one exchange at most. What a request may still cost is counted with what it has cost.

## What goes wrong

A logout revokes nothing: its request is refused.
-/

namespace ParkingSystem

open Transaction

/-! ## Requests and their repetition -/

/-- A message carries a request. -/
def PageMessage.carries (id : ℕ) : PageMessage → Bool
  | .api config => config.id == id
  | .refresh _ => false

/-- The request of a message, where it is sent for the first time. -/
def PageMessage.first? : PageMessage → Option CallConfig
  | .api config => if config.retry then none else some config
  | .refresh _ => none

namespace PageSystem

/-- The messages whose answers the page awaits. -/
def outstanding (s : PageSystem) : List PageMessage := s.sent ++ s.replies.map Prod.fst

/-- The requests that wait for the exchange. -/
def waiting (s : PageSystem) : List CallConfig := (s.page.refreshing.map Refreshing.waiting).getD []

/-- The requests that may be sent again. -/
def repeatable (s : PageSystem) : List CallConfig :=
  s.outstanding.filterMap PageMessage.first? ++ s.waiting

/-- How often a request was sent, or may be. -/
def sendings (s : PageSystem) (id : ℕ) : ℕ :=
  s.posted.countP (PageMessage.carries id) + s.repeatable.countP fun config => config.id == id

/-- How many exchanges were started, or may be. -/
def exchanges (s : PageSystem) : ℕ :=
  s.presented.length + (s.outstanding.filterMap PageMessage.first?).length

end PageSystem

/-- Every request was or may be sent twice, and may start one exchange. -/
structure TrafficKept (s : PageSystem) : Prop where
  twice : ∀ id, s.sendings id ≤ if id < s.page.nextCall then 2 else 0
  exchanged : s.exchanges ≤ s.page.nextCall
  repeated : ∀ config ∈ s.waiting, config.retry = true

theorem TrafficKept.start (w : Session Store) : TrafficKept { server := w } :=
  ⟨fun _ => Nat.zero_le _, Nat.le_refl 0, nofun⟩

section

variable {s s' : PageSystem}

/-- Nothing was asked. -/
theorem TrafficKept.of_le (h : TrafficKept s) (hnext : s'.page.nextCall = s.page.nextCall)
    (hsendings : ∀ id, s'.sendings id ≤ s.sendings id) (hexchanges : s'.exchanges ≤ s.exchanges)
    (hwaiting : ∀ config ∈ s'.waiting, config.retry = true) : TrafficKept s' where
  twice id := hnext ▸ (hsendings id).trans (h.twice id)
  exchanged := hnext ▸ hexchanges.trans h.exchanged
  repeated := hwaiting

/-- The same messages are outstanding, or fewer. -/
theorem TrafficKept.of_sublist (h : TrafficKept s) (hnext : s'.page.nextCall = s.page.nextCall)
    (hposted : s'.posted = s.posted) {messages : List PageMessage}
    (hperm : s'.outstanding.Perm messages) (hsublist : messages.Sublist s.outstanding)
    (hwaiting : s'.waiting.Sublist s.waiting) : TrafficKept s' := by
  have hfirst := hsublist.filterMap PageMessage.first?
  have hfirst' := hperm.filterMap PageMessage.first?
  refine h.of_le hnext (fun id => ?_) ?_ fun config hmem => h.repeated _ (hwaiting.subset hmem)
  · unfold PageSystem.sendings PageSystem.repeatable
    rw [hposted, (hfirst'.append_right _).countP_eq]
    exact Nat.add_le_add_left (hfirst.append hwaiting).countP_le _
  · unfold PageSystem.exchanges PageSystem.presented
    rw [hposted, hfirst'.length_eq]
    exact Nat.add_le_add_left hfirst.length_le _

theorem outstanding_ran (s : PageSystem) (result : Page × List PageMessage) :
    (s.ran result).outstanding.Perm (s.outstanding ++ result.2) := by
  simp only [PageSystem.outstanding, PageSystem.ran, List.append_assoc]
  exact List.perm_append_comm.append_left _

/-- The interceptor changes the header at most. -/
theorem intercept_eq (p : Page) (config : CallConfig) :
    ∃ authorization, p.intercept config = .api { config with authorization } := by
  unfold Page.intercept
  split
  · exact ⟨config.authorization, rfl⟩
  · exact ⟨_, rfl⟩

theorem carries_intercept (p : Page) (config : CallConfig) (id : ℕ) :
    (p.intercept config).carries id = (config.id == id) := by
  obtain ⟨authorization, heq⟩ := intercept_eq p config
  rw [heq]
  rfl

/-- **Step**: a request of the pages may be sent twice, and start an exchange. -/
theorem TrafficKept.ask (h : TrafficKept s) {p : Page} (hnext : p.nextCall = s.page.nextCall)
    (hrefreshing : p.refreshing = s.page.refreshing) (ask : Ask) :
    TrafficKept (s.ran (p.ask ask)) := by
  obtain ⟨authorization, hmessage⟩ := intercept_eq p { id := p.nextCall, ask }
  have hfirst : ((s.ran (p.ask ask)).outstanding.filterMap PageMessage.first?).Perm
      (s.outstanding.filterMap PageMessage.first? ++ [{ id := p.nextCall, ask, authorization }]) := by
    have hperm := (outstanding_ran s (p.ask ask)).filterMap PageMessage.first?
    rw [List.filterMap_append] at hperm
    rwa [Page.ask, hmessage] at hperm ⊢
  have hwaiting : (s.ran (p.ask ask)).waiting = s.waiting := by
    unfold PageSystem.waiting
    rw [← hrefreshing]
    rfl
  have hposted : (s.ran (p.ask ask)).posted =
      s.posted ++ [.api { id := p.nextCall, ask, authorization }] := by
    rw [← hmessage]
    rfl
  have hpresented : (s.ran (p.ask ask)).presented = s.presented := by
    rw [PageSystem.presented, hposted, List.filterMap_append]
    exact List.append_nil _
  have hcalls : (s.ran (p.ask ask)).page.nextCall = s.page.nextCall + 1 := congrArg (· + 1) hnext
  refine ⟨fun id => ?_, ?_, fun config hmem => h.repeated config (hwaiting ▸ hmem)⟩
  · have htwice := h.twice id
    unfold PageSystem.sendings PageSystem.repeatable at htwice ⊢
    rw [hposted, (hfirst.append_right _).countP_eq, hwaiting, hcalls]
    simp only [List.countP_append, List.countP_singleton, PageMessage.carries, hnext, beq_iff_eq]
      at htwice ⊢
    -- the request is a new one
    by_cases hid : s.page.nextCall = id
    · subst hid
      simp only [lt_irrefl, if_false, Nat.le_zero, Nat.add_eq_zero_iff] at htwice
      simp [htwice]
    · simp only [hid, if_false]
      split at htwice <;> split <;> omega
  · have hexchanged := h.exchanged
    unfold PageSystem.exchanges at hexchanged ⊢
    rw [hpresented, hfirst.length_eq, hcalls, List.length_append, List.length_singleton]
    omega

/-! ## Answers -/

variable {before later : List (PageMessage × PageReply)} {m : PageMessage} {r : PageReply}

/-- The answer is handled, and its message no more outstanding. -/
theorem outstanding_split (hreplies : s.replies = before ++ (m, r) :: later) :
    s.outstanding.Perm (m :: ({ s with replies := before ++ later }).outstanding) := by
  unfold PageSystem.outstanding
  rw [hreplies]
  simp only [List.map_append, List.map_cons, ← List.append_assoc]
  exact List.perm_middle

/-- The first answer to a request is handled: it may be sent a second time. -/
theorem first_split {config : CallConfig} (hreplies : s.replies = before ++ (.api config, r) :: later)
    (hretry : config.retry = false) : (s.outstanding.filterMap PageMessage.first?).Perm
      (config :: ({ s with replies := before ++ later }).outstanding.filterMap PageMessage.first?) := by
  have hperm := (outstanding_split hreplies).filterMap PageMessage.first?
  rw [List.filterMap_cons_some (b := config)] at hperm
  · exact hperm
  · simp [PageMessage.first?, hretry]

/-- The answer changes nothing. -/
theorem TrafficKept.dropped (h : TrafficKept s) (hreplies : s.replies = before ++ (m, r) :: later)
    {p : Page} (hnext : p.nextCall = s.page.nextCall)
    (hwaiting : ((p.refreshing.map Refreshing.waiting).getD []).Sublist s.waiting) :
    TrafficKept { s with replies := before ++ later, page := p } := by
  refine h.of_sublist hnext rfl (List.Perm.refl _) ?_ hwaiting
  unfold PageSystem.outstanding
  rw [hreplies]
  exact (((List.sublist_cons_self _ _).append_left before).map _).append_left _

theorem ran_nil (s : PageSystem) (p : Page) : s.ran (p, []) = { s with page := p } := by
  simp only [PageSystem.ran, List.append_nil]

/-- The request waits: it has failed once, and an exchange may have been started for it. -/
theorem TrafficKept.waits (h : TrafficKept s) {config : CallConfig}
    (hreplies : s.replies = before ++ (.api config, r) :: later) (hretry : config.retry = false)
    {p : Page} (tokens : List String) (hnext : p.nextCall = s.page.nextCall)
    (hwaiting : (p.refreshing.map Refreshing.waiting).getD [] = s.waiting ++ [{ config with retry := true }])
    (htokens : tokens.length ≤ 1) : TrafficKept
      (({ s with replies := before ++ later }).ran (p, tokens.map PageMessage.refresh)) := by
  have hsplit := first_split hreplies hretry
  have hnone : (tokens.map PageMessage.refresh).filterMap PageMessage.first? = [] := by
    rw [List.filterMap_map]
    exact List.filterMap_eq_nil_iff.2 fun _ _ => rfl
  have hfirst : ((({ s with replies := before ++ later }).ran
      (p, tokens.map PageMessage.refresh)).outstanding.filterMap PageMessage.first?).Perm
        (({ s with replies := before ++ later }).outstanding.filterMap PageMessage.first?) := by
    have hperm := (outstanding_ran { s with replies := before ++ later }
      (p, tokens.map PageMessage.refresh)).filterMap PageMessage.first?
    rwa [List.filterMap_append, hnone, List.append_nil] at hperm
  have hcarried (id : ℕ) : (tokens.map PageMessage.refresh).countP (PageMessage.carries id) = 0 := by
    rw [List.countP_map]
    exact List.countP_eq_zero.2 fun _ _ h => by cases h
  have hwaiting' : (({ s with replies := before ++ later }).ran
      (p, tokens.map PageMessage.refresh)).waiting = s.waiting ++ [{ config with retry := true }] := hwaiting
  refine h.of_le hnext (fun id => ?_) ?_ fun c hmem => ?_
  · unfold PageSystem.sendings PageSystem.repeatable
    rw [(hfirst.append_right _).countP_eq, (hsplit.append_right _).countP_eq, hwaiting']
    simp only [PageSystem.ran, List.countP_append, hcarried, List.countP_cons, List.countP_nil]
    omega
  · unfold PageSystem.exchanges
    rw [presented_ran, hfirst.length_eq, hsplit.length_eq, List.length_append, List.filterMap_map]
    have hlength : (tokens.filterMap (PageMessage.token? ∘ PageMessage.refresh)).length ≤ tokens.length :=
      List.length_filterMap_le _ _
    have hsame : ({ s with replies := before ++ later } : PageSystem).presented = s.presented := rfl
    rw [hsame, List.length_cons]
    omega
  · rw [hwaiting'] at hmem
    rcases List.mem_append.1 hmem with hmem | hmem
    · exact h.repeated c hmem
    · rw [List.mem_singleton.1 hmem]

/-- **Step**: a request fails. -/
theorem TrafficKept.error (h : TrafficKept s) {config : CallConfig}
    (hreplies : s.replies = before ++ (.api config, r) :: later) :
    TrafficKept (({ s with replies := before ++ later }).ran (s.page.onError config r)) := by
  unfold Page.onError
  split
  · rename_i hretry
    cases hrefreshing : s.page.refreshing with
    | none =>
      refine h.waits hreplies hretry.2.2 [s.page.tokens.refresh] rfl ?_ (Nat.le_refl _)
      unfold PageSystem.waiting
      rw [hrefreshing]
      rfl
    | some refreshing =>
      refine h.waits hreplies hretry.2.2 [] rfl ?_ (Nat.zero_le _)
      unfold PageSystem.waiting
      rw [hrefreshing]
      rfl
  · rw [ran_nil]
    exact h.dropped hreplies rfl (List.Sublist.refl _)

/-- **Step**: the exchange succeeds, and those who waited send their requests again. -/
theorem TrafficKept.resent (h : TrafficKept s) {token : String}
    (hreplies : s.replies = before ++ (.refresh token, r) :: later) {p : Page}
    (hnext : p.nextCall = s.page.nextCall) (hnone : p.refreshing = none) : TrafficKept
      (({ s with replies := before ++ later }).ran (p, s.waiting.map p.intercept)) := by
  have hsplit : (s.outstanding.filterMap PageMessage.first?).Perm
      (({ s with replies := before ++ later }).outstanding.filterMap PageMessage.first?) :=
    (outstanding_split hreplies).filterMap PageMessage.first?
  -- it is the second time
  have hrepeated : (s.waiting.map p.intercept).filterMap PageMessage.first? = [] := by
    rw [List.filterMap_map]
    refine List.filterMap_eq_nil_iff.2 fun config hmem => ?_
    obtain ⟨authorization, heq⟩ := intercept_eq p config
    simp [heq, PageMessage.first?, h.repeated config hmem]
  have hfirst : ((({ s with replies := before ++ later }).ran
      (p, s.waiting.map p.intercept)).outstanding.filterMap PageMessage.first?).Perm
        (s.outstanding.filterMap PageMessage.first?) := by
    have hperm := (outstanding_ran { s with replies := before ++ later }
      (p, s.waiting.map p.intercept)).filterMap PageMessage.first?
    rw [List.filterMap_append, hrepeated, List.append_nil] at hperm
    exact hperm.trans hsplit.symm
  have hwaiting : (({ s with replies := before ++ later }).ran
      (p, s.waiting.map p.intercept)).waiting = [] := by
    show (p.refreshing.map Refreshing.waiting).getD [] = []
    rw [hnone]
    rfl
  refine h.of_le hnext (fun id => ?_) ?_ fun c hmem => ?_
  · unfold PageSystem.sendings PageSystem.repeatable
    rw [(hfirst.append_right _).countP_eq, hwaiting]
    simp only [PageSystem.ran, List.countP_append, List.countP_map, List.countP_nil]
    have hcarried : (PageMessage.carries id ∘ p.intercept) = fun config => config.id == id :=
      funext fun config => carries_intercept p config id
    rw [hcarried]
    omega
  · unfold PageSystem.exchanges
    rw [presented_ran, hfirst.length_eq, token?_intercept, List.append_nil]
    exact Nat.le_refl _
  · rw [hwaiting] at hmem
    cases hmem

/-- **Step**: an answer is handled. -/
theorem TrafficKept.deliver (h : TrafficKept s) (hreplies : s.replies = before ++ (m, r) :: later) :
    TrafficKept (({ s with replies := before ++ later }).ran (s.page.receive m r)) := by
  cases m with
  | api config =>
    have hnothing : TrafficKept { s with replies := before ++ later } :=
      h.dropped hreplies rfl (List.Sublist.refl _)
    cases r with
    | unauthorized | failed => exact h.error hreplies
    | ok issued =>
      simp only [Page.receive, Page.onReply]
      split
      · exact hnothing.ask (by rfl) (by rfl) .me
      · rw [ran_nil]
        exact hnothing
  | refresh token =>
    simp only [Page.receive, Page.onRefresh]
    split
    · rw [ran_nil]
      exact h.dropped hreplies rfl (List.Sublist.refl _)
    · rename_i refreshing hrefreshing
      have hwaiting : refreshing.waiting = s.waiting := by
        unfold PageSystem.waiting
        rw [hrefreshing]
        rfl
      split
      · rw [hwaiting]
        exact h.resent hreplies (by rfl) (by rfl)
      · rw [ran_nil]
        exact h.dropped hreplies rfl (List.nil_sublist _)

/-- **Step**: the server answers. -/
theorem TrafficKept.reply (h : TrafficKept s) {before later : List PageMessage}
    (hsent : s.sent = before ++ m :: later) (r : PageReply) (w : Session Store) :
    TrafficKept ({ s with sent := before ++ later, server := w }.reply m r) := by
  refine h.of_sublist rfl rfl ?_ (List.Sublist.refl _) (List.Sublist.refl _)
  unfold PageSystem.outstanding
  rw [hsent]
  simp only [PageSystem.reply, List.map_append, List.map_cons, List.map_nil, List.append_assoc,
    List.cons_append]
  refine List.Perm.append_left _ ?_
  rw [← List.append_assoc]
  exact List.perm_append_singleton m _

/-- **Step**: whatever happens next keeps the account of the requests. -/
theorem TrafficKept.step {auth : AuthConfig} {clk : ℕ → ℤ} {client : ClientInfo} (h : TrafficKept s)
    (hstep : PageStep auth clk client s s') : TrafficKept s' := by
  cases hstep with
  | ask ask _ => exact h.ask rfl rfl ask
  | logout => exact h.ask (by rfl) (by rfl) _
  | reload => exact h.of_sublist rfl rfl (List.Perm.refl _) (List.nil_sublist _) (List.nil_sublist _)
  | handle hsent _ => exact h.reply hsent _ _
  | answer r hsent _ _ => exact h.reply hsent r s.server
  | handleGone _ _ | others _ _ =>
    exact h.of_sublist rfl rfl (List.Perm.refl _) (List.Sublist.refl _) (List.Sublist.refl _)
  | lose hsent => exact h.reply hsent .failed s.server
  | loseReply hreplies =>
    refine h.of_sublist rfl rfl ?_ (List.Sublist.refl _) (List.Sublist.refl _)
    unfold PageSystem.outstanding
    rw [hreplies]
    simp
  | deliver hreplies => exact h.deliver hreplies

end

/-- **What a page sends: whatever happens to the requests of a tab, each of them is sent twice at most,
and there are no more exchanges than requests.** -/
theorem page_sends_twice (auth : AuthConfig) (clk : ℕ → ℤ) (client : ClientInfo) (w : Session Store)
    (s : PageSystem) (hrun : Relation.ReflTransGen (PageStep auth clk client) { server := w } s) :
    (∀ id, s.posted.countP (PageMessage.carries id) ≤ 2) ∧ s.presented.length ≤ s.page.nextCall := by
  have hkept : TrafficKept s := by
    induction hrun with
    | refl => exact .start w
    | tail _ hstep ih => exact ih.step hstep
  refine ⟨fun id => ?_, (Nat.le_add_right _ _).trans hkept.exchanged⟩
  have htwice := (Nat.le_add_right _ _).trans (hkept.twice id)
  split at htwice
  · exact htwice
  · omega

/-- The request that was not authorized is sent a second time. -/
theorem page_sends_twice_tab :
    ∃ s, Relation.ReflTransGen (PageStep tabAuth (fun _ => 0) {}) tab s ∧
      s.posted.countP (PageMessage.carries 2) = 2 ∧
      (∀ id, s.posted.countP (PageMessage.carries id) ≤ 2) ∧ s.presented.length ≤ s.page.nextCall := by
  have hrun : (runTab tabAuth twoFailures tab).any (fun s =>
      s.posted.countP (PageMessage.carries 2) == 2) = true := by decide +kernel
  obtain ⟨s, hs, hsecond⟩ := (Option.any_eq_true _ _).1 hrun
  exact ⟨s, runTab_run hs, beq_iff_eq.1 hsecond, page_sends_twice tabAuth (fun _ => 0) {} tab.server s
    (runTab_run hs)⟩

/-! ## After a logout -/

/-- A request that changes nothing: it has nothing to do with tokens, or is a logout of nobody. -/
def PageMessage.harmless (client : ClientInfo) (m : PageMessage) : Prop :=
  ∀ b, m.request client = some b → ∃ text, b = .logout none text

/-- Nobody is logged in, and nothing that could change that is under way. -/
structure LoggedOut (client : ClientInfo) (s : PageSystem) : Prop where
  tokens : s.page.tokens = {}
  idle : s.page.refreshing = none
  outstanding : ∀ m ∈ s.outstanding, m.harmless client
  gone : ∀ m ∈ s.gone, m.harmless client

section

variable {auth : AuthConfig} {clk : ℕ → ℤ} {client : ClientInfo} {s s' : PageSystem}

/-- The server does not know who logs out. -/
theorem after_logout_none (text : String) (w : Session Store) :
    (((TokenRequest.logout none text).handler auth).after clk w).committed = w.committed := rfl

/-- A message that carries no token but the one a logout names. -/
theorem harmless_intercept {p : Page} (hp : p.tokens = {}) {id : ℕ} {ask : Ask}
    (hask : ∀ username password, ask ≠ .login username password) :
    (p.intercept { id, ask }).harmless client := by
  intro b hb
  simp only [Page.intercept, hp, if_true, PageMessage.request] at hb
  split at hb
  · exact absurd rfl (hask _ _)
  · exact ⟨_, (Option.some.inj hb).symm⟩
  · cases hb
  · cases hb

/-- Asking leaves nobody logged in, but for a login. -/
theorem LoggedOut.ask (h : LoggedOut client s) {p : Page} (htokens : p.tokens = {})
    (hidle : p.refreshing = none) {ask : Ask}
    (hask : ∀ username password, ask ≠ .login username password) :
    LoggedOut client (s.ran (p.ask ask)) where
  tokens := htokens
  idle := hidle
  outstanding m hm := by
    rcases List.mem_append.1 ((outstanding_ran s (p.ask ask)).mem_iff.1 hm) with hm | hm
    · exact h.outstanding m hm
    · rw [List.mem_singleton.1 hm]
      exact harmless_intercept htokens hask
  gone := h.gone

/-- Fewer messages are under way. -/
theorem LoggedOut.of_subset (h : LoggedOut client s) (hpage : s'.page = s.page)
    (houtstanding : ∀ m ∈ s'.outstanding, m ∈ s.outstanding) (hgone : ∀ m ∈ s'.gone, m ∈ s.gone) :
    LoggedOut client s' where
  tokens := hpage ▸ h.tokens
  idle := hpage ▸ h.idle
  outstanding m hm := h.outstanding m (houtstanding m hm)
  gone m hm := h.gone m (hgone m hm)

/-- Nothing that arrives logs anybody in. -/
theorem LoggedOut.receive (h : LoggedOut client s) {m : PageMessage} (hm : m ∈ s.outstanding)
    (r : PageReply) : s.page.receive m r = (s.page, []) := by
  have hharmless := h.outstanding m hm
  have herror (config : CallConfig) : s.page.onError config r = (s.page, []) :=
    if_neg fun hretry => hretry.2.1 (by rw [h.tokens])
  cases m with
  | refresh token =>
    obtain ⟨text, heq⟩ := hharmless _ rfl
    cases heq
  | api config =>
    cases r with
    | unauthorized | failed => exact herror config
    | ok issued =>
      simp only [Page.receive, Page.onReply]
      split
      · rename_i username password tokens hask
        obtain ⟨text, heq⟩ := hharmless (.account (.login username password client))
          (by simp only [PageMessage.request, hask])
        cases heq
      · rfl

/-- **Step**: nobody is logged in until somebody logs in. -/
theorem LoggedOut.step (h : LoggedOut client s) (hstep : PageStep auth clk client s s')
    (hlogin : ∀ username password, s' ≠ s.ran (s.page.ask (.login username password))) :
    LoggedOut client s' := by
  have houtstanding {before later : List PageMessage} {m : PageMessage}
      (hsent : s.sent = before ++ m :: later) (r : PageReply) (w : Session Store) :
      ∀ m' ∈ ({ s with sent := before ++ later, server := w }.reply m r).outstanding,
        m' ∈ s.outstanding := by
    intro m' hm'
    simp only [PageSystem.outstanding, PageSystem.reply, List.map_append, List.mem_append, hsent,
      List.mem_cons, List.map_cons, List.map_nil, List.mem_nil_iff] at hm' ⊢
    tauto
  cases hstep with
  | ask ask _ =>
    refine h.ask h.tokens h.idle fun username password hask => ?_
    subst hask
    exact hlogin username password rfl
  | logout =>
    refine h.ask (by rfl) (by exact h.idle) fun username password hlogout => ?_
    cases hlogout
  | reload =>
    refine ⟨rfl, rfl, fun m hm => absurd hm List.not_mem_nil, fun m hm => ?_⟩
    rcases List.mem_append.1 hm with hm | hm
    · exact h.gone m hm
    · exact h.outstanding m (List.mem_append_left _ hm)
  | handle hsent _ => exact h.of_subset rfl (houtstanding hsent _ _) fun _ => id
  | answer r hsent _ _ => exact h.of_subset rfl (houtstanding hsent r s.server) fun _ => id
  | handleGone hgone _ =>
    refine h.of_subset rfl (fun _ => id) fun m hm => ?_
    rw [hgone]
    exact ((List.sublist_cons_self _ _).append_left _).subset hm
  | lose hsent => exact h.of_subset rfl (houtstanding hsent .failed s.server) fun _ => id
  | loseReply hreplies =>
    refine h.of_subset rfl (fun m hm => ?_) fun _ => id
    simp only [PageSystem.outstanding, hreplies, List.map_append, List.map_cons] at hm ⊢
    exact hm
  | @deliver before m r later hreplies =>
    have hmem : m ∈ s.outstanding := by
      simp [PageSystem.outstanding, hreplies]
    rw [h.receive hmem, ran_nil]
    refine h.of_subset rfl (fun m' hm' => ?_) fun _ => id
    simp only [PageSystem.outstanding, hreplies, List.map_append, List.map_cons, List.mem_append,
      List.mem_cons] at hm' ⊢
    tauto
  | others _ _ => exact h.of_subset rfl (fun _ => id) fun _ => id

end

end ParkingSystem
