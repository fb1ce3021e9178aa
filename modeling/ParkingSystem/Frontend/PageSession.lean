import ParkingSystem.Identity.Issued

/-!
# The Session of a Page

`client.ts` and `AuthContext.tsx` with the server. A page adds its access token to every request; a
request that is not authorized waits until the refresh token has been exchanged, and is sent again,
once. Requests that fail together share one exchange.

The script of a page runs to the end before anything else of the page does. The answer of an exchange
is handled together with the requests that wait for it, in the order they came.

## What goes wrong

`logout` clears the tokens before the interceptor of its own request runs: the request is sent without
them. And an answer that a page awaits while its user logs out sets the tokens again.
-/

namespace ParkingSystem

open Table Transaction

/-! ## The page -/

/-- `tokens`; an empty text is no token. -/
structure PageTokens where
  access : String := ""
  refresh : String := ""
  deriving DecidableEq

/-- What is asked for. -/
inductive Ask where
  | call (url : String)
  | login (username password : String)
  | me
  | logout (refreshToken : String)
  deriving DecidableEq

/-- What axios keeps of a request, with `_retry`; `id` tells the requests of the pages apart. -/
structure CallConfig where
  id : ℕ
  ask : Ask
  retry : Bool := false
  authorization : Option String := none
  deriving DecidableEq

/-- `refreshing`: the token that is exchanged, and the requests that wait for it. -/
structure Refreshing where
  presented : String
  waiting : List CallConfig
  deriving DecidableEq

/-- A page; `nextCall` numbers the requests. -/
structure Page where
  tokens : PageTokens := {}
  refreshing : Option Refreshing := none
  nextCall : ℕ := 0
  deriving DecidableEq

/-- What a page sends. -/
inductive PageMessage where
  | api (config : CallConfig)
  | refresh (token : String)
  deriving DecidableEq

/-- What comes back: an answer, with the tokens it carries, status 401, or anything else that axios
rejects. -/
inductive PageReply where
  | ok (issued : Option TokenResponse)
  | unauthorized
  | failed
  deriving DecidableEq

namespace Page

/-- The interceptor of requests. -/
def intercept (p : Page) (config : CallConfig) : PageMessage :=
  .api (if p.tokens.access = "" then config else { config with authorization := some p.tokens.access })

/-- A request of the page. -/
def ask (p : Page) (ask : Ask) : Page × List PageMessage :=
  ({ p with nextCall := p.nextCall + 1 }, [p.intercept { id := p.nextCall, ask }])

/-- `logout`: the body is made of the token, which is gone when the interceptor runs. -/
def logout (p : Page) : Page × List PageMessage :=
  { p with tokens := {} }.ask (.logout p.tokens.refresh)

/-- The interceptor of errors. A request that is not authorized joins the exchange, or starts it. -/
def onError (p : Page) (config : CallConfig) (reply : PageReply) : Page × List PageMessage :=
  if reply = .unauthorized ∧ p.tokens.refresh ≠ "" ∧ config.retry = false then
    let original := { config with retry := true }
    match p.refreshing with
    | some r => ({ p with refreshing := some { r with waiting := r.waiting ++ [original] } }, [])
    | none => ({ p with refreshing := some ⟨p.tokens.refresh, [original]⟩ }, [.refresh p.tokens.refresh])
  else (p, [])

/-- What goes on with the answer of a request: `login` keeps the tokens and asks who the user is. -/
def onReply (p : Page) (config : CallConfig) : PageReply → Page × List PageMessage
  | .ok issued =>
    match config.ask, issued with
    | .login _ _, some tokens =>
      { p with tokens := ⟨tokens.accessToken, tokens.refreshToken⟩ }.ask .me
    | _, _ => (p, [])
  | reply => p.onError config reply

/-- What goes on with the answer of the exchange: those who waited send their request again, or
clear the tokens. -/
def onRefresh (p : Page) (reply : PageReply) : Page × List PageMessage :=
  match p.refreshing with
  | none => (p, [])
  | some r =>
    match reply with
    | .ok (some tokens) =>
      let p := { p with tokens := ⟨tokens.accessToken, tokens.refreshToken⟩, refreshing := none }
      (p, r.waiting.map p.intercept)
    | _ => ({ p with tokens := if r.waiting.isEmpty then p.tokens else {}, refreshing := none }, [])

/-- An answer arrives. -/
def receive (p : Page) : PageMessage → PageReply → Page × List PageMessage
  | .api config, reply => p.onReply config reply
  | .refresh _, reply => p.onRefresh reply

end Page

/-! ## The page and the server -/

/-- The page of a browser tab and the server. `sent` is on its way to the server, `gone` as well,
from pages that were left, and `replies` is on its way back. `posted` is all that was ever sent, and
`issued` the refresh tokens that were issued to the tab. -/
structure PageSystem where
  page : Page := {}
  sent : List PageMessage := []
  gone : List PageMessage := []
  replies : List (PageMessage × PageReply) := []
  posted : List PageMessage := []
  issued : List String := []
  server : Session Store

/-- The handler that a message is for; `none` is one that has nothing to do with tokens. -/
def PageMessage.request (client : ClientInfo) : PageMessage → Option TokenRequest
  | .refresh token => some (.account (.refresh token client))
  | .api config =>
    match config.ask with
    | .login username password => some (.account (.login username password client))
    | .logout token => some (.logout config.authorization token)
    | .call _ | .me => none

/-- How the end of a handler is answered. -/
def replyOf : Except (Exc AppError) (Option TokenResponse) → PageReply
  | .ok issued => .ok issued
  | .error (.app (.unauthorized _)) => .unauthorized
  | .error _ => .failed

/-- The refresh token that an answer carries. -/
def PageReply.token? : PageReply → Option String
  | .ok (some tokens) => some tokens.refreshToken
  | _ => none

/-- The token that a message presents. -/
def PageMessage.token? : PageMessage → Option String
  | .refresh token => some token
  | .api _ => none

namespace PageSystem

/-- The script of the page ran. -/
def ran (s : PageSystem) (result : Page × List PageMessage) : PageSystem :=
  { s with page := result.1, sent := s.sent ++ result.2, posted := s.posted ++ result.2 }

/-- The page is left: its messages may still be handled, and nobody waits for the answers. -/
def reload (s : PageSystem) : PageSystem :=
  { s with page := { nextCall := s.page.nextCall }, sent := [], gone := s.gone ++ s.sent, replies := [] }

/-- The server handles a request. -/
def handled (auth : AuthConfig) (clk : ℕ → ℤ) (request : TokenRequest) (s : PageSystem) :
    PageReply × PageSystem :=
  let w := Session.fresh s.server.committed s.server.nextId s.server.tick
  (replyOf ((request.handler auth).exec clk w).1,
    { s with server := (request.handler auth).after clk s.server })

/-- An answer is on its way. -/
def reply (s : PageSystem) (m : PageMessage) (r : PageReply) : PageSystem :=
  { s with replies := s.replies ++ [(m, r)], issued := s.issued ++ r.token?.toList }

/-- The refresh tokens that were ever presented. -/
def presented (s : PageSystem) : List String := s.posted.filterMap PageMessage.token?

/-- Those that the server may still see. -/
def unhandled (s : PageSystem) : List String := (s.sent ++ s.gone).filterMap PageMessage.token?

/-- Those whose exchange the page awaits. -/
def awaited (s : PageSystem) : List String :=
  (s.sent ++ s.replies.map Prod.fst).filterMap PageMessage.token?

/-- The refresh tokens that are on their way to the page. -/
def arriving (s : PageSystem) : List String := s.replies.filterMap fun reply => reply.2.token?

end PageSystem

/-- What happens next. Other clients never present a token that was issued to the tab. -/
inductive PageStep (auth : AuthConfig) (clk : ℕ → ℤ) (client : ClientInfo) :
    PageSystem → PageSystem → Prop where
  | ask {s} (ask : Ask) (body : ∀ token, ask ≠ .logout token) : PageStep auth clk client s (s.ran (s.page.ask ask))
  | logout {s} : PageStep auth clk client s (s.ran s.page.logout)
  | reload {s} : PageStep auth clk client s s.reload
  | handle {s before m later request} (sent : s.sent = before ++ m :: later)
      (body : m.request client = some request) : PageStep auth clk client s
        ((({ s with sent := before ++ later }).handled auth clk request).2.reply m
          (s.handled auth clk request).1)
  | answer {s before m later} (r : PageReply) (sent : s.sent = before ++ m :: later)
      (other : m.request client = none) (silent : r.token? = none) : PageStep auth clk client s
        ({ s with sent := before ++ later }.reply m r)
  | handleGone {s before m later request} (gone : s.gone = before ++ m :: later)
      (body : m.request client = some request) : PageStep auth clk client s
        (({ s with gone := before ++ later }).handled auth clk request).2
  | lose {s before m later} (sent : s.sent = before ++ m :: later) : PageStep auth clk client s
        ({ s with sent := before ++ later }.reply m .failed)
  | loseReply {s before m r later} (replies : s.replies = before ++ (m, r) :: later) :
      PageStep auth clk client s { s with replies := before ++ (m, .failed) :: later }
  | deliver {s before m r later} (replies : s.replies = before ++ (m, r) :: later) :
      PageStep auth clk client s ({ s with replies := before ++ later }.ran (s.page.receive m r))
  | others {s} (b : TokenRequest) (apart : ∀ payload, auth.jwt.encode payload ∈ s.issued →
      ¬ b.Names auth payload.jti) : PageStep auth clk client s (s.handled auth clk b).2

/-! ## What the page keeps -/

/-- Of the tokens that were issued to the tab, those that it presented were presented once; the one
it holds and those that arrive were not presented, unless it is the one that is being exchanged. -/
structure PageKept (s : PageSystem) : Prop where
  texts : ∀ token ∈ s.issued, token ≠ ""
  held : s.page.tokens.refresh ≠ "" → s.page.tokens.refresh ∈ s.issued
  presented : ∀ token ∈ s.presented, token ∈ s.issued
  once : s.presented.Nodup
  unhandled : ∀ token ∈ s.unhandled, token ∈ s.presented
  unhandledOnce : s.unhandled.Nodup
  exchanging : s.page.tokens.refresh ∈ s.presented →
    s.page.refreshing.map Refreshing.presented = some s.page.tokens.refresh
  arriving : ∀ token ∈ s.arriving, token ∈ s.issued ∧ token ∉ s.presented ∧
    token ≠ s.page.tokens.refresh
  arrivingOnce : s.arriving.Nodup
  single : s.awaited.Perm (s.page.refreshing.map Refreshing.presented).toList
  waited : ∀ r, s.page.refreshing = some r → r.waiting ≠ []

/-- A tab that was opened. -/
theorem PageKept.start (w : Session Store) : PageKept { server := w } where
  texts := nofun
  held h := absurd rfl h
  presented := nofun
  once := List.nodup_nil
  unhandled := nofun
  unhandledOnce := List.nodup_nil
  exchanging := nofun
  arriving := nofun
  arrivingOnce := List.nodup_nil
  single := .refl _
  waited := nofun

section

variable {s : PageSystem}

theorem presented_ran (s : PageSystem) (result : Page × List PageMessage) :
    (s.ran result).presented = s.presented ++ result.2.filterMap PageMessage.token? :=
  List.filterMap_append

theorem unhandled_ran (s : PageSystem) (result : Page × List PageMessage) :
    (s.ran result).unhandled.Perm (s.unhandled ++ result.2.filterMap PageMessage.token?) := by
  simp only [PageSystem.unhandled, PageSystem.ran, List.filterMap_append, List.append_assoc]
  exact List.perm_append_comm.append_left _

theorem awaited_ran (s : PageSystem) (result : Page × List PageMessage) :
    (s.ran result).awaited.Perm (s.awaited ++ result.2.filterMap PageMessage.token?) := by
  simp only [PageSystem.awaited, PageSystem.ran, List.filterMap_append, List.append_assoc]
  exact List.perm_append_comm.append_left _

/-- **The script starts no exchange.** It may have taken a token that arrived. -/
theorem PageKept.quiet (h : PageKept s) {replies : List (PageMessage × PageReply)}
    {result : Page × List PageMessage} (hmessages : result.2.filterMap PageMessage.token? = [])
    (harriving : ({ s with replies }).arriving.Sublist s.arriving)
    (hheld : result.1.tokens.refresh = "" ∨
      (result.1.tokens.refresh = s.page.tokens.refresh ∧
        result.1.refreshing.map Refreshing.presented = s.page.refreshing.map Refreshing.presented) ∨
      (result.1.tokens.refresh ∈ s.arriving ∧
        result.1.tokens.refresh ∉ ({ s with replies }).arriving))
    (hsingle : ({ s with replies }).awaited.Perm
      (result.1.refreshing.map Refreshing.presented).toList)
    (hwaited : ∀ r, result.1.refreshing = some r → r.waiting ≠ []) :
    PageKept (({ s with replies }).ran result) := by
  have hpresented : (({ s with replies }).ran result).presented = s.presented := by
    rw [presented_ran, hmessages, List.append_nil]
    rfl
  have hunhandled : (({ s with replies }).ran result).unhandled.Perm s.unhandled := by
    have hperm := unhandled_ran { s with replies } result
    rwa [hmessages, List.append_nil] at hperm
  have hempty : "" ∉ s.presented := fun hmem => h.texts _ (h.presented _ hmem) rfl
  refine {
    texts := h.texts
    held := fun hne => ?_
    presented := hpresented ▸ h.presented
    once := hpresented ▸ h.once
    unhandled := fun token hmem => hpresented ▸ h.unhandled token (hunhandled.mem_iff.1 hmem)
    unhandledOnce := hunhandled.nodup_iff.2 h.unhandledOnce
    exchanging := fun hmem => ?_
    arriving := fun token hmem => ?_
    arrivingOnce := h.arrivingOnce.sublist harriving
    single := ?_
    waited := hwaited }
  · rcases hheld with heq | ⟨heq, -⟩ | ⟨hmem, -⟩
    · exact absurd heq hne
    · exact heq ▸ h.held (heq ▸ hne)
    · exact (h.arriving _ hmem).1
  · rw [hpresented] at hmem
    rcases hheld with heq | ⟨heq, hrefreshing⟩ | ⟨harrived, -⟩
    · exact absurd (heq ▸ hmem) hempty
    · exact hrefreshing.trans ((h.exchanging (heq ▸ hmem)).trans (congrArg some heq.symm))
    · exact absurd hmem (h.arriving _ harrived).2.1
  · obtain ⟨hissued, hnot, hother⟩ := h.arriving token (harriving.subset hmem)
    refine ⟨hissued, hpresented ▸ hnot, ?_⟩
    rcases hheld with heq | ⟨heq, -⟩ | ⟨-, hgone⟩
    · exact fun htoken => h.texts _ hissued (htoken.trans heq)
    · exact fun htoken => hother (htoken.trans heq)
    · rintro rfl
      exact hgone hmem
  · have hperm := awaited_ran { s with replies } result
    rw [hmessages, List.append_nil] at hperm
    exact hperm.trans hsingle

/-- **The script starts an exchange** of the token that the page holds. -/
theorem PageKept.begin (h : PageKept s) {replies : List (PageMessage × PageReply)}
    {original : CallConfig} (hnone : s.page.refreshing = none) (hheld : s.page.tokens.refresh ≠ "")
    (harriving : ({ s with replies }).arriving.Sublist s.arriving)
    (hawaited : ({ s with replies }).awaited = s.awaited) :
    PageKept (({ s with replies }).ran
      ({ s.page with refreshing := some ⟨s.page.tokens.refresh, [original]⟩ },
        [.refresh s.page.tokens.refresh])) := by
  have hnew : s.page.tokens.refresh ∉ s.presented := by
    intro hmem
    have hexchanging := h.exchanging hmem
    rw [hnone] at hexchanging
    cases hexchanging
  have hpresented := presented_ran { s with replies }
    ({ s.page with refreshing := some ⟨s.page.tokens.refresh, [original]⟩ },
      [.refresh s.page.tokens.refresh])
  have hunhandled := unhandled_ran { s with replies }
    ({ s.page with refreshing := some ⟨s.page.tokens.refresh, [original]⟩ },
      [.refresh s.page.tokens.refresh])
  have hperm := awaited_ran { s with replies }
    ({ s.page with refreshing := some ⟨s.page.tokens.refresh, [original]⟩ },
      [.refresh s.page.tokens.refresh])
  refine {
    texts := h.texts
    held := h.held
    presented := fun token hmem => ?_
    once := ?_
    unhandled := fun token hmem => ?_
    unhandledOnce := ?_
    exchanging := fun _ => rfl
    arriving := fun token hmem => ?_
    arrivingOnce := h.arrivingOnce.sublist harriving
    single := ?_
    waited := fun r hr => ?_ }
  · rw [hpresented] at hmem
    rcases List.mem_append.1 hmem with hmem | hmem
    · exact h.presented token hmem
    · rw [List.mem_singleton.1 hmem]
      exact h.held hheld
  · rw [hpresented]
    exact h.once.append (List.nodup_singleton _) (List.disjoint_singleton.2 hnew)
  · rw [hpresented]
    rcases List.mem_append.1 (hunhandled.mem_iff.1 hmem) with hmem | hmem
    · exact List.mem_append_left _ (h.unhandled token hmem)
    · exact List.mem_append_right _ hmem
  · refine hunhandled.nodup_iff.2 ?_
    refine h.unhandledOnce.append (List.nodup_singleton _) (List.disjoint_singleton.2 fun hmem => ?_)
    exact hnew (h.unhandled _ hmem)
  · obtain ⟨hissued, hnot, hother⟩ := h.arriving token (harriving.subset hmem)
    refine ⟨hissued, ?_, hother⟩
    rw [hpresented]
    intro hmem
    rcases List.mem_append.1 hmem with hmem | hmem
    · exact hnot hmem
    · exact hother (List.mem_singleton.1 hmem)
  · have hidle := h.single
    rw [hnone] at hidle
    rw [hawaited, hidle.eq_nil] at hperm
    exact hperm
  · cases hr
    exact List.cons_ne_nil _ _

/-- The messages that carry a request present no token. -/
theorem token?_intercept (p : Page) (configs : List CallConfig) :
    (configs.map p.intercept).filterMap PageMessage.token? = [] := by
  rw [List.filterMap_map]
  exact List.filterMap_eq_nil_iff.2 fun _ _ => rfl

/-- A request that failed is rejected or joins the exchange, or it starts one. -/
theorem onError_cases (p : Page) (config : CallConfig) (reply : PageReply) :
    ((p.onError config reply).2 = [] ∧ (p.onError config reply).1.tokens = p.tokens ∧
      (p.onError config reply).1.refreshing.map Refreshing.presented =
        p.refreshing.map Refreshing.presented ∧
      ((∀ r, p.refreshing = some r → r.waiting ≠ []) →
        ∀ r, (p.onError config reply).1.refreshing = some r → r.waiting ≠ [])) ∨
    (p.refreshing = none ∧ p.tokens.refresh ≠ "" ∧ ∃ original, p.onError config reply =
      ({ p with refreshing := some ⟨p.tokens.refresh, [original]⟩ }, [.refresh p.tokens.refresh])) := by
  unfold Page.onError
  split
  · rename_i hretry
    cases hrefreshing : p.refreshing with
    | none => exact Or.inr ⟨rfl, hretry.2.1, _, rfl⟩
    | some r =>
      refine Or.inl ⟨rfl, rfl, rfl, fun _ r' hr' => ?_⟩
      cases hr'
      exact List.append_ne_nil_of_right_ne_nil _ (List.cons_ne_nil _ _)
  · exact Or.inl ⟨rfl, rfl, rfl, id⟩

variable {before later : List (PageMessage × PageReply)} {m : PageMessage} {r : PageReply}

theorem arriving_sublist (hreplies : s.replies = before ++ (m, r) :: later) :
    ({ s with replies := before ++ later }).arriving.Sublist s.arriving := by
  unfold PageSystem.arriving
  rw [hreplies]
  exact ((List.sublist_cons_self _ _).append_left before).filterMap _

/-- What an answer carries is not on its way any more. -/
theorem arrived (h : s.arriving.Nodup) (hreplies : s.replies = before ++ (m, r) :: later)
    {token : String} (htoken : r.token? = some token) :
    token ∈ s.arriving ∧ token ∉ ({ s with replies := before ++ later }).arriving := by
  unfold PageSystem.arriving at h ⊢
  rw [hreplies] at h ⊢
  simp only [List.filterMap_append, List.filterMap_cons, htoken] at h ⊢
  refine ⟨by simp, ?_⟩
  rw [List.nodup_middle, List.nodup_cons] at h
  exact h.1

theorem awaited_api {config : CallConfig} (hreplies : s.replies = before ++ (.api config, r) :: later) :
    ({ s with replies := before ++ later }).awaited = s.awaited := by
  unfold PageSystem.awaited
  rw [hreplies]
  simp [List.filterMap_cons, PageMessage.token?]

/-- The answer of the exchange is the last thing the page awaits. -/
theorem awaited_refresh {token : String} (h : PageKept s)
    (hreplies : s.replies = before ++ (.refresh token, r) :: later) :
    ({ s with replies := before ++ later }).awaited = [] ∧
      ∃ refreshing, s.page.refreshing = some refreshing := by
  have hperm : s.awaited.Perm (token :: ({ s with replies := before ++ later }).awaited) := by
    unfold PageSystem.awaited
    rw [hreplies]
    simp only [List.map_append, List.map_cons, List.filterMap_append, List.filterMap_cons,
      PageMessage.token?, ← List.append_assoc]
    exact List.perm_middle
  have hsingle := hperm.symm.trans h.single
  cases hrefreshing : s.page.refreshing with
  | none =>
    rw [hrefreshing] at hsingle
    exact absurd hsingle.eq_nil (List.cons_ne_nil _ _)
  | some refreshing =>
    rw [hrefreshing] at hsingle
    have hlength := hsingle.length_eq
    simp only [List.length_cons, Option.map_some, Option.toList_some, List.length_nil, zero_add,
      Nat.add_eq_right, List.length_eq_zero_iff] at hlength
    exact ⟨hlength, refreshing, rfl⟩

/-- **Step**: an answer is handled. -/
theorem PageKept.deliver (h : PageKept s) (hreplies : s.replies = before ++ (m, r) :: later) :
    PageKept (({ s with replies := before ++ later }).ran (s.page.receive m r)) := by
  have harriving := arriving_sublist hreplies
  cases m with
  | api config =>
    have hawaited := awaited_api hreplies
    have hsingle := h.single
    rw [← hawaited] at hsingle
    have hnothing : PageKept (({ s with replies := before ++ later }).ran (s.page, [])) :=
      h.quiet rfl harriving (Or.inr (Or.inl ⟨rfl, rfl⟩)) hsingle h.waited
    have herror : PageKept (({ s with replies := before ++ later }).ran (s.page.onError config r)) := by
      rcases onError_cases s.page config r with ⟨hmessages, htokens, hsame, hwaited⟩ |
        ⟨hnone, hheld, original, heq⟩
      · refine h.quiet (by rw [hmessages]; rfl) harriving (Or.inr (Or.inl ⟨?_, hsame⟩)) ?_
          (hwaited h.waited)
        · rw [htokens]
        · rwa [hsame]
      · rw [heq]
        exact h.begin hnone hheld harriving hawaited
    cases r with
    | unauthorized | failed => exact herror
    | ok issued =>
      simp only [Page.receive, Page.onReply]
      split
      · rename_i tokens
        -- a login keeps the tokens that arrived
        exact h.quiet rfl harriving (Or.inr (Or.inr (arrived h.arrivingOnce hreplies rfl))) hsingle
          h.waited
      · exact hnothing
  | refresh token =>
    obtain ⟨hawaited, refreshing, hrefreshing⟩ := awaited_refresh h hreplies
    have hnonempty := h.waited _ hrefreshing
    have hsingle : ({ s with replies := before ++ later }).awaited.Perm
        ((none : Option Refreshing).map Refreshing.presented).toList := by
      rw [hawaited]
      exact .refl _
    simp only [Page.receive, Page.onRefresh, hrefreshing]
    split
    · exact h.quiet (token?_intercept _ _) harriving
        (Or.inr (Or.inr (arrived h.arrivingOnce hreplies rfl))) hsingle nofun
    · refine h.quiet rfl harriving (Or.inl ?_) hsingle nofun
      rw [if_neg (by simpa using hnonempty)]

/-- **Step**: the page asks for something. -/
theorem PageKept.ask (h : PageKept s) (ask : Ask) : PageKept (s.ran (s.page.ask ask)) :=
  h.quiet rfl (List.Sublist.refl _) (Or.inr (Or.inl ⟨rfl, rfl⟩)) h.single h.waited

/-- **Step**: a logout forgets the tokens, not the exchange. -/
theorem PageKept.logout (h : PageKept s) : PageKept (s.ran s.page.logout) :=
  h.quiet rfl (List.Sublist.refl _) (Or.inl rfl) h.single h.waited

/-- **Step**: the page is left. -/
theorem PageKept.reload (h : PageKept s) : PageKept s.reload := by
  have hunhandled : s.reload.unhandled.Perm s.unhandled := by
    simp only [PageSystem.unhandled, PageSystem.reload, List.nil_append, List.filterMap_append]
    exact List.perm_append_comm
  exact {
    texts := h.texts
    held := fun hne => absurd rfl hne
    presented := h.presented
    once := h.once
    unhandled := fun token hmem => h.unhandled token (hunhandled.mem_iff.1 hmem)
    unhandledOnce := hunhandled.nodup_iff.2 h.unhandledOnce
    exchanging := fun hmem => absurd rfl (h.texts _ (h.presented _ hmem))
    arriving := nofun
    arrivingOnce := List.nodup_nil
    single := .refl _
    waited := nofun }

/-- What is answered is handled. -/
theorem unhandled_reply {before later : List PageMessage} (hsent : s.sent = before ++ m :: later)
    (r : PageReply) :
    ({ s with sent := before ++ later }.reply m r).unhandled.Sublist s.unhandled := by
  unfold PageSystem.unhandled
  rw [hsent]
  exact (((List.sublist_cons_self _ _).append_left before).append_right _).filterMap _

/-- **Step**: something is answered. The token that the answer carries is a new one. -/
theorem PageKept.reply (h : PageKept s) {before later : List PageMessage}
    (hsent : s.sent = before ++ m :: later) (r : PageReply)
    (hnew : ∀ token, r.token? = some token → token ≠ "" ∧ token ∉ s.issued) :
    PageKept ({ s with sent := before ++ later }.reply m r) := by
  have hunhandled := unhandled_reply hsent r
  have hissued : ({ s with sent := before ++ later }.reply m r).issued = s.issued ++ r.token?.toList := rfl
  have harriving : ({ s with sent := before ++ later }.reply m r).arriving =
      s.arriving ++ r.token?.toList := by
    simp only [PageSystem.arriving, PageSystem.reply, List.filterMap_append, List.filterMap_cons,
      List.filterMap_nil]
    cases r.token? <;> rfl
  -- the message goes from one list to the other
  have hawaited : ({ s with sent := before ++ later }.reply m r).awaited.Perm s.awaited := by
    unfold PageSystem.awaited
    rw [hsent]
    simp only [PageSystem.reply, List.map_append, List.map_cons, List.map_nil]
    refine List.Perm.filterMap _ ?_
    simp only [List.append_assoc, List.cons_append]
    refine List.Perm.append_left _ ?_
    rw [← List.append_assoc]
    exact List.perm_append_singleton m _
  refine {
    texts := fun token hmem => ?_
    held := fun hne => List.mem_append_left _ (h.held hne)
    presented := fun token hmem => List.mem_append_left _ (h.presented token hmem)
    once := h.once
    unhandled := fun token hmem => h.unhandled token (hunhandled.subset hmem)
    unhandledOnce := h.unhandledOnce.sublist hunhandled
    exchanging := h.exchanging
    arriving := fun token hmem => ?_
    arrivingOnce := ?_
    single := hawaited.trans h.single
    waited := h.waited }
  · rw [hissued] at hmem
    rcases List.mem_append.1 hmem with hmem | hmem
    · exact h.texts token hmem
    · exact (hnew token (Option.mem_toList.1 hmem)).1
  · rw [harriving] at hmem
    rw [hissued]
    rcases List.mem_append.1 hmem with hmem | hmem
    · obtain ⟨hin, hrest⟩ := h.arriving token hmem
      exact ⟨List.mem_append_left _ hin, hrest⟩
    · obtain ⟨hne, hnot⟩ := hnew token (Option.mem_toList.1 hmem)
      refine ⟨List.mem_append_right _ hmem, fun hpresented => hnot (h.presented _ hpresented), ?_⟩
      intro heq
      exact hnot (heq ▸ h.held (heq ▸ hne))
  · rw [harriving]
    refine h.arrivingOnce.append ?_ fun token hmem hnewmem => ?_
    · cases r.token? with
      | none => exact List.nodup_nil
      | some token => exact List.nodup_singleton _
    · exact (hnew token (Option.mem_toList.1 hnewmem)).2 (h.arriving token hmem).1

/-- **Step**: an answer is lost. -/
theorem PageKept.loseReply (h : PageKept s) (hreplies : s.replies = before ++ (m, r) :: later) :
    PageKept { s with replies := before ++ (m, PageReply.failed) :: later } := by
  have hawaited : ({ s with replies := before ++ (m, PageReply.failed) :: later }).awaited =
      s.awaited := by
    unfold PageSystem.awaited
    rw [hreplies]
    simp
  have harriving : ({ s with replies := before ++ (m, PageReply.failed) :: later }).arriving =
      ({ s with replies := before ++ later }).arriving := by
    simp [PageSystem.arriving, PageReply.token?]
  have hsublist := arriving_sublist hreplies
  rw [← harriving] at hsublist
  exact {
    texts := h.texts
    held := h.held
    presented := h.presented
    once := h.once
    unhandled := h.unhandled
    unhandledOnce := h.unhandledOnce
    exchanging := h.exchanging
    arriving := fun token hmem => h.arriving token (hsublist.subset hmem)
    arrivingOnce := h.arrivingOnce.sublist hsublist
    single := hawaited ▸ h.single
    waited := h.waited }

/-- **Step**: a request of a page that was left is handled. -/
theorem PageKept.gone (h : PageKept s) {before later : List PageMessage}
    (hgone : s.gone = before ++ m :: later) (w : Session Store) :
    PageKept { s with gone := before ++ later, server := w } := by
  have hunhandled : ({ s with gone := before ++ later, server := w } : PageSystem).unhandled.Sublist
      s.unhandled := by
    unfold PageSystem.unhandled
    rw [hgone]
    exact (((List.sublist_cons_self _ _).append_left before).append_left _).filterMap _
  exact { h with
    unhandled := fun token hmem => h.unhandled token (hunhandled.subset hmem)
    unhandledOnce := h.unhandledOnce.sublist hunhandled }

/-- The server is no concern of the page. -/
theorem PageKept.server (h : PageKept s) (w : Session Store) : PageKept { s with server := w } :=
  { h with }

end

/-! ## What the server keeps -/

/-- What is relied on of the library that signs: a token is a text that tells its identifier, and is
decoded as it was signed. -/
structure Jwt.TellsApart (jwt : Jwt) : Prop where
  nonempty : ∀ p, jwt.encode p ≠ ""
  name : ∀ p q, jwt.encode p = jwt.encode q → p.jti = q.jti
  decode : ∀ now p q, jwt.decode now (jwt.encode p) = some q → q.jti = p.jti

/-- The server knows the tokens that it issued to the tab by their identifiers, and exchanged only
those that were presented and that it has handled. -/
structure IssuedKept (auth : AuthConfig) (s : PageSystem) : Prop where
  drawn : TokensDrawn s.server
  signed : ∀ token ∈ s.issued, ∃ payload, token = auth.jwt.encode payload ∧
    payload.jti < s.server.nextId
  apart : ∀ p q, auth.jwt.encode p ∈ s.issued → auth.jwt.encode q ∈ s.issued → p.jti = q.jti →
    auth.jwt.encode p = auth.jwt.encode q
  exchanged : ∀ p, auth.jwt.encode p ∈ s.issued → Exchanged p.jti s.server.committed →
    auth.jwt.encode p ∈ s.presented ∧ auth.jwt.encode p ∉ s.unhandled

section

variable {auth : AuthConfig} {s s' : PageSystem}

theorem token?_replyOf {r : Except (Exc AppError) (Option TokenResponse)} {token : String}
    (h : (replyOf r).token? = some token) :
    ∃ tokens, r = .ok (some tokens) ∧ tokens.refreshToken = token := by
  cases r with
  | ok issued =>
    cases issued with
    | none => cases h
    | some tokens => exact ⟨tokens, rfl, Option.some.inj h⟩
  | error e =>
    cases e with
    | app e => cases e <;> cases h
    | rejected _ | pendingRollback | aborted => cases h

/-- What the page does is no concern of the server: what is presented now was not presented before. -/
theorem IssuedKept.page (h : IssuedKept auth s) (hserver : s'.server = s.server)
    (hissued : s'.issued = s.issued) (hpresented : ∀ token ∈ s.presented, token ∈ s'.presented)
    (hunhandled : ∀ token ∈ s'.unhandled, token ∈ s.unhandled ∨ token ∉ s.presented) :
    IssuedKept auth s' where
  drawn := hserver ▸ h.drawn
  signed := by
    rw [hissued, hserver]
    exact h.signed
  apart := by
    rw [hissued]
    exact h.apart
  exchanged p hp hexchanged := by
    rw [hissued] at hp
    rw [hserver] at hexchanged
    obtain ⟨hin, hnot⟩ := h.exchanged p hp hexchanged
    refine ⟨hpresented _ hin, fun hmem => ?_⟩
    rcases hunhandled _ hmem with hmem | hmem
    · exact hnot hmem
    · exact hmem hin

/-- The script of the page ran, and what is presented is presented once. -/
theorem IssuedKept.ran (h : IssuedKept auth s) {replies : List (PageMessage × PageReply)}
    {result : Page × List PageMessage} (hkept : PageKept (({ s with replies }).ran result)) :
    IssuedKept auth (({ s with replies }).ran result) := by
  have hpresented := presented_ran { s with replies } result
  have honce := hkept.once
  rw [hpresented] at honce
  refine h.page rfl rfl (fun token hmem => ?_) fun token hmem => ?_
  · rw [hpresented]
    exact List.mem_append_left _ hmem
  · rcases List.mem_append.1 ((unhandled_ran _ _).mem_iff.1 hmem) with hmem | hmem
    · exact Or.inl hmem
    · exact Or.inr fun hin => List.disjoint_of_nodup_append honce hin hmem

/-- **Step**: the server handles a request. Of the tokens of the tab it exchanges at most one that was
presented and is handled now. -/
theorem IssuedKept.handle (h : IssuedKept auth s) (hjwt : auth.jwt.TellsApart)
    {clk : ℕ → ℤ} {b : TokenRequest} (hserver : s'.server = (b.handler auth).after clk s.server)
    (hissued : ∀ token ∈ s'.issued, token ∈ s.issued ∨ ∃ tokens, tokens.refreshToken = token ∧
      ((b.handler auth).exec clk
        (.fresh s.server.committed s.server.nextId s.server.tick)).1 = .ok (some tokens))
    (hpresented : s'.presented = s.presented) (hunhandled : ∀ token ∈ s'.unhandled, token ∈ s.unhandled)
    (hnames : ∀ p, auth.jwt.encode p ∈ s.issued → b.Names auth p.jti →
      auth.jwt.encode p ∈ s.presented ∧ auth.jwt.encode p ∉ s'.unhandled) : IssuedKept auth s' := by
  have heffect := tokenEffect_after auth clk s.server b
  rw [← hserver] at heffect
  have hnext : s.server.nextId ≤ s'.server.nextId := hserver ▸ Prog.after_nextId_le _ _ _
  -- a token is one of before, with a smaller identifier, or the one that is issued now
  have hsplit {p : TokenPayload} (hp : auth.jwt.encode p ∈ s'.issued) :
      (auth.jwt.encode p ∈ s.issued ∧ p.jti < s.server.nextId) ∨
        (s.server.nextId ≤ p.jti ∧ p.jti < s'.server.nextId ∧ ∃ tokens,
          tokens.refreshToken = auth.jwt.encode p ∧ ((b.handler auth).exec clk
            (.fresh s.server.committed s.server.nextId s.server.tick)).1 = .ok (some tokens)) := by
    rcases hissued _ hp with hp | ⟨tokens, htext, hr⟩
    · obtain ⟨q, heq, hlt⟩ := h.signed _ hp
      exact Or.inl ⟨hp, hjwt.name _ _ heq ▸ hlt⟩
    · obtain ⟨q, heq, hfresh, hdrawn⟩ := heffect.answered hr
      have hq : q.jti = p.jti := hjwt.name _ _ (heq.symm.trans htext)
      exact Or.inr ⟨hq ▸ hfresh, hq ▸ hdrawn, tokens, htext, hr⟩
  refine {
    drawn := heffect.drawn h.drawn hnext
    signed := fun token hmem => ?_
    apart := fun p q hp hq hjti => ?_
    exchanged := fun p hp hexchanged => ?_ }
  · rcases hissued _ hmem with hmem | ⟨tokens, rfl, hr⟩
    · obtain ⟨payload, heq, hlt⟩ := h.signed _ hmem
      exact ⟨payload, heq, hlt.trans_le hnext⟩
    · obtain ⟨payload, heq, -, hdrawn⟩ := heffect.answered hr
      exact ⟨payload, heq, hdrawn⟩
  · rcases hsplit hp with ⟨hp, hplt⟩ | ⟨hple, -, tokens, htext, hr⟩ <;>
      rcases hsplit hq with ⟨hq, hqlt⟩ | ⟨hqle, -, tokens', htext', hr'⟩
    · exact h.apart p q hp hq hjti
    · omega
    · omega
    · rw [hr] at hr'
      cases hr'
      exact htext.symm.trans htext'
  · rw [hpresented]
    rcases heffect.exchanged h.drawn hexchanged with hbefore | ⟨hnamed, hlt⟩
    · rcases hsplit hp with ⟨hp, -⟩ | ⟨hple, -⟩
      · obtain ⟨hin, hnot⟩ := h.exchanged p hp hbefore
        exact ⟨hin, fun hmem => hnot (hunhandled _ hmem)⟩
      · exact absurd (hbefore.drawn h.drawn) (Nat.not_lt.2 hple)
    · rcases hsplit hp with ⟨hp, -⟩ | ⟨hple, -⟩
      · exact hnames p hp hnamed
      · exact absurd hlt (Nat.not_lt.2 hple)

/-- What a message of the page exchanges is what it presents. -/
theorem names_request (h : IssuedKept auth s) (hkept : PageKept s)
    (hjwt : auth.jwt.TellsApart) {client : ClientInfo} {m : PageMessage} {b : TokenRequest} (hbody : m.request client = some b)
    (hm : ∀ token, m.token? = some token → token ∈ s.unhandled) {p : TokenPayload}
    (hp : auth.jwt.encode p ∈ s.issued) (hnames : b.Names auth p.jti) :
    m.token? = some (auth.jwt.encode p) := by
  obtain ⟨text, client', now, payload, rfl, hpayload, hjti⟩ := hnames
  cases m with
  | api config =>
    simp only [PageMessage.request] at hbody
    split at hbody <;> cases hbody
  | refresh token =>
    cases hbody
    have hissued := hkept.presented _ (hkept.unhandled _ (hm text rfl))
    obtain ⟨q, rfl, -⟩ := h.signed _ hissued
    have hq := hjwt.decode _ _ _ hpayload
    exact congrArg some (h.apart q p hissued hp (hq.symm.trans hjti))

end

/-! ## Runs -/

/-- What the page and the server keep together. -/
structure PageSafe (auth : AuthConfig) (s : PageSystem) : Prop where
  page : PageKept s
  server : IssuedKept auth s

section

variable {auth : AuthConfig} {clk : ℕ → ℤ} {client : ClientInfo} {s s' : PageSystem}

/-- A message that the server handles now presents nothing any more. -/
theorem unhandled_split {before later rest : List PageMessage} {m : PageMessage} {token : String}
    (hnodup : ((before ++ m :: later ++ rest).filterMap PageMessage.token?).Nodup)
    (htoken : m.token? = some token) :
    token ∉ (before ++ later ++ rest).filterMap PageMessage.token? := by
  rw [List.append_assoc, List.cons_append, List.filterMap_append, List.filterMap_cons, htoken] at hnodup
  dsimp only at hnodup
  rw [List.nodup_middle, List.nodup_cons, ← List.filterMap_append, ← List.append_assoc] at hnodup
  exact hnodup.1

/-- An answer without tokens is no concern of the server. -/
theorem IssuedKept.silent (h : IssuedKept auth s) {before later : List PageMessage} {m : PageMessage}
    (hsent : s.sent = before ++ m :: later) {r : PageReply} (hr : r.token? = none) :
    IssuedKept auth ({ s with sent := before ++ later }.reply m r) := by
  refine h.page rfl ?_ (fun _ => id) fun token hmem => Or.inl ((unhandled_reply hsent r).subset hmem)
  simp only [PageSystem.reply, hr, Option.toList_none, List.append_nil]

/-- **Step**: whatever happens next keeps what the page and the server keep. -/
theorem PageSafe.step (h : PageSafe auth s) (hjwt : auth.jwt.TellsApart)
    (hstep : PageStep auth clk client s s') : PageSafe auth s' := by
  obtain ⟨hpage, hserver⟩ := h
  cases hstep with
  | ask ask body =>
    have hkept := hpage.ask ask
    exact ⟨hkept, hserver.ran hkept⟩
  | logout => exact ⟨hpage.logout, hserver.ran hpage.logout⟩
  | reload =>
    refine ⟨hpage.reload, hserver.page rfl rfl (fun _ => id) fun token hmem => Or.inl ?_⟩
    simp only [PageSystem.unhandled, PageSystem.reload, List.nil_append, List.filterMap_append] at hmem ⊢
    exact (List.mem_append.1 hmem).elim (List.mem_append_right _) (List.mem_append_left _)
  | @handle before m later request hsent hbody =>
    have hunhandled : (s.sent ++ s.gone).filterMap PageMessage.token? = s.unhandled := rfl
    have honce := hpage.unhandledOnce
    rw [← hunhandled, hsent] at honce
    refine ⟨(hpage.reply hsent _ fun token htoken => ?_).server _, hserver.handle hjwt rfl ?_ rfl ?_ ?_⟩
    · -- the server draws a new identifier for the token
      obtain ⟨tokens, hr, rfl⟩ := token?_replyOf htoken
      obtain ⟨payload, htext, hfresh, -⟩ := (tokenEffect_after auth clk s.server request).answered hr
      rw [htext]
      refine ⟨hjwt.nonempty payload, fun hmem => ?_⟩
      obtain ⟨q, heq, hlt⟩ := hserver.signed _ hmem
      exact absurd (hjwt.name _ _ heq ▸ hlt) (Nat.not_lt.2 hfresh)
    · intro token hmem
      rcases List.mem_append.1 hmem with hmem | hmem
      · exact Or.inl hmem
      · obtain ⟨tokens, hr, htext⟩ := token?_replyOf (Option.mem_toList.1 hmem)
        exact Or.inr ⟨tokens, htext, hr⟩
    · exact fun token hmem => (unhandled_reply hsent (s.handled auth clk request).1).subset hmem
    · intro p hp hnames
      have htoken : m.token? = some (auth.jwt.encode p) := by
        refine names_request hserver hpage hjwt hbody (fun token htoken => ?_) hp hnames
        rw [← hunhandled, hsent]
        exact List.mem_filterMap.2 ⟨m, by simp, htoken⟩
      refine ⟨hpage.unhandled _ ?_, unhandled_split honce htoken⟩
      rw [← hunhandled, hsent]
      exact List.mem_filterMap.2 ⟨m, by simp, htoken⟩
  | answer r hsent hother hsilent =>
    refine ⟨hpage.reply hsent r fun token htoken => ?_, hserver.silent hsent hsilent⟩
    rw [hsilent] at htoken
    cases htoken
  | @handleGone before m later request hgone hbody =>
    have hunhandled : s.unhandled.Perm ((before ++ m :: later ++ s.sent).filterMap PageMessage.token?) := by
      rw [← hgone]
      exact List.perm_append_comm.filterMap _
    have hnow : (({ s with gone := before ++ later }).handled auth clk request).2.unhandled.Perm
        ((before ++ later ++ s.sent).filterMap PageMessage.token?) :=
      List.perm_append_comm.filterMap _
    have honce := hunhandled.nodup_iff.1 hpage.unhandledOnce
    refine ⟨hpage.gone hgone _, hserver.handle hjwt rfl (fun _ => Or.inl) rfl ?_ ?_⟩
    · intro token hmem
      refine hunhandled.mem_iff.2 (List.Sublist.subset (List.Sublist.filterMap _ ?_) (hnow.mem_iff.1 hmem))
      exact ((List.sublist_cons_self _ _).append_left before).append_right _
    · intro p hp hnames
      have hmem {token : String} (htoken : m.token? = some token) : token ∈ s.unhandled :=
        hunhandled.mem_iff.2 (List.mem_filterMap.2 ⟨m, by simp, htoken⟩)
      have htoken := names_request hserver hpage hjwt hbody (fun _ => hmem) hp hnames
      exact ⟨hpage.unhandled _ (hmem htoken), fun hin =>
        unhandled_split honce htoken (hnow.mem_iff.1 hin)⟩
  | lose hsent => exact ⟨hpage.reply hsent _ nofun, hserver.silent hsent rfl⟩
  | loseReply hreplies =>
    exact ⟨hpage.loseReply hreplies, hserver.page rfl rfl (fun _ => id) fun _ => Or.inl⟩
  | deliver hreplies =>
    have hkept := hpage.deliver hreplies
    exact ⟨hkept, hserver.ran hkept⟩
  | others b hapart =>
    refine ⟨hpage.server _, hserver.handle hjwt rfl (fun _ => Or.inl) rfl (fun _ => id) ?_⟩
    exact fun p hp hnames => absurd hnames (hapart p hp)

/-- **Run**: whatever happens from when a tab is opened on. -/
theorem PageSafe.run (hjwt : auth.jwt.TellsApart) {w : Session Store} (hw : TokensDrawn w)
    (hrun : Relation.ReflTransGen (PageStep auth clk client) { server := w } s) : PageSafe auth s := by
  induction hrun with
  | refl =>
    refine ⟨.start w, hw, nofun, nofun, nofun⟩
  | tail _ hstep ih => exact ih.step hjwt hstep

end

/-- **The session of a page: whatever requests the pages of a tab send, whatever is lost, in whatever
order the answers come, and wherever the user logs in, logs out or leaves the page, the page awaits one
exchange at most, and that of the token that requests wait for; it presents every refresh token once at
most, and only tokens that were issued to it; and what it presented and the server has not handled was
not exchanged before.** -/
theorem page_presents_once (auth : AuthConfig) (hjwt : auth.jwt.TellsApart) (clk : ℕ → ℤ)
    (client : ClientInfo) (w : Session Store) (hw : TokensDrawn w) (s : PageSystem)
    (hrun : Relation.ReflTransGen (PageStep auth clk client) { server := w } s) :
    s.awaited.length ≤ 1 ∧
      (∀ r, s.page.refreshing = some r → s.awaited = [r.presented] ∧ r.waiting ≠ []) ∧
      s.presented.Nodup ∧ (∀ token ∈ s.presented, token ∈ s.issued) ∧
      ∀ p, auth.jwt.encode p ∈ s.unhandled → ¬ Exchanged p.jti s.server.committed := by
  obtain ⟨hpage, hserver⟩ := PageSafe.run hjwt hw hrun
  have hsingle := hpage.single
  refine ⟨?_, fun r hr => ⟨?_, hpage.waited r hr⟩, hpage.once, hpage.presented, fun p hp hexchanged => ?_⟩
  · rw [hsingle.length_eq]
    cases s.page.refreshing <;> simp
  · rw [hr] at hsingle
    exact List.perm_singleton.1 hsingle
  · have hissued := hpage.presented _ (hpage.unhandled _ hp)
    exact (hserver.exchanged p hissued hexchanged).2 hp

/-! ### Two requests that fail together -/

/-- The claims of the tokens that are issued below. -/
def tabPayloads : List TokenPayload :=
  [{ sub := 1, type := "refresh", iat := 0, exp := 604800000000, jti := 11 },
    { sub := 1, type := "refresh", iat := 0, exp := 604800000000, jti := 14 }]

/-- The text of a token in a library that writes the identifier. -/
def tabText (jti : ℕ) : String := String.ofList (List.replicate (jti + 1) 't')

/-- A library that writes the identifier, and reads these tokens. -/
def tabAuth : AuthConfig where
  jwt :=
    { encode := fun payload => tabText payload.jti
      decode := fun now text => tabPayloads.find? fun payload =>
        decide (tabText payload.jti = text ∧ now < payload.exp) }
  hasher := heldAuth.hasher

theorem length_tabText (jti : ℕ) : (tabText jti).length = jti + 1 := by
  rw [tabText, String.length_ofList, List.length_replicate]

theorem tabText_inj {m n : ℕ} (h : tabText m = tabText n) : m = n := by
  have hlength := congrArg String.length h
  rw [length_tabText, length_tabText] at hlength
  exact Nat.succ.inj hlength

theorem tabAuth_tellsApart : tabAuth.jwt.TellsApart where
  nonempty p h := by
    have hlength : (tabText p.jti).length = 0 := congrArg String.length h
    rw [length_tabText] at hlength
    cases hlength
  name p q h := tabText_inj h
  decode now p q h := by
    have hfound : tabPayloads.find? (fun payload =>
      decide (tabText payload.jti = tabText p.jti ∧ now < payload.exp)) = some q := h
    have htext := List.find?_some hfound
    exact tabText_inj (of_decide_eq_true htext).1

/-- What a schedule lets happen: the page asks, the server handles what came first, as unauthorized
where that is no request on tokens, or the page takes the answer that came first. -/
inductive TabMove where
  | ask (url : String)
  | login (username password : String)
  | serve
  | take

/-- The next state of a tab. -/
def TabMove.next (auth : AuthConfig) (s : PageSystem) : TabMove → Option PageSystem
  | .ask url => some (s.ran (s.page.ask (.call url)))
  | .login username password => some (s.ran (s.page.ask (.login username password)))
  | .serve =>
    match s.sent with
    | [] => none
    | m :: later =>
      match m.request {} with
      | none => some ({ s with sent := later }.reply m .unauthorized)
      | some request => some ((({ s with sent := later }).handled auth (fun _ => 0) request).2.reply m
          (s.handled auth (fun _ => 0) request).1)
  | .take =>
    match s.replies with
    | [] => none
    | (m, r) :: later => some ({ s with replies := later }.ran (s.page.receive m r))

theorem TabMove.next_step {auth : AuthConfig} {s s' : PageSystem} {move : TabMove}
    (h : move.next auth s = some s') : PageStep auth (fun _ => 0) {} s s' := by
  cases move with
  | ask url =>
    cases h
    exact .ask _ nofun
  | login username password =>
    cases h
    exact .ask _ nofun
  | serve =>
    simp only [TabMove.next] at h
    split at h
    · cases h
    · rename_i m later hsent
      split at h <;> cases h
      · exact @PageStep.answer _ _ _ s [] m later .unauthorized hsent ‹_› rfl
      · exact @PageStep.handle _ _ _ s [] m later _ hsent ‹_›
  | take =>
    simp only [TabMove.next] at h
    split at h <;> cases h
    exact @PageStep.deliver _ _ _ s [] _ _ _ ‹_›

/-- A run of moves. -/
def runTab (auth : AuthConfig) (moves : List TabMove) (s : PageSystem) : Option PageSystem :=
  moves.foldlM (TabMove.next auth) s

theorem runTab_run {auth : AuthConfig} {moves : List TabMove} {s s' : PageSystem}
    (h : runTab auth moves s = some s') :
    Relation.ReflTransGen (PageStep auth (fun _ => 0) {}) s s' := by
  induction moves generalizing s with
  | nil =>
    cases h
    exact .refl
  | cons move moves ih =>
    simp only [runTab, List.foldlM_cons, Option.bind_eq_bind, Option.bind_eq_some_iff] at h
    obtain ⟨s₁, hstep, hrest⟩ := h
    exact .head (TabMove.next_step hstep) (ih hrest)

/-- A tab that a user opens. -/
def tab : PageSystem where
  server := .fresh { users := [freeUser] } 10 0

/-- The user logs in, two requests are not authorized, and the token is exchanged once. -/
def twoFailures : List TabMove :=
  [.login "operator" "secret", .serve, .take, .ask "/gates", .serve, .serve, .take, .take, .serve, .take]

theorem page_presents_once_tab :
    ∃ s, Relation.ReflTransGen (PageStep tabAuth (fun _ => 0) {}) tab s ∧
      s.presented = [tabText 11] ∧ s.page.tokens.refresh = tabText 14 ∧
      s.awaited.length ≤ 1 ∧
      (∀ r, s.page.refreshing = some r → s.awaited = [r.presented] ∧ r.waiting ≠ []) ∧
      s.presented.Nodup ∧ (∀ token ∈ s.presented, token ∈ s.issued) ∧
      ∀ p, tabAuth.jwt.encode p ∈ s.unhandled → ¬ Exchanged p.jti s.server.committed := by
  have hrun : (runTab tabAuth twoFailures tab).any (fun s =>
      s.presented == [tabText 11] && s.page.tokens.refresh == tabText 14) = true := by decide +kernel
  obtain ⟨s, hs, hends⟩ := (Option.any_eq_true _ _).1 hrun
  simp only [Bool.and_eq_true, beq_iff_eq] at hends
  have hdrawn : TokensDrawn tab.server := ⟨List.nodup_nil, nofun, nofun⟩
  exact ⟨s, runTab_run hs, hends.1, hends.2, page_presents_once tabAuth tabAuth_tellsApart (fun _ => 0) {}
    tab.server hdrawn s (runTab_run hs)⟩

end ParkingSystem
