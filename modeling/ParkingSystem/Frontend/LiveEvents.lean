import ParkingSystem.Realtime

/-!
# The Live List

`useLiveEvents` of `ws.ts` with the server: a component shows the newest events it was told of, over a
socket that is opened again, some time after it closes, until the component goes.

A browser hands messages over while a socket is open, in the order they were sent, and reports the
closing of a socket once, also when the script asked for it. The pings, and their answers, which the
list passes over, change nothing and are left out.

## Why nothing is shown twice

A broadcast goes to each user once, to the sockets the user has at that time. A socket that is opened
after another one closed is not among them, and later the broadcast has gone past its user.
-/

namespace ParkingSystem

/-! ## The hook -/

/-- `readyState`. -/
inductive ReadyState where
  | connecting
  | opened
  | closing
  | closed
  deriving DecidableEq, Repr

/-- A timeout that is pending, and when it is due, in milliseconds. -/
structure Timeout where
  id : ℕ
  due : ℕ
  deriving DecidableEq, Repr

/-- The state of a mounted `useLiveEvents(max)`: its variables, the sockets it made, and the timeouts
that are pending. `attempts` is when it made its sockets, and `shown` what it was told, and on which
socket, the newest first. -/
structure LiveHook where
  max : ℕ
  closed : Bool := false
  ws : Option ℕ := none
  timer : Option ℕ := none
  retry : ℕ := 0
  connected : Bool := false
  events : List ℕ := []
  readyState : ℕ → Option ReadyState := fun _ => none
  timeouts : List Timeout := []
  nextTimeout : ℕ := 0
  now : ℕ := 0
  attempts : List ℕ := []
  shown : List (ℕ × ℕ) := []

/-- `Math.min(1000 * 2 ** retry, 15000)`. -/
def reconnectDelay (retry : ℕ) : ℕ := min (1000 * 2 ^ retry) 15000

namespace LiveHook

/-- `connect`. -/
def connect (hook : LiveHook) (ws : ℕ) : LiveHook :=
  if hook.closed then hook
  else
    { hook with
      ws := some ws
      readyState := Function.update hook.readyState ws (some .connecting)
      attempts := hook.now :: hook.attempts }

/-- `ws.onopen`. -/
def onopen (hook : LiveHook) (ws : ℕ) : LiveHook :=
  { hook with
    readyState := Function.update hook.readyState ws (some .opened), connected := true, retry := 0 }

/-- `ws.onclose`. The timeout is set also when the component has gone. -/
def onclose (hook : LiveHook) (ws : ℕ) : LiveHook :=
  { hook with
    readyState := Function.update hook.readyState ws (some .closed)
    connected := false
    timer := some hook.nextTimeout
    timeouts := ⟨hook.nextTimeout, hook.now + reconnectDelay hook.retry⟩ :: hook.timeouts
    nextTimeout := hook.nextTimeout + 1
    retry := hook.retry + 1 }

/-- `ws.onmessage`, with an event. -/
def onmessage (hook : LiveHook) (ws event : ℕ) : LiveHook :=
  { hook with
    events := (event :: hook.events).take hook.max, shown := (ws, event) :: hook.shown }

/-- `ws.close()`. -/
def close (readyState : ℕ → Option ReadyState) (ws : ℕ) : ℕ → Option ReadyState :=
  match readyState ws with
  | some .connecting => Function.update readyState ws (some .closing)
  | some .opened => Function.update readyState ws (some .closing)
  | _ => readyState

/-- What the effect returns: the component goes. -/
def cleanup (hook : LiveHook) : LiveHook :=
  { hook with
    closed := true
    timeouts := hook.timeouts.filter fun t => some t.id ≠ hook.timer
    readyState := hook.ws.elim hook.readyState (close hook.readyState) }

/-- The component is mounted while somebody is logged in; `retry` outlives the effect. -/
def mount (max retry now ws : ℕ) : LiveHook := ({ max, retry, now } : LiveHook).connect ws

end LiveHook

/-! ## The hook and the server -/

/-- A component that shows live events, and the server. -/
structure LiveTab where
  server : Realtime
  hook : LiveHook

/-- What was sent to a socket without an error, in order. -/
def Realtime.incoming (w : Realtime) (ws : ℕ) : List ℕ :=
  (w.log.filter fun e => e.socket = ws ∧ e.delivered = true).map Sent.event

/-- What a hook was told on a socket, in order. -/
def LiveHook.told (hook : LiveHook) (ws : ℕ) : List ℕ :=
  ((hook.shown.filter fun entry => entry.1 = ws).map Prod.snd).reverse

/-- What happens next, where `user` is logged in: the server goes on, or accepts a socket of the hook;
a socket opens, closes or brings a message; time passes or a timeout fires; the component goes. -/
inductive LiveStep (auth : AuthConfig) (user : ℕ) : LiveTab → LiveTab → Prop where
  | server {v s} (step : RealtimeStep auth v.server s)
      (foreign : ∀ ws, v.hook.readyState ws ≠ none → v.server.owner ws = none → s.owner ws = none) :
      LiveStep auth user v { v with server := s }
  | accepted {v} (ws : ℕ) (now : ℤ) (token : String) (payload : TokenPayload)
      (mine : v.hook.readyState ws ≠ none) (new : v.server.owner ws = none)
      (shown : auth.jwt.decode now token = some payload) (access : payload.type = "access")
      (same : payload.sub = user) : LiveStep auth user v { v with server := v.server.accept user ws }
  | opens {v} (ws : ℕ) (connecting : v.hook.readyState ws = some .connecting)
      (known : v.server.owner ws ≠ none) : LiveStep auth user v { v with hook := v.hook.onopen ws }
  | closes {v} (ws : ℕ) (state : ReadyState) (mine : v.hook.readyState ws = some state)
      (still : state ≠ .closed) : LiveStep auth user v { v with hook := v.hook.onclose ws }
  | message {v} (ws event : ℕ) (opened : v.hook.readyState ws = some .opened)
      (next : (v.server.incoming ws)[(v.hook.told ws).length]? = some event) :
      LiveStep auth user v { v with hook := v.hook.onmessage ws event }
  | passes {v} (d : ℕ) : LiveStep auth user v { v with hook.now := v.hook.now + d }
  | fires {v} (t : Timeout) (ws : ℕ) (pending : t ∈ v.hook.timeouts) (due : t.due ≤ v.hook.now)
      (new : v.hook.readyState ws = none) (unknown : v.server.owner ws = none) :
      LiveStep auth user v
        { v with hook := { v.hook with timeouts := v.hook.timeouts.erase t }.connect ws }
  | unmount {v} (mounted : v.hook.closed = false) :
      LiveStep auth user v { v with hook := v.hook.cleanup }

/-- A run of the two. -/
abbrev LiveRun (auth : AuthConfig) (user : ℕ) : LiveTab → LiveTab → Prop :=
  Relation.ReflTransGen (LiveStep auth user)

/-! ## One socket at a time -/

/-- What a mounted hook waits for: one socket, while every other one is closed, or one timeout, while
all of them are. -/
inductive Awaits (start : ℕ) (hook : LiveHook) : Prop where
  | socket (ws : ℕ) (mine : hook.ws = some ws)
    (live : hook.readyState ws = some .connecting ∨ hook.readyState ws = some .opened)
    (others : ∀ ws', ws' ≠ ws → hook.readyState ws' = none ∨ hook.readyState ws' = some .closed)
    (idle : hook.timeouts = [])
  | timeout (t : Timeout) (mine : hook.timer = some t.id) (one : hook.timeouts = [t])
    (soon : t.due ≤ hook.now + 15000) (late : start + 1000 * hook.attempts.length ≤ t.due)
    (down : ∀ ws, hook.readyState ws = none ∨ hook.readyState ws = some .closed)

/-- A hook that was mounted at `start`. -/
structure HookKept (start : ℕ) (hook : LiveHook) : Prop where
  mounted : hook.closed = false → Awaits start hook
  gone : hook.closed = true →
    ∀ ws, hook.readyState ws ≠ some .connecting ∧ hook.readyState ws ≠ some .opened
  paced : start + 1000 * hook.attempts.length ≤ hook.now + 1000

theorem reconnectDelay_bounds (retry : ℕ) :
    1000 ≤ reconnectDelay retry ∧ reconnectDelay retry ≤ 15000 := by
  have hpow : 1 ≤ 2 ^ retry := Nat.one_le_two_pow
  unfold reconnectDelay
  omega

/-- A socket is on its way up or is closed, not both. -/
theorem not_live_and_down {state : Option ReadyState}
    (hlive : state = some .connecting ∨ state = some .opened)
    (hdown : state = none ∨ state = some .closed) : False := by
  rcases hlive with rfl | rfl <;> rcases hdown with h | h <;> cases h

section

variable {start : ℕ} {hook : LiveHook} {ws : ℕ}

theorem HookKept.mount (max retry now ws : ℕ) : HookKept now (LiveHook.mount max retry now ws) := by
  refine ⟨fun _ => .socket ws rfl (.inl (Function.update_self ..)) (fun ws' hne => ?_) rfl, nofun, ?_⟩
  · exact .inl (Function.update_of_ne hne _ _)
  · simp [LiveHook.mount, LiveHook.connect]

/-- The socket that is not closed is the one the hook waits for. -/
theorem HookKept.live_ws (h : HookKept start hook)
    (hlive : hook.readyState ws = some .connecting ∨ hook.readyState ws = some .opened) :
    hook.closed = false ∧ hook.timeouts = [] ∧ hook.ws = some ws ∧
      ∀ ws', ws' ≠ ws → hook.readyState ws' = none ∨ hook.readyState ws' = some .closed := by
  have hmounted : hook.closed = false := by
    by_contra hclosed
    have hgone := h.gone (by simpa using hclosed) ws
    exact hlive.elim hgone.1 hgone.2
  refine ⟨hmounted, ?_⟩
  cases h.mounted hmounted with
  | socket ws₀ mine live others idle =>
    obtain rfl : ws = ws₀ := by
      by_contra hne
      exact not_live_and_down hlive (others ws hne)
    exact ⟨idle, mine, others⟩
  | timeout t mine one soon late down => exact (not_live_and_down hlive (down ws)).elim

theorem HookKept.onopen (h : HookKept start hook) (hws : hook.readyState ws = some .connecting) :
    HookKept start (hook.onopen ws) := by
  obtain ⟨hmounted, hidle, hmine, hothers⟩ := h.live_ws (.inl hws)
  refine ⟨fun _ => .socket ws hmine (.inr (Function.update_self ..)) (fun ws' hne => ?_) hidle,
    fun hclosed => ?_, h.paced⟩
  · simpa [LiveHook.onopen, Function.update_of_ne hne] using hothers ws' hne
  · exact absurd (hmounted.symm.trans hclosed) Bool.false_ne_true

/-- A socket closes: if the hook is mounted it was the one it waited for. -/
theorem HookKept.onclose (h : HookKept start hook) {state : ReadyState}
    (hws : hook.readyState ws = some state) (hstill : state ≠ .closed) :
    HookKept start (hook.onclose ws) := by
  have hdelay := reconnectDelay_bounds hook.retry
  have hpaced := h.paced
  have hup (hdown : hook.readyState ws = none ∨ hook.readyState ws = some .closed) : False := by
    rcases hdown with hnone | hclosed
    · exact absurd (hws.symm.trans hnone) nofun
    · exact hstill (Option.some.inj (hws.symm.trans hclosed))
  refine ⟨fun hmounted => ?_, fun hclosed ws' => ?_, h.paced⟩
  · have hdown : hook.timeouts = [] ∧
        ∀ ws', ws' ≠ ws → hook.readyState ws' = none ∨ hook.readyState ws' = some .closed := by
      cases h.mounted hmounted with
      | socket ws₀ mine live others idle =>
        obtain rfl : ws = ws₀ := by
          by_contra hne
          exact hup (others ws hne)
        exact ⟨idle, others⟩
      | timeout t mine one soon late down => exact (hup (down ws)).elim
    refine .timeout ⟨hook.nextTimeout, hook.now + reconnectDelay hook.retry⟩ rfl
      (by simp [LiveHook.onclose, hdown.1]) ?_ ?_ fun ws' => ?_
    · exact Nat.add_le_add_left hdelay.2 _
    · show start + 1000 * hook.attempts.length ≤ hook.now + reconnectDelay hook.retry
      omega
    · by_cases hne : ws' = ws
      · exact .inr (by simp [LiveHook.onclose, hne])
      · simpa [LiveHook.onclose, Function.update_of_ne hne] using hdown.2 ws' hne
  · by_cases hne : ws' = ws
    · simp [LiveHook.onclose, hne]
    · simpa [LiveHook.onclose, Function.update_of_ne hne] using h.gone hclosed ws'

/-- A timeout fires: a hook that is mounted makes a socket, one that has gone does not. -/
theorem HookKept.fires (h : HookKept start hook) {t : Timeout} (hpending : t ∈ hook.timeouts)
    (hdue : t.due ≤ hook.now) :
    HookKept start ({ hook with timeouts := hook.timeouts.erase t }.connect ws) := by
  unfold LiveHook.connect
  split
  · rename_i hclosed
    exact ⟨fun hmounted => absurd (hmounted.symm.trans hclosed) Bool.false_ne_true, h.gone, h.paced⟩
  · rename_i hmounted
    have hmounted : hook.closed = false := by simpa using hmounted
    cases h.mounted hmounted with
    | socket ws₀ mine live others idle =>
      rw [idle] at hpending
      cases hpending
    | timeout t₀ mine one soon late down =>
      rw [one] at hpending
      obtain rfl := List.mem_singleton.1 hpending
      refine ⟨fun _ => .socket ws rfl (.inl (Function.update_self ..)) (fun ws' hne => ?_) ?_,
        fun hclosed => ?_, ?_⟩
      · simpa [Function.update_of_ne hne] using down ws'
      · simp [one]
      · exact absurd (hmounted.symm.trans hclosed) Bool.false_ne_true
      · simp only [List.length_cons]
        omega

theorem HookKept.passes (h : HookKept start hook) (d : ℕ) :
    HookKept start { hook with now := hook.now + d } where
  mounted hmounted := by
    cases h.mounted hmounted with
    | socket ws mine live others idle => exact .socket ws mine live others idle
    | timeout t mine one soon late down =>
      exact .timeout t mine one (soon.trans (by dsimp only; omega)) late down
  gone := h.gone
  paced := h.paced.trans (by dsimp only; omega)

/-- `close` makes no socket, and opens none. -/
theorem close_readyState (readyState : ℕ → Option ReadyState) (ws ws' : ℕ) :
    (LiveHook.close readyState ws ws' = none ↔ readyState ws' = none) ∧
      (LiveHook.close readyState ws ws' = readyState ws' ∨
        LiveHook.close readyState ws ws' = some .closing) := by
  have hclosing (hws : readyState ws ≠ none) :
      (Function.update readyState ws (some .closing) ws' = none ↔ readyState ws' = none) ∧
        (Function.update readyState ws (some .closing) ws' = readyState ws' ∨
          Function.update readyState ws (some .closing) ws' = some .closing) := by
    by_cases hne : ws' = ws
    · subst hne
      simp [hws]
    · simp [Function.update_of_ne hne]
  unfold LiveHook.close
  cases hws : readyState ws with
  | none => exact ⟨Iff.rfl, .inl rfl⟩
  | some state =>
    have hsome : readyState ws ≠ none := by
      rw [hws]
      exact nofun
    cases state with
    | connecting => exact hclosing hsome
    | opened => exact hclosing hsome
    | closing => exact ⟨Iff.rfl, .inl rfl⟩
    | closed => exact ⟨Iff.rfl, .inl rfl⟩

/-- The component goes: its socket is closing, and its timeout was cleared. -/
theorem HookKept.cleanup (h : HookKept start hook) (hmounted : hook.closed = false) :
    HookKept start hook.cleanup := by
  refine ⟨nofun, fun _ ws' => ?_, h.paced⟩
  unfold LiveHook.cleanup
  cases h.mounted hmounted with
  | socket ws mine live others idle =>
    by_cases hne : ws' = ws
    · subst hne
      rcases live with hlive | hlive <;> simp [mine, LiveHook.close, hlive]
    · rcases live with hlive | hlive <;>
        rcases others ws' hne with hother | hother <;>
          simp [mine, LiveHook.close, hlive, Function.update_of_ne hne, hother]
  | timeout t mine one soon late down =>
    cases hws : hook.ws with
    | none => rcases down ws' with hdown | hdown <;> simp [hdown]
    | some ws =>
      rcases down ws with hlast | hlast <;> rcases down ws' with hdown | hdown <;>
        simp [LiveHook.close, hlast, hdown]

end

/-! ## Users a broadcast has gone past -/

section

open ConnectionManager

variable {auth : AuthConfig} {w w' : Realtime} {user ws event : ℕ}

/-- A broadcast comes to each user once, and no more to one whose socket it was sent to. -/
structure Visited (w : Realtime) : Prop where
  once : ∀ event b, w.live event = some b → (b.users.map Prod.fst).Nodup ∧ b.user ∉ b.users.map Prod.fst
  past : ∀ e ∈ w.log, ∀ b, w.live e.event = some b → ∀ u, w.owner e.socket = some u →
    u ∉ b.users.map Prod.fst

/-- The next entry with a socket, and the entries after it. -/
theorem nextUser_entry {mgr : ConnectionManager} {dead users : List (ℕ × ℕ)} {b : Sending}
    (h : mgr.nextUser dead users = some b) :
    ∃ ref, (b.user, ref) :: b.users <:+ users ∧ mgr.sets ref = b.socket :: b.rest := by
  induction users with
  | nil => cases h
  | cons entry users ih =>
    obtain ⟨u, ref⟩ := entry
    simp only [ConnectionManager.nextUser] at h
    cases hset : mgr.sets ref with
    | nil =>
      rw [hset] at h
      obtain ⟨ref', hsuffix, hsockets⟩ := ih h
      exact ⟨ref', hsuffix.trans (List.suffix_cons _ _), hsockets⟩
    | cons ws rest =>
      rw [hset] at h
      cases h
      exact ⟨ref, List.suffix_refl _, hset⟩

/-- The users that are left, when a broadcast comes to the next. -/
theorem nextUser_users {mgr : ConnectionManager} {dead users : List (ℕ × ℕ)} {b : Sending}
    (h : mgr.nextUser dead users = some b) (hnodup : (users.map Prod.fst).Nodup) :
    ((b.users.map Prod.fst).Nodup ∧ b.user ∉ b.users.map Prod.fst) ∧
      ∀ u, u = b.user ∨ u ∈ b.users.map Prod.fst → u ∈ users.map Prod.fst := by
  obtain ⟨ref, hsuffix, -⟩ := nextUser_entry h
  have hsub : (b.user :: b.users.map Prod.fst).Sublist (users.map Prod.fst) :=
    (hsuffix.map Prod.fst).sublist
  have hleft := List.nodup_cons.1 (hnodup.sublist hsub)
  exact ⟨⟨hleft.2, hleft.1⟩, fun u hu => hsub.subset (List.mem_cons.2 hu)⟩

/-- Where a broadcast goes on to: what is left of the user's set, or the next user. -/
theorem next_cases {mgr : ConnectionManager} {u : ℕ} {rest : List ℕ} {users dead : List (ℕ × ℕ)}
    {b : Sending} (h : mgr.next u rest users dead = some b) :
    (b.user = u ∧ b.users = users ∧ rest = b.socket :: b.rest) ∨
      rest = [] ∧ mgr.nextUser dead users = some b := by
  unfold ConnectionManager.next at h
  cases rest with
  | nil => exact .inr ⟨rfl, h⟩
  | cons ws rest =>
    cases h
    exact .inl ⟨rfl, rfl, rfl⟩

/-- What the begin of a broadcast changes, but for the sockets. -/
theorem begin_parts (w : Realtime) (event : ℕ) :
    (w.begin event).live =
        Function.update w.live event (w.manager.nextUser [] w.manager.active) ∧
      (w.begin event).log = w.log ∧ (w.begin event).owner = w.owner ∧
        (w.begin event).began =
          Function.update w.began event (some (Realtime.sockets w.manager)) := by
  unfold Realtime.begin
  cases w.manager.nextUser [] w.manager.active with
  | none => exact ⟨rfl, rfl, rfl, rfl⟩
  | some b => exact ⟨rfl, rfl, rfl, rfl⟩

/-- What the end of a send changes, but for the sockets. -/
theorem sent_parts (w : Realtime) (event : ℕ) (b : Sending) (delivered : Bool) :
    (∃ dead, (w.sent event b delivered).live =
        Function.update w.live event (w.manager.next b.user b.rest b.users dead)) ∧
      (w.sent event b delivered).log = w.log ++ [⟨event, b.socket, delivered⟩] ∧
        (w.sent event b delivered).owner = w.owner ∧ (w.sent event b delivered).began = w.began := by
  unfold Realtime.sent
  dsimp only
  generalize (if delivered then b.dead else b.dead ++ [(b.user, b.socket)]) = dead
  refine ⟨⟨dead, ?_⟩, ?_, ?_, ?_⟩ <;> cases w.manager.next b.user b.rest b.users dead <;> rfl

theorem Visited.start : Visited {} := ⟨nofun, nofun⟩

/-- **Step**: whatever happens next, broadcasts come to each user once. -/
theorem Visited.step (h : Visited w) (hkept : RealtimeKept w) (hevents : ∀ e, EventKept w e)
    (hstep : RealtimeStep auth w w') : Visited w' := by
  cases hstep with
  | connect ws now token payload hnew hshown haccess =>
    refine ⟨h.once, fun e he b hb u hu => h.past e he b hb u ?_⟩
    -- whoever was sent something had an owner before
    have hne : e.socket ≠ ws := by
      rintro rfl
      exact (hkept.known e he).1 hnew
    exact (Function.update_of_ne hne _ _).symm.trans hu
  | disconnect user ws howner => exact ⟨h.once, h.past⟩
  | begin event hnew =>
    obtain ⟨hlive, hlog, howner, -⟩ := begin_parts w event
    refine ⟨fun e b hb => ?_, fun e he b hb u hu => ?_⟩
    · rw [hlive] at hb
      by_cases hne : e = event
      · subst hne
        rw [Function.update_self] at hb
        exact (nextUser_users hb hkept.manager.users).1
      · rw [Function.update_of_ne hne] at hb
        exact h.once e b hb
    · rw [hlog] at he
      rw [hlive] at hb
      rw [howner] at hu
      have hne : e.event ≠ event := by
        rintro rfl
        exact (hkept.known e he).2 hnew
      rw [Function.update_of_ne hne] at hb
      exact h.past e he b hb u hu
  | sent event b₀ delivered hb₀ =>
    have hevent := hevents event
    unfold EventKept at hevent
    rw [hb₀] at hevent
    have howner₀ := hevent.2.owners b₀.socket List.mem_cons_self
    obtain ⟨hnodup, huser⟩ := h.once event b₀ hb₀
    obtain ⟨⟨dead, hlive⟩, hlog, howner, -⟩ := sent_parts w event b₀ delivered
    -- the users that are left are among those that were
    have hleft {b : Sending} (hb : w.manager.next b₀.user b₀.rest b₀.users dead = some b) :
        ((b.users.map Prod.fst).Nodup ∧ b.user ∉ b.users.map Prod.fst) ∧
          ∀ u ∈ b.users.map Prod.fst, u ∈ b₀.users.map Prod.fst := by
      rcases next_cases hb with ⟨hsame, husers, -⟩ | ⟨-, hnext⟩
      · rw [hsame, husers]
        exact ⟨⟨hnodup, huser⟩, fun _ => id⟩
      · obtain ⟨honce, hmem⟩ := nextUser_users hnext hnodup
        exact ⟨honce, fun u hu => hmem u (.inr hu)⟩
    refine ⟨fun e b hb => ?_, fun e he b hb u hu => ?_⟩
    · rw [hlive] at hb
      by_cases hne : e = event
      · subst hne
        rw [Function.update_self] at hb
        exact (hleft hb).1
      · rw [Function.update_of_ne hne] at hb
        exact h.once e b hb
    · rw [hlog] at he
      rw [hlive] at hb
      rw [howner] at hu
      by_cases hne : e.event = event
      · rw [hne, Function.update_self] at hb
        intro hmem
        have hbefore := (hleft hb).2 u hmem
        rcases List.mem_append.1 he with hold | hnew
        · exact h.past e hold b₀ (hne ▸ hb₀) u hu hbefore
        · obtain rfl := List.mem_singleton.1 hnew
          obtain rfl : b₀.user = u := Option.some.inj (howner₀.symm.trans hu)
          exact huser hbefore
      · rw [Function.update_of_ne hne] at hb
        rcases List.mem_append.1 he with hold | hnew
        · exact h.past e hold b hb u hu
        · obtain rfl := List.mem_singleton.1 hnew
          exact absurd rfl hne

/-- A socket that is, or will be, of `user` misses an event: the broadcast has gone past. -/
structure Missed (user : ℕ) (w : Realtime) (event ws : ℕ) : Prop where
  began : w.began event ≠ none
  unsent : ∀ delivered, ⟨event, ws, delivered⟩ ∉ w.log
  past : ∀ b, w.live event = some b → ws ∉ b.socket :: b.rest ∧ user ∉ b.users.map Prod.fst

/-- A socket that nobody had before misses what another socket of the user was sent. -/
theorem Visited.missed (h : Visited w) (hkept : RealtimeKept w) (hevents : ∀ e, EventKept w e)
    (hnew : w.owner ws = none) {e : Sent} (he : e ∈ w.log) (howner : w.owner e.socket = some user) :
    Missed user w e.event ws := by
  refine ⟨(hkept.known e he).2, fun delivered hmem => (hkept.known _ hmem).1 hnew, fun b hb => ?_⟩
  refine ⟨fun hmem => ?_, h.past e he b hb user howner⟩
  have hevent := hevents e.event
  unfold EventKept at hevent
  rw [hb] at hevent
  exact absurd ((hevent.2.owners ws hmem).symm.trans hnew) nofun

/-- **Step**: a socket that misses an event goes on to miss it. -/
theorem Missed.step (h : Missed user w event ws) (hkept : RealtimeKept w)
    (hevents : ∀ e, EventKept w e) (hmine : ∀ u, w.owner ws = some u → u = user)
    (hstep : RealtimeStep auth w w') : Missed user w' event ws := by
  cases hstep with
  | connect ws' now token payload hnew hshown haccess => exact ⟨h.began, h.unsent, h.past⟩
  | disconnect u ws' howner => exact ⟨h.began, h.unsent, h.past⟩
  | begin event' hnew =>
    have hne : event ≠ event' := by
      rintro rfl
      exact h.began hnew
    obtain ⟨hlive, hlog, -, hbegan⟩ := begin_parts w event'
    refine ⟨?_, fun delivered hmem => ?_, fun b hb => ?_⟩
    · rw [hbegan, Function.update_of_ne hne]
      exact h.began
    · rw [hlog] at hmem
      exact h.unsent delivered hmem
    · rw [hlive, Function.update_of_ne hne] at hb
      exact h.past b hb
  | sent event' b₀ delivered₀ hb₀ =>
    obtain ⟨⟨dead, hlive⟩, hlog, -, hbegan⟩ := sent_parts w event' b₀ delivered₀
    refine ⟨?_, fun delivered hmem => ?_, fun b hb => ?_⟩
    · rw [hbegan]
      exact h.began
    · rw [hlog] at hmem
      rcases List.mem_append.1 hmem with hold | hnew
      · exact h.unsent delivered hold
      · cases List.mem_singleton.1 hnew
        exact (h.past b₀ hb₀).1 List.mem_cons_self
    · rw [hlive] at hb
      by_cases hne : event = event'
      · subst hne
        rw [Function.update_self] at hb
        obtain ⟨hpending, husers⟩ := h.past b₀ hb₀
        rcases next_cases hb with ⟨-, hsame, hrest⟩ | ⟨-, hnext⟩
        · rw [← hrest, hsame]
          exact ⟨fun hmem => hpending (List.mem_cons_of_mem _ hmem), husers⟩
        · obtain ⟨ref, hsuffix, hset⟩ := nextUser_entry hnext
          have hsub : (b.user :: b.users.map Prod.fst).Sublist (b₀.users.map Prod.fst) :=
            (hsuffix.map Prod.fst).sublist
          refine ⟨fun hmem => ?_, fun hmem => husers (hsub.subset (List.mem_cons_of_mem _ hmem))⟩
          -- the set that is copied is another user's
          have hevent := hevents event
          unfold EventKept at hevent
          rw [hb₀] at hevent
          obtain ⟨u, howner, hentry⟩ := hkept.manager.owned ref ws (hset ▸ hmem)
          have hu := hevent.2.agrees (b.user, ref) (hsuffix.subset List.mem_cons_self) u hentry
          obtain rfl := hmine u howner
          exact husers (hsub.subset (hu ▸ List.mem_cons_self))
      · rw [Function.update_of_ne hne] at hb
        exact h.past b hb

end

/-! ## What is shown -/

section

variable {auth : AuthConfig} {user start max : ℕ} {v v' : LiveTab} {w w' : Realtime} {ws event : ℕ}

theorem Realtime.mem_incoming : event ∈ w.incoming ws ↔ ⟨event, ws, true⟩ ∈ w.log := by
  simp only [Realtime.incoming, List.mem_map, List.mem_filter, decide_eq_true_eq]
  constructor
  · rintro ⟨e, ⟨he, hsocket, hdelivered⟩, rfl⟩
    rwa [← hsocket, ← hdelivered]
  · intro he
    exact ⟨_, ⟨he, rfl, rfl⟩, rfl⟩

/-- A socket is sent an event once. -/
theorem RealtimeKept.incoming_nodup (h : RealtimeKept w) (ws : ℕ) : (w.incoming ws).Nodup := by
  have hone : (w.log.filter fun e => e.socket = ws ∧ e.delivered = true).Nodup :=
    h.once.of_map.filter _
  refine (List.nodup_map_iff_inj_on hone).2 fun e he e' he' hevent => ?_
  simp only [List.mem_filter, decide_eq_true_eq] at he he'
  exact List.inj_on_of_nodup_map h.once he.1 he'.1
    (Prod.ext hevent (he.2.1.trans he'.2.1.symm))

/-- A socket stays its user's. -/
theorem owner_step (h : RealtimeStep auth w w') (hws : w.owner ws = some user) :
    w'.owner ws = some user := by
  cases h with
  | connect ws' now token payload hnew hshown haccess =>
    refine (Function.update_of_ne ?_ _ _).trans hws
    rintro rfl
    exact absurd (hnew.symm.trans hws) nofun
  | disconnect u ws' howner => exact hws
  | begin event hnew => rwa [(begin_parts w event).2.2.1]
  | sent event b delivered hb => rwa [(sent_parts w event b delivered).2.2.1]

/-- What was sent to a socket stays sent. -/
theorem incoming_step (h : RealtimeStep auth w w') (ws : ℕ) : w.incoming ws <+: w'.incoming ws := by
  have hgrows {log log' : List Sent} (hlog : log <+: log') :
      (log.filter fun e => e.socket = ws ∧ e.delivered = true).map Sent.event <+:
        (log'.filter fun e => e.socket = ws ∧ e.delivered = true).map Sent.event :=
    (hlog.filter _).map _
  cases h with
  | connect ws' now token payload hnew hshown haccess => exact List.prefix_refl _
  | disconnect u ws' howner => exact List.prefix_refl _
  | begin event hnew =>
    have hlog : (w.begin event).log = w.log := (begin_parts w event).2.1
    exact hgrows (hlog ▸ List.prefix_refl w.log)
  | sent event b delivered hb =>
    refine hgrows ?_
    rw [(sent_parts w event b delivered).2.1]
    exact List.prefix_append _ _

theorem LiveHook.mem_told {hook : LiveHook} : event ∈ hook.told ws ↔ (ws, event) ∈ hook.shown := by
  simp [LiveHook.told]

/-- A socket that is on its way up, or open. -/
def LiveHook.Up (hook : LiveHook) (ws : ℕ) : Prop :=
  hook.readyState ws = some .connecting ∨ hook.readyState ws = some .opened

/-- The list shows what came last, nothing twice, and what is up misses what another socket brought. -/
structure TabKept (user start max : ℕ) (v : LiveTab) : Prop where
  server : RealtimeKept v.server ∧ ∀ e, EventKept v.server e
  visited : Visited v.server
  hook : HookKept start v.hook
  limit : v.hook.max = max
  owners : ∀ ws, v.hook.readyState ws ≠ none → ∀ u, v.server.owner ws = some u → u = user
  mine : ∀ entry ∈ v.hook.shown, v.hook.readyState entry.1 ≠ none
  told : ∀ ws, v.hook.told ws <+: v.server.incoming ws
  events : v.hook.events = (v.hook.shown.map Prod.snd).take max
  once : (v.hook.shown.map Prod.snd).Nodup
  missed : ∀ entry ∈ v.hook.shown, ∀ ws, v.hook.Up ws → ws ≠ entry.1 →
    Missed user v.server entry.2 ws

/-- What is shown was sent. -/
theorem TabKept.sent (h : TabKept user start max v) {entry : ℕ × ℕ} (hentry : entry ∈ v.hook.shown) :
    ⟨entry.2, entry.1, true⟩ ∈ v.server.log :=
  Realtime.mem_incoming.1 ((h.told entry.1).subset (LiveHook.mem_told.2 hentry))

/-- What is shown was sent to a socket of the user. -/
theorem TabKept.owner (h : TabKept user start max v) {entry : ℕ × ℕ} (hentry : entry ∈ v.hook.shown) :
    v.server.owner entry.1 = some user := by
  obtain ⟨u, hu⟩ := Option.ne_none_iff_exists'.1 (h.server.1.known _ (h.sent hentry)).1
  rw [hu, h.owners entry.1 (h.mine entry hentry) u hu]

theorem visited_run {s : Realtime} (hs : Relation.ReflTransGen (RealtimeStep auth) {} s) :
    (RealtimeKept s ∧ ∀ e, EventKept s e) ∧ Visited s := by
  induction hs with
  | refl => exact ⟨RealtimeKept.start, Visited.start⟩
  | tail _ hstep ih => exact ⟨ih.1.1.step ih.1.2 hstep, ih.2.step ih.1.1 ih.1.2 hstep⟩

theorem TabKept.mount {s : Realtime} (hs : Relation.ReflTransGen (RealtimeStep auth) {} s)
    (hws : s.owner ws = none) (retry : ℕ) :
    TabKept user start max ⟨s, .mount max retry start ws⟩ := by
  obtain ⟨hserver, hvisited⟩ := visited_run hs
  refine ⟨hserver, hvisited, .mount max retry start ws, rfl, fun ws' hmine u hu => ?_, nofun,
    fun _ => List.nil_prefix, List.take_nil.symm, List.nodup_nil, nofun⟩
  -- the one socket of the hook is nobody's yet
  by_cases hne : ws' = ws
  · rw [hne, hws] at hu
    cases hu
  · exact absurd (Function.update_of_ne hne _ _) hmine

/-- **Step**: the server goes on. -/
theorem TabKept.goesOn (h : TabKept user start max v) {s : Realtime}
    (hstep : RealtimeStep auth v.server s)
    (howners : ∀ ws, v.hook.readyState ws ≠ none → ∀ u, s.owner ws = some u → u = user) :
    TabKept user start max { v with server := s } where
  server := h.server.1.step h.server.2 hstep
  visited := h.visited.step h.server.1 h.server.2 hstep
  hook := h.hook
  limit := h.limit
  owners := howners
  mine := h.mine
  told ws := (h.told ws).trans (incoming_step hstep ws)
  events := h.events
  once := h.once
  missed entry hentry ws hup hne := by
    have hmine : v.hook.readyState ws ≠ none := by
      rcases hup with hup | hup <;> rw [hup] <;> exact nofun
    exact (h.missed entry hentry ws hup hne).step h.server.1 h.server.2 (h.owners ws hmine) hstep

/-- **Step**: the hook does something, but is told nothing and makes no socket. -/
theorem TabKept.silent (h : TabKept user start max v) {hook : LiveHook} (hhook : HookKept start hook)
    (hshown : hook.shown = v.hook.shown) (hevents : hook.events = v.hook.events)
    (hmax : hook.max = v.hook.max)
    (hmine : ∀ ws, hook.readyState ws = none ↔ v.hook.readyState ws = none)
    (hup : ∀ ws, hook.Up ws → v.hook.Up ws) : TabKept user start max { v with hook } where
  server := h.server
  visited := h.visited
  hook := hhook
  limit := hmax.trans h.limit
  owners ws hws := h.owners ws (mt (hmine ws).2 hws)
  mine entry hentry := mt (hmine entry.1).1 (h.mine entry (hshown ▸ hentry))
  told ws := by
    have htold := h.told ws
    rw [LiveHook.told] at htold ⊢
    rwa [hshown]
  events := by rw [hevents, hshown, h.events]
  once := by rw [hshown]; exact h.once
  missed entry hentry ws hws hne := h.missed entry (hshown ▸ hentry) ws (hup ws hws) hne

/-- **Step**: a new socket misses all that is shown. -/
theorem TabKept.connects (h : TabKept user start max v) {t : Timeout} (hpending : t ∈ v.hook.timeouts)
    (hdue : t.due ≤ v.hook.now) (hnew : v.hook.readyState ws = none)
    (hunknown : v.server.owner ws = none) :
    TabKept user start max
      { v with hook := { v.hook with timeouts := v.hook.timeouts.erase t }.connect ws } := by
  have hhook : HookKept start
      (({ v.hook with timeouts := v.hook.timeouts.erase t } : LiveHook).connect ws) :=
    h.hook.fires hpending hdue
  unfold LiveHook.connect at hhook ⊢
  split at hhook
  · rename_i hclosed
    rw [if_pos hclosed]
    exact h.silent hhook rfl rfl rfl (fun _ => Iff.rfl) fun _ => id
  · rename_i hmounted
    rw [if_neg hmounted]
    have hother {ws' : ℕ} (hne : ws' ≠ ws) : Function.update v.hook.readyState ws
        (some ReadyState.connecting) ws' = v.hook.readyState ws' := Function.update_of_ne hne _ _
    exact { h with
      hook := hhook
      owners := fun ws' hmine u hu => by
        by_cases hne : ws' = ws
        · subst hne
          exact absurd (hunknown.symm.trans hu) nofun
        · exact h.owners ws' ((hother hne).symm ▸ hmine) u hu
      mine := fun entry hentry hnone => by
        by_cases hne : entry.1 = ws
        · exact h.mine entry hentry (hne ▸ hnew)
        · exact h.mine entry hentry ((hother hne).symm.trans hnone)
      missed := fun entry hentry ws' hup hne => by
        by_cases heq : ws' = ws
        · subst heq
          exact h.visited.missed h.server.1 h.server.2 hunknown (h.sent hentry) (h.owner hentry)
        · refine h.missed entry hentry ws' ?_ hne
          exact hup.imp (hother heq).symm.trans (hother heq).symm.trans }

/-- **Step**: a message is shown, and was not before. -/
theorem TabKept.message (h : TabKept user start max v) (hopened : v.hook.readyState ws = some .opened)
    (hnext : (v.server.incoming ws)[(v.hook.told ws).length]? = some event) :
    TabKept user start max { v with hook := v.hook.onmessage ws event } := by
  have hsent : event ∈ v.server.incoming ws := List.mem_of_getElem? hnext
  have hmine : v.hook.readyState ws ≠ none := by
    rw [hopened]
    exact nofun
  obtain ⟨hmounted, -, -, hothers⟩ := h.hook.live_ws (.inr hopened)
  have hnew : event ∉ v.hook.shown.map Prod.snd := by
    rintro hmem
    obtain ⟨entry, hentry, rfl⟩ := List.mem_map.1 hmem
    by_cases hne : entry.1 = ws
    · -- it would be at two places of what was sent to the socket
      have htold : entry.2 ∈ v.hook.told ws := LiveHook.mem_told.2 (hne ▸ hentry)
      obtain ⟨i, hi, heq⟩ := List.getElem_of_mem htold
      have hfirst : (v.server.incoming ws)[i]? = some entry.2 :=
        List.prefix_iff_getElem?.1 (h.told ws) i hi ▸ congrArg some heq
      obtain ⟨hlen, -⟩ := List.getElem?_eq_some_iff.1 hnext
      have hsame : (v.hook.told ws).length = i :=
        (List.getElem?_inj hlen (h.server.1.incoming_nodup ws)).1 (hnext.trans hfirst.symm)
      omega
    · have hmissed := h.missed entry hentry ws (.inr hopened) fun heq => hne heq.symm
      exact hmissed.unsent true (Realtime.mem_incoming.1 hsent)
  have htold (ws' : ℕ) : (v.hook.onmessage ws event).told ws' =
      if ws = ws' then v.hook.told ws ++ [event] else v.hook.told ws' := by
    by_cases hne : ws = ws'
    · simp [LiveHook.told, LiveHook.onmessage, hne]
    · simp [LiveHook.told, LiveHook.onmessage, hne]
  exact { h with
    hook := by
      have hhook := h.hook
      exact ⟨fun hm => by
        cases hhook.mounted hm with
        | socket ws₀ mine live others idle => exact .socket ws₀ mine live others idle
        | timeout t mine one soon late down => exact .timeout t mine one soon late down,
        hhook.gone, hhook.paced⟩
    mine := fun entry hentry => by
      rcases List.mem_cons.1 hentry with rfl | hentry
      · exact hmine
      · exact h.mine entry hentry
    told := fun ws' => by
      rw [htold]
      split
      · rename_i heq
        subst heq
        refine List.prefix_iff_getElem?.2 fun i hi => ?_
        rw [List.length_append, List.length_singleton] at hi
        rcases Nat.lt_succ_iff_lt_or_eq.1 hi with hlt | rfl
        · rw [List.getElem_append_left hlt]
          exact List.prefix_iff_getElem?.1 (h.told ws) i hlt
        · simpa using hnext
      · exact h.told ws'
    events := by
      have htake : (event :: v.hook.events).take max =
          (event :: v.hook.shown.map Prod.snd).take max := by
        rw [h.events]
        cases max with
        | zero => rfl
        | succ n => simp [List.take_take]
      simpa [LiveHook.onmessage, h.limit] using htake
    once := List.nodup_cons.2 ⟨hnew, h.once⟩
    missed := fun entry hentry ws' hup hne => by
      rcases List.mem_cons.1 hentry with rfl | hentry
      · exact (not_live_and_down hup (hothers ws' hne)).elim
      · exact h.missed entry hentry ws' hup hne }

/-- **Step**: whatever happens next, nothing is shown twice. -/
theorem TabKept.step (h : TabKept user start max v) (hstep : LiveStep auth user v v') :
    TabKept user start max v' := by
  cases hstep with
  | server hstep hforeign =>
    refine h.goesOn hstep fun ws hmine u hu => ?_
    -- the socket was accepted before, for the same user
    obtain ⟨u', hu'⟩ := Option.ne_none_iff_exists'.1 fun hnone =>
      absurd ((hforeign ws hmine hnone).symm.trans hu) nofun
    rw [← Option.some.inj ((owner_step hstep hu').symm.trans hu)]
    exact h.owners ws hmine u' hu'
  | accepted ws now token payload hmine hnew hshown haccess hsame =>
    subst hsame
    refine h.goesOn (.connect ws now token payload hnew hshown haccess) fun ws' hmine' u hu => ?_
    by_cases hne : ws' = ws
    · subst hne
      have hself : (v.server.accept payload.sub ws').owner ws' = some payload.sub :=
        Function.update_self ..
      exact (Option.some.inj (hself.symm.trans hu)).symm
    · exact h.owners ws' hmine' u ((Function.update_of_ne hne _ _).symm.trans hu)
  | opens ws hconnecting hknown =>
    refine h.silent (h.hook.onopen hconnecting) rfl rfl rfl (fun ws' => ?_) fun ws' hup => ?_
    · by_cases hne : ws' = ws
      · simp [LiveHook.onopen, hne, hconnecting]
      · simp [LiveHook.onopen, Function.update_of_ne hne]
    · by_cases hne : ws' = ws
      · exact .inl (hne ▸ hconnecting)
      · simpa [LiveHook.Up, LiveHook.onopen, Function.update_of_ne hne] using hup
  | closes ws state hmine hstill =>
    refine h.silent (h.hook.onclose hmine hstill) rfl rfl rfl (fun ws' => ?_) fun ws' hup => ?_
    · by_cases hne : ws' = ws
      · simp [LiveHook.onclose, hne, hmine]
      · simp [LiveHook.onclose, Function.update_of_ne hne]
    · by_cases hne : ws' = ws
      · simp [LiveHook.Up, LiveHook.onclose, hne] at hup
      · simpa [LiveHook.Up, LiveHook.onclose, Function.update_of_ne hne] using hup
  | message ws event hopened hnext => exact h.message hopened hnext
  | passes d => exact h.silent (h.hook.passes d) rfl rfl rfl (fun _ => Iff.rfl) fun _ => id
  | fires t ws hpending hdue hnew hunknown => exact h.connects hpending hdue hnew hunknown
  | unmount hmounted =>
    refine h.silent (h.hook.cleanup hmounted) rfl rfl rfl (fun ws' => ?_) fun ws' hup => ?_
    · unfold LiveHook.cleanup
      cases v.hook.ws with
      | none => exact Iff.rfl
      | some ws => exact (close_readyState _ ws ws').1
    · unfold LiveHook.Up LiveHook.cleanup at hup
      cases hws : v.hook.ws with
      | none =>
        simp only [hws, Option.elim_none] at hup
        exact hup
      | some ws =>
        simp only [hws, Option.elim_some] at hup
        rcases (close_readyState v.hook.readyState ws ws').2 with hsame | hclosing
        · rwa [hsame] at hup
        · rw [hclosing] at hup
          exact hup.elim nofun nofun

theorem TabKept.run (h : TabKept user start max v) (hrun : LiveRun auth user v v') :
    TabKept user start max v' := by
  induction hrun with
  | refl => exact h
  | tail _ hstep ih => exact ih.step hstep

/-- **Step**: a component that has gone makes no socket and shows nothing more. -/
theorem TabKept.gone_step (h : TabKept user start max v) (hgone : v.hook.closed = true)
    (hstep : LiveStep auth user v v') : v'.hook.closed = true ∧
      v'.hook.attempts = v.hook.attempts ∧ v'.hook.events = v.hook.events := by
  cases hstep with
  | server hstep hforeign => exact ⟨hgone, rfl, rfl⟩
  | accepted ws now token payload hmine hnew hshown haccess hsame => exact ⟨hgone, rfl, rfl⟩
  | opens ws hconnecting hknown => exact ⟨hgone, rfl, rfl⟩
  | closes ws state hmine hstill => exact ⟨hgone, rfl, rfl⟩
  | message ws event hopened hnext => exact absurd hopened (h.hook.gone hgone ws).2
  | passes d => exact ⟨hgone, rfl, rfl⟩
  | fires t ws hpending hdue hnew hunknown =>
    rw [LiveHook.connect, if_pos hgone]
    exact ⟨hgone, rfl, rfl⟩
  | unmount hmounted => exact absurd (hmounted.symm.trans hgone) Bool.false_ne_true

theorem TabKept.gone_run (h : TabKept user start max v) (hgone : v.hook.closed = true)
    (hrun : LiveRun auth user v v') : v'.hook.closed = true ∧
      v'.hook.attempts = v.hook.attempts ∧ v'.hook.events = v.hook.events := by
  induction hrun with
  | refl => exact ⟨hgone, rfl, rfl⟩
  | tail hpre hstep ih =>
    obtain ⟨hclosed, hattempts, hevents⟩ := (h.run hpre).gone_step ih.1 hstep
    exact ⟨hclosed, hattempts.trans ih.2.1, hevents.trans ih.2.2⟩

end

/-! ## Every run -/

/-- **Live events are shown once**: whatever the server, the network and the clock do while the
component is mounted, it shows the newest of what it was told, never the same event twice, also over
sockets that were opened one after another while the broadcast was under way; and what it was told on
a socket is a beginning of what was sent to the socket. -/
theorem live_events_once (auth : AuthConfig) (user max retry now ws : ℕ) (s : Realtime)
    (hs : Relation.ReflTransGen (RealtimeStep auth) {} s) (hws : s.owner ws = none) (v : LiveTab)
    (hrun : LiveRun auth user ⟨s, .mount max retry now ws⟩ v) :
    v.hook.events = (v.hook.shown.map Prod.snd).take max ∧ (v.hook.shown.map Prod.snd).Nodup ∧
      ∀ ws', v.hook.told ws' <+: v.server.incoming ws' := by
  have hmount : TabKept user now max ⟨s, .mount max retry now ws⟩ := TabKept.mount hs hws retry
  have hkept := hmount.run hrun
  exact ⟨hkept.events, hkept.once, hkept.told⟩

/-- The tab of user 1 is open while the user has another socket: the tab's is accepted, and an event is
announced and shown. -/
def shownTab : LiveTab where
  server := ((Realtime.accept (Realtime.accept {} 1 10) 1 12).begin 7).sent 7 ⟨1, 10, [12], [], []⟩ true
  hook := ((LiveHook.mount 5 0 0 10).onopen 10).onmessage 10 7

theorem shownTab_run : LiveRun accessAuth 1 ⟨{}, .mount 5 0 0 10⟩ shownTab := by
  have hother : RealtimeStep accessAuth (Realtime.accept {} 1 10)
      (Realtime.accept (Realtime.accept {} 1 10) 1 12) :=
    .connect 12 0 "access" accessPayload rfl rfl rfl
  have hforeign (ws : ℕ) (hmine : (LiveHook.mount 5 0 0 10).readyState ws ≠ none)
      (hnone : (Realtime.accept {} 1 10).owner ws = none) :
      (Realtime.accept (Realtime.accept {} 1 10) 1 12).owner ws = none := by
    refine (Function.update_of_ne ?_ _ _).trans hnone
    rintro rfl
    exact hmine rfl
  refine .tail (.tail (.tail (.tail (.tail (.single (.accepted 10 0 "access" accessPayload ?_ rfl rfl
    rfl rfl)) (.server hother hforeign)) (.opens 10 rfl ?_)) (.server (.begin 7 rfl) fun _ _ h => h))
    (.server (.sent 7 ⟨1, 10, [12], [], []⟩ true rfl) fun _ _ h => h)) (.message 10 7 rfl rfl)
  · exact Option.some_ne_none _
  · exact Option.some_ne_none _

/-- Its socket closes, and another one is accepted while the event is still being sent; then the next
event is announced. -/
def resumedTab : LiveTab where
  server := ((((shownTab.server.accept 1 11).sent 7 ⟨1, 12, [], [], []⟩ true).begin 8).sent 8
    ⟨1, 10, [12, 11], [], []⟩ false).sent 8 ⟨1, 12, [11], [], [(1, 10)]⟩ true |>.sent 8
    ⟨1, 11, [], [], [(1, 10)]⟩ true
  hook := (({ ({ (shownTab.hook.onclose 10) with now := 1000 } : LiveHook) with
    timeouts := [] } : LiveHook).connect 11 |>.onopen 11).onmessage 11 8

theorem resumedTab_run : LiveRun accessAuth 1 shownTab resumedTab := by
  refine .tail (.tail (.tail (.tail (.tail (.tail (.tail (.tail (.tail (.tail (.single
    (.closes 10 .opened rfl nofun)) (.passes 1000)) (.fires ⟨0, 1000⟩ 11 ?_ (Nat.le_refl _) rfl rfl))
    (.accepted 11 0 "access" accessPayload ?_ rfl rfl rfl rfl)) (.opens 11 rfl ?_))
    (.server (.sent 7 ⟨1, 12, [], [], []⟩ true rfl) fun _ _ h => h))
    (.server (.begin 8 rfl) fun _ _ h => h))
    (.server (.sent 8 ⟨1, 10, [12, 11], [], []⟩ false rfl) fun _ _ h => h))
    (.server (.sent 8 ⟨1, 12, [11], [], [(1, 10)]⟩ true rfl) fun _ _ h => h))
    (.server (.sent 8 ⟨1, 11, [], [], [(1, 10)]⟩ true rfl) fun _ _ h => h)) (.message 11 8 rfl rfl)
  · exact List.mem_cons_self
  · exact Option.some_ne_none _
  · exact Option.some_ne_none _

/-- Both events are shown, once each. -/
theorem live_events_once_resumed :
    ∃ v, LiveRun accessAuth 1 ⟨{}, .mount 5 0 0 10⟩ v ∧ v.hook.events = [8, 7] ∧
      v.hook.events = (v.hook.shown.map Prod.snd).take 5 ∧ (v.hook.shown.map Prod.snd).Nodup ∧
        ∀ ws', v.hook.told ws' <+: v.server.incoming ws' :=
  ⟨resumedTab, shownTab_run.trans resumedTab_run, rfl,
    live_events_once accessAuth 1 5 0 0 10 {} .refl rfl resumedTab (shownTab_run.trans resumedTab_run)⟩

/-- **Live events are asked for in peace**: a component that is mounted has one socket that is not
closed, or is to open one within fifteen seconds, and never two; it makes no more than a socket a
second; and once it has gone, it makes no socket and shows nothing more. -/
theorem live_reconnects (auth : AuthConfig) (user max retry now ws : ℕ) (s : Realtime)
    (hs : Relation.ReflTransGen (RealtimeStep auth) {} s) (hws : s.owner ws = none) (v v' : LiveTab)
    (hrun : LiveRun auth user ⟨s, .mount max retry now ws⟩ v) (hrun' : LiveRun auth user v v') :
    (v.hook.closed = false → Awaits now v.hook) ∧
      now + 1000 * v.hook.attempts.length ≤ v.hook.now + 1000 ∧
      (v.hook.closed = true →
        v'.hook.attempts = v.hook.attempts ∧ v'.hook.events = v.hook.events) := by
  have hmount : TabKept user now max ⟨s, .mount max retry now ws⟩ := TabKept.mount hs hws retry
  have hkept := hmount.run hrun
  exact ⟨hkept.hook.mounted, hkept.hook.paced, fun hgone => (hkept.gone_run hgone hrun').2⟩

/-- Two sockets, a second apart; then the component goes. -/
theorem live_reconnects_resumed :
    ∃ v v', LiveRun accessAuth 1 ⟨{}, .mount 5 0 0 10⟩ v ∧ LiveRun accessAuth 1 v v' ∧
      v.hook.attempts = [1000, 0] ∧ v.hook.closed = true ∧ v'.hook.now = 20000 ∧
        (v.hook.closed = false → Awaits 0 v.hook) ∧
        0 + 1000 * v.hook.attempts.length ≤ v.hook.now + 1000 ∧
        (v.hook.closed = true →
          v'.hook.attempts = v.hook.attempts ∧ v'.hook.events = v.hook.events) := by
  have hgone : LiveRun accessAuth 1 ⟨{}, .mount 5 0 0 10⟩
      { resumedTab with hook := resumedTab.hook.cleanup } :=
    .tail (shownTab_run.trans resumedTab_run) (.unmount rfl)
  have hlater : LiveRun accessAuth 1 { resumedTab with hook := resumedTab.hook.cleanup }
      { resumedTab with hook := { resumedTab.hook.cleanup with now := 20000 } } :=
    .single (.passes 19000)
  exact ⟨_, _, hgone, hlater, rfl, rfl, rfl,
    live_reconnects accessAuth 1 5 0 0 10 {} .refl rfl _ _ hgone hlater⟩

end ParkingSystem
