import Mathlib.Logic.Function.Basic
import Mathlib.Logic.Relation
import ParkingSystem.Identity.Accounts
import ParkingSystem.Library.PyDict

/-!
# Live Events

`ConnectionManager`: the sockets of the users who are connected, and broadcasts to them. A broadcast
is suspended at each of its sends, while users connect and disconnect and other broadcasts go on. What
it goes through are copies: of the entries when it begins, and of a user's set when it comes to it.

A set that was taken out of the dictionary is an object of its own, so that sets are named, and an
entry holds the name of a set.
-/

namespace ParkingSystem

/-! ## The manager -/

/-- `ConnectionManager`: `active` maps users to their sets of sockets. -/
structure ConnectionManager where
  active : List (ℕ × ℕ) := []
  sets : ℕ → List ℕ := fun _ => []
  nextSet : ℕ := 0

namespace ConnectionManager

/-- `connect`, once the socket is accepted. -/
def connect (mgr : ConnectionManager) (user ws : ℕ) : ConnectionManager :=
  match PyDict.item user mgr.active with
  | some ref =>
    let joined := if ws ∈ mgr.sets ref then mgr.sets ref else mgr.sets ref ++ [ws]
    { mgr with sets := Function.update mgr.sets ref joined }
  | none =>
    { active := mgr.active ++ [(user, mgr.nextSet)]
      sets := Function.update mgr.sets mgr.nextSet [ws], nextSet := mgr.nextSet + 1 }

/-- `disconnect`. The empty set of a user who has no entry is taken out at once. -/
def disconnect (mgr : ConnectionManager) (user ws : ℕ) : ConnectionManager :=
  match PyDict.item user mgr.active with
  | none => mgr
  | some ref =>
    let left := (mgr.sets ref).filter (· ≠ ws)
    { mgr with
      sets := Function.update mgr.sets ref left
      active := if left = [] then PyDict.pop user mgr.active else mgr.active }

/-- A broadcast that awaits a send: the user and the socket, the rest of the user's sockets, the rest
of the entries, and the sockets that failed. -/
structure Sending where
  user : ℕ
  socket : ℕ
  rest : List ℕ
  users : List (ℕ × ℕ)
  dead : List (ℕ × ℕ)

/-- The next entry with a socket. -/
def nextUser (mgr : ConnectionManager) (dead : List (ℕ × ℕ)) : List (ℕ × ℕ) → Option Sending
  | [] => none
  | (user, ref) :: users =>
    match mgr.sets ref with
    | [] => mgr.nextUser dead users
    | ws :: rest => some ⟨user, ws, rest, users, dead⟩

/-- What a broadcast awaits next. -/
def next (mgr : ConnectionManager) (user : ℕ) (rest : List ℕ) (users dead : List (ℕ × ℕ)) :
    Option Sending :=
  match rest with
  | [] => mgr.nextUser dead users
  | ws :: rest => some ⟨user, ws, rest, users, dead⟩

/-- The end of a broadcast: the sockets that failed are disconnected. -/
def disconnectAll (mgr : ConnectionManager) (dead : List (ℕ × ℕ)) : ConnectionManager :=
  dead.foldl (fun mgr entry => mgr.disconnect entry.1 entry.2) mgr

/-- A socket is registered. -/
def Registered (mgr : ConnectionManager) (ws : ℕ) : Prop := ∃ ref, ws ∈ mgr.sets ref

end ConnectionManager

/-! ## Broadcasts under way -/

/-- A send of a broadcast to a socket. -/
structure Sent where
  event : ℕ
  socket : ℕ
  delivered : Bool
  deriving DecidableEq

/-- The manager with the broadcasts under way, by the events they announce. `began` is the sockets that
were registered when a broadcast began, and `owner` the user a socket was accepted for. -/
structure Realtime where
  manager : ConnectionManager := {}
  live : ℕ → Option ConnectionManager.Sending := fun _ => none
  began : ℕ → Option (List ℕ) := fun _ => none
  log : List Sent := []
  owner : ℕ → Option ℕ := fun _ => none

namespace Realtime

/-- The sockets of a manager. -/
def sockets (mgr : ConnectionManager) : List ℕ := mgr.active.flatMap fun entry => mgr.sets entry.2

/-- A socket is accepted for a user. -/
def accept (w : Realtime) (user ws : ℕ) : Realtime :=
  { w with owner := Function.update w.owner ws (some user), manager := w.manager.connect user ws }

/-- A broadcast goes on to its next send, or ends. -/
def goOn (w : Realtime) (event : ℕ) (dead : List (ℕ × ℕ)) :
    Option ConnectionManager.Sending → Realtime
  | some sending => { w with live := Function.update w.live event (some sending) }
  | none =>
    { w with live := Function.update w.live event none, manager := w.manager.disconnectAll dead }

/-- `broadcast`, to its first send. -/
def begin (w : Realtime) (event : ℕ) : Realtime :=
  { w with began := Function.update w.began event (some (sockets w.manager)) }.goOn event []
    (w.manager.nextUser [] w.manager.active)

/-- A send of a broadcast ended. -/
def sent (w : Realtime) (event : ℕ) (b : ConnectionManager.Sending) (delivered : Bool) : Realtime :=
  let dead := if delivered then b.dead else b.dead ++ [(b.user, b.socket)]
  ({ w with log := w.log ++ [⟨event, b.socket, delivered⟩] } : Realtime).goOn event dead
    (w.manager.next b.user b.rest b.users dead)

end Realtime

/-- What happens next: `events_socket` accepts a socket that shows an access token, and disconnects it
once, or the dead of a broadcast are; a broadcast begins, or a send of it ends. -/
inductive RealtimeStep (auth : AuthConfig) : Realtime → Realtime → Prop where
  | connect {w} (ws : ℕ) (now : ℤ) (token : String) (payload : TokenPayload) (new : w.owner ws = none)
      (shown : auth.jwt.decode now token = some payload) (access : payload.type = "access") :
      RealtimeStep auth w (w.accept payload.sub ws)
  | disconnect {w} (user ws : ℕ) (known : w.owner ws = some user) :
      RealtimeStep auth w { w with manager := w.manager.disconnect user ws }
  | begin {w} (event : ℕ) (new : w.began event = none) : RealtimeStep auth w (w.begin event)
  | sent {w} (event : ℕ) (b : ConnectionManager.Sending) (delivered : Bool)
      (awaited : w.live event = some b) : RealtimeStep auth w (w.sent event b delivered)

/-! ## The registered sockets -/

namespace ConnectionManager

/-- The sets of a manager: every entry has one of its own, which is not empty, and holds sockets that
were accepted for the user; the others are empty. -/
structure Kept (owner : ℕ → Option ℕ) (mgr : ConnectionManager) : Prop where
  users : (mgr.active.map Prod.fst).Nodup
  refs : (mgr.active.map Prod.snd).Nodup
  named : ∀ entry ∈ mgr.active, entry.2 < mgr.nextSet
  nonempty : ∀ entry ∈ mgr.active, mgr.sets entry.2 ≠ []
  distinct : ∀ ref, (mgr.sets ref).Nodup
  owned : ∀ ref, ∀ ws ∈ mgr.sets ref, ∃ user, owner ws = some user ∧ (user, ref) ∈ mgr.active

theorem Kept.start : Kept (fun _ => none) {} :=
  ⟨List.nodup_nil, List.nodup_nil, nofun, nofun, fun _ => List.nodup_nil, nofun⟩

variable {owner : ℕ → Option ℕ} {mgr : ConnectionManager} {user ws ref : ℕ}

/-- A socket is in one set. -/
theorem Kept.one_set (h : mgr.Kept owner) {ref' : ℕ} (hws : ws ∈ mgr.sets ref)
    (hws' : ws ∈ mgr.sets ref') : ref = ref' := by
  obtain ⟨user, howner, hentry⟩ := h.owned ref ws hws
  obtain ⟨user', howner', hentry'⟩ := h.owned ref' ws hws'
  obtain rfl : user = user' := Option.some.inj (howner.symm.trans howner')
  exact congrArg Prod.snd (List.inj_on_of_nodup_map h.users hentry hentry' rfl)

/-- The entry of a user. -/
theorem Kept.item_iff (h : mgr.Kept owner) :
    PyDict.item user mgr.active = some ref ↔ (user, ref) ∈ mgr.active :=
  (PyDict.mem_iff_lookup h.users).symm

/-- **Step**: a socket that nobody had before is registered. -/
theorem Kept.connect (h : mgr.Kept owner) (hnew : owner ws = none) :
    (mgr.connect user ws).Kept (Function.update owner ws (some user)) := by
  have hunknown (ref : ℕ) : ws ∉ mgr.sets ref := by
    intro hmem
    obtain ⟨_, howner, -⟩ := h.owned ref ws hmem
    rw [hnew] at howner
    cases howner
  -- what is known of the others is kept
  have hothers {ref ws' : ℕ} (hmem : ws' ∈ mgr.sets ref) :
      ∃ u, Function.update owner ws (some user) ws' = some u ∧ (u, ref) ∈ mgr.active := by
    have hne : ws' ≠ ws := by
      rintro rfl
      exact hunknown ref hmem
    obtain ⟨u, howner, hentry⟩ := h.owned ref ws' hmem
    exact ⟨u, (Function.update_of_ne hne _ _).trans howner, hentry⟩
  unfold ConnectionManager.connect
  cases hitem : PyDict.item user mgr.active with
  | some ref =>
    have hentry := h.item_iff.1 hitem
    have hjoined : (if ws ∈ mgr.sets ref then mgr.sets ref else mgr.sets ref ++ [ws]) =
        mgr.sets ref ++ [ws] := if_neg (hunknown ref)
    refine ⟨h.users, h.refs, h.named, fun entry hmem => ?_, fun ref' => ?_, fun ref' ws' hmem => ?_⟩
    · by_cases href : entry.2 = ref
      · simp [href, hjoined]
      · simpa [Function.update_of_ne href] using h.nonempty entry hmem
    · by_cases href : ref' = ref
      · subst href
        simp only [Function.update_self, hjoined]
        exact (h.distinct _).append (List.nodup_singleton _) (by simpa using hunknown _)
      · simpa [Function.update_of_ne href] using h.distinct ref'
    · by_cases href : ref' = ref
      · subst href
        simp only [Function.update_self, hjoined, List.mem_append, List.mem_singleton] at hmem
        rcases hmem with hmem | rfl
        · exact hothers hmem
        · exact ⟨user, Function.update_self .., hentry⟩
      · simp only [Function.update_of_ne href] at hmem
        exact hothers hmem
  | none =>
    have hnouser := PyDict.item_eq_none.1 hitem
    have hnoref : mgr.nextSet ∉ mgr.active.map Prod.snd := by
      intro hmem
      obtain ⟨entry, hentry, heq⟩ := List.mem_map.1 hmem
      exact absurd (h.named entry hentry) (by omega)
    refine ⟨?_, ?_, fun entry hmem => ?_, fun entry hmem => ?_, fun ref' => ?_, fun ref' ws' hmem => ?_⟩
    · rw [List.map_append]
      exact h.users.append (List.nodup_singleton _) (by simpa using hnouser)
    · rw [List.map_append]
      exact h.refs.append (List.nodup_singleton _) (by simpa using hnoref)
    · rcases List.mem_append.1 hmem with hmem | hmem
      · exact (h.named entry hmem).trans (Nat.lt_succ_self _)
      · rw [List.mem_singleton.1 hmem]
        exact Nat.lt_succ_self _
    · rcases List.mem_append.1 hmem with hmem | hmem
      · have hne : entry.2 ≠ mgr.nextSet := (h.named entry hmem).ne
        simpa [Function.update_of_ne hne] using h.nonempty entry hmem
      · rw [List.mem_singleton.1 hmem]
        simp
    · by_cases href : ref' = mgr.nextSet
      · subst href
        simp
      · simpa [Function.update_of_ne href] using h.distinct ref'
    · by_cases href : ref' = mgr.nextSet
      · subst href
        simp only [Function.update_self, List.mem_singleton] at hmem
        subst hmem
        exact ⟨user, Function.update_self .., by simp⟩
      · simp only [Function.update_of_ne href] at hmem
        obtain ⟨u, howner, hentry⟩ := hothers hmem
        exact ⟨u, howner, List.mem_append_left _ hentry⟩

/-- What is in a set after a socket was disconnected. -/
theorem Kept.mem_disconnect (h : mgr.Kept owner) (howner : owner ws = some user) {ref ws' : ℕ} :
    ws' ∈ (mgr.disconnect user ws).sets ref ↔ ws' ∈ mgr.sets ref ∧ ws' ≠ ws := by
  have hmine {ref : ℕ} (hmem : ws ∈ mgr.sets ref) : (user, ref) ∈ mgr.active := by
    obtain ⟨u, howner', hentry⟩ := h.owned ref ws hmem
    obtain rfl : user = u := Option.some.inj (howner.symm.trans howner')
    exact hentry
  unfold ConnectionManager.disconnect
  cases hitem : PyDict.item user mgr.active with
  | none =>
    refine ⟨fun hmem => ⟨hmem, ?_⟩, And.left⟩
    rintro rfl
    exact PyDict.item_eq_none.1 hitem (List.mem_map_of_mem (hmine hmem))
  | some mine =>
    have hentry := h.item_iff.1 hitem
    by_cases href : ref = mine
    · subst href
      simp
    · simp only [Function.update_of_ne href]
      refine ⟨fun hmem => ⟨hmem, ?_⟩, And.left⟩
      rintro rfl
      exact href (congrArg Prod.snd (List.inj_on_of_nodup_map h.users (hmine hmem) hentry rfl))

/-- The entries after a socket was disconnected: the user's is there while there is a socket in it. -/
theorem Kept.mem_active_disconnect (h : mgr.Kept owner) {entry : ℕ × ℕ} :
    entry ∈ (mgr.disconnect user ws).active ↔
      entry ∈ mgr.active ∧ (entry.1 = user → (mgr.disconnect user ws).sets entry.2 ≠ []) := by
  unfold ConnectionManager.disconnect
  cases hitem : PyDict.item user mgr.active with
  | none =>
    refine ⟨fun hmem => ⟨hmem, fun _ => h.nonempty entry hmem⟩, And.left⟩
  | some mine =>
    have hentry := h.item_iff.1 hitem
    have hmine (hmem : entry ∈ mgr.active) (huser : entry.1 = user) : entry.2 = mine :=
      congrArg Prod.snd (List.inj_on_of_nodup_map h.users hmem hentry huser)
    dsimp only
    split
    · rename_i hempty
      rw [PyDict.mem_pop h.users]
      refine and_congr_right fun hmem => ⟨fun hne huser => absurd huser hne, fun hleft huser => ?_⟩
      exact hleft huser (by rw [hmine hmem huser, Function.update_self, hempty])
    · rename_i hleft
      refine ⟨fun hmem => ⟨hmem, fun huser => ?_⟩, And.left⟩
      rw [hmine hmem huser, Function.update_self]
      exact hleft

theorem disconnect_active_sublist : (mgr.disconnect user ws).active.Sublist mgr.active := by
  unfold ConnectionManager.disconnect
  split
  · exact List.Sublist.refl _
  · dsimp only
    split
    · exact List.eraseP_sublist
    · exact List.Sublist.refl _

theorem disconnect_nextSet : (mgr.disconnect user ws).nextSet = mgr.nextSet := by
  unfold ConnectionManager.disconnect
  split <;> rfl

/-- **Step**: a socket is disconnected by its owner. -/
theorem Kept.disconnect (h : mgr.Kept owner) (howner : owner ws = some user) :
    (mgr.disconnect user ws).Kept owner := by
  have hsublist : (mgr.disconnect user ws).active.Sublist mgr.active := disconnect_active_sublist
  refine ⟨h.users.sublist (hsublist.map _), h.refs.sublist (hsublist.map _), fun entry hmem => ?_,
    fun entry hmem => ?_, fun ref => ?_, fun ref ws' hmem => ?_⟩
  · rw [disconnect_nextSet]
    exact h.named entry (hsublist.subset hmem)
  · obtain ⟨hold, hmine⟩ := h.mem_active_disconnect.1 hmem
    by_cases huser : entry.1 = user
    · exact hmine huser
    · -- the sockets of another user stay
      obtain ⟨ws', hws'⟩ := List.exists_mem_of_ne_nil _ (h.nonempty entry hold)
      obtain ⟨u, howner', hentry⟩ := h.owned entry.2 ws' hws'
      have hu : u = entry.1 :=
        congrArg Prod.fst (List.inj_on_of_nodup_map h.refs hentry hold rfl)
      have hne : ws' ≠ ws := by
        rintro rfl
        exact huser (hu.symm.trans (Option.some.inj (howner'.symm.trans howner)))
      exact List.ne_nil_of_mem ((h.mem_disconnect howner).2 ⟨hws', hne⟩)
  · unfold ConnectionManager.disconnect
    split
    · exact h.distinct ref
    · rename_i mine _
      by_cases href : ref = mine
      · subst href
        simpa using (h.distinct ref).filter _
      · simpa [Function.update_of_ne href] using h.distinct ref
  · obtain ⟨hold, -⟩ := (h.mem_disconnect howner).1 hmem
    obtain ⟨u, howner', hentry⟩ := h.owned ref ws' hold
    exact ⟨u, howner', h.mem_active_disconnect.2 ⟨hentry, fun _ => List.ne_nil_of_mem hmem⟩⟩

/-- **The end of a broadcast**: the dead are registered no more, and the others stay. -/
theorem Kept.disconnectAll (h : mgr.Kept owner) {dead : List (ℕ × ℕ)}
    (hdead : ∀ entry ∈ dead, owner entry.2 = some entry.1) :
    (mgr.disconnectAll dead).Kept owner ∧ ∀ ref ws', ws' ∈ (mgr.disconnectAll dead).sets ref ↔
      ws' ∈ mgr.sets ref ∧ ws' ∉ dead.map Prod.snd := by
  induction dead generalizing mgr with
  | nil => exact ⟨h, fun ref ws' => by simp [ConnectionManager.disconnectAll]⟩
  | cons entry dead ih =>
    have howner := hdead entry List.mem_cons_self
    obtain ⟨hkept, hsets⟩ := ih (h.disconnect howner) fun e he => hdead e (List.mem_cons_of_mem _ he)
    refine ⟨hkept, fun ref ws' => (hsets ref ws').trans ?_⟩
    rw [h.mem_disconnect howner, List.map_cons, List.mem_cons, not_or, and_assoc]

theorem Kept.mem_connect (h : mgr.Kept owner) {ref ws' : ℕ} (hne : ws' ≠ ws) :
    ws' ∈ (mgr.connect user ws).sets ref ↔ ws' ∈ mgr.sets ref := by
  unfold ConnectionManager.connect
  split
  · rename_i mine _
    by_cases href : ref = mine
    · subst href
      simp only [Function.update_self]
      split
      · exact Iff.rfl
      · simp [hne]
    · simp only [Function.update_of_ne href]
  · by_cases href : ref = mgr.nextSet
    · subst href
      simp only [Function.update_self, List.mem_singleton, hne, false_iff]
      intro hmem
      obtain ⟨u, -, hentry⟩ := h.owned _ ws' hmem
      exact absurd (h.named _ hentry) (lt_irrefl _)
    · simp only [Function.update_of_ne href]

theorem mem_active_connect {entry : ℕ × ℕ} (hmem : entry ∈ (mgr.connect user ws).active) :
    entry ∈ mgr.active ∨ mgr.nextSet ≤ entry.2 := by
  unfold ConnectionManager.connect at hmem
  split at hmem
  · exact Or.inl hmem
  · rcases List.mem_append.1 hmem with hmem | hmem
    · exact Or.inl hmem
    · rw [List.mem_singleton.1 hmem]
      exact Or.inr (Nat.le_refl _)

theorem nextSet_connect : mgr.nextSet ≤ (mgr.connect user ws).nextSet := by
  unfold ConnectionManager.connect
  split
  · exact Nat.le_refl _
  · exact Nat.le_succ _

theorem disconnectAll_active (dead : List (ℕ × ℕ)) :
    ∀ mgr : ConnectionManager, (mgr.disconnectAll dead).active.Sublist mgr.active ∧
      (mgr.disconnectAll dead).nextSet = mgr.nextSet := by
  induction dead with
  | nil => exact fun mgr => ⟨List.Sublist.refl _, rfl⟩
  | cons entry dead ih =>
    intro mgr
    have hrest := ih (mgr.disconnect entry.1 entry.2)
    exact ⟨hrest.1.trans disconnect_active_sublist, hrest.2.trans disconnect_nextSet⟩

end ConnectionManager

/-! ## What a broadcast still has to do -/

open ConnectionManager

/-- Where a broadcast stands: `pending` is what is left of a user's set, `users` of the entries. What
was registered when it began and still is was sent to, is pending, or is in an entry that is left. -/
structure Position (w : Realtime) (event user : ℕ) (pending : List ℕ) (users dead : List (ℕ × ℕ)) :
    Prop where
  distinct : pending.Nodup
  refs : (users.map Prod.snd).Nodup
  named : ∀ entry ∈ users, entry.2 < w.manager.nextSet
  agrees : ∀ entry ∈ users, ∀ u, (u, entry.2) ∈ w.manager.active → u = entry.1
  owners : ∀ ws ∈ pending, w.owner ws = some user
  unsent : ∀ ws ∈ pending, ∀ delivered, ⟨event, ws, delivered⟩ ∉ w.log
  apart : ∀ ws ∈ pending, ∀ entry ∈ users, ws ∉ w.manager.sets entry.2
  visited : ∀ e ∈ w.log, e.event = event → ∀ entry ∈ users, e.socket ∉ w.manager.sets entry.2
  deadOwners : ∀ entry ∈ dead, w.owner entry.2 = some entry.1
  failed : ∀ ws, ⟨event, ws, false⟩ ∈ w.log → ws ∈ dead.map Prod.snd
  owed : ∀ sockets, w.began event = some sockets → ∀ ws ∈ sockets, w.manager.Registered ws →
    (∃ delivered, ⟨event, ws, delivered⟩ ∈ w.log) ∨ ws ∈ pending ∨
      ∃ entry ∈ users, ws ∈ w.manager.sets entry.2

/-- What is known of a broadcast: where it stands, or, once it is over, that it was delivered to all
that were registered when it began and still are, and that none that failed still is. -/
def EventKept (w : Realtime) (event : ℕ) : Prop :=
  match w.live event with
  | some b => w.began event ≠ none ∧ Position w event b.user (b.socket :: b.rest) b.users b.dead
  | none => (∀ sockets, w.began event = some sockets → ∀ ws ∈ sockets, w.manager.Registered ws →
      ⟨event, ws, true⟩ ∈ w.log) ∧ ∀ ws, ⟨event, ws, false⟩ ∈ w.log → ¬ w.manager.Registered ws

/-- What is kept of all but the broadcasts. -/
structure RealtimeKept (w : Realtime) : Prop where
  manager : w.manager.Kept w.owner
  once : (w.log.map fun e => (e.event, e.socket)).Nodup
  known : ∀ e ∈ w.log, w.owner e.socket ≠ none ∧ w.began e.event ≠ none
  begun : ∀ event sockets, w.began event = some sockets → ∀ ws ∈ sockets, w.owner ws ≠ none

section

variable {w w' : Realtime} {event user : ℕ} {pending : List ℕ} {users dead : List (ℕ × ℕ)}

/-- What the others do: they register sockets that nobody had before, or take sockets out. -/
structure Moved (w w' : Realtime) : Prop where
  owner : ∀ ws user, w.owner ws = some user → w'.owner ws = some user
  before : ∀ ref ws, w.owner ws ≠ none → ws ∈ w'.manager.sets ref → ws ∈ w.manager.sets ref
  after : ∀ ref ws, ws ∈ w.manager.sets ref → w'.manager.Registered ws → ws ∈ w'.manager.sets ref
  active : ∀ entry ∈ w'.manager.active, entry ∈ w.manager.active ∨ w.manager.nextSet ≤ entry.2
  nextSet : w.manager.nextSet ≤ w'.manager.nextSet

theorem Moved.registered (h : Moved w w') {ws : ℕ} (howner : w.owner ws ≠ none)
    (hws : w'.manager.Registered ws) : w.manager.Registered ws := by
  obtain ⟨ref, hmem⟩ := hws
  exact ⟨ref, h.before ref ws howner hmem⟩

/-- A broadcast stands where it stood, whatever the others do. -/
theorem Position.moved (h : Position w event user pending users dead) (hkept : RealtimeKept w)
    (hmoved : Moved w w') (hbegan : w'.began event = w.began event)
    (hlog : ∀ e : Sent, e.event = event → (e ∈ w'.log ↔ e ∈ w.log)) :
    Position w' event user pending users dead where
  distinct := h.distinct
  refs := h.refs
  named entry hentry := (h.named entry hentry).trans_le hmoved.nextSet
  agrees entry hentry u hmem := by
    rcases hmoved.active _ hmem with hmem | hle
    · exact h.agrees entry hentry u hmem
    · exact absurd (h.named entry hentry) (Nat.not_lt.2 hle)
  owners ws hws := hmoved.owner ws user (h.owners ws hws)
  unsent ws hws delivered hmem := h.unsent ws hws delivered ((hlog _ rfl).1 hmem)
  apart ws hws entry hentry hmem :=
    h.apart ws hws entry hentry (hmoved.before _ _ (by simp [h.owners ws hws]) hmem)
  visited e he hevent entry hentry hmem := by
    have hold := (hlog e hevent).1 he
    exact h.visited e hold hevent entry hentry (hmoved.before _ _ (hkept.known e hold).1 hmem)
  deadOwners entry hentry := hmoved.owner _ _ (h.deadOwners entry hentry)
  failed ws hmem := h.failed ws ((hlog _ rfl).1 hmem)
  owed sockets hsockets ws hws hregistered := by
    rw [hbegan] at hsockets
    have howner := hkept.begun event sockets hsockets ws hws
    rcases h.owed sockets hsockets ws hws (hmoved.registered howner hregistered) with
      ⟨delivered, hmem⟩ | hpending | ⟨entry, hentry, hmem⟩
    · exact Or.inl ⟨delivered, (hlog _ rfl).2 hmem⟩
    · exact Or.inr (Or.inl hpending)
    · exact Or.inr (Or.inr ⟨entry, hentry, hmoved.after _ _ hmem hregistered⟩)

/-- What is known of a broadcast stays known, whatever the others do. -/
theorem EventKept.moved (h : EventKept w event) (hkept : RealtimeKept w) (hmoved : Moved w w')
    (hlive : w'.live event = w.live event) (hbegan : w'.began event = w.began event)
    (hlog : ∀ e : Sent, e.event = event → (e ∈ w'.log ↔ e ∈ w.log)) : EventKept w' event := by
  unfold EventKept at h ⊢
  rw [hlive]
  cases hb : w.live event with
  | some b =>
    rw [hb] at h
    exact ⟨hbegan ▸ h.1, h.2.moved hkept hmoved hbegan hlog⟩
  | none =>
    rw [hb] at h
    refine ⟨fun sockets hsockets ws hws hregistered => ?_, fun ws hmem hregistered => ?_⟩
    · rw [hbegan] at hsockets
      have howner := hkept.begun event sockets hsockets ws hws
      exact (hlog _ rfl).2 (h.1 sockets hsockets ws hws (hmoved.registered howner hregistered))
    · have hold := (hlog _ rfl).1 hmem
      exact h.2 ws hold (hmoved.registered (hkept.known _ hold).1 hregistered)

/-- The next user's set is copied. -/
theorem Position.copy (h : Position w event user [] users dead) (hkept : RealtimeKept w) :
    (∀ b, w.manager.nextUser dead users = some b →
      b.dead = dead ∧ Position w event b.user (b.socket :: b.rest) b.users b.dead) ∧
    (w.manager.nextUser dead users = none → Position w event user [] [] dead) := by
  induction users with
  | nil => exact ⟨nofun, fun _ => h⟩
  | cons entry users ih =>
    obtain ⟨u, ref⟩ := entry
    have hrefs := h.refs
    rw [List.map_cons, List.nodup_cons] at hrefs
    have htail {P : ℕ × ℕ → Prop} (hP : ∀ entry ∈ (u, ref) :: users, P entry) :
        ∀ entry ∈ users, P entry := fun entry hentry => hP entry (List.mem_cons_of_mem _ hentry)
    simp only [ConnectionManager.nextUser]
    cases hset : w.manager.sets ref with
    | nil =>
      refine ih { h with
        refs := hrefs.2
        named := htail h.named
        agrees := htail h.agrees
        apart := nofun
        visited := fun e he hevent => htail (h.visited e he hevent)
        owed := fun sockets hsockets ws hws hregistered => ?_ }
      rcases h.owed sockets hsockets ws hws hregistered with hsent | hnone | ⟨entry, hentry, hmem⟩
      · exact Or.inl hsent
      · cases hnone
      · rcases List.mem_cons.1 hentry with rfl | hentry
        · rw [hset] at hmem
          cases hmem
        · exact Or.inr (Or.inr ⟨entry, hentry, hmem⟩)
    | cons ws rest =>
      refine ⟨fun b hb => ?_, nofun⟩
      cases hb
      have hin {ws' : ℕ} (hws' : ws' ∈ ws :: rest) : ws' ∈ w.manager.sets ref := hset ▸ hws'
      refine ⟨rfl, {
        distinct := hset ▸ hkept.manager.distinct ref
        refs := hrefs.2
        named := htail h.named
        agrees := htail h.agrees
        owners := fun ws' hws' => ?_
        unsent := fun ws' hws' delivered hmem => ?_
        apart := fun ws' hws' entry hentry hmem => ?_
        visited := fun e he hevent => htail (h.visited e he hevent)
        deadOwners := h.deadOwners
        failed := h.failed
        owed := fun sockets hsockets ws' hws' hregistered => ?_ }⟩
      · obtain ⟨u', howner, hentry⟩ := hkept.manager.owned ref ws' (hin hws')
        rw [howner, h.agrees (u, ref) List.mem_cons_self u' hentry]
      · exact h.visited _ hmem rfl (u, ref) List.mem_cons_self (hin hws')
      · refine hrefs.1 (List.mem_map.2 ⟨entry, hentry, ?_⟩)
        exact hkept.manager.one_set hmem (hin hws')
      · rcases h.owed sockets hsockets ws' hws' hregistered with hsent | hnone | ⟨entry, hentry, hmem⟩
        · exact Or.inl hsent
        · cases hnone
        · rcases List.mem_cons.1 hentry with rfl | hentry
          · exact Or.inr (Or.inl (hset ▸ hmem))
          · exact Or.inr (Or.inr ⟨entry, hentry, hmem⟩)

/-- **A broadcast goes on**: it stands at its next send, or it is over. -/
theorem EventKept.goOn (hkept : RealtimeKept w) (hbegan : w.began event ≠ none)
    (h : Position w event user pending users dead) (hothers : ∀ e, e ≠ event → EventKept w e) :
    RealtimeKept (w.goOn event dead (w.manager.next user pending users dead)) ∧
      ∀ e, EventKept (w.goOn event dead (w.manager.next user pending users dead)) e := by
  -- where it stands at a send
  have hsome {b : Sending} (hdead : b.dead = dead)
      (hb : Position w event b.user (b.socket :: b.rest) b.users b.dead) :
      RealtimeKept (w.goOn event dead (some b)) ∧ ∀ e, EventKept (w.goOn event dead (some b)) e := by
    have hmoved : Moved w (w.goOn event dead (some b)) :=
      ⟨fun _ _ => id, fun _ _ _ => id, fun _ _ hmem _ => hmem, fun _ => Or.inl, Nat.le_refl _⟩
    refine ⟨⟨hkept.manager, hkept.once, hkept.known, hkept.begun⟩, fun e => ?_⟩
    by_cases he : e = event
    · subst he
      have hlive : (w.goOn e dead (some b)).live e = some b := Function.update_self ..
      unfold EventKept
      rw [hlive]
      exact ⟨hbegan, hb.moved hkept hmoved rfl fun _ _ => Iff.rfl⟩
    · exact (hothers e he).moved hkept hmoved (Function.update_of_ne he _ _) rfl fun _ _ => Iff.rfl
  cases pending with
  | cons ws rest => exact hsome (b := ⟨user, ws, rest, users, dead⟩) rfl h
  | nil =>
    obtain ⟨hnext, hend⟩ := h.copy hkept
    simp only [ConnectionManager.next]
    cases hb : w.manager.nextUser dead users with
    | some b => exact hsome (hnext b hb).1 (hnext b hb).2
    | none =>
      have hover := hend hb
      obtain ⟨hmanager, hsets⟩ := hkept.manager.disconnectAll h.deadOwners
      obtain ⟨hactive, hnextSet⟩ := disconnectAll_active dead w.manager
      have hmoved : Moved w (w.goOn event dead none) := {
        owner := fun _ _ => id
        before := fun ref ws _ hmem => ((hsets ref ws).1 hmem).1
        after := fun ref ws hmem hregistered => by
          obtain ⟨ref', hmem'⟩ := hregistered
          exact (hsets ref ws).2 ⟨hmem, ((hsets ref' ws).1 hmem').2⟩
        active := fun entry hentry => Or.inl (hactive.subset hentry)
        nextSet := hnextSet.ge }
      refine ⟨⟨hmanager, hkept.once, hkept.known, hkept.begun⟩, fun e => ?_⟩
      by_cases he : e = event
      · subst he
        have hlive : (w.goOn e dead none).live e = none := Function.update_self ..
        have hfailed {ws : ℕ} (hmem : ⟨e, ws, false⟩ ∈ w.log) :
            ¬ (w.goOn e dead none).manager.Registered ws := by
          rintro ⟨ref, hws⟩
          exact ((hsets ref ws).1 hws).2 (h.failed ws hmem)
        unfold EventKept
        rw [hlive]
        refine ⟨fun sockets hsockets ws hws hregistered => ?_, fun ws hmem => hfailed hmem⟩
        have howner := hkept.begun e sockets hsockets ws hws
        rcases hover.owed sockets hsockets ws hws (hmoved.registered howner hregistered) with
          ⟨delivered, hmem⟩ | hnone | ⟨entry, hentry, -⟩
        · cases delivered with
          | true => exact hmem
          | false => exact absurd hregistered (hfailed hmem)
        · cases hnone
        · cases hentry
      · exact (hothers e he).moved hkept hmoved (Function.update_of_ne he _ _) rfl fun _ _ => Iff.rfl

/-- **Step**: a broadcast begins. -/
theorem RealtimeKept.begin (hkept : RealtimeKept w) (hevents : ∀ e, EventKept w e)
    (hnew : w.began event = none) :
    RealtimeKept (w.begin event) ∧ ∀ e, EventKept (w.begin event) e := by
  have hregistered {ws : ℕ} : ws ∈ Realtime.sockets w.manager ↔ w.manager.Registered ws := by
    refine List.mem_flatMap.trans ⟨fun ⟨entry, _, hmem⟩ => ⟨entry.2, hmem⟩, fun ⟨ref, hmem⟩ => ?_⟩
    obtain ⟨u, -, hentry⟩ := hkept.manager.owned ref ws hmem
    exact ⟨(u, ref), hentry, hmem⟩
  have hbegan {e : ℕ} (he : e ≠ event) : (Function.update w.began event
      (some (Realtime.sockets w.manager))) e = w.began e := Function.update_of_ne he _ _
  have hself : (Function.update w.began event (some (Realtime.sockets w.manager))) event =
      some (Realtime.sockets w.manager) := Function.update_self ..
  have hunsent {e : Sent} (he : e ∈ w.log) : e.event ≠ event := by
    rintro rfl
    exact (hkept.known e he).2 hnew
  have hkept' : RealtimeKept
      { w with began := Function.update w.began event (some (Realtime.sockets w.manager)) } := by
    refine ⟨hkept.manager, hkept.once, fun e he => ⟨(hkept.known e he).1, fun hnone => ?_⟩, ?_⟩
    · exact (hkept.known e he).2 ((hbegan (hunsent he)).symm.trans hnone)
    · intro e sockets hsockets ws hws
      by_cases he : e = event
      · subst he
        obtain rfl := Option.some.inj (hself.symm.trans hsockets)
        obtain ⟨ref, hmem⟩ := hregistered.1 hws
        obtain ⟨u, howner, -⟩ := hkept.manager.owned ref ws hmem
        exact fun hnone => absurd (howner.symm.trans hnone) nofun
      · exact hkept.begun e sockets ((hbegan he).symm.trans hsockets) ws hws
  have hposition : Position
      { w with began := Function.update w.began event (some (Realtime.sockets w.manager)) } event 0 []
      w.manager.active [] := {
    distinct := List.nodup_nil
    refs := hkept.manager.refs
    named := hkept.manager.named
    agrees := fun entry hentry u hmem =>
      congrArg Prod.fst (List.inj_on_of_nodup_map hkept.manager.refs hmem hentry rfl)
    owners := nofun
    unsent := nofun
    apart := nofun
    visited := fun e he hevent => absurd hevent (hunsent he)
    deadOwners := nofun
    failed := fun ws hmem => absurd rfl (hunsent hmem)
    owed := fun sockets _ ws _ ⟨ref, hmem⟩ => by
      obtain ⟨u, -, hentry⟩ := hkept.manager.owned ref ws hmem
      exact Or.inr (Or.inr ⟨(u, ref), hentry, hmem⟩) }
  refine EventKept.goOn hkept' (fun hnone => ?_) hposition fun e he => ?_
  · exact absurd (hself.symm.trans hnone) nofun
  · refine (hevents e).moved hkept ?_ rfl (hbegan he) fun _ _ => Iff.rfl
    exact ⟨fun _ _ => id, fun _ _ _ => id, fun _ _ hmem _ => hmem, fun _ => Or.inl, Nat.le_refl _⟩

/-- **Step**: a send ends. -/
theorem RealtimeKept.sent (hkept : RealtimeKept w) (hevents : ∀ e, EventKept w e) {b : Sending}
    (hb : w.live event = some b) (delivered : Bool) :
    RealtimeKept (w.sent event b delivered) ∧ ∀ e, EventKept (w.sent event b delivered) e := by
  have hevent := hevents event
  unfold EventKept at hevent
  rw [hb] at hevent
  obtain ⟨hbegan, hposition⟩ := hevent
  have howner := hposition.owners b.socket List.mem_cons_self
  have hrest {ws : ℕ} (hws : ws ∈ b.rest) : ws ∈ b.socket :: b.rest := List.mem_cons_of_mem _ hws
  have hdistinct := hposition.distinct
  rw [List.nodup_cons] at hdistinct
  have hkept' : RealtimeKept { w with log := w.log ++ [⟨event, b.socket, delivered⟩] } := by
    refine ⟨hkept.manager, ?_, fun e he => ?_, hkept.begun⟩
    · rw [List.map_append]
      refine hkept.once.append (List.nodup_singleton _) ?_
      simp only [List.map_cons, List.map_nil, List.disjoint_singleton, List.mem_map, not_exists, not_and]
      rintro ⟨e, ws, delivered'⟩ he heq
      cases heq
      exact hposition.unsent _ List.mem_cons_self delivered' he
    · rcases List.mem_append.1 he with he | he
      · exact hkept.known e he
      · rw [List.mem_singleton.1 he]
        exact ⟨by simp [howner], hbegan⟩
  refine EventKept.goOn hkept' hbegan ?_ fun e he => ?_
  · exact {
      distinct := hdistinct.2
      refs := hposition.refs
      named := hposition.named
      agrees := hposition.agrees
      owners := fun ws hws => hposition.owners ws (hrest hws)
      unsent := fun ws hws delivered' hmem => by
        rcases List.mem_append.1 hmem with hmem | hmem
        · exact hposition.unsent ws (hrest hws) delivered' hmem
        · cases List.mem_singleton.1 hmem
          exact hdistinct.1 hws
      apart := fun ws hws => hposition.apart ws (hrest hws)
      visited := fun e he hevent => by
        rcases List.mem_append.1 he with he | he
        · exact hposition.visited e he hevent
        · rw [List.mem_singleton.1 he]
          exact hposition.apart _ List.mem_cons_self
      deadOwners := fun entry hentry => by
        cases delivered with
        | true => exact hposition.deadOwners entry hentry
        | false =>
          rcases List.mem_append.1 hentry with hentry | hentry
          · exact hposition.deadOwners entry hentry
          · rw [List.mem_singleton.1 hentry]
            exact howner
      failed := fun ws hmem => by
        rcases List.mem_append.1 hmem with hmem | hmem
        · have hold := hposition.failed ws hmem
          cases delivered with
          | true => exact hold
          | false =>
            rw [if_neg (by simp), List.map_append]
            exact List.mem_append_left _ hold
        · cases List.mem_singleton.1 hmem
          simp
      owed := fun sockets hsockets ws hws hregistered => by
        rcases hposition.owed sockets hsockets ws hws hregistered with
          ⟨delivered', hmem⟩ | hpending | hleft
        · exact Or.inl ⟨delivered', List.mem_append_left _ hmem⟩
        · rcases List.mem_cons.1 hpending with rfl | hpending
          · exact Or.inl ⟨delivered, by simp⟩
          · exact Or.inr (Or.inl hpending)
        · exact Or.inr (Or.inr hleft) }
  · refine (hevents e).moved hkept ?_ rfl rfl fun e' he' => ?_
    · exact ⟨fun _ _ => id, fun _ _ _ => id, fun _ _ hmem _ => hmem, fun _ => Or.inl, Nat.le_refl _⟩
    · -- the send was of another broadcast
      refine ⟨fun hmem => ?_, List.mem_append_left _⟩
      rcases List.mem_append.1 hmem with hmem | hmem
      · exact hmem
      · rw [List.mem_singleton.1 hmem] at he'
        exact absurd he'.symm he

/-- The others register or take out sockets. -/
theorem RealtimeKept.moved (hkept : RealtimeKept w) (hevents : ∀ e, EventKept w e)
    (hmoved : Moved w w') (hmanager : w'.manager.Kept w'.owner) (hlog : w'.log = w.log)
    (hbegan : w'.began = w.began) (hlive : w'.live = w.live) :
    RealtimeKept w' ∧ ∀ e, EventKept w' e := by
  have howner {ws : ℕ} (hws : w.owner ws ≠ none) : w'.owner ws ≠ none := by
    obtain ⟨u, hu⟩ := Option.ne_none_iff_exists'.1 hws
    rw [hmoved.owner ws u hu]
    exact nofun
  refine ⟨⟨hmanager, hlog ▸ hkept.once, fun e he => ?_, fun e sockets hsockets ws hws => ?_⟩, fun e => ?_⟩
  · rw [hlog] at he
    exact ⟨howner (hkept.known e he).1, hbegan ▸ (hkept.known e he).2⟩
  · rw [hbegan] at hsockets
    exact howner (hkept.begun e sockets hsockets ws hws)
  · refine (hevents e).moved hkept hmoved (congrFun hlive e) (congrFun hbegan e) fun _ _ => ?_
    rw [hlog]

/-- **Step**: whatever happens next, what is known of every broadcast stays known. -/
theorem RealtimeKept.step {auth : AuthConfig} (hkept : RealtimeKept w) (hevents : ∀ e, EventKept w e)
    (hstep : RealtimeStep auth w w') : RealtimeKept w' ∧ ∀ e, EventKept w' e := by
  cases hstep with
  | begin event hnew => exact hkept.begin hevents hnew
  | sent event b delivered hb => exact hkept.sent hevents hb delivered
  | connect ws now token payload hnew hshown haccess =>
    refine hkept.moved hevents ?_ (hkept.manager.connect hnew) rfl rfl rfl
    have hne {ws' : ℕ} (hws' : w.owner ws' ≠ none) : ws' ≠ ws := by
      rintro rfl
      exact hws' hnew
    have hknown {ref ws' : ℕ} (hmem : ws' ∈ w.manager.sets ref) : w.owner ws' ≠ none := by
      obtain ⟨u, howner, -⟩ := hkept.manager.owned ref ws' hmem
      exact fun hnone => absurd (howner.symm.trans hnone) nofun
    exact {
      owner := fun ws' u howner =>
        (Function.update_of_ne (hne (by simp [howner])) _ _).trans howner
      before := fun ref ws' howner hmem => (hkept.manager.mem_connect (hne howner)).1 hmem
      after := fun ref ws' hmem _ => (hkept.manager.mem_connect (hne (hknown hmem))).2 hmem
      active := fun entry => mem_active_connect
      nextSet := nextSet_connect }
  | disconnect user ws howner =>
    refine hkept.moved hevents ?_ (hkept.manager.disconnect howner) rfl rfl rfl
    exact {
      owner := fun _ _ => id
      before := fun ref ws' _ hmem => ((hkept.manager.mem_disconnect howner).1 hmem).1
      after := fun ref ws' hmem ⟨ref', hmem'⟩ =>
        (hkept.manager.mem_disconnect howner).2 ⟨hmem, ((hkept.manager.mem_disconnect howner).1 hmem').2⟩
      active := fun entry hentry => Or.inl (disconnect_active_sublist.subset hentry)
      nextSet := disconnect_nextSet.ge }

end

/-! ## Runs -/

theorem RealtimeKept.start : RealtimeKept {} ∧ ∀ e, EventKept {} e :=
  ⟨⟨Kept.start, List.nodup_nil, nofun, nofun⟩, fun _ => ⟨nofun, nofun⟩⟩

/-- **Broadcasts: in every interleaving of connections, disconnections and broadcasts, suspended at their
sends, no socket is sent an event twice; once a broadcast is over, every socket that was registered when
it began and still is was delivered the event, and no socket it failed on is registered; and every entry
has a socket, all of them accepted for its user.** -/
theorem broadcasts_deliver (auth : AuthConfig) (w : Realtime)
    (hrun : Relation.ReflTransGen (RealtimeStep auth) {} w) :
    (w.log.map fun e => (e.event, e.socket)).Nodup ∧
      (∀ event sockets, w.began event = some sockets → w.live event = none →
        (∀ ws ∈ sockets, w.manager.Registered ws → ⟨event, ws, true⟩ ∈ w.log) ∧
          ∀ ws, ⟨event, ws, false⟩ ∈ w.log → ¬ w.manager.Registered ws) ∧
      ∀ entry ∈ w.manager.active, w.manager.sets entry.2 ≠ [] ∧
        ∀ ws ∈ w.manager.sets entry.2, w.owner ws = some entry.1 := by
  obtain ⟨hkept, hevents⟩ : RealtimeKept w ∧ ∀ e, EventKept w e := by
    induction hrun with
    | refl => exact RealtimeKept.start
    | tail _ hstep ih => exact ih.1.step ih.2 hstep
  refine ⟨hkept.once, fun event sockets hsockets hover => ?_, fun entry hentry => ?_⟩
  · have hevent := hevents event
    unfold EventKept at hevent
    rw [hover] at hevent
    exact ⟨hevent.1 sockets hsockets, hevent.2⟩
  · refine ⟨hkept.manager.nonempty entry hentry, fun ws hws => ?_⟩
    obtain ⟨u, howner, hentry'⟩ := hkept.manager.owned entry.2 ws hws
    have huser : u = entry.1 :=
      congrArg Prod.fst (List.inj_on_of_nodup_map hkept.manager.refs hentry' hentry rfl)
    exact huser ▸ howner

/-- The claims of an access token. -/
def accessPayload : TokenPayload := { sub := 1, type := "access", iat := 0, exp := 900000000, jti := 2 }

/-- A library that reads this one token. -/
def accessAuth : AuthConfig where
  jwt :=
    { encode := fun payload => payload.type
      decode := fun _ text => if text = "access" then some accessPayload else none }
  hasher := heldAuth.hasher

/-- Two sockets of a user are connected, and a broadcast awaits its first send. -/
def announced : Realtime := ((Realtime.accept {} 1 10).accept 1 11).begin 7

/-- One of them fails. -/
theorem broadcasts_deliver_failure :
    ∃ w, Relation.ReflTransGen (RealtimeStep accessAuth) {} w ∧
      w.log = [⟨7, 10, true⟩, ⟨7, 11, false⟩] ∧ w.live 7 = none ∧ w.began 7 = some [10, 11] ∧
      (w.log.map fun e => (e.event, e.socket)).Nodup ∧
      (∀ event sockets, w.began event = some sockets → w.live event = none →
        (∀ ws ∈ sockets, w.manager.Registered ws → ⟨event, ws, true⟩ ∈ w.log) ∧
          ∀ ws, ⟨event, ws, false⟩ ∈ w.log → ¬ w.manager.Registered ws) ∧
      ∀ entry ∈ w.manager.active, w.manager.sets entry.2 ≠ [] ∧
        ∀ ws ∈ w.manager.sets entry.2, w.owner ws = some entry.1 := by
  have hfirst : announced.live 7 = some ⟨1, 10, [11], [], []⟩ := rfl
  have hsecond : (announced.sent 7 ⟨1, 10, [11], [], []⟩ true).live 7 = some ⟨1, 11, [], [], []⟩ := rfl
  have hconnect (w : Realtime) (ws : ℕ) (hnew : w.owner ws = none) :
      RealtimeStep accessAuth w (w.accept 1 ws) := .connect ws 0 "access" accessPayload hnew rfl rfl
  have hannounced : Relation.ReflTransGen (RealtimeStep accessAuth) {} announced :=
    .tail (.tail (.single (hconnect {} 10 rfl)) (hconnect _ 11 rfl)) (.begin 7 rfl)
  have hrun : Relation.ReflTransGen (RealtimeStep accessAuth) {}
      ((announced.sent 7 ⟨1, 10, [11], [], []⟩ true).sent 7 ⟨1, 11, [], [], []⟩ false) :=
    .tail (.tail hannounced (.sent 7 _ true hfirst)) (.sent 7 _ false hsecond)
  exact ⟨_, hrun, rfl, rfl, rfl, broadcasts_deliver accessAuth _ hrun⟩

end ParkingSystem
