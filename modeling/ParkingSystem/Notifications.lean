import ParkingSystem.Library.Hoare
import ParkingSystem.Store

/-!
# Notifications

`GET /notifications`, `GET /notifications/unread-count`, `POST /notifications/{id}/read` and
`POST /notifications/read-all`.

A notification without a recipient is a broadcast: everybody sees it. Whether it was read is a
column of the row, so that one mark serves all of its readers.

## Two figures

The list counts what is addressed to the user, the counter counts broadcasts as well.
-/

namespace ParkingSystem

open Table Transaction

/-! ## Queries -/

/-- `or_(recipient_user_id == user.id, recipient_user_id.is_(None))`. -/
def Notification.visibleTo (user : ℕ) (n : Notification) : Bool :=
  n.recipientUserId == some user || n.recipientUserId.isNone

/-- `read_at.is_(None)`. -/
def Notification.unread (n : Notification) : Bool := n.readAt.isNone

/-- A broadcast that nobody has marked. -/
def Notification.unreadBroadcast (n : Notification) : Bool := n.recipientUserId.isNone && n.unread

/-- The notifications of a user, the latest first. -/
def notificationsOf (user : ℕ) (s : Store) : List Notification :=
  orderByDesc Notification.createdAt (s.notifications.filter (Notification.visibleTo user))

/-- The figure of the list: what is addressed to the user. -/
def personalUnread (user : ℕ) (s : Store) : ℕ :=
  s.notifications.countP fun n => n.recipientUserId == some user && n.unread

/-- The figure of the counter. -/
def visibleUnread (user : ℕ) (s : Store) : ℕ :=
  s.notifications.countP fun n => n.visibleTo user && n.unread

/-! ## Endpoints -/

/-- What `list_notifications` answers. -/
structure NotificationPage where
  items : List Notification
  page : ℤ
  pageSize : ℤ
  totalItems : ℕ
  totalPages : ℤ
  unread : ℕ

/-- The items of a page that are not read. -/
def NotificationPage.unreadItems (p : NotificationPage) : List Notification :=
  p.items.filter Notification.unread

/-- `list_notifications`. The store refuses a negative OFFSET or LIMIT. -/
def listNotifications (user : ℕ) (page pageSize : ℤ) : Handler NotificationPage := do
  let total ← .select fun s => (notificationsOf user s).length
  if (page - 1) * pageSize < 0 ∨ pageSize < 0 then .throw (.rejected .data)
  else do
    let items ← .select fun s =>
      ((notificationsOf user s).drop ((page - 1) * pageSize).toNat).take pageSize.toNat
    let unread ← .select (personalUnread user)
    if pageSize = 0 then Prog.raise .zeroDivision
    else
      return {
        items, page, pageSize, totalItems := total
        totalPages := (total + pageSize - 1).fdiv pageSize, unread }

/-- `unread_count`. -/
def unreadCount (user : ℕ) : Handler ℕ := .select (visibleUnread user)

/-- UPDATE of the `read_at` of notifications. -/
def markNotifications (p : Notification → Bool) (locks : List Lock) (now : ℤ) : Stmt where
  label := .registry .updateNotification
  locks := locks
  check _ := none
  apply s := { s with
    notifications := updateWhere p (fun n => { n with readAt := some now }) s.notifications }

/-- `mark_read`. -/
def markRead (user notificationId : ℕ) : Handler Unit := do
  let found ← .select fun s : Store => s.notifications.find? fun n => n.id == notificationId
  match found with
  | none => Prog.raise .notFound
  | some n =>
    if n.recipientUserId.isSome && n.recipientUserId != some user then
      Prog.raise (.forbidden "این اعلان متعلق به شما نیست")
    else if n.unread then do
      let now ← Prog.getTime
      Prog.flush (markNotifications (fun m => m.id == n.id) [.notificationRow n.id] now)
      Prog.commitTx
    else return ()

/-- `mark_all_read`. -/
def markAllRead (user : ℕ) : Handler Unit := do
  let now ← Prog.getTime
  let marked ← .select fun s : Store =>
    (s.notifications.filter fun n => n.visibleTo user && n.unread).map Notification.id
  Prog.flush (markNotifications (fun n => marked.contains n.id && n.unread)
    (marked.map .notificationRow) now)
  Prog.commitTx

/-- The requests that mark. -/
inductive MarkRequest where
  | read (user notificationId : ℕ)
  | readAll (user : ℕ)
  deriving DecidableEq, Repr

/-- Who sends a request. -/
def MarkRequest.user : MarkRequest → ℕ
  | read user _ => user
  | readAll user => user

def MarkRequest.handler : MarkRequest → Handler Unit
  | read user notificationId => markRead user notificationId
  | readAll user => markAllRead user

/-! ## What a request marks -/

/-- The notifications a request asks for. -/
def MarkRequest.asksFor (r : MarkRequest) (n : Notification) : Bool :=
  match r with
  | read _ notificationId => n.id == notificationId
  | readAll _ => true

/-- The notifications a request marks. -/
def MarkRequest.marks (r : MarkRequest) (n : Notification) : Bool :=
  r.asksFor n && n.visibleTo r.user && n.unread

/-- The mark. -/
def Notification.markedAt (now : ℤ) (n : Notification) : Notification := { n with readAt := some now }

/-- The notifications once a request is done. -/
def MarkRequest.result (r : MarkRequest) (now : ℤ) (rows : List Notification) : List Notification :=
  updateWhere r.marks (Notification.markedAt now) rows

section

variable {clk : ℕ → ℤ} {s : Store} {n k : ℕ}

/-- Identifiers are a key. -/
def NotificationKeys (s : Store) : Prop := (s.notifications.map Notification.id).Nodup

theorem NotificationKeys.eq_of_id (h : NotificationKeys s) {a b : Notification}
    (ha : a ∈ s.notifications) (hb : b ∈ s.notifications) (hid : a.id = b.id) : a = b :=
  List.inj_on_of_nodup_map h ha hb hid

/-- A notification that may be read is one the user sees. -/
theorem visibleTo_iff (user : ℕ) (a : Notification) :
    a.visibleTo user = !(a.recipientUserId.isSome && a.recipientUserId != some user) := by
  unfold Notification.visibleTo
  cases a.recipientUserId with
  | none => rfl
  | some recipient => simp [bne]

theorem markRead_wp (hkeys : NotificationKeys s) (user notificationId : ℕ) :
    (markRead user notificationId).wp clk (fun _ w' => ∃ now, w'.committed.notifications =
      (MarkRequest.read user notificationId).result now s.notifications) (Session.fresh s n k) := by
  have hnothing (h : ∀ a ∈ s.notifications,
      (MarkRequest.read user notificationId).marks a = false) :
      ∃ now, s.notifications =
        (MarkRequest.read user notificationId).result now s.notifications :=
    ⟨0, (updateWhere_none h).symm⟩
  refine Prog.wp_select (fun h => absurd h Bool.false_ne_true) fun _ => ?_
  cases hfound : (Session.fresh s n k).view.notifications.find? fun a => a.id == notificationId with
  | none =>
    refine Prog.wp_raise (hnothing fun a ha => ?_)
    have hother := List.find?_eq_none.1 hfound a ha
    simp [MarkRequest.marks, MarkRequest.asksFor, Bool.eq_false_iff.2 hother]
  | some a =>
    have hmem : a ∈ s.notifications := List.mem_of_find?_eq_some hfound
    have hid : a.id = notificationId := by simpa using List.find?_some hfound
    -- a request asks for the row it found and for no other one
    have hmarks (b : Notification) (hb : b ∈ s.notifications) :
        (MarkRequest.read user notificationId).marks b =
          (b.id == a.id && a.visibleTo user && a.unread) := by
      unfold MarkRequest.marks MarkRequest.asksFor MarkRequest.user
      rw [← hid]
      by_cases hsame : b.id = a.id
      · rw [hkeys.eq_of_id hb hmem hsame]
      · simp [beq_eq_false_iff_ne.2 hsame]
    dsimp only
    split
    · rename_i hforeign
      refine Prog.wp_raise (hnothing fun b hb => ?_)
      rw [hmarks b hb, visibleTo_iff, hforeign]
      simp
    · rename_i hown
      have hvisible : a.visibleTo user = true := by
        rw [visibleTo_iff, Bool.eq_false_iff.2 hown]
        rfl
      split
      · rename_i hunread
        refine Prog.wp_getTime ?_
        refine Prog.wp_flush (fun h => absurd h Bool.false_ne_true) nofun fun _ _ => ?_
        refine Prog.wp_commit_last (fun h => absurd h Bool.false_ne_true) fun _ => ⟨clk k, ?_⟩
        refine updateWhere_congr fun b hb => ?_
        rw [hmarks b hb, hvisible, hunread]
        simp
      · rename_i hread
        refine Prog.wp_ret (hnothing fun b hb => ?_)
        rw [hmarks b hb, Bool.eq_false_iff.2 hread, Bool.and_false]

theorem markAllRead_wp (hkeys : NotificationKeys s) (user : ℕ) :
    (markAllRead user).wp clk (fun _ w' => ∃ now, w'.committed.notifications =
      (MarkRequest.readAll user).result now s.notifications) (Session.fresh s n k) := by
  refine Prog.wp_getTime (Prog.wp_select (fun h => absurd h Bool.false_ne_true) fun _ => ?_)
  refine Prog.wp_flush (fun h => absurd h Bool.false_ne_true) nofun fun _ _ => ?_
  refine Prog.wp_commit_last (fun h => absurd h Bool.false_ne_true) fun _ => ⟨clk k, ?_⟩
  refine updateWhere_congr fun a ha => ?_
  -- the identifiers that were collected are those of the rows to be marked
  rw [Bool.eq_iff_iff]
  simp only [MarkRequest.marks, MarkRequest.asksFor, MarkRequest.user, Bool.and_eq_true,
    List.contains_iff_mem, List.mem_map, List.mem_filter, true_and]
  constructor
  · rintro ⟨⟨b, ⟨hb, hvisible, -⟩, hid⟩, hunread⟩
    obtain rfl := hkeys.eq_of_id hb ha hid
    exact ⟨hvisible, hunread⟩
  · intro h
    exact ⟨⟨a, ⟨ha, h⟩, rfl⟩, h.2⟩

variable (clk) in
/-- **What a request does**: it marks the notifications that it asks for, its user sees and nobody
has marked. -/
theorem mark_after {w : Session Store} (hkeys : NotificationKeys w.committed) (r : MarkRequest) :
    ∃ now, (r.handler.after clk w).committed.notifications =
      r.result now w.committed.notifications := by
  cases r with
  | read user notificationId => exact (markRead_wp hkeys user notificationId).ends
  | readAll user => exact (markAllRead_wp hkeys user).ends

/-- A mark is no change of the key. -/
theorem notificationKeys_after {w : Session Store} (hkeys : NotificationKeys w.committed)
    (r : MarkRequest) : NotificationKeys (r.handler.after clk w).committed := by
  obtain ⟨now, hs⟩ := mark_after clk hkeys r
  unfold NotificationKeys
  have hsame : (r.result now w.committed.notifications).map Notification.id =
      w.committed.notifications.map Notification.id := map_updateWhere_of_mem fun _ _ _ => rfl
  rw [hs, hsame]
  exact hkeys

/-! ## What a reader sees -/

/-- A broadcast that a request marks. -/
def MarkRequest.marksBroadcast (r : MarkRequest) (s : Store) : Bool :=
  s.notifications.any fun a => r.asksFor a && a.unreadBroadcast

/-- What the user sees of a store. -/
def visibleRows (user : ℕ) (s : Store) : List Notification :=
  s.notifications.filter (Notification.visibleTo user)

theorem visibleTo_of_broadcast {a : Notification} (h : a.unreadBroadcast = true) (user : ℕ) :
    a.visibleTo user = true := by
  simp only [Notification.unreadBroadcast, Bool.and_eq_true] at h
  simp [Notification.visibleTo, h.1]

/-- Everybody sees all broadcasts. -/
theorem marksBroadcast_visible (r : MarkRequest) (user : ℕ) (s : Store) :
    r.marksBroadcast s = (visibleRows user s).any fun a => r.asksFor a && a.unreadBroadcast := by
  rw [Bool.eq_iff_iff]
  simp only [MarkRequest.marksBroadcast, visibleRows, List.any_filter, List.any_eq_true]
  refine exists_congr fun a => and_congr_right fun _ => ?_
  constructor
  · intro h
    rw [h, visibleTo_of_broadcast (Bool.and_eq_true_iff.1 h).2]
    rfl
  · intro h
    exact (Bool.and_eq_true_iff.1 h).2

theorem personalUnread_visible (user : ℕ) (s : Store) : personalUnread user s =
    (visibleRows user s).countP fun a => a.recipientUserId == some user && a.unread := by
  rw [personalUnread, visibleRows, List.countP_filter]
  refine List.countP_congr fun a _ => ?_
  simp only [Notification.visibleTo, Bool.and_eq_true, Bool.or_eq_true]
  tauto

theorem visibleUnread_visible (user : ℕ) (s : Store) :
    visibleUnread user s = (visibleRows user s).countP Notification.unread := by
  rw [visibleUnread, visibleRows, List.countP_filter]
  exact List.countP_congr fun a _ => by rw [Bool.and_comm]

variable (clk) in
/-- A request of somebody else that marks no broadcast leaves a reader what they see. -/
theorem visibleRows_after {w : Session Store} (hkeys : NotificationKeys w.committed)
    {r : MarkRequest} {user : ℕ} (hother : r.user ≠ user)
    (hquiet : r.marksBroadcast w.committed = false) :
    visibleRows user (r.handler.after clk w).committed = visibleRows user w.committed := by
  obtain ⟨now, hs⟩ := mark_after clk hkeys r
  unfold visibleRows
  rw [hs]
  refine filter_updateWhere (fun _ => rfl) fun a ha hvisible => Bool.eq_false_iff.2 fun hmark => ?_
  simp only [MarkRequest.marks, Bool.and_eq_true] at hmark
  -- two users see a notification together where it is a broadcast
  have hbroadcast : a.unreadBroadcast = true := by
    have hmine := hmark.1.2
    simp only [Notification.visibleTo, Bool.or_eq_true, beq_iff_eq] at hvisible hmine
    simp only [Notification.unreadBroadcast, Bool.and_eq_true]
    refine ⟨?_, hmark.2⟩
    rcases hvisible with hto | hnone
    · rcases hmine with hto' | hnone
      · exact absurd (Option.some.inj (hto'.symm.trans hto)) hother
      · exact hnone
    · exact hnone
  have hany : r.marksBroadcast w.committed = true :=
    List.any_eq_true.2 ⟨a, ha, by rw [hmark.1.1, hbroadcast]; rfl⟩
  rw [hquiet] at hany
  exact Bool.false_ne_true hany

variable (clk) in
/-- Marks take notifications out of the count of the unread ones. -/
theorem visibleUnread_after {w : Session Store} (hkeys : NotificationKeys w.committed)
    (r : MarkRequest) (user : ℕ) :
    visibleUnread user (r.handler.after clk w).committed +
      w.committed.notifications.countP (fun a => a.visibleTo user && a.unread && r.marks a) =
      visibleUnread user w.committed := by
  obtain ⟨now, hs⟩ := mark_after clk hkeys r
  unfold visibleUnread
  rw [hs, MarkRequest.result]
  induction w.committed.notifications with
  | nil => rfl
  | cons a rows ih =>
    rw [updateWhere_cons, List.countP_cons, List.countP_cons, List.countP_cons, ← ih]
    cases hmark : r.marks a with
    | true =>
      -- a marked notification is not counted any more
      have hread : (a.markedAt now).unread = false := rfl
      simp only [if_true, hread, Bool.and_false, Bool.and_true, Bool.false_eq_true, if_false]
      omega
    | false =>
      simp only [Bool.and_false, Bool.false_eq_true, if_false]
      omega

/-- A mark on a broadcast is missed by every reader. -/
theorem visibleUnread_lt {w : Session Store} (hkeys : NotificationKeys w.committed) {r : MarkRequest}
    (hmarks : r.marksBroadcast w.committed = true) (user : ℕ) :
    visibleUnread user (r.handler.after clk w).committed < visibleUnread user w.committed := by
  obtain ⟨a, ha, hbroadcast⟩ := List.any_eq_true.1 hmarks
  rw [Bool.and_eq_true] at hbroadcast
  have hunread : a.unread = true := (Bool.and_eq_true_iff.1 hbroadcast.2).2
  have hcounted : 0 < w.committed.notifications.countP
      fun a => a.visibleTo user && a.unread && r.marks a := by
    refine List.countP_pos_iff.2 ⟨a, ha, ?_⟩
    simp only [MarkRequest.marks, hbroadcast.1, visibleTo_of_broadcast hbroadcast.2, hunread,
      Bool.and_self]
  have hsum := visibleUnread_after clk hkeys r user
  omega

/-! ## Sequences of requests -/

/-- The session a sequence leaves. -/
def afterMarks (clk : ℕ → ℤ) (requests : List MarkRequest) (w : Session Store) : Session Store :=
  Prog.afterEach clk MarkRequest.handler requests w

/-- Along a sequence the count only falls. -/
theorem visibleUnread_afterMarks (requests : List MarkRequest) (user : ℕ) {w : Session Store}
    (hkeys : NotificationKeys w.committed) :
    visibleUnread user (afterMarks clk requests w).committed ≤ visibleUnread user w.committed := by
  induction requests generalizing w with
  | nil => exact le_rfl
  | cons r requests ih =>
    have hstep := visibleUnread_after clk hkeys r user
    exact (ih (notificationKeys_after hkeys r)).trans (by omega)

/-- A sequence of requests of others that marks no broadcast leaves a reader what they see. -/
theorem visibleRows_afterMarks {requests : List MarkRequest} {user : ℕ}
    (hothers : ∀ r ∈ requests, r.user ≠ user) {w : Session Store}
    (hkeys : NotificationKeys w.committed)
    (hquiet : ∀ r ∈ requests, r.marksBroadcast w.committed = false) :
    visibleRows user (afterMarks clk requests w).committed = visibleRows user w.committed := by
  induction requests generalizing w with
  | nil => rfl
  | cons r requests ih =>
    rw [List.forall_mem_cons] at hothers hquiet
    have hsame := visibleRows_after clk hkeys hothers.1 hquiet.1
    refine (ih hothers.2 (notificationKeys_after hkeys r) fun r' hr' => ?_).trans hsame
    rw [marksBroadcast_visible r' user, hsame, ← marksBroadcast_visible]
    exact hquiet.2 r' hr'

/-- A sequence of requests of others that marks a broadcast takes it off everybody's count. -/
theorem visibleUnread_afterMarks_lt {requests : List MarkRequest} {user : ℕ}
    (hothers : ∀ r ∈ requests, r.user ≠ user) {w : Session Store}
    (hkeys : NotificationKeys w.committed)
    (hmarks : ∃ r ∈ requests, r.marksBroadcast w.committed = true) :
    visibleUnread user (afterMarks clk requests w).committed < visibleUnread user w.committed := by
  induction requests generalizing w with
  | nil =>
    obtain ⟨r, hr, -⟩ := hmarks
    cases hr
  | cons r requests ih =>
    have hkeys' : NotificationKeys (r.handler.after clk w).committed := notificationKeys_after hkeys r
    rw [List.forall_mem_cons] at hothers
    cases hfirst : r.marksBroadcast w.committed with
    | true =>
      exact (visibleUnread_afterMarks requests user hkeys').trans_lt (visibleUnread_lt hkeys hfirst user)
    | false =>
      -- the first request leaves the broadcast to the others
      have hsame := visibleRows_after clk hkeys hothers.1 hfirst
      have hrest : ∃ r' ∈ requests,
          r'.marksBroadcast (r.handler.after clk w).committed = true := by
        rw [List.exists_mem_cons_iff, hfirst] at hmarks
        obtain ⟨r', hr', hmark⟩ := hmarks.resolve_left Bool.false_ne_true
        refine ⟨r', hr', ?_⟩
        rw [marksBroadcast_visible r' user, hsame, ← marksBroadcast_visible]
        exact hmark
      refine (ih hothers.2 hkeys' hrest).trans_eq ?_
      rw [visibleUnread_visible, visibleUnread_visible, hsame]

/-! ## Two runs -/

/-- The unread items of a page of the user's list. -/
def unreadListed (clk : ℕ → ℤ) (user : ℕ) (page pageSize : ℤ) (w : Session Store) :
    Except (Exc AppError) (List Notification) :=
  ((listNotifications user page pageSize).exec clk w).1.map NotificationPage.unreadItems

/-- The answer of the counter. -/
def unreadCounted (clk : ℕ → ℤ) (user : ℕ) (w : Session Store) : Except (Exc AppError) ℕ :=
  ((unreadCount user).exec clk w).1

/-- The user finds the same unread notifications, on every page, and as many of them. -/
structure UnreadSame (clk : ℕ → ℤ) (user : ℕ) (w w' : Session Store) : Prop where
  listed : ∀ page pageSize,
    unreadListed clk user page pageSize w' = unreadListed clk user page pageSize w
  counted : unreadCounted clk user w' = unreadCounted clk user w

/-- The figure of the list is the figure of the counter. -/
def FiguresAgree (clk : ℕ → ℤ) (user : ℕ) (w : Session Store) : Prop :=
  ∀ page pageSize answer, ((listNotifications user page pageSize).exec clk w).1 = .ok answer →
    unreadCounted clk user w = .ok answer.unread

/-- What the list answers: a function of what the user sees. -/
def listAnswer (user : ℕ) (page pageSize : ℤ) (rows : List Notification) :
    Except (Exc AppError) NotificationPage :=
  if (page - 1) * pageSize < 0 ∨ pageSize < 0 then .error (.rejected .data)
  else if pageSize = 0 then .error (.app .zeroDivision)
  else
    .ok {
      items := ((orderByDesc Notification.createdAt rows).drop
        ((page - 1) * pageSize).toNat).take pageSize.toNat
      page, pageSize, totalItems := (orderByDesc Notification.createdAt rows).length
      totalPages := ((orderByDesc Notification.createdAt rows).length + pageSize - 1).fdiv pageSize
      unread := rows.countP fun a => a.recipientUserId == some user && a.unread }

theorem listNotifications_exec (user : ℕ) (page pageSize : ℤ) {w : Session Store}
    (hlive : w.broken = false) :
    ((listNotifications user page pageSize).exec clk w).1 =
      listAnswer user page pageSize (visibleRows user w.view) := by
  simp only [listNotifications, listAnswer, Prog.bind_eq, Prog.pure_eq, Prog.exec_bind,
    Prog.exec_select _ _ hlive, Prog.andThen_ok]
  split
  · rfl
  · rw [Prog.exec_bind, Prog.exec_select _ _ hlive, Prog.andThen_ok, Prog.exec_bind,
      Prog.exec_select _ _ hlive, Prog.andThen_ok, personalUnread_visible]
    split
    · rfl
    · rfl

theorem unreadCounted_eq (user : ℕ) {w : Session Store} (hlive : w.broken = false) :
    unreadCounted clk user w = .ok ((visibleRows user w.view).countP Notification.unread) := by
  rw [unreadCounted, unreadCount, Prog.exec_select _ _ hlive, visibleUnread_visible]

/-- A reader who sees the same rows finds the same. -/
theorem UnreadSame.of_visible {user : ℕ} {w w' : Session Store} (hlive : w.broken = false)
    (hlive' : w'.broken = false) (h : visibleRows user w'.view = visibleRows user w.view) :
    UnreadSame clk user w w' where
  listed page pageSize := by
    rw [unreadListed, unreadListed, listNotifications_exec user page pageSize hlive,
      listNotifications_exec user page pageSize hlive', h]
  counted := by rw [unreadCounted_eq user hlive, unreadCounted_eq user hlive', h]

/-- The two figures differ by the unread broadcasts. -/
theorem visible_unread_split (user : ℕ) (s : Store) :
    (visibleRows user s).countP Notification.unread =
      (visibleRows user s).countP (fun a => a.recipientUserId == some user && a.unread) +
        s.notifications.countP Notification.unreadBroadcast := by
  rw [visibleRows, List.countP_filter, List.countP_filter]
  induction s.notifications with
  | nil => rfl
  | cons a rows ih =>
    rw [List.countP_cons, List.countP_cons, List.countP_cons, ih]
    unfold Notification.visibleTo Notification.unreadBroadcast
    cases a.recipientUserId with
    | none =>
      cases a.unread with
      | true => simp; omega
      | false => simp
    | some recipient =>
      cases a.unread with
      | true =>
        cases hto : (some recipient == some user) with
        | true => simp; omega
        | false => simp
      | false => simp

theorem figuresAgree_iff (user : ℕ) {w : Session Store} (hlive : w.broken = false) :
    FiguresAgree clk user w ↔ ∀ a ∈ w.view.notifications, a.unreadBroadcast = false := by
  have hsplit := visible_unread_split user w.view
  have hnone : w.view.notifications.countP Notification.unreadBroadcast = 0 ↔
      ∀ a ∈ w.view.notifications, a.unreadBroadcast = false := by
    rw [List.countP_eq_zero]
    exact forall₂_congr fun a _ => by rw [Bool.not_eq_true]
  rw [← hnone]
  unfold FiguresAgree
  rw [unreadCounted_eq user hlive]
  constructor
  · intro h
    -- the first page of twenty is answered
    have hfirst := h 1 20 _ (listNotifications_exec user 1 20 hlive)
    have hfigure := Except.ok.inj hfirst
    dsimp only at hfigure
    omega
  · intro hzero page pageSize answer hanswer
    rw [listNotifications_exec user page pageSize hlive, listAnswer] at hanswer
    split at hanswer
    · cases hanswer
    · split at hanswer
      · cases hanswer
      · cases hanswer
        dsimp only
        rw [hsplit, hzero, Nat.add_zero]

/-- **Isolation of readers.** Requests of others leave a user's unread notifications, and their
count, as they are exactly when none of them marks a broadcast; and the figure of the list is the
figure of the counter exactly when there is no unread broadcast. -/
theorem unread_isolated_iff (clk : ℕ → ℤ) (user : ℕ) (requests : List MarkRequest)
    (hothers : ∀ r ∈ requests, r.user ≠ user) (s : Store) (hkeys : NotificationKeys s) (n k : ℕ) :
    (UnreadSame clk user (.fresh s n k) (afterMarks clk requests (.fresh s n k)) ↔
      ∀ r ∈ requests, r.marksBroadcast s = false) ∧
      (FiguresAgree clk user (.fresh s n k) ↔ ∀ a ∈ s.notifications, a.unreadBroadcast = false) := by
  have hfresh (requests : List MarkRequest) {w : Session Store}
      (hw : w.broken = false ∧ w.view = w.committed) : (afterMarks clk requests w).broken = false ∧
        (afterMarks clk requests w).view = (afterMarks clk requests w).committed := by
    induction requests generalizing w with
    | nil => exact hw
    | cons r requests ih => exact ih ⟨rfl, rfl⟩
  obtain ⟨hlive', hview'⟩ := hfresh requests (w := .fresh s n k) ⟨rfl, rfl⟩
  refine ⟨⟨fun hsame r hr => ?_, fun hquiet => ?_⟩, figuresAgree_iff user rfl⟩
  · refine Bool.eq_false_iff.2 fun hmark => ?_
    have hless : visibleUnread user (afterMarks clk requests (.fresh s n k)).committed <
        visibleUnread user s := visibleUnread_afterMarks_lt hothers hkeys ⟨r, hr, hmark⟩
    have hcount := hsame.counted
    rw [unreadCounted_eq user hlive', unreadCounted_eq user rfl, hview', ← visibleUnread_visible,
      ← visibleUnread_visible] at hcount
    exact absurd (Except.ok.inj hcount) (Nat.ne_of_lt hless)
  · refine .of_visible rfl hlive' ?_
    rw [hview']
    exact visibleRows_afterMarks hothers hkeys hquiet

end

/-! ### A broadcast, and none -/

/-- A notification for each of two users. -/
def personalNotices : Store :=
  { notifications := [{ id := 1, recipientUserId := some 1, title := "gate", createdAt := 0 },
      { id := 2, recipientUserId := some 2, title := "gate", createdAt := 1 }] }

/-- The decision of a gate, told to everybody. -/
def broadcastNotice : Store := { notifications := [{ id := 1, title := "gate", createdAt := 0 }] }

theorem unread_isolated_iff_personal :
    UnreadSame (fun _ => 7) 1 (.fresh personalNotices 3 0)
        (afterMarks (fun _ => 7) [.read 2 2, .readAll 2] (.fresh personalNotices 3 0)) ∧
      FiguresAgree (fun _ => 7) 1 (.fresh personalNotices 3 0) := by
  have h := unread_isolated_iff (fun _ => 7) 1 [.read 2 2, .readAll 2] (by decide) personalNotices
    (by unfold NotificationKeys; decide) 3 0
  exact ⟨h.1.2 (by decide), h.2.2 (by decide)⟩

/-- Somebody who reads all takes the broadcast off the list of the others. -/
theorem broadcast_read_for_all :
    ¬ ∀ (clk : ℕ → ℤ) (user : ℕ) (requests : List MarkRequest), (∀ r ∈ requests, r.user ≠ user) →
      ∀ s : Store, NotificationKeys s → ∀ n k,
        UnreadSame clk user (.fresh s n k) (afterMarks clk requests (.fresh s n k)) ∧
          FiguresAgree clk user (.fresh s n k) := by
  intro h
  have hkeys : NotificationKeys broadcastNotice := by unfold NotificationKeys; decide
  have hcounted := (h (fun _ => 7) 1 [.readAll 2] (by decide) broadcastNotice hkeys 2 0).1.counted
  -- the counter of user 1 goes from one to nothing
  have hfigure : (Except.ok 0 : Except (Exc AppError) ℕ) = .ok 1 := hcounted
  cases hfigure

end ParkingSystem
