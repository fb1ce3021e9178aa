import Mathlib.Logic.Relation
import Mathlib.Tactic.Linarith
import ParkingSystem.Camera.Emit

/-!
# The Camera Leader

Every worker of the server runs `poller_loop`; the one that holds a key in the store should be the
only one that reads the cameras. The key is a lease of fifteen seconds, which a worker asks for
every ten.

## What goes wrong

A worker believes what its last check said until the next one, however long a frame takes, while
its lease runs out; a check that raises says that the worker leads. Each worker remembers only the
plates it has sent itself.
-/

namespace ParkingSystem

/-! ## The table of a worker -/

section

variable {cfg : Config} {key : String} {now : ℚ} {last : LastEmit}

/-- An entry that passes is found among those that pass. -/
theorem lookup_filter_of {p : String × ℚ → Bool} {k : String} {t : ℚ} (h : last.lookup k = some t)
    (hp : p (k, t) = true) : (last.filter p).lookup k = some t := by
  induction last with
  | nil => cases h
  | cons entry last ih =>
    obtain ⟨k', t'⟩ := entry
    by_cases hk : k = k'
    · subst hk
      obtain rfl : t' = t := by simpa using h
      simp [hp]
    · have hk : (k == k') = false := by simpa using hk
      rw [List.lookup_cons, hk] at h
      rw [List.filter_cons]
      split
      · rw [List.lookup_cons, hk]
        exact ih h
      · exact ih h

/-- A plate is sent when the last time is a dedupe window ago; the table then knows it, and every
other plate but those it knew from longer ago. -/
theorem shouldEmit_true (h : (shouldEmit cfg key now last).1 = true) :
    (∀ t, last.lookup key = some t → t ≠ 0 → cfg.cameraDedupeTtl ≤ now - t) ∧
    (shouldEmit cfg key now last).2.lookup key = some now ∧
    ∀ k t, k ≠ key → last.lookup k = some t →
      cfg.cameraDedupeTtl ≤ now - t ∨ (shouldEmit cfg key now last).2.lookup k = some t := by
  unfold shouldEmit at h ⊢
  split at h
  · cases h
  rename_i hold
  rw [if_neg hold]
  have hothers {k : String} {t : ℚ} (hk : k ≠ key) (hlookup : last.lookup k = some t) :
      ((key, now) :: last.filter fun entry => entry.1 != key).lookup k = some t := by
    rw [List.lookup_cons, beq_false_of_ne hk]
    exact lookup_filter_of hlookup (by simpa using hk)
  -- what is pruned is older than a window
  have hwindow : cfg.cameraDedupeTtl ≤ max 60 (cfg.cameraDedupeTtl * 4) := by
    rcases le_total 0 cfg.cameraDedupeTtl with hpos | hneg
    · exact le_max_of_le_right (by linarith)
    · exact le_max_of_le_left (by linarith)
  have hsixty : (60 : ℚ) ≤ max 60 (cfg.cameraDedupeTtl * 4) := le_max_left _ _
  refine ⟨fun t hlookup hzero => ?_, ?_, fun k t hk hlookup => ?_⟩
  · by_contra hrecent
    exact hold (by simp [hlookup, hzero, not_le.1 hrecent])
  · dsimp only
    split
    · refine lookup_filter_of (List.lookup_cons_self) ?_
      simp only [Bool.not_eq_true', decide_eq_false_iff_not, not_lt]
      linarith
    · exact List.lookup_cons_self
  · dsimp only
    split
    · by_cases hrecent : t < now - max 60 (cfg.cameraDedupeTtl * 4)
      · exact Or.inl (by linarith)
      · exact Or.inr (lookup_filter_of (hothers hk hlookup) (by simpa using hrecent))
    · exact Or.inr (hothers hk hlookup)

theorem shouldEmit_false (h : (shouldEmit cfg key now last).1 = false) :
    (shouldEmit cfg key now last).2 = last := by
  unfold shouldEmit at h ⊢
  split at h
  · rw [if_pos ‹_›]
  · cases h

end

/-! ## Workers and the store -/

/-- Where a worker is in `_try_leader`, with `now` of the turn of the loop. -/
inductive LeaderCheck where
  | idle
  | asking (started : ℚ)
  | taken (started : ℚ)
  | own (started : ℚ)
  | answered (started : ℚ) (leader : Bool)
  deriving DecidableEq

/-- What a worker keeps: `STATUS["leader"]`, its check, `last_leader_check` and `_last_emit`. -/
structure CameraWorker where
  leader : Bool := false
  check : LeaderCheck := .idle
  lastLeaderCheck : ℚ := 0
  lastEmit : LastEmit := []

/-- A plate that a worker has sent. This is not a table of the code. -/
structure SentPlate (ι : Type) where
  worker : ι
  key : String
  sentAt : ℚ

/-- The workers, the key in the store with the end of its lease, and the plates they have sent. -/
structure Cluster (ι : Type) where
  now : ℚ
  leaderKey : Option (ι × ℚ)
  workers : ι → CameraWorker
  sent : List (SentPlate ι)

/-- What happens: time passes, the store loses the key, a worker is in its loop, its check raises or
its loop ends. -/
inductive ClusterEvent (ι : Type) where
  | clock (t : ℚ)
  | lose
  | check (i : ι)
  | set (i : ι)
  | get (i : ι)
  | expire (i : ι)
  | answer (i : ι)
  | fail (i : ι)
  | stop (i : ι)
  | frame (i : ι) (plates : List PlateItem)

/-- When a check that is under way was started. -/
def LeaderCheck.started? : LeaderCheck → Option ℚ
  | .idle => none
  | .asking started | .taken started | .own started | .answered started _ => some started

/-- A check has found that the worker leads. -/
def LeaderCheck.leads : LeaderCheck → Bool
  | .own _ => true
  | .answered _ leader => leader
  | .idle | .asking _ | .taken _ => false

/-- A worker leads, or its check has found that it does. -/
def CameraWorker.relies (w : CameraWorker) : Bool := w.leader || w.check.leads

/-- The plate of a frame that may be sent. -/
def frameKey (cfg : Config) (plates : List PlateItem) : Option String :=
  (chooseReading (Emitter.minConf cfg .poller) plates).bind fun item =>
    if normKey cfg item.text = "" then none else some (normKey cfg item.text)

/-- The plate that a frame sends, with the table that it leaves. -/
def emitFrame (cfg : Config) (plates : List PlateItem) (now : ℚ) (last : LastEmit) :
    Option String × LastEmit :=
  match frameKey cfg plates with
  | none => (none, last)
  | some key => ((if (shouldEmit cfg key now last).1 then some key else none),
      (shouldEmit cfg key now last).2)

/-- This is what `_process_frame` does: it leaves the table, and sends nothing where no plate is
sent. -/
theorem processFrame_emitFrame (cfg : Config) (cam : CameraSide) (plates : List PlateItem) (now : ℚ)
    (last : LastEmit) :
    (processFrame cfg cam plates now last).2 = (emitFrame cfg plates now last).2 ∧
      ((emitFrame cfg plates now last).1 = none →
        (processFrame cfg cam plates now last).1 = .ret none) := by
  unfold processFrame emitFrame frameKey
  cases chooseReading (Emitter.minConf cfg .poller) plates with
  | none => exact ⟨rfl, fun _ => rfl⟩
  | some item =>
    by_cases hkey : normKey cfg item.text = ""
    · simp [hkey]
    · rcases hemit : shouldEmit cfg (normKey cfg item.text) now last with ⟨_ | _, last'⟩ <;>
        simp [hkey, hemit]

namespace Cluster

variable {ι : Type}

/-- The workers at an instant, before any check; the key may be there. -/
def start (now : ℚ) (leaderKey : Option (ι × ℚ)) : Cluster ι :=
  { now, leaderKey, workers := fun _ => {}, sent := [] }

/-- Whose lease runs. -/
def holder (c : Cluster ι) : Option ι :=
  c.leaderKey.bind fun lease => if c.now < lease.2 then some lease.1 else none

section

variable [DecidableEq ι]

/-- Replace one worker. -/
def setWorker (c : Cluster ι) (i : ι) (w : CameraWorker) : Cluster ι :=
  { c with workers := Function.update c.workers i w }

/-- The next cluster, where the event is possible. -/
def step (cfg : Config) (c : Cluster ι) : ClusterEvent ι → Option (Cluster ι)
  | .clock t => if c.now ≤ t then some { c with now := t } else none
  | .lose => some { c with leaderKey := none }
  | .check i =>
    if (c.workers i).check = .idle ∧ 10 < c.now - (c.workers i).lastLeaderCheck then
      some (c.setWorker i { c.workers i with check := .asking c.now })
    else none
  | .set i =>
    match (c.workers i).check, c.holder with
    | .asking started, none => some { c.setWorker i
        { c.workers i with check := .answered started true } with leaderKey := some (i, c.now + 15) }
    | .asking started, some _ => some (c.setWorker i { c.workers i with check := .taken started })
    | _, _ => none
  | .get i =>
    match (c.workers i).check with
    | .taken started => some (c.setWorker i { c.workers i with
        check := if c.holder = some i then .own started else .answered started false })
    | _ => none
  | .expire i =>
    match (c.workers i).check with
    | .own started => some { c.setWorker i { c.workers i with check := .answered started true } with
        leaderKey := c.holder.map fun j => (j, c.now + 15) }
    | _ => none
  | .answer i =>
    match (c.workers i).check with
    | .answered started leader => some (c.setWorker i
        { c.workers i with leader, check := .idle, lastLeaderCheck := started })
    | _ => none
  | .fail i =>
    -- `except Exception: return True`, whatever was asked or answered by then
    match (c.workers i).check.started? with
    | some started => some (c.setWorker i
        { c.workers i with leader := true, check := .idle, lastLeaderCheck := started })
    | none => none
  | .stop i => some (c.setWorker i
      { c.workers i with leader := false, check := .idle, lastLeaderCheck := 0 })
  | .frame i plates =>
    if (c.workers i).leader = true ∧ (c.workers i).check = .idle then
      let emitted := emitFrame cfg plates c.now (c.workers i).lastEmit
      some { c.setWorker i { c.workers i with lastEmit := emitted.2 } with
        sent := c.sent ++ (emitted.1.map fun key => { worker := i, key, sentAt := c.now }).toList }
    else none

/-- A run under a condition on its events. -/
abbrev Run (cfg : Config) (allowed : Cluster ι → ClusterEvent ι → Prop) :
    Cluster ι → Cluster ι → Prop :=
  Relation.ReflTransGen fun c c' => ∃ e, allowed c e ∧ c.step cfg e = some c'

end

/-! ## One leader -/

/-- At most one worker leads. -/
def OneLeader (c : Cluster ι) : Prop :=
  ∀ i j, (c.workers i).leader = true → (c.workers j).leader = true → i = j

/-- Two events of a plate are a dedupe window apart. -/
def Deduped (cfg : Config) (c : Cluster ι) : Prop :=
  c.sent.Pairwise fun a b => a.key = b.key → cfg.cameraDedupeTtl ≤ b.sentAt - a.sentAt

/-- What the others have sent is a dedupe window old. -/
def OthersQuiet (cfg : Config) (c : Cluster ι) (i : ι) : Prop :=
  ∀ e ∈ c.sent, e.worker ≠ i → cfg.cameraDedupeTtl ≤ c.now - e.sentAt

/-- A worker that does not lead may begin to. -/
def MayTakeOver (cfg : Config) (c : Cluster ι) (i : ι) : Prop :=
  (c.workers i).leader = false → c.OthersQuiet cfg i

/-- **The condition.** A lease is not over, and not lost, while its holder relies on it; a check
that raises is one of the holder; a worker that takes over does so when the events of the others are
a dedupe window old. -/
def LeaseKept (cfg : Config) (c : Cluster ι) : ClusterEvent ι → Prop
  | .clock t => ∀ lease ∈ c.leaderKey, lease.2 ≤ t → (c.workers lease.1).relies = false
  | .lose => ∀ i ∈ c.holder, (c.workers i).relies = false
  | .fail i => c.holder = some i ∧ c.MayTakeOver cfg i
  | .answer i => (c.workers i).check.leads = true → c.MayTakeOver cfg i
  | _ => True

/-- What a run keeps: whoever relies on the lease holds it, and only a leader's events are less than
a dedupe window old where the leader's own table does not know them. -/
structure Led (cfg : Config) (c : Cluster ι) : Prop where
  lease : ∀ i, (c.workers i).relies = true → ∃ until', c.leaderKey = some (i, until') ∧ c.now < until'
  started : ∀ i, 0 ≤ (c.workers i).lastLeaderCheck ∧
    ∀ started, (c.workers i).check.started? = some started → 0 < started ∧ started ≤ c.now
  awake : ∀ i, (c.workers i).leader = true → 0 < c.now
  quiet : ∀ i, (c.workers i).leader = true → c.OthersQuiet cfg i
  remembered : ∀ e ∈ c.sent, cfg.cameraDedupeTtl ≤ c.now - e.sentAt ∨
    ∃ t, (c.workers e.worker).lastEmit.lookup e.key = some t ∧ e.sentAt ≤ t ∧ 0 < t
  deduped : c.Deduped cfg

section

variable {cfg : Config} {c c' : Cluster ι} {i : ι} {w : CameraWorker}

theorem holder_of_lease {until' : ℚ} (hkey : c.leaderKey = some (i, until')) (hnow : c.now < until') :
    c.holder = some i := by
  simp [holder, hkey, hnow]

theorem lease_of_holder (h : c.holder = some i) :
    ∃ until', c.leaderKey = some (i, until') ∧ c.now < until' := by
  obtain ⟨⟨j, until'⟩, hkey, hheld⟩ := Option.bind_eq_some_iff.1 h
  split at hheld
  · cases hheld
    exact ⟨until', hkey, ‹_›⟩
  · cases hheld

theorem Led.start (now : ℚ) (leaderKey : Option (ι × ℚ)) : Led cfg (.start now leaderKey) where
  lease _ h := by cases h
  started _ := ⟨le_refl 0, nofun⟩
  awake _ h := by cases h
  quiet _ h := by cases h
  remembered := nofun
  deduped := List.Pairwise.nil

/-- The holder of a running lease is the only one who relies on it. -/
theorem Led.relies_unique (h : Led cfg c) {j : ι} (hi : (c.workers i).relies = true)
    (hj : (c.workers j).relies = true) : i = j := by
  obtain ⟨_, hkey, -⟩ := h.lease i hi
  obtain ⟨_, hkey', -⟩ := h.lease j hj
  rw [hkey] at hkey'
  cases hkey'
  rfl

/-- Another key does not matter where those who rely on it hold it. -/
theorem Led.setKey (h : Led cfg c) {key : Option (ι × ℚ)} (hkey : ∀ i, (c.workers i).relies = true →
    ∃ until', key = some (i, until') ∧ c.now < until') : Led cfg { c with leaderKey := key } where
  lease := hkey
  started := h.started
  awake := h.awake
  quiet := h.quiet
  remembered := h.remembered
  deduped := h.deduped

variable [DecidableEq ι]

theorem setWorker_self (c : Cluster ι) (i : ι) (w : CameraWorker) : (c.setWorker i w).workers i = w := by
  simp [setWorker]

theorem setWorker_of_ne (c : Cluster ι) {i j : ι} (h : j ≠ i) (w : CameraWorker) :
    (c.setWorker i w).workers j = c.workers j := by
  simp [setWorker, h]

theorem setWorker_same (c : Cluster ι) (i : ι) : c.setWorker i (c.workers i) = c := by
  simp [setWorker]

/-- What holds of the worker that is replaced and of the workers before holds of the workers. -/
theorem forall_setWorker {P : ι → CameraWorker → Prop} (hself : P i w)
    (hothers : ∀ j, P j (c.workers j)) (j : ι) : P j ((c.setWorker i w).workers j) := by
  rcases eq_or_ne j i with rfl | hj
  · rw [setWorker_self]
    exact hself
  · rw [setWorker_of_ne c hj]
    exact hothers j

/-- **Step of a check**: a worker that keeps its table may rely on the lease it holds, and lead where
the others are quiet. -/
theorem Led.setWorker (h : Led cfg c)
    (hrelies : w.relies = true → ∃ until', c.leaderKey = some (i, until') ∧ c.now < until')
    (hlast : 0 ≤ w.lastLeaderCheck)
    (hstarted : ∀ started, w.check.started? = some started → 0 < started ∧ started ≤ c.now)
    (hleads : w.leader = true → 0 < c.now ∧ c.OthersQuiet cfg i)
    (hsame : w.lastEmit = (c.workers i).lastEmit) : Led cfg (c.setWorker i w) := by
  have htable (j : ι) : ((c.setWorker i w).workers j).lastEmit = (c.workers j).lastEmit :=
    forall_setWorker (P := fun j w => w.lastEmit = (c.workers j).lastEmit) hsame (fun _ => rfl) j
  exact {
    lease := forall_setWorker (P := fun j w => w.relies = true →
      ∃ until', c.leaderKey = some (j, until') ∧ c.now < until') hrelies h.lease
    started := forall_setWorker (P := fun _ w => 0 ≤ w.lastLeaderCheck ∧
      ∀ started, w.check.started? = some started → 0 < started ∧ started ≤ c.now)
      ⟨hlast, hstarted⟩ h.started
    awake := forall_setWorker (P := fun _ w => w.leader = true → 0 < c.now) (fun hw => (hleads hw).1) h.awake
    quiet := forall_setWorker (P := fun j w => w.leader = true → c.OthersQuiet cfg j)
      (fun hw => (hleads hw).2) h.quiet
    remembered := fun e he => by
      rw [htable]
      exact h.remembered e he
    deduped := h.deduped }

/-- Only the check changes. -/
theorem Led.setCheck (h : Led cfg c) {check : LeaderCheck}
    (hleads : check.leads = true → ∃ until', c.leaderKey = some (i, until') ∧ c.now < until')
    (hstarted : ∀ started, check.started? = some started → 0 < started ∧ started ≤ c.now) :
    Led cfg (c.setWorker i { c.workers i with check }) := by
  refine h.setWorker (fun hrelies => ?_) (h.started i).1 hstarted
    (fun hw => ⟨h.awake i hw, h.quiet i hw⟩) rfl
  rcases Bool.or_eq_true_iff.1 hrelies with hleader | hcheck
  · exact h.lease i (Bool.or_eq_true_iff.2 (Or.inl hleader))
  · exact hleads hcheck

/-- A check ends: it has found that the worker leads, and then nothing recent is the others'. -/
theorem Led.endCheck (h : Led cfg c) {leader : Bool} {started : ℚ}
    (hstarted : (c.workers i).check.started? = some started)
    (htakes : leader = true → c.MayTakeOver cfg i)
    (hleads : leader = true → ∃ until', c.leaderKey = some (i, until') ∧ c.now < until') :
    Led cfg (c.setWorker i
      { c.workers i with leader, check := .idle, lastLeaderCheck := started }) := by
  obtain ⟨hpos, hpast⟩ := (h.started i).2 started hstarted
  refine h.setWorker (fun hrelies => ?_) hpos.le nofun (fun hw => ⟨by linarith, ?_⟩) rfl
  · rcases Bool.or_eq_true_iff.1 hrelies with hleader | hcheck
    · exact hleads hleader
    · cases hcheck
  · cases hled : (c.workers i).leader with
    | true => exact h.quiet i hled
    | false => exact htakes hw hled

omit [DecidableEq ι] in
/-- Time passes while nobody's lease ends. -/
theorem Led.pass (h : Led cfg c) {t : ℚ} (hle : c.now ≤ t)
    (hlease : ∀ lease ∈ c.leaderKey, lease.2 ≤ t → (c.workers lease.1).relies = false) :
    Led cfg { c with now := t } where
  lease i hrelies := by
    obtain ⟨until', hkey, -⟩ := h.lease i hrelies
    refine ⟨until', hkey, ?_⟩
    by_contra hover
    exact absurd hrelies (by simp [hlease _ hkey (not_lt.1 hover)])
  started i := ⟨(h.started i).1, fun started hs =>
    ⟨((h.started i).2 started hs).1, ((h.started i).2 started hs).2.trans hle⟩⟩
  awake i hleads := (h.awake i hleads).trans_le hle
  quiet i hleads e he hother := (h.quiet i hleads e he hother).trans (sub_le_sub_right hle _)
  remembered e he := (h.remembered e he).imp_left fun hold => hold.trans (sub_le_sub_right hle _)
  deduped := h.deduped

/-- **Step of a frame**: the leader's table knows what the leader has sent, and the others have sent
nothing lately. -/
theorem Led.frame (h : Led cfg c) (hleads : (c.workers i).leader = true) {key : String}
    (hemit : (shouldEmit cfg key c.now (c.workers i).lastEmit).1 = true) :
    Led cfg { c.setWorker i { c.workers i with
        lastEmit := (shouldEmit cfg key c.now (c.workers i).lastEmit).2 } with
      sent := c.sent ++ [{ worker := i, key, sentAt := c.now }] } := by
  obtain ⟨hlast, hnew, hothers⟩ := shouldEmit_true hemit
  -- whatever was sent of this plate is a window old
  have hold {e : SentPlate ι} (he : e ∈ c.sent) (hkey : e.key = key) :
      cfg.cameraDedupeTtl ≤ c.now - e.sentAt := by
    by_cases hself : e.worker = i
    · rcases h.remembered e he with hold | ⟨t, hlookup, hsent, hpos⟩
      · exact hold
      · rw [hself, hkey] at hlookup
        have hwindow := hlast t hlookup hpos.ne'
        linarith
    · exact h.quiet i hleads e he hself
  have hrelies {j : ι} (hj : (c.workers j).leader = true) : (c.workers j).relies = true :=
    Bool.or_eq_true_iff.2 (Or.inl hj)
  exact {
    lease := forall_setWorker (P := fun j w => w.relies = true →
      ∃ until', c.leaderKey = some (j, until') ∧ c.now < until') (h.lease i) h.lease
    started := forall_setWorker (P := fun _ w => 0 ≤ w.lastLeaderCheck ∧
      ∀ started, w.check.started? = some started → 0 < started ∧ started ≤ c.now)
      (h.started i) h.started
    awake := forall_setWorker (P := fun _ w => w.leader = true → 0 < c.now) (h.awake i) h.awake
    quiet := by
      refine forall_setWorker (P := fun j w => w.leader = true →
        ∀ e ∈ c.sent ++ [{ worker := i, key, sentAt := c.now }], e.worker ≠ j →
          cfg.cameraDedupeTtl ≤ c.now - e.sentAt) (fun _ e he hother => ?_) fun j hj e he hother => ?_
      · rcases List.mem_append.1 he with he | he
        · exact h.quiet i hleads e he hother
        · exact absurd (by rw [List.mem_singleton.1 he]) hother
      · rcases List.mem_append.1 he with he | he
        · exact h.quiet j hj e he hother
        · -- nobody else leads
          rw [List.mem_singleton.1 he] at hother
          exact absurd (h.relies_unique (hrelies hleads) (hrelies hj)) hother
    remembered := fun e he => by
      rcases List.mem_append.1 he with he | he
      · by_cases hkey : e.key = key
        · exact Or.inl (hold he hkey)
        rcases h.remembered e he with hwindow | ⟨t, hlookup, hsent, hpos⟩
        · exact Or.inl hwindow
        · by_cases hself : e.worker = i
          · rw [hself] at hlookup
            rcases hothers e.key t hkey hlookup with hwindow | hkept
            · exact Or.inl (le_trans hwindow (sub_le_sub_left hsent _))
            · exact Or.inr ⟨t, by rw [hself, setWorker_self]; exact hkept, hsent, hpos⟩
          · exact Or.inr ⟨t, by rw [setWorker_of_ne c hself]; exact hlookup, hsent, hpos⟩
      · rw [List.mem_singleton.1 he]
        exact Or.inr ⟨c.now, by rw [setWorker_self]; exact hnew, le_refl _, h.awake i hleads⟩
    deduped := by
      refine List.pairwise_append.2 ⟨h.deduped, List.pairwise_singleton _ _, fun e he e' he' hkey => ?_⟩
      rw [List.mem_singleton.1 he'] at hkey ⊢
      exact hold he hkey }

/-- **Step**: an event under the condition keeps the invariant. -/
theorem Led.step (h : Led cfg c) {e : ClusterEvent ι} (hallowed : c.LeaseKept cfg e)
    (hstep : c.step cfg e = some c') : Led cfg c' := by
  cases e with
  | clock t =>
    simp only [Cluster.step] at hstep
    split at hstep
    · cases hstep
      exact h.pass ‹_› hallowed
    · cases hstep
  | lose =>
    cases hstep
    refine h.setKey fun i hrelies => ?_
    obtain ⟨until', hkey, hnow⟩ := h.lease i hrelies
    exact absurd hrelies (by simp [hallowed i (holder_of_lease hkey hnow)])
  | check i =>
    simp only [Cluster.step] at hstep
    split at hstep
    · rename_i hcheck
      cases hstep
      refine h.setCheck nofun fun started hs => ?_
      cases hs
      have hlast := (h.started i).1
      exact ⟨by linarith, le_refl _⟩
    · cases hstep
  | set i =>
    simp only [Cluster.step] at hstep
    split at hstep
    · rename_i started hcheck hnone
      cases hstep
      -- nobody relies on a lease that nobody holds
      have hfree : Led cfg { c with leaderKey := some (i, c.now + 15) } := by
        refine h.setKey fun j hj => ?_
        obtain ⟨until', hkey, hnow⟩ := h.lease j hj
        rw [holder_of_lease hkey hnow] at hnone
        cases hnone
      refine hfree.setCheck (fun _ => ⟨c.now + 15, rfl, by linarith⟩) fun started' hs => ?_
      cases hs
      exact (h.started i).2 started (by rw [hcheck]; rfl)
    · rename_i started _ hcheck _
      cases hstep
      refine h.setCheck nofun fun started' hs => ?_
      cases hs
      exact (h.started i).2 started (by rw [hcheck]; rfl)
    · cases hstep
  | get i =>
    simp only [Cluster.step] at hstep
    split at hstep
    · rename_i started hcheck
      cases hstep
      refine h.setCheck (fun hleads => ?_) fun started' hs => ?_
      · split at hleads
        · exact lease_of_holder ‹_›
        · cases hleads
      · refine (h.started i).2 started' ?_
        rw [hcheck]
        split at hs <;> exact hs
    · cases hstep
  | expire i =>
    simp only [Cluster.step] at hstep
    split at hstep
    · rename_i started hcheck
      cases hstep
      have hrelies : (c.workers i).relies = true :=
        Bool.or_eq_true_iff.2 (Or.inr (by rw [hcheck]; rfl))
      obtain ⟨until', hkey, hnow⟩ := h.lease i hrelies
      rw [holder_of_lease hkey hnow]
      have hmine : Led cfg { c with leaderKey := some (i, c.now + 15) } := by
        refine h.setKey fun j hj => ?_
        rw [h.relies_unique hrelies hj]
        exact ⟨c.now + 15, rfl, by linarith⟩
      refine hmine.setCheck (fun _ => ⟨c.now + 15, rfl, by linarith⟩) fun started' hs => ?_
      cases hs
      exact (h.started i).2 started (by rw [hcheck]; rfl)
    · cases hstep
  | answer i =>
    simp only [Cluster.step] at hstep
    split at hstep
    · rename_i started leader hcheck
      cases hstep
      refine h.endCheck (by rw [hcheck]; rfl) (fun hleads => hallowed ?_) fun hleads => ?_
      · rw [hcheck]
        exact hleads
      exact h.lease i (Bool.or_eq_true_iff.2 (Or.inr (by rw [hcheck]; exact hleads)))
    · cases hstep
  | fail i =>
    simp only [Cluster.step] at hstep
    split at hstep
    · rename_i started hcheck
      cases hstep
      exact h.endCheck hcheck (fun _ => hallowed.2) fun _ => lease_of_holder hallowed.1
    · cases hstep
  | stop i =>
    cases hstep
    exact h.setWorker nofun (le_refl 0) nofun nofun rfl
  | frame i plates =>
    simp only [Cluster.step] at hstep
    split at hstep
    · rename_i hready
      cases hstep
      have hnothing : Led cfg { c.setWorker i (c.workers i) with sent := c.sent ++ [] } := by
        rw [List.append_nil, setWorker_same]
        exact h
      unfold emitFrame
      cases frameKey cfg plates with
      | none => exact hnothing
      | some key =>
        cases hemit : (shouldEmit cfg key c.now (c.workers i).lastEmit).1 with
        | false =>
          simp only [hemit, shouldEmit_false hemit, Bool.false_eq_true, if_false]
          exact hnothing
        | true =>
          simp only [hemit, if_true]
          exact h.frame hready.1 hemit
    · cases hstep

/-- **Run**: the invariant holds in every state that is reached under the condition. -/
theorem Led.run (h : Led cfg c) (hrun : Run cfg (LeaseKept cfg) c c') : Led cfg c' := by
  induction hrun with
  | refl => exact h
  | tail _ hstep ih =>
    obtain ⟨e, hallowed, hnext⟩ := hstep
    exact ih.step hallowed hnext

end

/-! ## Following a list of events -/

section

variable [DecidableEq ι] (cfg : Config) (allowed : Cluster ι → ClusterEvent ι → Prop)
  [∀ c e, Decidable (allowed c e)]

/-- The events happen one after the other, each under the condition. -/
def follow : List (ClusterEvent ι) → Cluster ι → Option (Cluster ι)
  | [], c => some c
  | e :: es, c => if allowed c e then (c.step cfg e).bind (follow es) else none

variable {cfg allowed}

theorem follow_run {es : List (ClusterEvent ι)} {c c' : Cluster ι}
    (h : follow cfg allowed es c = some c') : Run cfg allowed c c' := by
  induction es generalizing c with
  | nil =>
    cases h
    exact .refl
  | cons e es ih =>
    unfold follow at h
    split at h
    · obtain ⟨c₁, hstep, hrest⟩ := Option.bind_eq_some_iff.1 h
      exact .head ⟨e, ‹_›, hstep⟩ (ih hrest)
    · cases h

instance (cfg : Config) (c : Cluster ι) (i : ι) : Decidable (c.OthersQuiet cfg i) :=
  inferInstanceAs (Decidable (∀ e ∈ c.sent, e.worker ≠ i → cfg.cameraDedupeTtl ≤ c.now - e.sentAt))

instance (cfg : Config) (c : Cluster ι) (i : ι) : Decidable (c.MayTakeOver cfg i) :=
  inferInstanceAs (Decidable ((c.workers i).leader = false → c.OthersQuiet cfg i))

instance (cfg : Config) (c : Cluster ι) : ∀ e : ClusterEvent ι, Decidable (c.LeaseKept cfg e)
  | .clock t => inferInstanceAs (Decidable
      (∀ lease ∈ c.leaderKey, lease.2 ≤ t → (c.workers lease.1).relies = false))
  | .lose => inferInstanceAs (Decidable (∀ i ∈ c.holder, (c.workers i).relies = false))
  | .fail i => inferInstanceAs (Decidable (c.holder = some i ∧ c.MayTakeOver cfg i))
  | .answer i => inferInstanceAs (Decidable ((c.workers i).check.leads = true → c.MayTakeOver cfg i))
  | .check _ | .set _ | .get _ | .expire _ | .stop _ | .frame _ _ => inferInstanceAs (Decidable True)

end

end Cluster

/-- **The camera leader: in every run in which no lease ends while its holder relies on it, no check
raises but the holder's, and leadership moves only once the events of the others are a dedupe window
old, at most one worker leads at any time, and two events of a plate are a dedupe window apart.** -/
theorem cameraLeader_run {ι : Type} [DecidableEq ι] (cfg : Config) (now : ℚ)
    (leaderKey : Option (ι × ℚ)) (c : Cluster ι)
    (hrun : Cluster.Run cfg (Cluster.LeaseKept cfg) (.start now leaderKey) c) :
    c.OneLeader ∧ c.Deduped cfg := by
  have hled := (Cluster.Led.start now leaderKey).run hrun
  refine ⟨fun i j hi hj => hled.relies_unique ?_ ?_, hled.deduped⟩
  · exact Bool.or_eq_true_iff.2 (Or.inl hi)
  · exact Bool.or_eq_true_iff.2 (Or.inl hj)

/-! ### A slow frame -/

/-- A frame with one plate. -/
def platedFrame : List PlateItem :=
  [{ raw := "12B34567", persian := "12ب34567", system := some "12B34567", valid := true
     confidence := 9 / 10, method := "yolo" }]

/-- A worker becomes the leader and sends a plate. -/
def leads (i : Fin 2) : List (ClusterEvent (Fin 2)) :=
  [.check i, .set i, .answer i, .frame i platedFrame]

theorem cameraLeader_run_alone :
    ∃ c, Cluster.Run {} (Cluster.LeaseKept {}) (.start (11 : ℚ) none) c ∧
      (c.workers (0 : Fin 2)).leader = true ∧ c.sent.length = 1 ∧ c.OneLeader ∧ c.Deduped {} := by
  have hrun : (Cluster.follow {} (Cluster.LeaseKept {}) (leads 0) (.start 11 none)).any (fun c =>
      (c.workers 0).leader && c.sent.length == 1) = true := by decide +kernel
  obtain ⟨c, hc, hboth⟩ := (Option.any_eq_true _ _).1 hrun
  simp only [Bool.and_eq_true, beq_iff_eq] at hboth
  have hsteps := Cluster.follow_run hc
  exact ⟨c, hsteps, hboth.1, hboth.2, cameraLeader_run {} 11 none c hsteps⟩

/-- **Two leaders**: a frame keeps the leader busy for sixteen seconds, and another worker gets the
lease; both send the plate. -/
theorem two_leaders :
    ¬ ∀ (cfg : Config) (now : ℚ) (leaderKey : Option (Fin 2 × ℚ)) (c : Cluster (Fin 2)),
      Cluster.Run cfg (fun _ _ => True) (.start now leaderKey) c → c.OneLeader ∧ c.Deduped cfg := by
  intro hall
  have hrun : (Cluster.follow {} (fun _ _ => True) (leads 0 ++ .clock 27 :: leads 1)
      (.start 11 none)).any (fun c => (c.workers 0).leader && (c.workers 1).leader &&
        c.sent.map SentPlate.worker == [0, 1]) = true := by decide +kernel
  obtain ⟨c, hc, hboth⟩ := (Option.any_eq_true _ _).1 hrun
  simp only [Bool.and_eq_true] at hboth
  have hone := (hall {} 11 none c (Cluster.follow_run hc)).1
  exact absurd (hone 0 1 hboth.1.1 hboth.1.2) (by decide)

end ParkingSystem
