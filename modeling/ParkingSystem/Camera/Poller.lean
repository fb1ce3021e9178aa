import Mathlib.Logic.Relation
import Mathlib.Tactic.Linarith
import ParkingSystem.Camera.ConfigStore
import ParkingSystem.Camera.Emit
import ParkingSystem.Library.PyLines

/-!
# The Camera Loop

`poller_loop` of one worker, with the threads that read its cameras. The configuration of the
cameras is a cache that requests of the same process refresh while the loop waits; the loop compares
a signature of it, a text, with the one its threads were started for, and rebuilds the threads where
the signatures differ.

## What could go wrong

- A frame may be read by a thread that was started for another address, and its plate be sent for a
  gate that the camera does not stand at.
- `refresh_config_cache` empties the cache before it waits for the database. A turn of the loop in
  between takes every camera to be off, and stops the threads.
- A camera that hangs keeps its last frame.
-/

namespace ParkingSystem

open PyText PyValue

deriving instance DecidableEq for ConfigSide, CameraConfig, CameraSide

/-! ## The configuration in use -/

/-- `SIDES`. -/
inductive Side where
  | entry
  | exit
  deriving DecidableEq, Repr

namespace Side

def code : Side → String
  | .entry => "IN"
  | .exit => "OUT"

/-- The sides in the order of the loop. -/
def all : List Side := [.entry, .exit]

theorem mem_all (side : Side) : side ∈ all := by
  cases side <;> decide

end Side

/-- `cfg.get(side)`. -/
def CameraConfig.side (c : CameraConfig) : Side → ConfigSide
  | .entry => c.inSide
  | .exit => c.outSide

/-- `s.get("enabled") and s.get("rtsp")`. -/
def ConfigSide.wanted (s : ConfigSide) : Bool := s.enabled && !s.rtsp.isEmpty

/-- `cached_cfg`, of the cache if it is not empty. -/
def cachedCfg (cfg : Config) (cache : Option CameraConfig) : CameraConfig :=
  cache.getD
    { inSide := {}, outSide := {}, pollInterval := clampPoll (.num cfg.cameraPollInterval), ocr := true }

/-- The fallback is the normalised configuration of no cameras. -/
theorem cachedCfg_none (cfg : Config) : normalizeCfg cfg none = some (cachedCfg cfg none) := rfl

/-- The part of the signature for one side. -/
def sideSignature (side : Side) (s : ConfigSide) : List Char :=
  side.code.toList ++ ':' :: ((if s.enabled then "on" else "off").toList ++ ':' ::
    (s.rtsp ++ ':' :: (s.gateCode.getD [] ++ ':' :: s.direction.getD [])))

/-- `_cfg_signature`. -/
def cfgSignature (cfg : Config) (c : CameraConfig) : List Char :=
  sideSignature .entry c.inSide ++ '|' :: (sideSignature .exit c.outSide ++ '|' ::
    ("iv=".toList ++ (cfg.floatText c.pollInterval).toList ++ '|' ::
      ("ocr=".toList ++ (if c.ocr then "True" else "False").toList)))

/-! ## Signatures -/

/-- No text of the side has a separator of the signature that could hide where another one ends. -/
structure ConfigSide.Plain (s : ConfigSide) : Prop where
  rtsp : '|' ∉ s.rtsp
  gateCode : '|' ∉ s.gateCode.getD [] ∧ ':' ∉ s.gateCode.getD []
  direction : '|' ∉ s.direction.getD [] ∧ ':' ∉ s.direction.getD []

/-- A configuration whose signature can be read back. -/
def CameraConfig.Plain (c : CameraConfig) : Prop := ∀ side, (c.side side).Plain

/-- What stands before the first separator is determined, and what stands after it. -/
theorem append_sep_inj {sep : Char} {a b a' b' : List Char} (ha : sep ∉ a) (ha' : sep ∉ a')
    (h : a ++ sep :: b = a' ++ sep :: b') : a = a' ∧ b = b' := by
  have hsplit := congrArg (splitFirst sep) h
  rw [splitFirst_append ha, splitFirst_append ha'] at hsplit
  exact Prod.mk.inj hsplit

/-- What stands after the last separator is determined, and what stands before it. -/
theorem append_sep_inj_last {sep : Char} {a b a' b' : List Char} (hb : sep ∉ b) (hb' : sep ∉ b')
    (h : a ++ sep :: b = a' ++ sep :: b') : a = a' ∧ b = b' := by
  have hrev : b.reverse ++ sep :: a.reverse = b'.reverse ++ sep :: a'.reverse := by
    simpa using congrArg List.reverse h
  obtain ⟨hb, ha⟩ := append_sep_inj (by simpa using hb) (by simpa using hb') hrev
  exact ⟨List.reverse_inj.1 ha, List.reverse_inj.1 hb⟩

section

variable {cfg : Config} {s s' : ConfigSide} {side : Side}

theorem ConfigSide.Plain.notMem_signature (h : s.Plain) (side : Side) :
    '|' ∉ sideSignature side s := by
  have hcode : '|' ∉ side.code.toList := by cases side <;> decide
  have hflag : '|' ∉ (if s.enabled then "on" else "off").toList := by
    cases s.enabled <;> decide
  simp [sideSignature, hcode, hflag, h.rtsp, h.gateCode.1, h.direction.1]

/-- The signature of a side tells its address, and the texts that name its gate. -/
theorem sideSignature_inj (h : s.Plain) (h' : s'.Plain)
    (heq : sideSignature side s = sideSignature side s') :
    s.rtsp = s'.rtsp ∧ s.gateCode.getD [] = s'.gateCode.getD [] ∧
      s.direction.getD [] = s'.direction.getD [] := by
  have hcode : ':' ∉ side.code.toList := by cases side <;> decide
  have hflag (b : Bool) : ':' ∉ (if b then "on" else "off").toList := by cases b <;> decide
  obtain ⟨-, heq⟩ := append_sep_inj hcode hcode heq
  obtain ⟨-, heq⟩ := append_sep_inj (hflag _) (hflag _) heq
  -- the address may have colons of its own, and is read from the end
  have hassoc (r g d : List Char) : r ++ ':' :: (g ++ ':' :: d) = (r ++ ':' :: g) ++ ':' :: d := by
    simp
  rw [hassoc, hassoc] at heq
  obtain ⟨heq, hdirection⟩ := append_sep_inj_last h.direction.2 h'.direction.2 heq
  obtain ⟨hrtsp, hgate⟩ := append_sep_inj_last h.gateCode.2 h'.gateCode.2 heq
  exact ⟨hrtsp, hgate, hdirection⟩

/-- **Signatures tell the cameras apart**: where the texts are plain, one signature is one address
and one gate for each side. -/
theorem cfgSignature_inj {c c' : CameraConfig} (h : c.Plain) (h' : c'.Plain)
    (heq : cfgSignature cfg c = cfgSignature cfg c') (side : Side) :
    (c.side side).rtsp = (c'.side side).rtsp := by
  obtain ⟨hin, heq⟩ := append_sep_inj ((h .entry).notMem_signature .entry)
    ((h' .entry).notMem_signature .entry) heq
  obtain ⟨hout, -⟩ := append_sep_inj ((h .exit).notMem_signature .exit)
    ((h' .exit).notMem_signature .exit) heq
  cases side with
  | entry => exact (sideSignature_inj (h .entry) (h' .entry) hin).1
  | exit => exact (sideSignature_inj (h .exit) (h' .exit) hout).1

theorem cfgSignature_ne_nil (c : CameraConfig) : cfgSignature cfg c ≠ [] := by
  simp [cfgSignature, sideSignature]

end

/-- A camera whose address ends as the other's gate begins has the other's signature. -/
example : sideSignature .entry { rtsp := "a".toList, gateCode := some "b:c".toList } =
    sideSignature .entry { rtsp := "a:b".toList, gateCode := some "c".toList } := by decide

/-! ## The loop and its threads -/

/-- `FrameGrabber`: a thread that reads an address, and when its last frame was stored. -/
structure Grabber where
  rtsp : List Char
  ts : Option ℚ := none
  stopped : Bool := false

/-- A frame that the loop gives to the engine, with the gate whose plates it shows. The address it
was read from, the times and the configuration are not arguments of `_process_frame`. -/
structure CameraFrame where
  side : Side
  cam : CameraSide
  rtsp : List Char
  ts : ℚ
  taken : ℚ
  config : CameraConfig
  deriving DecidableEq

/-- Where the loop waits: in a sleep or a check, for the engine, or for a plate to be sent. -/
inductive PollerTurn where
  | asleep
  | reading (frame : CameraFrame) (config : CameraConfig) (rest : List Side)
  | sending (config : CameraConfig) (rest : List Side)
  deriving DecidableEq

/-- What a worker keeps for its cameras. `threads` are all it has started; `frames` and `readAt` are
not kept by the code: the frames that were given to the engine, and when it has answered. -/
structure CameraPoller where
  now : ℚ
  leader : Bool := false
  cache : Option CameraConfig := none
  cfgSig : List Char := []
  threads : List Grabber := []
  grabbers : Side → Option ℕ := fun _ => none
  lastOcr : Side → Option ℚ := fun _ => none
  turn : PollerTurn := .asleep
  frames : List CameraFrame := []
  readAt : Side → List ℚ := fun _ => []

namespace CameraPoller

/-- `_grabbers.get(side)`. -/
def grabber (p : CameraPoller) (side : Side) : Option Grabber :=
  (p.grabbers side).bind fun i => p.threads[i]?

/-- `old.stop()` and `_grabbers.pop(side, None)`. -/
def stopGrabber (p : CameraPoller) (side : Side) : CameraPoller :=
  match p.grabbers side with
  | none => p
  | some i => { p with
      threads := p.threads.modify i fun g => { g with stopped := true }
      grabbers := Function.update p.grabbers side none }

/-- `FrameGrabber(side, rtsp)`, started. -/
def startGrabber (p : CameraPoller) (side : Side) (rtsp : List Char) : CameraPoller :=
  { p with
    threads := p.threads ++ [{ rtsp }]
    grabbers := Function.update p.grabbers side (some p.threads.length) }

/-- The thread of a side does not read what the side is configured with. -/
def outdated (c : CameraConfig) (p : CameraPoller) (side : Side) : Bool :=
  (p.grabber side).any fun g => !(c.side side).wanted || g.rtsp != (c.side side).rtsp

/-- One side of `_rebuild_grabbers`. -/
def rebuildSide (c : CameraConfig) (p : CameraPoller) (side : Side) : CameraPoller :=
  let p := if outdated c p side then p.stopGrabber side else p
  if (c.side side).wanted && (p.grabbers side).isNone then p.startGrabber side (c.side side).rtsp
  else p

/-- `_rebuild_grabbers`. -/
def rebuildGrabbers (cfg : Config) (c : CameraConfig) (p : CameraPoller) : CameraPoller :=
  { Side.all.foldl (rebuildSide c) p with cfgSig := cfgSignature cfg c }

/-- A side is on, its frame is fresh enough, and its last one was read long enough ago. -/
def isDue (c : CameraConfig) (p : CameraPoller) (side : Side) (ts : ℚ) : Bool :=
  (c.side side).wanted &&
    !(ts != 0 && decide (max 15 (c.pollInterval * (3 / 2)) < p.now - ts)) &&
    !decide (p.now - (p.lastOcr side).getD 0 < c.pollInterval) && c.ocr

/-- The frame of a side that is due. -/
def nextFrame (c : CameraConfig) (p : CameraPoller) (side : Side) : Option CameraFrame := do
  let g ← p.grabber side
  let ts ← g.ts
  let s := c.side side
  if isDue c p side ts then
    some
      { side, rtsp := g.rtsp, ts, taken := p.now, config := c
        cam := gateFor side.code (s.gateCode.map String.ofList) (s.direction.map String.ofList) }
  else none

/-- The rest of a turn, until the loop waits. -/
def runSides (c : CameraConfig) : List Side → CameraPoller → CameraPoller
  | [], p => { p with turn := .asleep }
  | side :: rest, p =>
    match p.nextFrame c side with
    | none => runSides c rest p
    | some frame => { p with turn := .reading frame c rest, frames := frame :: p.frames }

/-- A turn of the leader, from the signature on. -/
def takeTurn (cfg : Config) (p : CameraPoller) : CameraPoller :=
  let c := cachedCfg cfg p.cache
  runSides c Side.all (if cfgSignature cfg c ≠ p.cfgSig then p.rebuildGrabbers cfg c else p)

/-- The engine has answered for a side. -/
def answer (p : CameraPoller) (side : Side) (c : CameraConfig) (rest : List Side) : CameraPoller :=
  { p with
    lastOcr := Function.update p.lastOcr side (some p.now)
    readAt := Function.update p.readAt side (p.now :: p.readAt side)
    turn := .sending c rest }

/-- `stop`. The signature stays. -/
def stop (p : CameraPoller) : CameraPoller :=
  { Side.all.foldl stopGrabber p with leader := false, turn := .asleep }

end CameraPoller

/-- What happens: time passes, a check of the leader ends, a request or the loop refreshes the cache
with what is stored, a thread stores a frame, the loop goes on or ends. -/
inductive PollerStep (cfg : Config) : CameraPoller → CameraPoller → Prop where
  | clock {p} (t : ℚ) (h : p.now ≤ t) : PollerStep cfg p { p with now := t }
  | check {p} (leader : Bool) (h : p.turn = .asleep) : PollerStep cfg p { p with leader }
  | clear {p} : PollerStep cfg p { p with cache := none }
  | load {p} (stored : Option Json) (c : CameraConfig) (h : normalizeCfg cfg stored = some c)
    (hplain : c.Plain) : PollerStep cfg p { p with cache := some c }
  | store {p} (i : ℕ) (g : Grabber) (h : p.threads[i]? = some g) :
    PollerStep cfg p { p with threads := p.threads.set i { g with ts := some p.now } }
  | turn {p} (h : p.turn = .asleep) (hleader : p.leader = true) : PollerStep cfg p (p.takeTurn cfg)
  | read {p frame c rest} (h : p.turn = .reading frame c rest) :
    PollerStep cfg p (p.answer frame.side c rest)
  /-- The engine has raised. -/
  | failed {p frame c rest} (h : p.turn = .reading frame c rest) :
    PollerStep cfg p (p.runSides c rest)
  | sent {p c rest} (h : p.turn = .sending c rest) : PollerStep cfg p (p.runSides c rest)
  /-- A turn has raised. -/
  | retry {p} : PollerStep cfg p { p with turn := .asleep }
  | stop {p} : PollerStep cfg p p.stop

/-- A run of the loop. -/
abbrev PollerRun (cfg : Config) : CameraPoller → CameraPoller → Prop :=
  Relation.ReflTransGen (PollerStep cfg)

/-! ## Threads -/

/-- What is kept of the threads: those of the sides run, no two sides have the same, and no other
thread runs. -/
structure ThreadsKept (threads : List Grabber) (grabbers : Side → Option ℕ) : Prop where
  stored : ∀ g ∈ threads, ∀ ts, g.ts = some ts → 0 < ts
  live : ∀ side i, grabbers side = some i → ∃ g, threads[i]? = some g ∧ g.stopped = false
  owned : ∀ i g, threads[i]? = some g → g.stopped = false → ∃ side, grabbers side = some i
  apart : ∀ side side' i, grabbers side = some i → grabbers side' = some i → side = side'

/-- The thread of a side. -/
def threadOf (threads : List Grabber) (grabbers : Side → Option ℕ) (side : Side) : Option Grabber :=
  (grabbers side).bind fun i => threads[i]?

section

variable {threads : List Grabber} {grabbers : Side → Option ℕ} {side : Side} {i : ℕ}

/-- **Step**: the thread of a side is stopped, and no other. -/
theorem ThreadsKept.stop (h : ThreadsKept threads grabbers) (hi : grabbers side = some i) :
    ThreadsKept (threads.modify i fun g => { g with stopped := true })
        (Function.update grabbers side none) ∧
      ∀ side', side' ≠ side → threadOf (threads.modify i fun g => { g with stopped := true })
        (Function.update grabbers side none) side' = threadOf threads grabbers side' := by
  have hmodify (j : ℕ) (hne : j ≠ i) :
      (threads.modify i fun g => { g with stopped := true })[j]? = threads[j]? :=
    List.getElem?_modify_ne _ _ hne.symm
  have hother (side' : Side) (hne : side' ≠ side) :
      Function.update grabbers side none side' = grabbers side' := Function.update_of_ne hne _ _
  have hsome (side' : Side) (j : ℕ) (hj : Function.update grabbers side none side' = some j) :
      side' ≠ side ∧ grabbers side' = some j := by
    by_cases hne : side' = side
    · rw [hne, Function.update_self] at hj
      cases hj
    · exact ⟨hne, hother side' hne ▸ hj⟩
  refine ⟨⟨fun g hg ts hts => ?_, fun side' j hj => ?_, fun j g hg hlive => ?_,
    fun side₁ side₂ j h₁ h₂ => ?_⟩, fun side' hne => ?_⟩
  · obtain ⟨j, hj⟩ := List.mem_iff_getElem?.1 hg
    rw [List.getElem?_modify] at hj
    obtain ⟨g₀, hg₀, rfl⟩ := Option.map_eq_some_iff.1 hj
    refine h.stored g₀ (List.mem_of_getElem? hg₀) ts ?_
    split at hts <;> exact hts
  · obtain ⟨hne, hj⟩ := hsome side' j hj
    rw [hmodify j fun hji => hne (h.apart side' side i (hji ▸ hj) hi)]
    exact h.live side' j hj
  · by_cases hji : j = i
    · -- it is the one that has been stopped
      rw [hji, List.getElem?_modify_eq] at hg
      obtain ⟨g₀, -, rfl⟩ := Option.map_eq_some_iff.1 hg
      cases hlive
    · rw [hmodify j hji] at hg
      obtain ⟨side', hside⟩ := h.owned j g hg hlive
      have hne : side' ≠ side := fun heq => hji (Option.some.inj ((heq ▸ hside).symm.trans hi))
      exact ⟨side', (hother side' hne).trans hside⟩
  · exact h.apart side₁ side₂ j (hsome side₁ j h₁).2 (hsome side₂ j h₂).2
  · rw [threadOf, threadOf, hother side' hne]
    cases hj : grabbers side' with
    | none => rfl
    | some j => exact hmodify j fun hji => hne (h.apart side' side i (hji ▸ hj) hi)

/-- **Step**: a side without a thread gets one. -/
theorem ThreadsKept.start (h : ThreadsKept threads grabbers) (hnone : grabbers side = none)
    (rtsp : List Char) :
    ThreadsKept (threads ++ [{ rtsp := rtsp }]) (Function.update grabbers side (some threads.length)) ∧
      threadOf (threads ++ [{ rtsp := rtsp }]) (Function.update grabbers side (some threads.length)) side =
        some { rtsp := rtsp } ∧
      ∀ side', side' ≠ side → threadOf (threads ++ [{ rtsp := rtsp }])
        (Function.update grabbers side (some threads.length)) side' = threadOf threads grabbers side' := by
  have hother (side' : Side) (hne : side' ≠ side) :
      Function.update grabbers side (some threads.length) side' = grabbers side' :=
    Function.update_of_ne hne _ _
  have hself : Function.update grabbers side (some threads.length) side = some threads.length :=
    Function.update_self _ _ _
  have hold {j : ℕ} {g : Grabber} (hg : threads[j]? = some g) :
      (threads ++ [({ rtsp } : Grabber)])[j]? = some g := by
    rw [List.getElem?_append_left (List.getElem?_eq_some_iff.1 hg).1, hg]
  have hnew : (threads ++ [({ rtsp } : Grabber)])[threads.length]? = some { rtsp := rtsp } := by simp
  have hbelow {side' : Side} {j : ℕ} (hj : grabbers side' = some j) : j ≠ threads.length := by
    obtain ⟨g, hg, -⟩ := h.live side' j hj
    exact Nat.ne_of_lt (List.getElem?_eq_some_iff.1 hg).1
  refine ⟨⟨fun g hg ts hts => ?_, fun side' j hj => ?_, fun j g hg hlive => ?_,
    fun side₁ side₂ j h₁ h₂ => ?_⟩, ?_, fun side' hne => ?_⟩
  · rcases List.mem_append.1 hg with hg | hg
    · exact h.stored g hg ts hts
    · rw [List.mem_singleton.1 hg] at hts
      cases hts
  · by_cases hne : side' = side
    · rw [hne, hself] at hj
      exact ⟨_, Option.some.inj hj ▸ hnew, rfl⟩
    · rw [hother side' hne] at hj
      obtain ⟨g, hg, hlive⟩ := h.live side' j hj
      exact ⟨g, hold hg, hlive⟩
  · by_cases hlen : j < threads.length
    · rw [List.getElem?_append_left hlen] at hg
      obtain ⟨side', hside⟩ := h.owned j g hg hlive
      have hne : side' ≠ side := fun heq => by
        rw [heq, hnone] at hside
        cases hside
      exact ⟨side', (hother side' hne).trans hside⟩
    · have hlt := (List.getElem?_eq_some_iff.1 hg).1
      rw [List.length_append, List.length_singleton] at hlt
      have hj : j = threads.length := by omega
      exact ⟨side, hself.trans (congrArg some hj.symm)⟩
  · by_cases hne₁ : side₁ = side
    · by_cases hne₂ : side₂ = side
      · rw [hne₁, hne₂]
      · rw [hne₁, hself] at h₁
        rw [hother side₂ hne₂] at h₂
        exact absurd (Option.some.inj h₁).symm (hbelow h₂)
    · by_cases hne₂ : side₂ = side
      · rw [hne₂, hself] at h₂
        rw [hother side₁ hne₁] at h₁
        exact absurd (Option.some.inj h₂).symm (hbelow h₁)
      · rw [hother side₁ hne₁] at h₁
        rw [hother side₂ hne₂] at h₂
        exact h.apart side₁ side₂ j h₁ h₂
  · rw [threadOf, hself]
    exact hnew
  · rw [threadOf, threadOf, hother side' hne]
    cases hj : grabbers side' with
    | none => rfl
    | some j =>
      obtain ⟨g, hg, -⟩ := h.live side' j hj
      exact (hold hg).trans hg.symm

end

namespace CameraPoller

variable {p : CameraPoller} {c : CameraConfig}

/-- The threads of a worker are kept. -/
def Threaded (p : CameraPoller) : Prop := ThreadsKept p.threads p.grabbers

/-- Two workers with the same but for the threads of their cameras. -/
def SameBut (p p' : CameraPoller) : Prop :=
  ∃ threads grabbers, p' = { p with threads, grabbers }

theorem SameBut.trans {p' p'' : CameraPoller} (h : SameBut p p') (h' : SameBut p' p'') :
    SameBut p p'' := by
  obtain ⟨_, _, rfl⟩ := h
  obtain ⟨threads, grabbers, rfl⟩ := h'
  exact ⟨threads, grabbers, rfl⟩

theorem stopGrabber_spec (h : p.Threaded) (side : Side) :
    (p.stopGrabber side).Threaded ∧ SameBut p (p.stopGrabber side) ∧
      (p.stopGrabber side).grabbers side = none ∧
      ∀ side', side' ≠ side → (p.stopGrabber side).grabber side' = p.grabber side' := by
  cases hi : p.grabbers side with
  | none =>
    have hp : p.stopGrabber side = p := by rw [stopGrabber, hi]
    rw [hp]
    exact ⟨h, ⟨_, _, rfl⟩, hi, fun _ _ => rfl⟩
  | some i =>
    have hp : p.stopGrabber side = { p with
        threads := p.threads.modify i fun g => { g with stopped := true }
        grabbers := Function.update p.grabbers side none } := by rw [stopGrabber, hi]
    rw [hp]
    obtain ⟨hkept, hother⟩ := ThreadsKept.stop h hi
    exact ⟨hkept, ⟨_, _, rfl⟩, Function.update_self _ _ _, hother⟩

theorem startGrabber_spec (h : p.Threaded) {side : Side} (hnone : p.grabbers side = none)
    (rtsp : List Char) : (p.startGrabber side rtsp).Threaded ∧ SameBut p (p.startGrabber side rtsp) ∧
      (p.startGrabber side rtsp).grabber side = some { rtsp := rtsp } ∧
      ∀ side', side' ≠ side → (p.startGrabber side rtsp).grabber side' = p.grabber side' := by
  obtain ⟨hkept, hself, hother⟩ := ThreadsKept.start h hnone rtsp
  exact ⟨hkept, ⟨_, _, rfl⟩, hself, hother⟩

/-- **Step**: the thread of a side, if it has one, reads what the side is configured with. -/
theorem rebuildSide_spec (h : p.Threaded) (side : Side) :
    (p.rebuildSide c side).Threaded ∧ SameBut p (p.rebuildSide c side) ∧
      (∀ g, (p.rebuildSide c side).grabber side = some g → g.rtsp = (c.side side).rtsp) ∧
      ∀ side', side' ≠ side → (p.rebuildSide c side).grabber side' = p.grabber side' := by
  -- what is left after the thread is stopped, where it has to be
  obtain ⟨q, hq, hkept, hsame, hright, hother⟩ : ∃ q, q = (if outdated c p side then
      p.stopGrabber side else p) ∧ q.Threaded ∧ SameBut p q ∧
      (∀ g, q.grabber side = some g → g.rtsp = (c.side side).rtsp) ∧
      ∀ side', side' ≠ side → q.grabber side' = p.grabber side' := by
    refine ⟨_, rfl, ?_⟩
    split
    · obtain ⟨hkept, hsame, hnone, hother⟩ := stopGrabber_spec h side
      refine ⟨hkept, hsame, fun g hg => ?_, hother⟩
      rw [grabber, hnone] at hg
      cases hg
    · rename_i hfit
      refine ⟨h, ⟨_, _, rfl⟩, fun g hg => ?_, fun _ _ => rfl⟩
      rw [outdated, hg, Option.any_some] at hfit
      simpa using (Bool.or_eq_false_iff.1 (Bool.eq_false_iff.2 hfit)).2
  have hp : p.rebuildSide c side = if (c.side side).wanted && (q.grabbers side).isNone then
      q.startGrabber side (c.side side).rtsp else q := by rw [hq, rebuildSide]
  rw [hp]
  split
  · rename_i hstart
    have hnone : q.grabbers side = none :=
      Option.isNone_iff_eq_none.1 (Bool.and_eq_true_iff.1 hstart).2
    obtain ⟨hkept', hsame', hself, hother'⟩ := startGrabber_spec hkept hnone (c.side side).rtsp
    refine ⟨hkept', hsame.trans hsame', fun g hg => ?_, fun side' hne =>
      (hother' side' hne).trans (hother side' hne)⟩
    rw [← Option.some.inj (hself.symm.trans hg)]
  · exact ⟨hkept, hsame, hright, hother⟩

/-- **The threads are rebuilt**: every side's thread reads what the side is configured with. -/
theorem rebuildGrabbers_spec (cfg : Config) (h : p.Threaded) :
    (p.rebuildGrabbers cfg c).Threaded ∧
      (∃ threads grabbers, p.rebuildGrabbers cfg c =
        { p with threads, grabbers, cfgSig := cfgSignature cfg c }) ∧
      ∀ side g, (p.rebuildGrabbers cfg c).grabber side = some g → g.rtsp = (c.side side).rtsp := by
  obtain ⟨hkept, hsame, hentry, -⟩ := rebuildSide_spec (c := c) h .entry
  obtain ⟨hkept', hsame', hexit, hother⟩ := rebuildSide_spec (c := c) hkept .exit
  refine ⟨hkept', ?_, fun side g hg => ?_⟩
  · obtain ⟨threads, grabbers, hall⟩ := hsame.trans hsame'
    exact ⟨threads, grabbers, congrArg
      (fun q : CameraPoller => { q with cfgSig := cfgSignature cfg c }) hall⟩
  · cases side with
    | entry => exact hentry g ((hother .entry nofun).symm.trans hg)
    | exit => exact hexit g hg

/-- All threads are stopped. -/
theorem stop_spec (h : p.Threaded) : p.stop.Threaded ∧
    (∃ threads grabbers, p.stop = { p with threads, grabbers, leader := false, turn := .asleep }) ∧
      ∀ side, p.stop.grabber side = none := by
  obtain ⟨hkept, hsame, hentry, -⟩ := stopGrabber_spec h .entry
  obtain ⟨hkept', hsame', hexit, hother⟩ := stopGrabber_spec hkept .exit
  refine ⟨hkept', ?_, fun side => ?_⟩
  · obtain ⟨threads, grabbers, hall⟩ := hsame.trans hsame'
    exact ⟨threads, grabbers, congrArg
      (fun q : CameraPoller => { q with leader := false, turn := .asleep }) hall⟩
  · cases side with
    | entry =>
      refine (hother .entry nofun).trans ?_
      rw [grabber, hentry]
      rfl
    | exit =>
      show ((p.stopGrabber .entry).stopGrabber .exit).grabber .exit = none
      rw [grabber, hexit]
      rfl

end CameraPoller

/-! ## The invariant -/

/-- The configuration of a turn that is under way. -/
def PollerTurn.config? : PollerTurn → Option CameraConfig
  | .asleep => none
  | .reading _ c _ | .sending c _ => some c

/-- A frame that may be read: it was stored a short time ago, by a thread that reads the camera of
the side; and its gate is the one of the camera. -/
structure CameraFrame.Right (f : CameraFrame) : Prop where
  camera : f.rtsp = (f.config.side f.side).rtsp
  wanted : (f.config.side f.side).wanted = true
  gate : f.cam = gateFor f.side.code ((f.config.side f.side).gateCode.map String.ofList)
    ((f.config.side f.side).direction.map String.ofList)
  fresh : f.taken - f.ts ≤ max 15 (f.config.pollInterval * (3 / 2))

/-- A configuration that can be told from others, and that does not hurry. -/
def CameraConfig.Usable (c : CameraConfig) : Prop := c.Plain ∧ 3 ≤ c.pollInterval

/-- What a run keeps. -/
structure PollerKept (cfg : Config) (p : CameraPoller) : Prop where
  clock : 0 < p.now
  threaded : p.Threaded
  cache : ∀ c, p.cache = some c → c.Usable
  signed : ∀ c, c.Plain → p.cfgSig = cfgSignature cfg c →
    ∀ side g, p.grabber side = some g → g.rtsp = (c.side side).rtsp
  config : ∀ c, p.turn.config? = some c → c.Usable ∧ p.cfgSig = cfgSignature cfg c
  frames : ∀ f ∈ p.frames, f.Right
  last : ∀ side, p.lastOcr side = (p.readAt side).head?
  past : ∀ side, ∀ t ∈ p.readAt side, t ≤ p.now
  paced : ∀ side, (p.readAt side).Pairwise fun later earlier => earlier + 3 ≤ later
  due : ∀ frame c rest, p.turn = .reading frame c rest →
    ∀ t ∈ p.readAt frame.side, t + 3 ≤ p.now

section

variable {cfg : Config} {p p' : CameraPoller} {c : CameraConfig} {side : Side} {frame : CameraFrame}

theorem clampPoll_ge (x : PyFloat) : 3 ≤ clampPoll x := by
  cases x with
  | num q => exact le_max_left _ _
  | inf neg =>
    cases neg
    · show (3 : ℚ) ≤ 120
      norm_num
    · exact le_refl 3
  | nan =>
    show (3 : ℚ) ≤ 120
    norm_num

/-- A normalised configuration does not hurry. -/
theorem pollInterval_ge {stored : Option Json} (h : normalizeCfg cfg stored = some c) :
    3 ≤ c.pollInterval := by
  obtain ⟨interval, -, hc⟩ := Option.bind_eq_some_iff.1 h
  rw [← Option.some.inj hc]
  exact clampPoll_ge _

theorem usable_cachedCfg (h : ∀ c, p.cache = some c → c.Usable) : (cachedCfg cfg p.cache).Usable := by
  cases hc : p.cache with
  | some c => exact h c hc
  | none =>
    refine ⟨fun side => ?_, pollInterval_ge (cachedCfg_none cfg)⟩
    have hside : (cachedCfg cfg none).side side = {} := by cases side <;> rfl
    rw [hside]
    exact ⟨by decide, by decide, by decide⟩

/-- What is due is right, and its side was read three seconds ago or before. -/
theorem PollerKept.nextFrame (h : PollerKept cfg p) (hc : c.Usable)
    (hsig : p.cfgSig = cfgSignature cfg c) (hframe : p.nextFrame c side = some frame) :
    frame.Right ∧ ∀ t ∈ p.readAt frame.side, t + 3 ≤ p.now := by
  unfold CameraPoller.nextFrame at hframe
  obtain ⟨g, hg, hframe⟩ := Option.bind_eq_some_iff.1 hframe
  obtain ⟨ts, hts, hframe⟩ := Option.bind_eq_some_iff.1 hframe
  split at hframe
  · rename_i hdue
    obtain rfl := Option.some.inj hframe
    simp only [CameraPoller.isDue, Bool.and_eq_true, Bool.not_eq_true', Bool.and_eq_false_iff,
      bne_eq_false_iff_eq, decide_eq_false_iff_not, not_lt] at hdue
    obtain ⟨⟨⟨hwanted, hfresh⟩, hlate⟩, -⟩ := hdue
    refine ⟨⟨h.signed c hc.1 hsig side g hg, hwanted, rfl, ?_⟩, fun t ht => ?_⟩
    · -- a frame that was stored has a time
      obtain ⟨i, -, hi⟩ := Option.bind_eq_some_iff.1 hg
      have hpos := h.threaded.stored g (List.mem_of_getElem? hi) ts hts
      exact hfresh.resolve_left hpos.ne'
    · have hlast := h.last side
      cases hread : p.readAt side with
      | nil =>
        rw [hread] at ht
        cases ht
      | cons latest earlier =>
        rw [hread, List.head?_cons] at hlast
        rw [hlast, Option.getD_some] at hlate
        have hge : t ≤ latest := by
          rcases List.mem_cons.1 (hread ▸ ht) with rfl | ht
          · exact le_refl t
          · have := (List.pairwise_cons.1 (hread ▸ h.paced side)).1 t ht
            linarith
        have := hc.2
        linarith
  · cases hframe

/-- A turn may end at any time. -/
theorem PollerKept.asleep (h : PollerKept cfg p) : PollerKept cfg { p with turn := .asleep } :=
  { h with
    config := fun _ hc => by cases hc
    due := fun _ _ _ hturn => by cases hturn }

/-- The rest of a turn reads what is right, and keeps the rest. -/
theorem PollerKept.runSides (h : PollerKept cfg p) (hc : c.Usable)
    (hsig : p.cfgSig = cfgSignature cfg c) (sides : List Side) :
    PollerKept cfg (p.runSides c sides) := by
  induction sides with
  | nil => exact h.asleep
  | cons side rest ih =>
    unfold CameraPoller.runSides
    cases hframe : p.nextFrame c side with
    | none => exact ih
    | some frame =>
      obtain ⟨hright, hdue⟩ := h.nextFrame hc hsig hframe
      exact { h with
        config := fun c' hc' => by
          obtain rfl : c = c' := Option.some.inj hc'
          exact ⟨hc, hsig⟩
        frames := fun f hf => by
          rcases List.mem_cons.1 hf with rfl | hf
          · exact hright
          · exact h.frames f hf
        due := fun frame' c' rest' hturn => by
          cases hturn
          exact hdue }

/-- A thread stores a frame. -/
theorem ThreadsKept.store {threads : List Grabber} {grabbers : Side → Option ℕ} {i : ℕ}
    {g : Grabber} (h : ThreadsKept threads grabbers) (hg : threads[i]? = some g) {now : ℚ}
    (hnow : 0 < now) :
    ThreadsKept (threads.set i { g with ts := some now }) grabbers ∧
      ∀ side g', threadOf (threads.set i { g with ts := some now }) grabbers side = some g' →
        ∃ g₀, threadOf threads grabbers side = some g₀ ∧ g'.rtsp = g₀.rtsp := by
  have hset (j : ℕ) : (threads.set i { g with ts := some now })[j]? =
      if i = j then some { g with ts := some now } else threads[j]? := by
    rw [List.getElem?_set]
    split
    · rw [if_pos (List.getElem?_eq_some_iff.1 hg).1]
    · rfl
  -- a thread is as it was, but for its frame
  have hwas {j : ℕ} {g' : Grabber} (hg' : (threads.set i { g with ts := some now })[j]? = some g') :
      ∃ g₀, threads[j]? = some g₀ ∧ g'.rtsp = g₀.rtsp ∧ g'.stopped = g₀.stopped := by
    rw [hset] at hg'
    split at hg'
    · rename_i hij
      obtain rfl := Option.some.inj hg'
      exact ⟨g, hij ▸ hg, rfl, rfl⟩
    · exact ⟨g', hg', rfl, rfl⟩
  refine ⟨⟨fun g' hg' ts hts => ?_, fun side j hj => ?_, fun j g' hg' hlive => ?_, h.apart⟩,
    fun side g' hg' => ?_⟩
  · rcases List.mem_or_eq_of_mem_set hg' with hg' | rfl
    · exact h.stored g' hg' ts hts
    · exact Option.some.inj hts ▸ hnow
  · obtain ⟨g₀, hg₀, hlive⟩ := h.live side j hj
    rw [hset]
    split
    · rename_i hij
      obtain rfl : g = g₀ := Option.some.inj (hg.symm.trans (hij ▸ hg₀))
      exact ⟨_, rfl, hlive⟩
    · exact ⟨g₀, hg₀, hlive⟩
  · obtain ⟨g₀, hg₀, -, hsame⟩ := hwas hg'
    exact h.owned j g₀ hg₀ (hsame ▸ hlive)
  · obtain ⟨j, hj, hg'⟩ := Option.bind_eq_some_iff.1 hg'
    obtain ⟨g₀, hg₀, hrtsp, -⟩ := hwas hg'
    exact ⟨g₀, Option.bind_eq_some_iff.2 ⟨j, hj, hg₀⟩, hrtsp⟩

/-- A turn keeps the invariant: its threads read what the cache has. -/
theorem PollerKept.takeTurn (h : PollerKept cfg p) (hasleep : p.turn = .asleep) :
    PollerKept cfg (p.takeTurn cfg) := by
  have hc : (cachedCfg cfg p.cache).Usable := usable_cachedCfg h.cache
  unfold CameraPoller.takeTurn
  dsimp only
  split
  · obtain ⟨hkept, ⟨threads, grabbers, heq⟩, hright⟩ :=
      CameraPoller.rebuildGrabbers_spec (c := cachedCfg cfg p.cache) cfg h.threaded
    rw [heq] at hkept hright ⊢
    have hrebuilt : PollerKept cfg { p with
        threads, grabbers, cfgSig := cfgSignature cfg (cachedCfg cfg p.cache) } := { h with
      threaded := hkept
      signed := fun c' hplain hsig side g hg =>
        (hright side g hg).trans (cfgSignature_inj hc.1 hplain hsig side)
      config := fun c' hc' => by
        rw [hasleep] at hc'
        cases hc' }
    exact hrebuilt.runSides hc rfl _
  · rename_i hsig
    exact h.runSides hc (not_not.1 hsig).symm _

/-- The engine answers for a frame that was due. -/
theorem PollerKept.answer (h : PollerKept cfg p) {rest : List Side}
    (hturn : p.turn = .reading frame c rest) : PollerKept cfg (p.answer frame.side c rest) := by
  have hdue := h.due frame c rest hturn
  have hread (side : Side) : (p.answer frame.side c rest).readAt side =
      if side = frame.side then p.now :: p.readAt side else p.readAt side := by
    by_cases hside : side = frame.side
    · rw [if_pos hside, hside]
      exact Function.update_self _ _ _
    · rw [if_neg hside]
      exact Function.update_of_ne hside _ _
  exact { h with
    config := fun c' hc' => by
      obtain rfl : c = c' := Option.some.inj hc'
      exact h.config c (hturn ▸ rfl)
    last := fun side => by
      rw [hread]
      split
      · rename_i hside
        rw [hside]
        exact Function.update_self _ _ _
      · rename_i hside
        exact (Function.update_of_ne hside _ _).trans (h.last side)
    past := fun side t ht => by
      rw [hread] at ht
      split at ht
      · rcases List.mem_cons.1 ht with rfl | ht
        · exact le_refl p.now
        · exact h.past side t ht
      · exact h.past side t ht
    paced := fun side => by
      rw [hread]
      split
      · rename_i hside
        exact List.pairwise_cons.2 ⟨fun t ht => hdue t (hside ▸ ht), h.paced side⟩
      · exact h.paced side
    due := fun _ _ _ hturn' => by cases hturn' }

/-- **Step**: whatever happens keeps the invariant. -/
theorem PollerKept.step (h : PollerKept cfg p) (hstep : PollerStep cfg p p') :
    PollerKept cfg p' := by
  cases hstep with
  | clock t hle =>
    exact { h with
      clock := h.clock.trans_le hle
      past := fun side t' ht' => (h.past side t' ht').trans hle
      due := fun frame c rest hturn t' ht' => (h.due frame c rest hturn t' ht').trans hle }
  | check leader _ => exact { h with }
  | clear => exact { h with cache := fun _ hc => by cases hc }
  | load stored c hnormal hplain =>
    exact { h with
      cache := fun c' hc' => by
        obtain rfl := Option.some.inj hc'
        exact ⟨hplain, pollInterval_ge hnormal⟩ }
  | store i g hg =>
    obtain ⟨hkept, hwas⟩ := ThreadsKept.store h.threaded hg h.clock
    exact { h with
      threaded := hkept
      signed := fun c hc hsig side g' hg' => by
        obtain ⟨g₀, hg₀, hrtsp⟩ := hwas side g' hg'
        exact hrtsp.trans (h.signed c hc hsig side g₀ hg₀) }
  | turn hasleep _ => exact h.takeTurn hasleep
  | read hturn => exact h.answer hturn
  | @failed frame c rest hturn =>
    obtain ⟨hc, hsig⟩ := h.config c (hturn ▸ rfl)
    exact h.runSides hc hsig rest
  | @sent c rest hturn =>
    obtain ⟨hc, hsig⟩ := h.config c (hturn ▸ rfl)
    exact h.runSides hc hsig rest
  | retry => exact h.asleep
  | stop =>
    obtain ⟨hkept, ⟨threads, grabbers, heq⟩, hnone⟩ := CameraPoller.stop_spec h.threaded
    rw [heq] at hkept hnone ⊢
    exact { h.asleep with
      threaded := hkept
      signed := fun c hc hsig side g hg => by
        rw [hnone side] at hg
        cases hg }

/-- **Run**. -/
theorem PollerKept.run (h : PollerKept cfg p) (hrun : PollerRun cfg p p') : PollerKept cfg p' := by
  induction hrun with
  | refl => exact h
  | tail _ hstep ih => exact ih.step hstep

theorem threadsKept_nil : ThreadsKept [] fun _ => none where
  stored _ hg := absurd hg List.not_mem_nil
  live _ _ hi := by cases hi
  owned _ _ hg := by cases hg
  apart _ _ _ hi := by cases hi

theorem pollerKept_start (cfg : Config) {start : ℚ} (hstart : 0 < start) :
    PollerKept cfg { now := start } where
  clock := hstart
  threaded := threadsKept_nil
  cache _ hc := by cases hc
  signed c _ hsig := absurd hsig.symm (cfgSignature_ne_nil c)
  config _ hc := by cases hc
  frames _ hf := absurd hf List.not_mem_nil
  last _ := rfl
  past _ _ ht := absurd ht List.not_mem_nil
  paced _ := .nil
  due _ _ _ hturn := by cases hturn

end

/-! ## Every run -/

/-- **The cameras are read as they are configured**: in every run of the loop, whoever refreshes the
configuration and whenever, a frame that is given to the engine was stored a short time before, by a
thread that reads the address its side had in the turn, for the gate it had; a thread that runs is
that of one side; and a side is not read twice in three seconds. -/
theorem camera_frames (cfg : Config) (start : ℚ) (hstart : 0 < start) (p : CameraPoller)
    (hrun : PollerRun cfg { now := start } p) :
    (∀ f ∈ p.frames, f.Right) ∧
      (∀ i g, p.threads[i]? = some g → g.stopped = false → ∃! side, p.grabbers side = some i) ∧
      ∀ side, (p.readAt side).Pairwise fun later earlier => earlier + 3 ≤ later := by
  have hkept := (pollerKept_start cfg hstart).run hrun
  refine ⟨hkept.frames, fun i g hg hlive => ?_, hkept.paced⟩
  obtain ⟨side, hside⟩ := hkept.threaded.owned i g hg hlive
  exact ⟨side, hside, fun side' hside' => hkept.threaded.apart side' side i hside' hside⟩

/-! ### A refresh in the middle -/

/-- A camera at the entry. -/
def entryCamera : CameraConfig where
  inSide := { rtsp := "rtsp://a".toList, enabled := true }
  outSide := {}
  pollInterval := 10
  ocr := true

theorem entryCamera_normal :
    normalizeCfg {} (some (.obj [("IN", .str "rtsp://a")])) = some entryCamera := rfl

theorem entryCamera_plain : entryCamera.Plain := by
  intro side
  cases side <;> exact ⟨by decide, by decide, by decide⟩

/-- The leader has started a thread for the camera, and it has stored a frame. -/
def framedPoller : CameraPoller :=
  let p := ({ now := 1, leader := true, cache := some entryCamera } : CameraPoller).takeTurn {}
  { p with threads := p.threads.set 0 { rtsp := "rtsp://a".toList, ts := some 1 } }

theorem framedPoller_run : PollerRun {} { now := 1 } framedPoller := by
  have hready : PollerRun {} { now := 1 } { now := 1, leader := true, cache := some entryCamera } :=
    .tail (.single (.check true rfl)) (.load _ _ entryCamera_normal entryCamera_plain)
  exact .tail (.tail hready (.turn rfl rfl)) (.store 0 { rtsp := "rtsp://a".toList } rfl)

/-- The frame is due ten seconds later. -/
def duePoller : CameraPoller := { framedPoller with now := 11 }.takeTurn {}

/-- It is read; then the cache is cleared, and the loop takes a turn before it is filled again. -/
def clearedPoller : CameraPoller :=
  { (duePoller.answer .entry entryCamera [.exit]).runSides entryCamera [.exit] with
    cache := none }.takeTurn {}

theorem clearedPoller_run : PollerRun {} framedPoller clearedPoller := by
  have hframe : duePoller.turn = .reading
      { side := .entry, cam := ⟨"IN", "GATE-IN-01", "IN"⟩, rtsp := "rtsp://a".toList, ts := 1
        taken := 11, config := entryCamera } entryCamera [.exit] := by decide +kernel
  have hdue : PollerRun {} framedPoller duePoller :=
    .tail (.single (.clock 11 (by decide +kernel))) (.turn rfl rfl)
  have hread : PollerRun {} duePoller
      ((duePoller.answer .entry entryCamera [.exit]).runSides entryCamera [.exit]) :=
    .tail (.single (.read hframe)) (.sent rfl)
  exact (hdue.trans hread).tail .clear |>.tail (.turn (by decide +kernel) (by decide +kernel))

/-- One frame was read, and the thread of the camera was stopped. -/
theorem camera_frames_cleared : ∃ p, PollerRun {} { now := 1 } p ∧ p.frames.length = 1 ∧
    p.readAt .entry = [11] ∧ p.threads.map Grabber.stopped = [true] ∧
      (∀ f ∈ p.frames, f.Right) ∧
      (∀ i g, p.threads[i]? = some g → g.stopped = false → ∃! side, p.grabbers side = some i) ∧
      ∀ side, (p.readAt side).Pairwise fun later earlier => earlier + 3 ≤ later :=
  ⟨clearedPoller, framedPoller_run.trans clearedPoller_run, by decide +kernel, by decide +kernel,
    by decide +kernel,
    camera_frames {} 1 (by decide) clearedPoller (framedPoller_run.trans clearedPoller_run)⟩

end ParkingSystem
