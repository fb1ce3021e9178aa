import ParkingSystem.Agent.EnvFile
import Mathlib.Logic.Relation

/-!
# The Configuration Page of Operations

`get_config` shows the file of the agent on the page `Ops.tsx`, whose `saveConfig` posts the fields
that were typed in to `set_config`. Pages and other clients load and save in any order. One process
of the server answers them, as `start-all.ps1` starts it, and a handler that awaits nothing runs to
its end.

## What is masked

A secret of more than ten characters is shown as its first and its last four with dots between
them, and a text with dots is not stored. A shorter one is shown as three asterisks, which are a
text like any other.
-/

namespace ParkingSystem.EnvFile

open PyText PyDict

/-! ## What is shown -/

/-- `CONFIG_KEYS`. -/
def configKeys : List (List Char) :=
  ["GATE_CODE".toList, "DEFAULT_DIRECTION".toList, "ANPR_PORT".toList, "WEBCAM_INDEX".toList,
    "RTSP_URL".toList, "SCAN_INTERVAL".toList, "PRC_API_TOKEN".toList, "RTSP_GATE_CODE".toList,
    "RTSP_DIRECTION".toList]

/-- `SECRET_KEYS`. -/
def secretKeys : List (List Char) := ["PRC_API_TOKEN".toList, "RTSP_URL".toList]

/-- `v[:4] + "..." + v[-4:] if len(v) > 10 else "***"`. -/
def masked (v : List Char) : List Char :=
  if v.length > 10 then v.take 4 ++ "...".toList ++ v.drop (v.length - 4) else "***".toList

/-- The value of a key as it is shown. -/
def shownValue (k v : List Char) : List Char :=
  if secretKeys.contains k ∧ v ≠ [] then masked v else v

theorem shownValue_secret {k v : List Char} (hk : k ∈ secretKeys) (hv : v ≠ []) :
    shownValue k v = masked v := if_pos ⟨List.contains_iff_mem.2 hk, hv⟩

theorem shownValue_plain {k v : List Char} (h : ¬ (k ∈ secretKeys ∧ v ≠ [])) :
    shownValue k v = v :=
  if_neg fun hboth => h ⟨List.contains_iff_mem.1 hboth.1, hboth.2⟩

/-- A field of the page. -/
structure ConfigItem where
  key : List Char
  value : List Char
  writable : Bool
  deriving DecidableEq

/-- The fields that show what the keys read. -/
def configItems (env : List Char → Option (List Char)) : List ConfigItem :=
  configKeys.map fun k =>
    { key := k, value := shownValue k ((env k).getD []), writable := writableKeys.contains k }

/-- `get_config`. -/
def getConfig (file : Option (List Char)) : List ConfigItem :=
  configItems fun k => item k (readEnvMap file)

/-! ## The page -/

theorem nodup_no_keys : (([] : List (List Char × List Char)).map Prod.fst).Nodup := List.nodup_nil

/-- No field was typed in. -/
def ConfigUpdate.empty : ConfigUpdate := ⟨[], nodup_no_keys⟩

/-- `{ ...c, [key]: text }`. -/
def ConfigUpdate.typed (c : ConfigUpdate) (k text : List Char) : ConfigUpdate where
  updates := alter k (fun _ => text) c.updates
  distinct := nodup_alter c.distinct

/-- `Ops`: the items of `cfgData`, and `cfg`, the fields that were typed in. -/
structure OpsPage where
  items : Option (List ConfigItem) := none
  cfg : ConfigUpdate := .empty

/-- What a page sends. -/
inductive OpsMessage where
  | load
  | save (cfg : ConfigUpdate)

/-- What it is answered. -/
inductive OpsReply where
  | items (items : List ConfigItem)
  | changed (keys : List (List Char))
  | failed

/-- An answer arrives. -/
def OpsPage.receive (p : OpsPage) : OpsReply → OpsPage
  | .items items => { p with items := some items }
  | .changed _ => { p with cfg := .empty }
  | .failed => p

/-- What a page sends when an answer arrives: `invalidateQueries` after a save. -/
def OpsReply.next : OpsReply → List OpsMessage
  | .changed _ => [.load]
  | _ => []

/-! ## Pages and server -/

/-- The file, the pages, what is on its way, and the saves that `set_config` answered, with the keys
that it reported as changed. -/
structure OpsSystem where
  file : Option (List Char)
  pages : ℕ → OpsPage := fun _ => {}
  sent : List (ℕ × OpsMessage) := []
  replies : List (ℕ × OpsReply) := []
  answered : List (ConfigUpdate × List (List Char)) := []

namespace OpsSystem

/-- A page changes. -/
def withPage (s : OpsSystem) (page : ℕ) (p : OpsPage) : OpsSystem :=
  { s with pages := Function.update s.pages page p }

theorem pages_withPage (s : OpsSystem) (page : ℕ) (p : OpsPage) (page' : ℕ) :
    (s.withPage page p).pages page' = if page' = page then p else s.pages page' :=
  Function.update_apply _ _ _ _

/-- `set_config` runs. -/
def saved (s : OpsSystem) (cfg : ConfigUpdate) : OpsSystem :=
  { s with
    file := (setConfig s.file cfg).1
    answered := s.answered ++ [(cfg, (setConfig s.file cfg).2)] }

/-- An answer is on its way. -/
def reply (s : OpsSystem) (page : ℕ) (r : OpsReply) : OpsSystem :=
  { s with replies := s.replies ++ [(page, r)] }

/-- The server handles a message. -/
def handled (s : OpsSystem) (page : ℕ) : OpsMessage → OpsSystem
  | .load => s.reply page (.items (getConfig s.file))
  | .save cfg => (s.saved cfg).reply page (.changed (setConfig s.file cfg).2)

/-- A page hears an answer. -/
def heard (s : OpsSystem) (page : ℕ) (r : OpsReply) : OpsSystem :=
  { s.withPage page ((s.pages page).receive r) with
    sent := s.sent ++ r.next.map fun m => (page, m) }

end OpsSystem

/-- What happens next. A field that is not writable is disabled. -/
inductive OpsStep : OpsSystem → OpsSystem → Prop where
  | load {s} (page : ℕ) : OpsStep s { s with sent := s.sent ++ [(page, .load)] }
  | typed {s page items it} (text : List Char) (shown : (s.pages page).items = some items)
      (field : it ∈ items) (enabled : it.writable = true) : OpsStep s
        (s.withPage page { s.pages page with cfg := (s.pages page).cfg.typed it.key text })
  | save {s page} (filled : (s.pages page).cfg.updates ≠ []) :
      OpsStep s { s with sent := s.sent ++ [(page, .save (s.pages page).cfg)] }
  | handle {s before page m later} (sent : s.sent = before ++ (page, m) :: later) :
      OpsStep s ({ s with sent := before ++ later }.handled page m)
  | lose {s before page m later} (sent : s.sent = before ++ (page, m) :: later) :
      OpsStep s ({ s with sent := before ++ later }.reply page .failed)
  | loseReply {s before page r later} (replies : s.replies = before ++ (page, r) :: later) :
      OpsStep s { s with replies := before ++ (page, .failed) :: later }
  | hear {s before page r later} (replies : s.replies = before ++ (page, r) :: later) :
      OpsStep s ({ s with replies := before ++ later }.heard page r)
  | other {s} (cfg : ConfigUpdate) : OpsStep s (s.saved cfg)

/-- A run. -/
abbrev OpsRun : OpsSystem → OpsSystem → Prop := Relation.ReflTransGen OpsStep

/-! ## Files that stay in order -/

/-- The readers and the writer agree on the lines of a writable key: only the one that would be
rewritten is read. The agent can load the file. -/
structure Tidy (lines : List (List Char)) : Prop where
  loads : Loads lines
  unmarked : ¬ Marked lines
  above : ∀ k ∈ writableKeys, values k (above k lines) = []
  below : ∀ k ∈ writableKeys, values k (below k lines) = []

/-- What is stored of the texts is on one line and without a NUL. -/
def ConfigUpdate.Plain (cfg : ConfigUpdate) : Prop :=
  ∀ e ∈ accepted cfg.updates, OneLine e.2 ∧ '\x00' ∉ e.2

section

variable {k κ v : List Char} {lines : List (List Char)} {file : Option (List Char)}
  {cfg : ConfigUpdate} {es : List (List Char × List Char)}

/-- What is accepted was sent for a writable key, without dots. -/
theorem exists_of_accepted {e : List Char × List Char} (he : e ∈ accepted es) :
    ∃ f ∈ es, e = (f.1, strip f.2) ∧ f.1 ∈ writableKeys ∧ isInfix "...".toList f.2 = false := by
  obtain ⟨f, hf, rfl⟩ := List.mem_map.1 he
  obtain ⟨hmem, hkeep⟩ := List.mem_filter.1 hf
  simp only [isSkipped, Bool.not_or, Bool.not_not, Bool.and_eq_true, Bool.not_eq_true'] at hkeep
  exact ⟨f, hmem, rfl, List.contains_iff_mem.1 hkeep.1, hkeep.2⟩

theorem holdsKey_written (h : KeyText k) (hv : Trimmed v) : holdsKey k (k ++ '=' :: v) = true := by
  rw [holdsKey, strip_written h hv]
  exact List.isPrefixOf_iff_prefix.2 ⟨v, by simp⟩

/-- Writing a line changes nothing above and below the line of a key, be it its own. -/
theorem around_setLine (h : KeyText k) (hκ : KeyText κ) (hv : Trimmed v)
    (lines : List (List Char)) :
    values κ (EnvFile.above κ (setLine k v lines)) = values κ (EnvFile.above κ lines) ∧
      values κ (EnvFile.below κ (setLine k v lines)) = values κ (EnvFile.below κ lines) := by
  by_cases hne : k = κ
  · -- its own line: what is rewritten or appended is still the first that holds the key
    subst hne
    have hwritten := holdsKey_written h hv
    induction lines with
    | nil =>
      rw [setLine, above_cons, below_cons, hwritten]
      exact ⟨rfl, rfl⟩
    | cons ln lines ih =>
      cases hln : holdsKey k ln with
      | true =>
        rw [setLine_cons_of_holds hln, above_cons, below_cons, above_cons, below_cons, hwritten,
          hln]
        exact ⟨rfl, rfl⟩
      | false =>
        rw [setLine_cons_of_not hln, above_cons, below_cons, above_cons, below_cons, hln]
        simp only [Bool.false_eq_true, if_false]
        rw [values_cons, ih.1, ← values_cons]
        exact ⟨rfl, ih.2⟩
  · exact setLine_around h hκ hv hne lines

theorem around_setLines (h : Writable es) (hκ : KeyText κ) (lines : List (List Char)) :
    values κ (EnvFile.above κ (setLines es lines)) = values κ (EnvFile.above κ lines) ∧
      values κ (EnvFile.below κ (setLines es lines)) = values κ (EnvFile.below κ lines) := by
  induction es generalizing lines with
  | nil => exact ⟨rfl, rfl⟩
  | cons e es ih =>
    obtain ⟨habove, hbelow⟩ := ih h.tail.2 (setLine e.1 e.2 lines)
    obtain ⟨habove', hbelow'⟩ := around_setLine (h.key e List.mem_cons_self) hκ
      (h.trimmed e List.mem_cons_self) lines
    exact ⟨habove.trans habove', hbelow.trans hbelow'⟩

theorem Tidy.lands (h : Tidy lines) (hplain : cfg.Plain) :
    ∀ e ∈ accepted cfg.updates, Lands lines e := by
  intro e he
  obtain ⟨f, -, rfl, hkey, -⟩ := exists_of_accepted he
  refine ⟨(hplain _ he).1, (hplain _ he).2, fun w hw => ?_, fun w hw => ?_⟩
  · rw [nextLines_of_not (not_marked_above h.unmarked), h.above _ hkey] at hw
    cases hw
  · rw [h.below _ hkey] at hw
    cases hw

theorem Tidy.undisturbed (h : Tidy lines) (changed : List (List Char)) :
    Undisturbed lines changed where
  loads := .inl h.loads
  first _ _ := by rw [nextLines_of_not h.unmarked]
  last _ _ := by rw [nextLines_of_not h.unmarked]

/-- **A save** is read as it was sent, and leaves the file in order. -/
theorem Tidy.saved (h : Tidy (readLines file)) (hplain : cfg.Plain) :
    Tidy (readLines (setConfig file cfg).1) ∧ Faithful file cfg := by
  by_cases hes : accepted cfg.updates = []
  · -- nothing is stored, and the file is not written
    have hfile : setConfig file cfg = (file, []) := by rw [setConfig_eq, if_pos hes, hes]; rfl
    refine ⟨by rw [hfile]; exact h, faithful_iff.2 ?_⟩
    rw [hfile, hes]
    exact ⟨fun e he => (nomatch he), fun k _ => ⟨rfl, rfl⟩⟩
  · have hfaithful := faithful_of_lands hes (h.lands hplain) (h.undisturbed _)
    have hwritable := writable_accepted cfg
    have hunmarked := setLines_not_marked hwritable h.unmarked
    have hread : readLines (setConfig file cfg).1 =
        setLines (accepted cfg.updates) (readLines file) := by
      rw [readLines_setConfig file hes fun e he => (hplain e he).1, nextLines_of_not hunmarked]
    -- the agent could not read what was sent if it could not load the file
    obtain ⟨e, he⟩ := List.exists_mem_of_ne_nil _ hes
    have hloads := loads_of_loadedValue ((faithful_iff.1 hfaithful).1 e he).2
    refine ⟨⟨hloads, hread ▸ hunmarked, fun k hk => ?_, fun k hk => ?_⟩, hfaithful⟩
    · rw [hread, (around_setLines hwritable (keyText_of_writable hk) _).1, h.above k hk]
    · rw [hread, (around_setLines hwritable (keyText_of_writable hk) _).2, h.below k hk]

/-! ## Replaying the saves -/

/-- What a key reads after a save that was answered. -/
def afterSave (k : List Char) (v : Option (List Char)) (save : ConfigUpdate × List (List Char)) :
    Option (List Char) :=
  if save.2.contains k then (item k save.1.updates).map strip else v

theorem afterSave_of_mem {save : ConfigUpdate × List (List Char)} (hk : k ∈ save.2)
    (v : Option (List Char)) : afterSave k v save = (item k save.1.updates).map strip :=
  if_pos (List.contains_iff_mem.2 hk)

theorem afterSave_of_not {save : ConfigUpdate × List (List Char)} (hk : k ∉ save.2)
    (v : Option (List Char)) : afterSave k v save = v :=
  if_neg fun hmem => hk (List.contains_iff_mem.1 hmem)

/-- What a key reads after the saves that were answered. -/
def replayed (k : List Char) (v : Option (List Char))
    (answered : List (ConfigUpdate × List (List Char))) : Option (List Char) :=
  answered.foldl (afterSave k) v

theorem replayed_concat (k : List Char) (v : Option (List Char))
    (answered : List (ConfigUpdate × List (List Char))) (save : ConfigUpdate × List (List Char)) :
    replayed k v (answered ++ [save]) = afterSave k (replayed k v answered) save := by
  rw [replayed, List.foldl_append]
  rfl

theorem reported_eq (file : Option (List Char)) (cfg : ConfigUpdate) :
    (setConfig file cfg).2 = (accepted cfg.updates).map Prod.fst := by rw [setConfig_eq]

/-- The value that was sent for a key that is reported. -/
theorem sent_of_reported (hk : k ∈ (accepted cfg.updates).map Prod.fst) :
    ∃ text, (k, text) ∈ cfg.updates ∧ (item k cfg.updates).map strip = some (strip text) ∧
      isInfix "...".toList text = false := by
  obtain ⟨e, he, rfl⟩ := List.mem_map.1 hk
  obtain ⟨f, hf, rfl, -, hdots⟩ := exists_of_accepted he
  have hitem : item f.1 cfg.updates = some f.2 := (mem_iff_lookup cfg.distinct).1 hf
  exact ⟨f.2, hf, by rw [hitem]; rfl, hdots⟩

theorem Faithful.reads (h : Faithful file cfg) (k : List Char) :
    item k (readEnvMap (setConfig file cfg).1) =
        afterSave k (item k (readEnvMap file)) (cfg, (setConfig file cfg).2) ∧
      loadedValue (setConfig file cfg).1 k =
        afterSave k (loadedValue file k) (cfg, (setConfig file cfg).2) := by
  by_cases hk : k ∈ (setConfig file cfg).2
  · obtain ⟨text, hmem, hsent, -⟩ := sent_of_reported (reported_eq file cfg ▸ hk)
    rw [afterSave_of_mem hk, afterSave_of_mem hk, hsent]
    exact h.changed (k, text) hmem hk
  · rw [afterSave_of_not hk, afterSave_of_not hk]
    exact h.kept k hk

end

/-! ## What a run keeps -/

/-- The fields showed the file as it was after some of the saves. -/
def ShownAt (file : Option (List Char)) (answered : List (ConfigUpdate × List (List Char)))
    (items : List ConfigItem) : Prop :=
  ∃ before, before <+: answered ∧
    items = configItems fun k => replayed k (item k (readEnvMap file)) before

theorem ShownAt.mono {file : Option (List Char)}
    {answered answered' : List (ConfigUpdate × List (List Char))} {items : List ConfigItem}
    (h : ShownAt file answered items) (hgrows : answered <+: answered') :
    ShownAt file answered' items := by
  obtain ⟨before, hbefore, heq⟩ := h
  exact ⟨before, hbefore.trans hgrows, heq⟩

/-- The file is in order and reads what the saves left, for both readers; what pages show, and what
is on its way to them, it read after some of the saves. -/
structure OpsKept (file : Option (List Char)) (s : OpsSystem) : Prop where
  tidy : Tidy (readLines s.file)
  map : ∀ k, item k (readEnvMap s.file) = replayed k (item k (readEnvMap file)) s.answered
  agent : ∀ k, loadedValue s.file k = replayed k (loadedValue file k) s.answered
  reported : ∀ save ∈ s.answered, save.2 = (accepted save.1.updates).map Prod.fst
  pages : ∀ page items, (s.pages page).items = some items → ShownAt file s.answered items
  replies : ∀ page items, (page, OpsReply.items items) ∈ s.replies →
    ShownAt file s.answered items

theorem OpsKept.start {file : Option (List Char)} (h : Tidy (readLines file)) :
    OpsKept file { file := file } where
  tidy := h
  map _ := rfl
  agent _ := rfl
  reported _ hsave := by cases hsave
  pages _ _ hitems := by cases hitems
  replies _ _ hreply := by cases hreply

section

variable {file : Option (List Char)} {s s' : OpsSystem}

/-- The saves that were answered stay. -/
theorem answered_handled (s : OpsSystem) (page : ℕ) (m : OpsMessage) :
    s.answered <+: (s.handled page m).answered := by
  cases m with
  | load => exact List.prefix_rfl
  | save cfg => exact List.prefix_append _ _

theorem answered_step (h : OpsStep s s') : s.answered <+: s'.answered := by
  cases h with
  | @handle before page m later hsent =>
    exact answered_handled { s with sent := before ++ later } page m
  | other cfg => exact List.prefix_append _ _
  | _ => exact List.prefix_rfl

/-- What the server shows now. -/
theorem OpsKept.shown (h : OpsKept file s) : ShownAt file s.answered (getConfig s.file) :=
  ⟨s.answered, List.prefix_rfl, congrArg configItems (funext h.map)⟩

/-- **A save** that is answered is one of the replay. -/
theorem OpsKept.saved (h : OpsKept file s) {cfg : ConfigUpdate} (hplain : cfg.Plain) :
    OpsKept file (s.saved cfg) := by
  obtain ⟨htidy, hfaithful⟩ := h.tidy.saved hplain
  have hgrows : s.answered <+: (s.saved cfg).answered := List.prefix_append _ _
  refine ⟨htidy, fun k => ?_, fun k => ?_, fun save hsave => ?_,
    fun page items hitems => (h.pages page items hitems).mono hgrows,
    fun page items hreply => (h.replies page items hreply).mono hgrows⟩
  · exact (hfaithful.reads k).1.trans
      ((congrArg (afterSave k · _) (h.map k)).trans (replayed_concat k _ _ _).symm)
  · exact (hfaithful.reads k).2.trans
      ((congrArg (afterSave k · _) (h.agent k)).trans (replayed_concat k _ _ _).symm)
  · rcases List.mem_append.1 hsave with hold | hnew
    · exact h.reported save hold
    · rw [List.mem_singleton.1 hnew]
      exact reported_eq s.file cfg

/-- An answer that shows what the file read is on its way. -/
theorem OpsKept.reply (h : OpsKept file s) (page : ℕ) {r : OpsReply}
    (hr : ∀ items, r = .items items → ShownAt file s.answered items) :
    OpsKept file (s.reply page r) := by
  refine { h with replies := fun page' items hreply => ?_ }
  rcases List.mem_append.1 hreply with hold | hnew
  · exact h.replies page' items hold
  · exact hr items (Prod.mk.inj (List.mem_singleton.1 hnew)).2.symm

/-- Messages that are left out change nothing. -/
theorem OpsKept.sent (h : OpsKept file s) (sent : List (ℕ × OpsMessage)) :
    OpsKept file { s with sent := sent } := { h with }

/-- Answers that are left out change nothing. -/
theorem OpsKept.ofReplies (h : OpsKept file s) {replies : List (ℕ × OpsReply)}
    (hsub : replies ⊆ s.replies) : OpsKept file { s with replies := replies } :=
  { h with replies := fun page items hreply => h.replies page items (hsub hreply) }

/-- A page changes, and shows what it showed or what arrived. -/
theorem OpsKept.withPage (h : OpsKept file s) (page : ℕ) {p : OpsPage}
    (hp : ∀ items, p.items = some items → ShownAt file s.answered items) :
    OpsKept file (s.withPage page p) := by
  refine { h with pages := fun page' items hitems => ?_ }
  rw [OpsSystem.pages_withPage] at hitems
  split at hitems
  · exact hp items hitems
  · exact h.pages page' items hitems

/-- **The server** handles a message. -/
theorem OpsKept.handled (h : OpsKept file s) (page : ℕ) {m : OpsMessage}
    (hplain : ∀ save ∈ (s.handled page m).answered, save.1.Plain) :
    OpsKept file (s.handled page m) := by
  cases m with
  | load =>
    refine h.reply page fun items hitems => ?_
    cases hitems
    exact h.shown
  | save cfg =>
    have hcfg : cfg.Plain := hplain _ (List.mem_append_right _ (List.mem_singleton_self _))
    exact (h.saved hcfg).reply page fun items hitems => by cases hitems

/-- **A page** hears an answer. -/
theorem OpsKept.heard (h : OpsKept file s) (page : ℕ) {r : OpsReply}
    (hr : ∀ items, r = .items items → ShownAt file s.answered items) :
    OpsKept file (s.heard page r) := by
  refine (h.withPage page fun items hitems => ?_).sent _
  cases r with
  | items shown => exact hr items (congrArg OpsReply.items (Option.some.inj hitems))
  | changed keys => exact h.pages page items hitems
  | failed => exact h.pages page items hitems

/-- **Step**: where what is stored is on one line, a step keeps the invariant. -/
theorem OpsKept.step (h : OpsKept file s) (hstep : OpsStep s s')
    (hplain : ∀ save ∈ s'.answered, save.1.Plain) : OpsKept file s' := by
  cases hstep with
  | load page => exact h.sent _
  | typed text hshown hfield henabled => exact h.withPage _ fun items => h.pages _ items
  | save htyped => exact h.sent _
  | handle hsent => exact (h.sent _).handled _ hplain
  | lose hsent => exact (h.sent _).reply _ fun items hitems => by cases hitems
  | @loseReply before page r later hreplies =>
    refine { h with replies := fun page' items hreply => ?_ }
    rcases List.mem_append.1 hreply with hold | hnew
    · exact h.replies page' items (hreplies ▸ List.mem_append_left _ hold)
    · rcases List.mem_cons.1 hnew with heq | hold
      · cases heq
      · have hlater := List.mem_append_right before (List.mem_cons_of_mem (page, r) hold)
        exact h.replies page' items (hreplies ▸ hlater)
  | @hear before page r later hreplies =>
    have hsub : before ++ later ⊆ s.replies := by
      rw [hreplies]
      exact ((List.sublist_cons_self _ later).append_left before).subset
    refine (h.ofReplies hsub).heard page fun items hitems => h.replies page items ?_
    rw [hreplies, ← hitems]
    exact List.mem_append_right _ List.mem_cons_self
  | other cfg =>
    exact h.saved (hplain _ (List.mem_append_right _ (List.mem_singleton_self _)))

/-- **Run**: so does a whole run. -/
theorem OpsKept.run (h : OpsKept file s) (hrun : OpsRun s s')
    (hplain : ∀ save ∈ s'.answered, save.1.Plain) : OpsKept file s' := by
  induction hrun with
  | refl => exact h
  | tail hrun hstep ih =>
    -- what was answered before the step is still there after it
    have hbefore := ih fun save hsave => hplain save ((answered_step hstep).subset hsave)
    exact hbefore.step hstep hplain

end

/-! ## Secrets -/

/-- A short secret, which is shown as asterisks that are not its own. -/
def ShortSecret (k v : List Char) : Prop :=
  k ∈ secretKeys ∧ v ≠ [] ∧ v.length ≤ 10 ∧ v ≠ "***".toList

/-- The texts are what the page shows of the file. -/
def SentBack (file : Option (List Char)) (cfg : ConfigUpdate) : Prop :=
  ∀ e ∈ cfg.updates, ∃ it ∈ getConfig file, it.key = e.1 ∧ it.value = e.2

section

variable {k v : List Char} {lines : List (List Char)} {file : Option (List Char)}
  {cfg : ConfigUpdate} {answered : List (ConfigUpdate × List (List Char))}

theorem dots_masked (hlong : 10 < v.length) : isInfix "...".toList (masked v) = true := by
  rw [masked, if_pos hlong]
  exact isInfix_iff.2 (List.infix_append _ _ _)

/-- A secret that could be stored is not shown whole. -/
theorem shownValue_ne (hk : k ∈ secretKeys) (hne : v ≠ []) (hstars : v ≠ "***".toList)
    (hdots : isInfix "...".toList v = false) : shownValue k v ≠ v := by
  rw [shownValue_secret hk hne]
  intro heq
  by_cases hlong : 10 < v.length
  · have hshown := dots_masked hlong
    rw [heq, hdots] at hshown
    cases hshown
  · rw [masked, if_neg hlong] at heq
    exact hstars heq.symm

/-- What was saved for a key does not depend on what the key read at first, and has no dots. -/
theorem replayed_saved
    (hreported : ∀ save ∈ answered, save.2 = (accepted save.1.updates).map Prod.fst)
    (h : replayed k none answered = some v) :
    (∀ v₀, replayed k v₀ answered = some v) ∧ isInfix "...".toList v = false := by
  induction answered using List.reverseRecOn with
  | nil => cases h
  | append_singleton answered save ih =>
    rw [replayed_concat] at h
    by_cases hk : k ∈ save.2
    · -- the last save decides
      rw [afterSave_of_mem hk] at h
      refine ⟨fun v₀ => by rw [replayed_concat, afterSave_of_mem hk, h], ?_⟩
      rw [hreported save (List.mem_append_right _ (List.mem_singleton_self _))] at hk
      obtain ⟨text, -, hsent, hdots⟩ := sent_of_reported hk
      obtain rfl : strip text = v := Option.some.inj (hsent.symm.trans h)
      rw [← Bool.not_eq_true, isInfix_iff] at hdots ⊢
      exact fun hin => hdots (hin.trans (strip_isInfix text))
    · rw [afterSave_of_not hk] at h
      obtain ⟨hold, hdots⟩ := ih (fun save hsave => hreported save (List.mem_append_left _ hsave)) h
      exact ⟨fun v₀ => by rw [replayed_concat, afterSave_of_not hk, hold v₀], hdots⟩

theorem mem_configItems {env : List Char → Option (List Char)} {it : ConfigItem}
    (h : it ∈ configItems env) : it.value = shownValue it.key ((env it.key).getD []) := by
  obtain ⟨k, -, rfl⟩ := List.mem_map.1 h
  rfl

/-! ## Sending back what is shown -/

theorem mem_shownValue {c : Char} (h : c ∈ shownValue k v) : c ∈ v ∨ c = '.' ∨ c = '*' := by
  rw [shownValue] at h
  split at h
  · rw [masked] at h
    split at h
    · rcases List.mem_append.1 h with hleft | hlast
      · rcases List.mem_append.1 hleft with hfirst | hdots
        · exact .inl (List.mem_of_mem_take hfirst)
        · exact .inr (.inl (List.eq_of_mem_replicate (n := 3) hdots))
      · exact .inl (List.mem_of_mem_drop hlast)
    · exact .inr (.inr (List.eq_of_mem_replicate (n := 3) h))
  · exact .inl h

/-- A value is stripped. -/
theorem trimmed_of_mem_values (h : v ∈ values k lines) : Trimmed v := by
  obtain ⟨l, -, hread⟩ := List.mem_filterMap.1 h
  rw [reads, Option.bind_eq_some_iff] at hread
  obtain ⟨e, hparse, he⟩ := hread
  unfold parseLine at hparse
  dsimp only at hparse
  split at hparse
  · obtain rfl := Option.some.inj hparse
    split at he
    · obtain rfl := Option.some.inj he
      exact strip_strip _
    · cases he
  · cases hparse

/-- What is read above, on and below the line that would be rewritten. -/
theorem values_around (k : List Char) (lines : List (List Char)) : ∃ own, own.length ≤ 1 ∧
    values k lines = values k (above k lines) ++ own ++ values k (below k lines) := by
  induction lines with
  | nil => exact ⟨[], Nat.zero_le _, rfl⟩
  | cons ln lines ih =>
    rw [above_cons, below_cons]
    cases hln : holdsKey k ln with
    | true =>
      exact ⟨values k [ln], List.length_filterMap_le _ _, values_cons k ln lines⟩
    | false =>
      obtain ⟨own, hown, heq⟩ := ih
      refine ⟨own, hown, ?_⟩
      simp only [Bool.false_eq_true, if_false]
      rw [values_cons, heq, values_cons k ln (above k lines), List.append_assoc, List.append_assoc,
        List.append_assoc]

/-- **A writable key** of a file in order reads a value that can be written. -/
theorem Tidy.value (h : Tidy (readLines file)) (hk : k ∈ writableKeys)
    (hv : item k (readEnvMap file) = some v) : OneLine v ∧ '\x00' ∉ v ∧ Trimmed v := by
  rw [item_readEnvMap] at hv
  have hmem := List.mem_of_getLast? hv
  refine ⟨oneLine_of_mem_values (oneLine_readLines file) hmem, ?_, trimmed_of_mem_values hmem⟩
  obtain ⟨own, hown, heq⟩ := values_around k (readLines file)
  rw [h.above k hk, h.below k hk, List.nil_append, List.append_nil] at heq
  have hfirst : v ∈ (values k (readLines file)).head? := by
    rw [heq] at hv ⊢
    match own, hown with
    | [w], _ => exact hv
  exact (h.loads k v hfirst).2.2

/-- What is shown is on one line. -/
theorem Tidy.sentBack_plain (h : Tidy (readLines file)) (hback : SentBack file cfg) :
    cfg.Plain := by
  intro e he
  obtain ⟨f, hf, rfl, hkey, -⟩ := exists_of_accepted he
  obtain ⟨it, hit, heq, hvalue⟩ := hback f hf
  rw [mem_configItems hit, heq] at hvalue
  have hchars : ∀ c ∈ strip f.2, isLineBreak c = false ∧ c ≠ '\x00' := by
    intro c hc
    have hshown := strip_subset hc
    rw [← hvalue] at hshown
    rcases mem_shownValue hshown with hold | rfl | rfl
    · -- a character of the value itself
      cases hread : item f.1 (readEnvMap file) with
      | none =>
        rw [hread] at hold
        cases hold
      | some v =>
        rw [hread] at hold
        obtain ⟨hone, hnul, -⟩ := h.value hkey hread
        exact ⟨hone c hold, fun heq => hnul (heq ▸ hold)⟩
    · decide
    · decide
  exact ⟨fun c hc => (hchars c hc).1, fun hmem => (hchars _ hmem).2 rfl⟩

theorem reported_of_sent {text : List Char} (hmem : (k, text) ∈ cfg.updates)
    (hk : k ∈ writableKeys) (hdots : isInfix "...".toList text = false) :
    k ∈ (accepted cfg.updates).map Prod.fst := by
  have hkept : (!isSkipped (k, text)) = true := by
    rw [isSkipped, hdots, List.contains_iff_mem.2 hk]
    rfl
  exact List.mem_map.2 ⟨_, List.mem_map.2 ⟨_, List.mem_filter.2 ⟨hmem, hkept⟩, rfl⟩, rfl⟩

theorem writable_of_secret (hk : k ∈ secretKeys) : k ∈ writableKeys :=
  (by decide : secretKeys ⊆ writableKeys) hk

/-- **Sending back** what the page shows keeps what a key reads, but for a short secret. -/
theorem Tidy.sentBack (h : Tidy (readLines file)) (hback : SentBack file cfg) (k : List Char) :
    (item k (readEnvMap (setConfig file cfg).1)).getD [] = (item k (readEnvMap file)).getD [] ↔
      ¬ (k ∈ cfg.updates.map Prod.fst ∧ ShortSecret k ((item k (readEnvMap file)).getD [])) := by
  have hreads := ((h.saved (h.sentBack_plain hback)).2.reads k).1
  have hshown {text : List Char} (hmem : (k, text) ∈ cfg.updates) :
      text = shownValue k ((item k (readEnvMap file)).getD []) := by
    obtain ⟨it, hit, heq, hvalue⟩ := hback _ hmem
    have hitem : it.key = k := heq
    rw [← show it.value = text from hvalue, mem_configItems hit, hitem]
  rw [hreads]
  generalize hv : (item k (readEnvMap file)).getD [] = v at hshown ⊢
  by_cases hk : k ∈ (accepted cfg.updates).map Prod.fst
  · -- the text is stored
    obtain ⟨text, hmem, hsent, hdots⟩ := sent_of_reported hk
    obtain ⟨e, he, heq⟩ := List.mem_map.1 hk
    obtain ⟨f, -, rfl, hf, -⟩ := exists_of_accepted he
    have hkey : k ∈ writableKeys := heq ▸ hf
    have htrimmed : strip v = v := by
      cases hread : item k (readEnvMap file) with
      | none =>
        rw [hread] at hv
        rw [← hv]
        rfl
      | some w =>
        rw [hread] at hv
        exact hv ▸ (h.value hkey hread).2.2
    rw [afterSave_of_mem (reported_eq file cfg ▸ hk), hsent, Option.getD_some, hshown hmem]
    rw [hshown hmem] at hdots
    by_cases hsecret : k ∈ secretKeys ∧ v ≠ []
    · rw [shownValue_secret hsecret.1 hsecret.2] at hdots ⊢
      have hshort : ¬ 10 < v.length := fun hlong => by
        rw [dots_masked hlong] at hdots
        cases hdots
      rw [masked, if_neg hshort]
      refine ⟨fun heq hboth => hboth.2.2.2.2 heq.symm, fun hnot => ?_⟩
      by_contra hne
      exact hnot ⟨List.mem_map_of_mem (f := Prod.fst) hmem, hsecret.1, hsecret.2, not_lt.1 hshort,
        fun heq => hne heq.symm⟩
    · rw [shownValue_plain hsecret]
      exact iff_of_true htrimmed fun hboth => hsecret ⟨hboth.2.1, hboth.2.2.1⟩
  · -- it is not, so it is no short secret
    rw [afterSave_of_not (reported_eq file cfg ▸ hk), hv]
    refine iff_of_true rfl fun ⟨hin, hsecret, hne, hshort, _⟩ => hk ?_
    obtain ⟨⟨k, text⟩, hmem, rfl⟩ := List.mem_map.1 hin
    refine reported_of_sent hmem (writable_of_secret hsecret) ?_
    rw [hshown hmem, shownValue_secret hsecret hne, masked, if_neg (not_lt.2 hshort)]
    decide

end

/-! ## Every run -/

/-- What is promised of the page. -/
structure PageKeepsFile (file : Option (List Char)) (s : OpsSystem) : Prop where
  reads : ∀ k, item k (readEnvMap s.file) = replayed k (item k (readEnvMap file)) s.answered ∧
    loadedValue s.file k = replayed k (loadedValue file k) s.answered
  shown : ∀ page items, (s.pages page).items = some items → ∃ before, before <+: s.answered ∧
    (items = configItems fun k => replayed k (item k (readEnvMap file)) before) ∧
    ∀ it ∈ items, it.key ∈ secretKeys → ∀ v, replayed it.key none before = some v →
      v ≠ [] → v ≠ "***".toList → it.value ≠ v
  sentBack : ∀ cfg, SentBack s.file cfg → ∀ k,
    (item k (readEnvMap (setConfig s.file cfg).1)).getD [] =
        (item k (readEnvMap s.file)).getD [] ↔
      ¬ (k ∈ cfg.updates.map Prod.fst ∧ ShortSecret k ((item k (readEnvMap s.file)).getD []))

/-- A token is typed in on the page of a new installation. -/
def typedToken : ConfigUpdate := ConfigUpdate.empty.typed "PRC_API_TOKEN".toList "s3cret".toList

/-- The page has loaded. -/
def loadedPage : OpsSystem :=
  (({ file := none, replies := [] } : OpsSystem).heard 0 (.items (getConfig none)))

/-- The token was saved, and the page has heard of it. -/
def savedPage : OpsSystem :=
  (((loadedPage.withPage 0 { loadedPage.pages 0 with cfg := typedToken }).saved typedToken).heard 0
    (.changed ["PRC_API_TOKEN".toList]))

/-- The page has loaded again. -/
def reloadedPage : OpsSystem :=
  { savedPage with sent := [] }.heard 0 (.items (getConfig savedPage.file))

theorem loadedPage_run : OpsRun { file := none } loadedPage :=
  .tail (.tail (.single (.load 0)) (@OpsStep.handle _ [] 0 .load [] rfl))
    (@OpsStep.hear _ [] 0 (.items (getConfig none)) [] rfl)

theorem savedPage_run : OpsRun loadedPage savedPage := by
  refine .tail (.tail (.tail (.single (@OpsStep.typed loadedPage 0 (getConfig none)
    { key := "PRC_API_TOKEN".toList, value := [], writable := true } "s3cret".toList rfl ?_ rfl))
    (@OpsStep.save _ 0 ?_)) (@OpsStep.handle _ [] 0 (.save typedToken) [] rfl))
    (@OpsStep.hear _ [] 0 (.changed ["PRC_API_TOKEN".toList]) [] ?_)
  · decide
  · exact List.cons_ne_nil _ _
  · rfl

theorem reloadedPage_run : OpsRun savedPage reloadedPage :=
  .tail (.single (@OpsStep.handle _ [] 0 .load [] rfl))
    (@OpsStep.hear _ [] 0 (.items (getConfig savedPage.file)) [] rfl)

end ParkingSystem.EnvFile
