import ParkingSystem.Library.PyLines
import ParkingSystem.Library.PyDict
import Mathlib.Data.List.Induction

/-!
# The Environment File of the Agent

`set_config` rewrites lines of `gate-agent/.env`; `_read_env_map` and the loader of the agent read
them. Writer and readers do not agree on what a line of a key is: the writer looks for `KEY=`, and
rewrites the first line it finds; the readers strip the key, and the last line decides for the one,
the first line for the other.

A file is the text that UTF-8 decodes it to, or none. Line ends are not translated, as
`str.splitlines` takes every one of them for the same.
-/

namespace ParkingSystem.EnvFile

open PyText PyDict

/-! ## Readers -/

/-- `read_text(encoding="utf-8-sig").splitlines()`, of a file that may not exist. -/
def readLines : Option (List Char) → List (List Char)
  | none => []
  | some ('\uFEFF' :: text) => splitlines text
  | some text => splitlines text

/-- The key and the value of a line. -/
def parseLine (line : List Char) : Option (List Char × List Char) :=
  let line := strip line
  if line ≠ [] ∧ line.head? ≠ some '#' ∧ '=' ∈ line then
    let (k, v) := splitFirst '=' line
    some (strip k, strip v)
  else none

/-- The keys and values of a file, line by line. -/
def entries (file : Option (List Char)) : List (List Char × List Char) :=
  (readLines file).filterMap parseLine

/-- `_read_env_map`. -/
def readEnvMap (file : Option (List Char)) : List (List Char × List Char) :=
  (entries file).foldl (fun out e => alter e.1 (fun _ => e.2) out) []

/-- `os.environ.setdefault`: `none` is the error of an empty key, or of a NUL. -/
def setdefault (environ : List (List Char × List Char)) (e : List Char × List Char) :
    Option (List (List Char × List Char)) :=
  if (item e.1 environ).isSome then some environ
  else if e.1 = [] ∨ '\x00' ∈ e.1 ∨ '\x00' ∈ e.2 then none
  else some (environ ++ [e])

/-- `_load_env`. -/
def loadEnv (environ : List (List Char × List Char)) (file : Option (List Char)) :
    Option (List (List Char × List Char)) := (entries file).foldlM setdefault environ

/-- What the loader of the agent reads for a key, if it reads the file at all. -/
def loadedValue (file : Option (List Char)) (key : List Char) : Option (List Char) :=
  (loadEnv [] file).bind (item key)

/-! ## Writer -/

/-- `WRITABLE_KEYS`. -/
def writableKeys : List (List Char) :=
  ["DEFAULT_DIRECTION".toList, "ANPR_PORT".toList, "WEBCAM_INDEX".toList, "RTSP_URL".toList,
    "SCAN_INTERVAL".toList, "PRC_API_TOKEN".toList, "RTSP_GATE_CODE".toList,
    "RTSP_DIRECTION".toList]

/-- `ConfigUpdate`. -/
structure ConfigUpdate where
  updates : List (List Char × List Char)
  distinct : (updates.map Prod.fst).Nodup

/-- `ln.strip().startswith(k + "=")`. -/
def holdsKey (k ln : List Char) : Bool := (k ++ ['=']).isPrefixOf (strip ln)

/-- Rewrite the first line of a key, or append one. -/
def setLine (k v : List Char) : List (List Char) → List (List Char)
  | [] => [k ++ '=' :: v]
  | ln :: lines => if holdsKey k ln then (k ++ '=' :: v) :: lines else ln :: setLine k v lines

/-- `k not in WRITABLE_KEYS or "..." in v`. -/
def isSkipped (e : List Char × List Char) : Bool :=
  !writableKeys.contains e.1 || isInfix "...".toList e.2

/-- One update: the lines, and the keys that are changed. -/
def applyUpdate (st : List (List Char) × List (List Char)) (e : List Char × List Char) :
    List (List Char) × List (List Char) :=
  if isSkipped e then st
  else (setLine e.1 (strip e.2) st.1, st.2 ++ [e.1])

/-- `set_config`: the file after it, and the keys it reports as changed. -/
def setConfig (file : Option (List Char)) (body : ConfigUpdate) :
    Option (List Char) × List (List Char) :=
  let (lines, changed) := body.updates.foldl applyUpdate (readLines file, [])
  (if changed.isEmpty then file else some (joinLines lines), changed)

/-! ## What a key reads -/

/-- What a line reads for a key. -/
def reads (k line : List Char) : Option (List Char) :=
  (parseLine line).bind fun e => if e.1 = k then some e.2 else none

/-- What the lines read for a key, in their order. -/
def values (k : List Char) (lines : List (List Char)) : List (List Char) :=
  lines.filterMap (reads k)

theorem values_append (k : List Char) (lines lines' : List (List Char)) :
    values k (lines ++ lines') = values k lines ++ values k lines' := List.filterMap_append

/-- A value stands on a line. -/
theorem oneLine_of_mem_values {k w : List Char} {lines : List (List Char)}
    (h : ∀ l ∈ lines, OneLine l) (hw : w ∈ values k lines) : OneLine w := by
  obtain ⟨l, hl, hread⟩ := List.mem_filterMap.1 hw
  rw [reads, Option.bind_eq_some_iff] at hread
  obtain ⟨e, hparse, he⟩ := hread
  unfold parseLine at hparse
  dsimp only at hparse
  split at hparse
  · obtain rfl := Option.some.inj hparse
    split at he
    · obtain rfl := Option.some.inj he
      refine (h l hl).subset fun c hc => strip_subset ?_
      have hdrop := List.mem_of_mem_drop (strip_subset hc)
      exact (List.dropWhile_sublist _).subset hdrop
    · cases he
  · cases hparse

/-- The values of the entries of a key are what the lines read. -/
theorem filterMap_parseLine (k : List Char) (lines : List (List Char)) :
    ((lines.filterMap parseLine).filter fun e => e.1 = k).map Prod.snd = values k lines := by
  rw [values]
  induction lines with
  | nil => rfl
  | cons l lines ih =>
    cases hparse : parseLine l with
    | none =>
      rw [List.filterMap_cons_none hparse, List.filterMap_cons_none (by simp [reads, hparse]), ih]
    | some e =>
      rw [List.filterMap_cons_some hparse, List.filter_cons]
      by_cases he : e.1 = k
      · rw [if_pos (by simpa using he), List.map_cons, ih,
          List.filterMap_cons_some (b := e.2) (by simp [reads, hparse, he])]
      · rw [if_neg (by simpa using he), ih,
          List.filterMap_cons_none (by simp [reads, hparse, he])]

/-- **The map** has the last value of a key. -/
theorem item_readEnvMap (file : Option (List Char)) (k : List Char) :
    item k (readEnvMap file) = (values k (readLines file)).getLast? := by
  refine (item_groupInto Prod.fst (fun e _ => e.2) (entries file) k).trans ?_
  rw [entries, ← filterMap_parseLine]
  generalize ((readLines file).filterMap parseLine).filter _ = own
  induction own using List.reverseRecOn with
  | nil => rfl
  | append_singleton own e _ => simp

/-- What `setdefault` accepts. -/
def Settable (k v : List Char) : Prop := k ≠ [] ∧ '\x00' ∉ k ∧ '\x00' ∉ v

/-- The agent can load lines: it accepts the first value of every key. -/
def Loads (lines : List (List Char)) : Prop := ∀ k, ∀ v ∈ (values k lines).head?, Settable k v

/-- A run of `setdefault` keeps the first value of a key, or stops at one that it refuses. -/
theorem foldlM_setdefault (es environ : List (List Char × List Char)) :
    ((es.foldlM setdefault environ).isSome = true ↔ ∀ k ∉ environ.map Prod.fst,
      ∀ v ∈ ((es.filter fun e => e.1 = k).map Prod.snd).head?, Settable k v) ∧
    ∀ environ', es.foldlM setdefault environ = some environ' → ∀ k, item k environ' =
      (item k environ).or ((es.filter fun e => e.1 = k).map Prod.snd).head? := by
  induction es generalizing environ with
  | nil => simp [pure]
  | cons e es ih =>
    rw [List.foldlM_cons, setdefault]
    split
    · -- the key is set
      rename_i hset
      obtain ⟨hsome, hitem⟩ := ih environ
      refine ⟨hsome.trans (forall₂_congr fun k hk => ?_), fun environ' h k => ?_⟩
      · have hne : e.1 ≠ k := fun heq => hk (heq ▸ isSome_item.1 hset)
        rw [List.filter_cons, if_neg (by simpa using hne)]
      · rw [hitem environ' h k, List.filter_cons]
        split
        · rename_i hkey
          obtain ⟨v, hv⟩ := Option.isSome_iff_exists.1 hset
          rw [of_decide_eq_true hkey] at hv
          simp [hv]
        · rfl
    · rename_i hset
      have hnew : e.1 ∉ environ.map Prod.fst := fun hmem => hset (isSome_item.2 hmem)
      split
      · -- the value is refused
        rename_i hbad
        refine ⟨⟨fun h => (nomatch h), fun h => ?_⟩, fun _ h => (nomatch h)⟩
        obtain ⟨hne, hkey, hvalue⟩ := h e.1 hnew e.2 (by simp)
        tauto
      · rename_i hgood
        obtain ⟨hsome, hitem⟩ := ih (environ ++ [e])
        have hsettable : Settable e.1 e.2 := by
          rw [Settable]
          tauto
        refine ⟨hsome.trans ⟨fun h k hk v hv => ?_, fun h k hk => ?_⟩, fun environ' h k => ?_⟩
        · by_cases hkey : e.1 = k
          · subst hkey
            obtain rfl : e.2 = v := by simpa using hv
            exact hsettable
          · rw [List.filter_cons, if_neg (by simpa using hkey)] at hv
            exact h k (by simpa using ⟨by simpa using hk, Ne.symm hkey⟩) v hv
        · rw [List.map_append, List.mem_append, not_or] at hk
          have hne : e.1 ≠ k := fun heq => hk.2 (by simp [heq])
          have hrest := h k hk.1
          rwa [List.filter_cons, if_neg (by simpa using hne)] at hrest
        · rw [hitem environ' h k, item_append, item_singleton, Option.or_assoc, List.filter_cons]
          by_cases hkey : e.1 = k <;> simp [hkey]

/-- **The agent** has the first value of a key. -/
theorem loadedValue_of_loads {file : Option (List Char)} (h : Loads (readLines file))
    (k : List Char) : loadedValue file k = (values k (readLines file)).head? := by
  obtain ⟨hsome, hitem⟩ := foldlM_setdefault (entries file) []
  simp only [entries, filterMap_parseLine] at hsome hitem
  obtain ⟨environ, henv⟩ := Option.isSome_iff_exists.1 (hsome.2 fun k _ => h k)
  rw [loadedValue, loadEnv, entries, henv, Option.bind_some, hitem environ henv k]
  rfl

theorem loads_of_loadedValue {file : Option (List Char)} {k v : List Char}
    (h : loadedValue file k = some v) : Loads (readLines file) := by
  obtain ⟨hsome, -⟩ := foldlM_setdefault (entries file) []
  obtain ⟨environ, henv, -⟩ := Option.bind_eq_some_iff.1 h
  simp only [entries, filterMap_parseLine] at hsome
  rw [loadEnv, entries] at henv
  exact fun k => hsome.1 (by rw [henv]; rfl) k (by simp)

/-! ## What a line of a writable key is -/

/-- The text of a key that is read as it is written. -/
structure KeyText (k : List Char) : Prop where
  ne_nil : k ≠ []
  chars : ∀ c ∈ k, isSpace c = false ∧ c ≠ '=' ∧ c ≠ '#' ∧ c ≠ '\x00' ∧ c ≠ '\uFEFF'

theorem keyText_of_writable {k : List Char} (h : k ∈ writableKeys) : KeyText k := by
  have hall : (writableKeys.all fun k => !k.isEmpty && k.all fun c => !isSpace c && c != '=' &&
      c != '#' && c != '\x00' && c != '\uFEFF') = true := by decide
  have hk := List.all_eq_true.1 hall k h
  rw [Bool.and_eq_true, List.all_eq_true] at hk
  refine ⟨by simpa using hk.1, fun c hc => ?_⟩
  have hchar := hk.2 c hc
  simp only [Bool.and_eq_true, Bool.not_eq_true', bne_iff_ne] at hchar
  tauto

/-- A text that is stripped. -/
abbrev Trimmed (v : List Char) : Prop := strip v = v

section

variable {k κ v : List Char}

theorem KeyText.trimmed (h : KeyText k) : Trimmed k :=
  strip_eq_self (fun c hc => (h.chars c (List.mem_of_mem_head? hc)).1)
    fun c hc => (h.chars c (List.mem_of_mem_getLast? hc)).1

theorem KeyText.equals_notMem (h : KeyText k) : '=' ∉ k := fun hmem => (h.chars _ hmem).2.1 rfl

/-- What begins with a key and an equals sign is a line of the key. -/
theorem parseLine_of_strip (h : KeyText k) {line : List Char}
    (hstrip : strip line = k ++ '=' :: v) : parseLine line = some (k, strip v) := by
  obtain ⟨c, cs, rfl⟩ := List.exists_cons_of_ne_nil h.ne_nil
  have hhash : c ≠ '#' := (h.chars c List.mem_cons_self).2.2.1
  unfold parseLine
  dsimp only
  rw [hstrip, splitFirst_append h.equals_notMem, if_pos (by simpa using hhash), h.trimmed]

theorem strip_written (h : KeyText k) (hv : Trimmed v) : strip (k ++ '=' :: v) = k ++ '=' :: v := by
  refine strip_eq_self (fun c hc => ?_) fun c hc => ?_
  · obtain ⟨d, ds, rfl⟩ := List.exists_cons_of_ne_nil h.ne_nil
    obtain rfl : d = c := by simpa using hc
    exact (h.chars d List.mem_cons_self).1
  · cases v with
    | nil =>
      obtain rfl : '=' = c := by simpa using hc
      decide
    | cons d ds =>
      rw [List.getLast?_append_cons, List.getLast?_cons_cons, ← hv] at hc
      exact getLast_strip c hc

theorem reads_written (h : KeyText k) (hv : Trimmed v) (κ : List Char) :
    reads κ (k ++ '=' :: v) = if k = κ then some v else none := by
  rw [reads, parseLine_of_strip h (strip_written h hv), Option.bind_some, hv]

/-- A line that the writer takes for one of a key is one of the key. -/
theorem parseLine_of_holdsKey (h : KeyText k) {line : List Char} (hline : holdsKey k line = true) :
    ∃ w, parseLine line = some (k, w) := by
  obtain ⟨rest, hrest⟩ := List.isPrefixOf_iff_prefix.1 hline
  exact ⟨_, parseLine_of_strip h (by rw [← hrest, List.append_assoc, List.singleton_append])⟩

theorem reads_of_holdsKey (h : KeyText k) {line : List Char} (hline : holdsKey k line = true)
    (hne : k ≠ κ) : reads κ line = none := by
  obtain ⟨w, hw⟩ := parseLine_of_holdsKey h hline
  rw [reads, hw, Option.bind_some, if_neg hne]

/-- No line is one of two keys. -/
theorem holdsKey_of_reads (h : KeyText k) {line : List Char} {w : List Char}
    (hline : parseLine line = some (κ, w)) (hne : κ ≠ k) : holdsKey k line = false := by
  rw [← Bool.not_eq_true]
  intro hholds
  obtain ⟨w', hw'⟩ := parseLine_of_holdsKey h hholds
  rw [hline] at hw'
  exact hne (congrArg Prod.fst (Option.some.inj hw'))

end

/-! ## What the writer leaves -/

/-- The lines above the one that the writer rewrites, which are all of them if it appends one. -/
def above (k : List Char) (lines : List (List Char)) : List (List Char) :=
  lines.takeWhile fun ln => !holdsKey k ln

/-- The lines below the one that the writer rewrites. -/
def below (k : List Char) (lines : List (List Char)) : List (List Char) :=
  (lines.dropWhile fun ln => !holdsKey k ln).drop 1

/-- The lines after a run of updates. -/
def setLines (es : List (List Char × List Char)) (lines : List (List Char)) : List (List Char) :=
  es.foldl (fun lines e => setLine e.1 e.2 lines) lines

section

variable {k κ v : List Char}

theorem setLine_cons_of_holds {ln : List Char} (h : holdsKey k ln = true) (v : List Char)
    (lines : List (List Char)) : setLine k v (ln :: lines) = (k ++ '=' :: v) :: lines := by
  rw [setLine, if_pos h]

theorem setLine_cons_of_not {ln : List Char} (h : holdsKey k ln = false) (v : List Char)
    (lines : List (List Char)) : setLine k v (ln :: lines) = ln :: setLine k v lines := by
  rw [setLine, if_neg (by simp [h])]

theorem values_cons (k ln : List Char) (lines : List (List Char)) :
    values k (ln :: lines) = values k [ln] ++ values k lines := values_append k [ln] lines

theorem values_singleton_of_none {ln : List Char} (h : reads k ln = none) : values k [ln] = [] := by
  rw [values, List.filterMap_cons_none h, List.filterMap_nil]

theorem values_written (h : KeyText k) (hv : Trimmed v) (κ : List Char) :
    values κ [k ++ '=' :: v] = if k = κ then [v] else [] := by
  by_cases hκ : k = κ
  · rw [if_pos hκ, values, List.filterMap_cons_some (by rw [reads_written h hv, if_pos hκ]),
      List.filterMap_nil]
  · rw [if_neg hκ, values_singleton_of_none (by rw [reads_written h hv, if_neg hκ])]

theorem above_cons (k ln : List Char) (lines : List (List Char)) :
    above k (ln :: lines) = if holdsKey k ln then [] else ln :: above k lines := by
  unfold above
  cases hln : holdsKey k ln <;> simp [hln]

theorem below_cons (k ln : List Char) (lines : List (List Char)) :
    below k (ln :: lines) = if holdsKey k ln then lines else below k lines := by
  unfold below
  cases hln : holdsKey k ln <;> simp [hln]

/-- An update of another key changes nothing for a key. -/
theorem setLine_other (h : KeyText k) (hv : Trimmed v) (hne : k ≠ κ) (lines : List (List Char)) :
    values κ (setLine k v lines) = values κ lines := by
  induction lines with
  | nil => rw [setLine, values_written h hv, if_neg hne]; rfl
  | cons ln lines ih =>
    cases hln : holdsKey k ln with
    | true =>
      rw [setLine_cons_of_holds hln, values_cons, values_written h hv, if_neg hne, values_cons κ ln,
        values_singleton_of_none (reads_of_holdsKey h hln hne)]
    | false => rw [setLine_cons_of_not hln, values_cons, ih, ← values_cons]

/-- Nor above the line of that key, nor below it. -/
theorem setLine_around (h : KeyText k) (hκ : KeyText κ) (hv : Trimmed v) (hne : k ≠ κ)
    (lines : List (List Char)) :
    values κ (above κ (setLine k v lines)) = values κ (above κ lines) ∧
      values κ (below κ (setLine k v lines)) = values κ (below κ lines) := by
  have hwritten : holdsKey κ (k ++ '=' :: v) = false :=
    holdsKey_of_reads hκ (parseLine_of_strip h (strip_written h hv)) hne
  have hnone : values κ [k ++ '=' :: v] = [] := by rw [values_written h hv, if_neg hne]
  induction lines with
  | nil =>
    rw [setLine, above_cons, below_cons, hwritten]
    exact ⟨hnone, rfl⟩
  | cons ln lines ih =>
    cases hln : holdsKey k ln with
    | true =>
      -- the rewritten line is one of the other key
      obtain ⟨w, hw⟩ := parseLine_of_holdsKey h hln
      rw [setLine_cons_of_holds hln, above_cons, below_cons, above_cons, below_cons, hwritten,
        holdsKey_of_reads hκ hw hne]
      simp only [Bool.false_eq_true, if_false, and_true]
      rw [values_cons, hnone, values_cons κ ln,
        values_singleton_of_none (reads_of_holdsKey h hln hne)]
    | false =>
      rw [setLine_cons_of_not hln, above_cons, below_cons, above_cons, below_cons]
      split
      · exact ⟨rfl, setLine_other h hv hne lines⟩
      · rw [values_cons, ih.1, ← values_cons]
        exact ⟨rfl, ih.2⟩

/-- **The written line** stands between what is above it and what is below. -/
theorem values_setLine (h : KeyText k) (hv : Trimmed v) (lines : List (List Char)) :
    values k (setLine k v lines) = values k (above k lines) ++ v :: values k (below k lines) := by
  have hwritten : values k [k ++ '=' :: v] = [v] := by rw [values_written h hv, if_pos rfl]
  induction lines with
  | nil => exact hwritten
  | cons ln lines ih =>
    rw [above_cons, below_cons]
    cases hln : holdsKey k ln with
    | true =>
      rw [setLine_cons_of_holds hln, values_cons, hwritten]
      rfl
    | false =>
      rw [setLine_cons_of_not hln, values_cons, ih]
      simp [values_cons k ln (above k lines)]

end

/-- Updates as the writer makes them: of keys that are read as they are written, each once. -/
structure Writable (es : List (List Char × List Char)) : Prop where
  key : ∀ e ∈ es, KeyText e.1
  trimmed : ∀ e ∈ es, Trimmed e.2
  distinct : (es.map Prod.fst).Nodup

theorem Writable.tail {e : List Char × List Char} {es : List (List Char × List Char)}
    (h : Writable (e :: es)) : e.1 ∉ es.map Prod.fst ∧ Writable es :=
  ⟨(List.nodup_cons.1 h.distinct).1, fun f hf => h.key f (List.mem_cons_of_mem e hf),
    fun f hf => h.trimmed f (List.mem_cons_of_mem e hf), (List.nodup_cons.1 h.distinct).2⟩

section

variable {es : List (List Char × List Char)} {κ : List Char}

/-- **A run of updates** changes what its keys read, and nothing else. -/
theorem values_setLines (h : Writable es) (lines : List (List Char)) :
    (κ ∉ es.map Prod.fst → values κ (setLines es lines) = values κ lines) ∧
      ∀ v, (κ, v) ∈ es → values κ (setLines es lines) =
        values κ (above κ lines) ++ v :: values κ (below κ lines) := by
  induction es generalizing lines with
  | nil => exact ⟨fun _ => rfl, fun v hv => (nomatch hv)⟩
  | cons e es ih =>
    obtain ⟨hnew, htail⟩ := h.tail
    have hkey := h.key e List.mem_cons_self
    have hvalue := h.trimmed e List.mem_cons_self
    obtain ⟨hother, hown⟩ := ih htail (setLine e.1 e.2 lines)
    refine ⟨fun hκ => ?_, fun v hv => ?_⟩
    · rw [List.map_cons, List.mem_cons, not_or] at hκ
      exact (hother hκ.2).trans (setLine_other hkey hvalue (Ne.symm hκ.1) lines)
    · rcases List.mem_cons.1 hv with rfl | hv
      · exact (hother hnew).trans (values_setLine hkey hvalue lines)
      · have hne : e.1 ≠ κ := fun heq => hnew (heq ▸ List.mem_map_of_mem (f := Prod.fst) hv)
        have haround := setLine_around hkey (htail.key _ hv) hvalue hne lines
        rw [← haround.1, ← haround.2]
        exact hown v hv

/-! ## The next reading -/

/-- The lines as the next reading sees them: without the byte order mark of the first line, which
is a second one if the file had another before it. -/
def nextLines : List (List Char) → List (List Char)
  | ('\uFEFF' :: l) :: lines => l :: lines
  | lines => lines

/-- The first line has a byte order mark. -/
def Marked (lines : List (List Char)) : Prop := ∃ l rest, lines = ('\uFEFF' :: l) :: rest

theorem nextLines_of_not {lines : List (List Char)} (h : ¬ Marked lines) :
    nextLines lines = lines := by
  unfold nextLines
  split
  · rename_i l rest
    exact absurd ⟨l, rest, rfl⟩ h
  · rfl

theorem holdsKey_marked {k : List Char} (h : KeyText k) (l : List Char) :
    holdsKey k ('\uFEFF' :: l) = false := by
  obtain ⟨c, cs, rfl⟩ := List.exists_cons_of_ne_nil h.ne_nil
  rw [← Bool.not_eq_true]
  intro hholds
  have hpre := (List.isPrefixOf_iff_prefix.1 hholds).trans (strip_isPrefix ('\uFEFF' :: l))
  rw [List.dropWhile_cons_of_neg (by decide), List.cons_append, List.cons_prefix_cons] at hpre
  exact (h.chars c List.mem_cons_self).2.2.2.2 hpre.1

/-- The writer leaves a line with a byte order mark as it is. -/
theorem setLines_marked (h : Writable es) (l : List Char) (lines : List (List Char)) :
    setLines es (('\uFEFF' :: l) :: lines) = ('\uFEFF' :: l) :: setLines es lines := by
  induction es generalizing lines with
  | nil => rfl
  | cons e es ih =>
    rw [setLines, List.foldl_cons,
      setLine_cons_of_not (holdsKey_marked (h.key e List.mem_cons_self) l)]
    exact ih h.tail.2 _

theorem setLine_not_marked {k : List Char} (h : KeyText k) (v : List Char)
    {lines : List (List Char)} (hlines : ¬ Marked lines) : ¬ Marked (setLine k v lines) := by
  rintro ⟨l, rest, hmark⟩
  have hwritten (t : List Char) : k ++ t ≠ '\uFEFF' :: l := by
    obtain ⟨c, cs, rfl⟩ := List.exists_cons_of_ne_nil h.ne_nil
    exact fun heq => (h.chars c List.mem_cons_self).2.2.2.2 (List.cons.inj heq).1
  cases lines with
  | nil => exact hwritten _ (List.cons.inj hmark).1
  | cons ln lines =>
    cases hln : holdsKey k ln with
    | true =>
      rw [setLine_cons_of_holds hln] at hmark
      exact hwritten _ (List.cons.inj hmark).1
    | false =>
      rw [setLine_cons_of_not hln] at hmark
      exact hlines ⟨l, lines, by rw [(List.cons.inj hmark).1]⟩

theorem setLines_not_marked (h : Writable es) {lines : List (List Char)} (hlines : ¬ Marked lines) :
    ¬ Marked (setLines es lines) := by
  induction es generalizing lines with
  | nil => exact hlines
  | cons e es ih =>
    exact ih h.tail.2 (setLine_not_marked (h.key e List.mem_cons_self) e.2 hlines)

theorem not_marked_above {lines : List (List Char)} (h : ¬ Marked lines) :
    ¬ Marked (above κ lines) := by
  rintro ⟨l, rest, hmark⟩
  obtain ⟨tail, htail⟩ := List.takeWhile_prefix (l := lines) fun ln => !holdsKey κ ln
  refine h ⟨l, rest ++ tail, ?_⟩
  rw [← htail]
  exact congrArg (· ++ tail) hmark

/-- **What the next reading sees** of a run of updates. -/
theorem values_nextLines (h : Writable es) (lines : List (List Char)) :
    (κ ∉ es.map Prod.fst → values κ (nextLines (setLines es lines)) = values κ (nextLines lines)) ∧
      ∀ v, (κ, v) ∈ es → values κ (nextLines (setLines es lines)) =
        values κ (nextLines (above κ lines)) ++ v :: values κ (below κ lines) := by
  by_cases hmark : Marked lines
  · obtain ⟨l, rest, rfl⟩ := hmark
    obtain ⟨hother, hown⟩ := values_setLines (κ := κ) h rest
    rw [setLines_marked h, nextLines, nextLines]
    refine ⟨fun hκ => by rw [values_cons, hother hκ, ← values_cons], fun v hv => ?_⟩
    have hnot := holdsKey_marked (h.key _ hv) l
    rw [values_cons, hown v hv, above_cons, below_cons, hnot]
    simp [nextLines, values_cons κ l (above κ rest)]
  · rw [nextLines_of_not (setLines_not_marked h hmark), nextLines_of_not hmark,
      nextLines_of_not (not_marked_above hmark)]
    exact values_setLines h lines

end

/-! ## Writing and reading again -/

theorem isSpace_of_isLineBreak {c : Char} (h : isLineBreak c = true) : isSpace c = true := by
  simp only [isLineBreak, isSpace, Bool.or_eq_true, Bool.and_eq_true, decide_eq_true_eq,
    beq_iff_eq] at h ⊢
  omega

theorem KeyText.oneLine {k : List Char} (h : KeyText k) : OneLine k := by
  intro c hc
  rw [← Bool.not_eq_true]
  intro hbreak
  have hspace := (h.chars c hc).1
  rw [isSpace_of_isLineBreak hbreak] at hspace
  cases hspace

theorem oneLine_readLines (file : Option (List Char)) : ∀ l ∈ readLines file, OneLine l := by
  unfold readLines
  split
  · exact List.forall_mem_nil _
  · exact oneLine_of_mem_splitlines
  · exact oneLine_of_mem_splitlines

theorem oneLine_setLine {k v : List Char} (hk : KeyText k) (hv : OneLine v)
    {lines : List (List Char)} (h : ∀ l ∈ lines, OneLine l) :
    ∀ l ∈ setLine k v lines, OneLine l := by
  have hwritten : OneLine (k ++ '=' :: v) := by
    intro c hc
    rcases List.mem_append.1 hc with hkey | hrest
    · exact hk.oneLine c hkey
    · rcases List.mem_cons.1 hrest with rfl | hvalue
      · decide
      · exact hv c hvalue
  induction lines with
  | nil => exact List.forall_mem_singleton.2 hwritten
  | cons ln lines ih =>
    rw [List.forall_mem_cons] at h
    rw [setLine]
    split
    · exact List.forall_mem_cons.2 ⟨hwritten, h.2⟩
    · exact List.forall_mem_cons.2 ⟨h.1, ih h.2⟩

theorem oneLine_setLines {es : List (List Char × List Char)} (h : Writable es)
    (hes : ∀ e ∈ es, OneLine e.2) {lines : List (List Char)} (hlines : ∀ l ∈ lines, OneLine l) :
    ∀ l ∈ setLines es lines, OneLine l := by
  induction es generalizing lines with
  | nil => exact hlines
  | cons e es ih =>
    rw [List.forall_mem_cons] at hes
    exact ih h.tail.2 hes.2 (oneLine_setLine (h.key e List.mem_cons_self) hes.1 hlines)

theorem setLine_ne_nil (k v : List Char) (lines : List (List Char)) : setLine k v lines ≠ [] := by
  cases lines with
  | nil => exact List.cons_ne_nil _ _
  | cons ln lines =>
    rw [setLine]
    split <;> exact List.cons_ne_nil _ _

theorem setLines_ne_nil {es : List (List Char × List Char)} (hes : es ≠ [])
    (lines : List (List Char)) : setLines es lines ≠ [] := by
  obtain ⟨before, e, rfl⟩ := List.eq_nil_or_concat' es |>.resolve_left hes
  rw [setLines, List.foldl_append]
  exact setLine_ne_nil _ _ _

/-- **What is written** is read line by line. -/
theorem readLines_joinLines {lines : List (List Char)} (hne : lines ≠ [])
    (h : ∀ l ∈ lines, OneLine l) : readLines (some (joinLines lines)) = nextLines lines := by
  rw [joinLines_eq hne]
  by_cases hmark : Marked lines
  · obtain ⟨l, rest, rfl⟩ := hmark
    rw [List.forall_mem_cons] at h
    have hl : OneLine l := h.1.subset (List.subset_cons_self _ _)
    exact splitlines_lines (List.forall_mem_cons.2 ⟨hl, h.2⟩)
  · rw [nextLines_of_not hmark, readLines]
    · exact splitlines_lines h
    · intro text htext
      obtain ⟨l, rest, rfl⟩ := List.exists_cons_of_ne_nil hne
      cases l with
      | nil => exact absurd (List.cons.inj htext).1 (by decide)
      | cons c l => exact hmark ⟨l, rest, by rw [(List.cons.inj htext).1]⟩

/-! ## The updates that are made -/

/-- The updates that are not skipped, with their values trimmed. -/
def accepted (updates : List (List Char × List Char)) : List (List Char × List Char) :=
  (updates.filter fun e => !isSkipped e).map fun e => (e.1, strip e.2)

theorem foldl_applyUpdate (updates : List (List Char × List Char))
    (st : List (List Char) × List (List Char)) : updates.foldl applyUpdate st =
      (setLines (accepted updates) st.1, st.2 ++ (accepted updates).map Prod.fst) := by
  induction updates generalizing st with
  | nil => simp [accepted, setLines]
  | cons e updates ih =>
    rw [List.foldl_cons, ih, applyUpdate, accepted, accepted]
    cases hskip : isSkipped e with
    | true => simp [hskip]
    | false => simp [hskip, setLines]

theorem setConfig_eq (file : Option (List Char)) (body : ConfigUpdate) : setConfig file body =
    (if accepted body.updates = [] then file
      else some (joinLines (setLines (accepted body.updates) (readLines file))),
        (accepted body.updates).map Prod.fst) := by
  rw [setConfig, foldl_applyUpdate]
  simp

theorem writable_accepted (body : ConfigUpdate) : Writable (accepted body.updates) where
  key e he := by
    obtain ⟨f, hf, rfl⟩ := List.mem_map.1 he
    have hkeep := (List.mem_filter.1 hf).2
    simp only [isSkipped, Bool.not_or, Bool.not_not, Bool.and_eq_true] at hkeep
    exact keyText_of_writable (List.contains_iff_mem.1 hkeep.1)
  trimmed e he := by
    obtain ⟨f, -, rfl⟩ := List.mem_map.1 he
    exact strip_strip f.2
  distinct := by
    rw [accepted, List.map_map]
    exact body.distinct.sublist ((List.filter_sublist).map Prod.fst)

/-- An update of a key that is changed is made. -/
theorem mem_accepted {body : ConfigUpdate} {e : List Char × List Char} (he : e ∈ body.updates)
    (hkey : e.1 ∈ (accepted body.updates).map Prod.fst) :
    (e.1, strip e.2) ∈ accepted body.updates := by
  obtain ⟨a, ha, heq⟩ := List.mem_map.1 hkey
  obtain ⟨f, hf, rfl⟩ := List.mem_map.1 ha
  have hsame : f = e := List.inj_on_of_nodup_map body.distinct (List.mem_filter.1 hf).1 he heq
  exact hsame ▸ ha

/-! ## Where the file says what was sent -/

/-- What is promised of `set_config`: each key that is reported as changed reads as the trimmed
value that was sent, and each other key as it did, for `_read_env_map` and for the agent. -/
structure Faithful (file : Option (List Char)) (body : ConfigUpdate) : Prop where
  changed : ∀ e ∈ body.updates, e.1 ∈ (setConfig file body).2 →
    item e.1 (readEnvMap (setConfig file body).1) = some (strip e.2) ∧
      loadedValue (setConfig file body).1 e.1 = some (strip e.2)
  kept : ∀ k ∉ (setConfig file body).2,
    item k (readEnvMap (setConfig file body).1) = item k (readEnvMap file) ∧
      loadedValue (setConfig file body).1 k = loadedValue file k

/-- An update is read as it was sent: its value is on one line and without a NUL, and what its key
reads first above the written line, and last below it, is that value already. -/
structure Lands (lines : List (List Char)) (e : List Char × List Char) : Prop where
  oneLine : OneLine e.2
  noNul : '\x00' ∉ e.2
  above : ∀ w ∈ (values e.1 (nextLines (above e.1 lines))).head?, w = e.2
  below : ∀ w ∈ (values e.1 (below e.1 lines)).getLast?, w = e.2

/-- The other keys are left alone: the agent could load the file, or there are none, and the mark of
the first line does not decide what they read. -/
structure Undisturbed (lines : List (List Char)) (changed : List (List Char)) : Prop where
  loads : Loads lines ∨ ∀ k ∉ changed, values k (nextLines lines) = []
  first : ∀ k ∉ changed, (values k (nextLines lines)).head? = (values k lines).head?
  last : ∀ k ∉ changed, (values k (nextLines lines)).getLast? = (values k lines).getLast?

section

variable {file : Option (List Char)} {body : ConfigUpdate}

theorem head?_append_cons_iff {α : Type} {before after : List α} {v : α} :
    (before ++ v :: after).head? = some v ↔ ∀ w ∈ before.head?, w = v := by
  cases before <;> simp

theorem getLast?_append_cons_iff {α : Type} {before after : List α} {v : α} :
    (before ++ v :: after).getLast? = some v ↔ ∀ w ∈ after.getLast?, w = v := by
  rw [List.getLast?_append_cons]
  cases after with
  | nil => simp
  | cons w after =>
    rw [List.getLast?_cons_cons, List.getLast?_eq_some_getLast (List.cons_ne_nil w after)]
    simp

/-- The promise, in the words of the updates that are made. -/
theorem faithful_iff : Faithful file body ↔
    (∀ e ∈ accepted body.updates, item e.1 (readEnvMap (setConfig file body).1) = some e.2 ∧
      loadedValue (setConfig file body).1 e.1 = some e.2) ∧
    ∀ k ∉ (accepted body.updates).map Prod.fst,
      item k (readEnvMap (setConfig file body).1) = item k (readEnvMap file) ∧
        loadedValue (setConfig file body).1 k = loadedValue file k := by
  have hkeys : (setConfig file body).2 = (accepted body.updates).map Prod.fst := by
    rw [setConfig_eq]
  constructor
  · rintro ⟨hchanged, hkept⟩
    rw [hkeys] at hchanged hkept
    refine ⟨fun e he => ?_, hkept⟩
    obtain ⟨f, hf, rfl⟩ := List.mem_map.1 he
    exact hchanged f (List.mem_filter.1 hf).1 (List.mem_map.2 ⟨_, he, rfl⟩)
  · rintro ⟨hchanged, hkept⟩
    rw [← hkeys] at hkept
    exact ⟨fun e he hkey => hchanged _ (mem_accepted he (hkeys ▸ hkey)), hkept⟩

/-- The file after updates that are on one line. -/
theorem readLines_setConfig (file : Option (List Char)) (hes : accepted body.updates ≠ [])
    (hone : ∀ e ∈ accepted body.updates, OneLine e.2) : readLines (setConfig file body).1 =
      nextLines (setLines (accepted body.updates) (readLines file)) := by
  rw [setConfig_eq, if_neg hes]
  exact readLines_joinLines (setLines_ne_nil hes _)
    (oneLine_setLines (writable_accepted body) hone (oneLine_readLines file))

theorem loadedValue_of_not_loads (h : ¬ Loads (readLines file)) (k : List Char) :
    loadedValue file k = none := by
  cases hvalue : loadedValue file k with
  | none => rfl
  | some v => exact absurd (loads_of_loadedValue hvalue) h

/-- What is read as it was sent was fit to be written. -/
theorem Faithful.lands (h : Faithful file body) (hes : accepted body.updates ≠ []) :
    (∀ e ∈ accepted body.updates, Lands (readLines file) e) ∧
      Undisturbed (readLines file) ((accepted body.updates).map Prod.fst) := by
  obtain ⟨hchanged, hkept⟩ := faithful_iff.1 h
  have hone (e) (he : e ∈ accepted body.updates) : OneLine e.2 := by
    have hread := (hchanged e he).1
    rw [item_readEnvMap] at hread
    exact oneLine_of_mem_values (oneLine_readLines _) (List.mem_of_getLast? hread)
  have hread := readLines_setConfig file hes hone
  have hloads : Loads (nextLines (setLines (accepted body.updates) (readLines file))) := by
    obtain ⟨e, he⟩ := List.exists_mem_of_ne_nil _ hes
    rw [← hread]
    exact loads_of_loadedValue (hchanged e he).2
  simp only [item_readEnvMap, loadedValue_of_loads (hread ▸ hloads), hread] at hchanged hkept
  have hvalues (k : List Char) :=
    values_nextLines (κ := k) (writable_accepted body) (readLines file)
  refine ⟨fun e he => ?_, ?_⟩
  · obtain ⟨hlast, hfirst⟩ := hchanged e he
    have hnul := (hloads e.1 e.2 hfirst).2.2
    rw [(hvalues e.1).2 e.2 he] at hlast hfirst
    exact ⟨hone e he, hnul, head?_append_cons_iff.1 hfirst, getLast?_append_cons_iff.1 hlast⟩
  · have hlast (k) (hk : k ∉ (accepted body.updates).map Prod.fst) :
        (values k (nextLines (readLines file))).getLast? =
          (values k (readLines file)).getLast? := by
      rw [← (hvalues k).1 hk]
      exact (hkept k hk).1
    by_cases hbefore : Loads (readLines file)
    · refine ⟨.inl hbefore, fun k hk => ?_, hlast⟩
      rw [← (hvalues k).1 hk, (hkept k hk).2, loadedValue_of_loads hbefore]
    · have hnone (k) (hk : k ∉ (accepted body.updates).map Prod.fst) :
          values k (nextLines (readLines file)) = [] := by
        have hfirst := (hkept k hk).2
        rw [loadedValue_of_not_loads hbefore, (hvalues k).1 hk] at hfirst
        exact List.head?_eq_none_iff.1 hfirst
      refine ⟨.inr hnone, fun k hk => ?_, hlast⟩
      have hsame := hlast k hk
      rw [hnone k hk, List.getLast?_nil, eq_comm, List.getLast?_eq_none_iff] at hsame
      rw [hnone k hk, hsame]

/-- What is fit to be written is read as it was sent. -/
theorem faithful_of_lands (hes : accepted body.updates ≠ [])
    (hlands : ∀ e ∈ accepted body.updates, Lands (readLines file) e)
    (hothers : Undisturbed (readLines file) ((accepted body.updates).map Prod.fst)) :
    Faithful file body := by
  have hwritable := writable_accepted body
  have hread := readLines_setConfig file hes fun e he => (hlands e he).oneLine
  have hvalues (k : List Char) := values_nextLines (κ := k) hwritable (readLines file)
  have hfirst (e) (he : e ∈ accepted body.updates) : (values e.1
      (nextLines (setLines (accepted body.updates) (readLines file)))).head? = some e.2 := by
    rw [(hvalues e.1).2 e.2 he]
    exact head?_append_cons_iff.2 (hlands e he).above
  have hloads : Loads (nextLines (setLines (accepted body.updates) (readLines file))) := by
    intro k v hv
    by_cases hk : k ∈ (accepted body.updates).map Prod.fst
    · obtain ⟨e, he, rfl⟩ := List.mem_map.1 hk
      rw [hfirst e he] at hv
      obtain rfl := Option.some.inj hv
      have hkey := hwritable.key e he
      exact ⟨hkey.ne_nil, fun hmem => (hkey.chars _ hmem).2.2.2.1 rfl, (hlands e he).noNul⟩
    · rw [(hvalues k).1 hk] at hv
      rcases hothers.loads with hbefore | hnone
      · exact hbefore k v (hothers.first k hk ▸ hv)
      · rw [hnone k hk] at hv
        cases hv
  refine faithful_iff.2 ⟨fun e he => ?_, fun k hk => ?_⟩
  · rw [item_readEnvMap, loadedValue_of_loads (hread ▸ hloads), hread]
    refine ⟨?_, hfirst e he⟩
    rw [(hvalues e.1).2 e.2 he]
    exact getLast?_append_cons_iff.2 (hlands e he).below
  · rw [item_readEnvMap, item_readEnvMap, loadedValue_of_loads (hread ▸ hloads), hread,
      (hvalues k).1 hk]
    refine ⟨hothers.last k hk, ?_⟩
    by_cases hbefore : Loads (readLines file)
    · rw [loadedValue_of_loads hbefore, hothers.first k hk]
    · rw [loadedValue_of_not_loads hbefore, hothers.loads.resolve_left hbefore k hk]
      rfl

/-- **The file says what was sent** exactly where each update that is made lands, and the other keys
are left alone. -/
theorem setConfig_faithful_iff (file : Option (List Char)) (body : ConfigUpdate) :
    Faithful file body ↔ accepted body.updates = [] ∨
      (∀ e ∈ accepted body.updates, Lands (readLines file) e) ∧
        Undisturbed (readLines file) ((accepted body.updates).map Prod.fst) := by
  by_cases hes : accepted body.updates = []
  · -- nothing is written
    refine iff_of_true ?_ (.inl hes)
    rw [faithful_iff, setConfig_eq, if_pos hes, hes]
    exact ⟨fun e he => (nomatch he), fun k _ => ⟨rfl, rfl⟩⟩
  · exact ⟨fun h => .inr (h.lands hes),
      fun h => faithful_of_lands hes (h.resolve_left hes).1 (h.resolve_left hes).2⟩

end

/-- An address with a line break, which nothing removes. -/
def injected : ConfigUpdate where
  updates := [("RTSP_URL".toList, "rtsp://a\nGATE_API_KEY=b".toList)]
  distinct := List.nodup_singleton _

/-- The address of a camera sets the key of the gate, which is not writable. -/
theorem line_break_injects : ¬ ∀ file body, Faithful file body := by
  intro h
  have hkept := ((h (some "GATE_API_KEY=a\n".toList) injected).kept "GATE_API_KEY".toList
    (by decide)).1
  exact absurd hkept (by decide)

end ParkingSystem.EnvFile
