import ParkingSystem.PlateOcr.Repair
import Mathlib.Tactic.Linarith

/-!
# Plates from Pieces

`assemble_from_pieces` joins what was read in several places to a plate: every choice of at most
four pieces, from right to left and from left to right, read as it is, forced to the form or
repaired. A step never loses a text, and adds plate texts only.
-/

namespace ParkingSystem.PlateText

open Plate PyText PyDict

/-! ## Choices -/

/-- `itertools.combinations(l, r)`, in its order. -/
def combinations {α : Type} : ℕ → List α → List (List α)
  | 0, _ => [[]]
  | _ + 1, [] => []
  | r + 1, a :: as => (combinations r as).map (a :: ·) ++ combinations (r + 1) as

section

variable {α : Type}

/-- The choices are the sublists of their length. -/
theorem mem_combinations {r : ℕ} {l c : List α} :
    c ∈ combinations r l ↔ c.Sublist l ∧ c.length = r := by
  induction l generalizing r c with
  | nil =>
    cases r with
    | zero => simp [combinations]
    | succ r =>
      rw [combinations, List.sublist_nil]
      constructor
      · intro h
        cases h
      · rintro ⟨rfl, h⟩
        cases h
  | cons a as ih =>
    cases r with
    | zero =>
      rw [combinations, List.mem_singleton]
      constructor
      · rintro rfl
        exact ⟨List.nil_sublist _, rfl⟩
      · rintro ⟨-, h⟩
        exact List.length_eq_zero_iff.1 h
    | succ r =>
      rw [combinations, List.mem_append, List.mem_map, ih]
      constructor
      · rintro (⟨c, hc, rfl⟩ | ⟨hsub, hlength⟩)
        · obtain ⟨hsub, hlength⟩ := ih.1 hc
          exact ⟨hsub.cons_cons a, by rw [List.length_cons, hlength]⟩
        · exact ⟨hsub.cons a, hlength⟩
      · rintro ⟨hsub, hlength⟩
        cases hsub with
        | cons _ hsub => exact .inr ⟨hsub, hlength⟩
        | cons_cons _ hsub => exact .inl ⟨_, ih.2 ⟨hsub, by simpa using hlength⟩, rfl⟩

/-- What is chosen from a sorted list, each with a key of its own, stands in its order. -/
theorem sublist_of_pairwise_lt {key : α → ℚ} {c l : List α}
    (hc : c.Pairwise fun a b => key a < key b) (hl : l.Pairwise fun a b => key a ≤ key b)
    (hsub : c ⊆ l) : c.Sublist l := by
  induction l generalizing c with
  | nil => rw [List.subset_nil.1 hsub]
  | cons a as ih =>
    rw [List.pairwise_cons] at hl
    cases c with
    | nil => exact List.nil_sublist _
    | cons b bs =>
      have hbs := List.pairwise_cons.1 hc
      -- what comes after `b` has a higher key than the first of the list
      have hrest (hle : key a ≤ key b) : bs ⊆ as := by
        intro d hd
        rcases List.mem_cons.1 (hsub (List.mem_cons_of_mem b hd)) with rfl | hmem
        · exact absurd (hbs.1 d hd) (not_lt.2 hle)
        · exact hmem
      rcases List.mem_cons.1 (hsub List.mem_cons_self) with rfl | hmem
      · exact (ih hbs.2 hl.2 (hrest le_rfl)).cons_cons b
      · refine (ih hc hl.2 fun d hd => ?_).cons a
        rcases List.mem_cons.1 hd with rfl | hd
        · exact hmem
        · exact hrest (hl.1 b hmem) hd

end

/-! ## The form -/

/-- A character of `enforce_format`. -/
def enforceChar (i : ℕ) (c : Char) : Char :=
  if i = 2 then if isLetter c then c else (visLetters c).headD 'ب'
  else if isDigitChar c then c else '0'

/-- `enforce_format`. -/
def enforceFormat (text : List Char) : List Char :=
  let t := normalize text
  if t.length ≠ 6 ∧ t.length ≠ 8 then t else t.mapIdx enforceChar

/-! ## The table of the assembler -/

/-- A piece of a plate: where it stands, what was read, and how surely. -/
structure Piece where
  x : ℚ
  text : List Char
  conf : ℚ

/-- The texts with their scores, and those that were forced to the form. -/
structure Assembly where
  out : List (List Char × ℚ) := []
  enforced : List (List Char) := []

/-- `round(q, 4)`. -/
def round4 (q : ℚ) : ℚ := roundHalfEven (q * 10000) / 10000

/-- `if n not in out or out[n] < score: out[n] = round(min(0.99, score), 4)`. -/
def record (n : List Char) (score : ℚ) (out : List (List Char × ℚ)) : List (List Char × ℚ) :=
  alter n (fun old => match old with
    | some v => if v < score then round4 (min (99 / 100) score) else v
    | none => round4 (min (99 / 100) score)) out

/-- One text of a choice of `r` pieces that reads `s`. -/
def assembleText (s : List Char) (r : ℕ) (minConf : ℚ) (st : Assembly) (s2 : List Char) :
    Assembly :=
  let (n, valid) := validate s2
  if !valid then st
  else
    let score := minConf * (1 + 6 / 100 * (r - 1))
    let score := if n.length = 8 then score + 1 / 10 else score
    let enforced := if s2 ≠ s then n :: st.enforced else st.enforced
    let score := if s2 ≠ s then score * (8 / 10) else score
    let score := if r = 1 then score * (85 / 100) else score
    { out := record n score st.out, enforced := enforced }

/-- One repair of a choice of `r` pieces. -/
def assembleRepair (r : ℕ) (minConf : ℚ) (st : Assembly) (fixed : List Char × ℚ) : Assembly :=
  let (n2, valid2) := validate fixed.1
  if !valid2 then st
  else
    let score2 := minConf * (1 + 6 / 100 * (r - 1)) * (75 / 100) * fixed.2
    { st with out := record n2 score2 st.out }

/-- `{s, enforce_format(s)} if len(s) in (6, 8) else {s}`. The set has no order, but one of two
texts is valid at most. -/
def spellings (s : List Char) : List (List Char) :=
  if (s.length = 6 ∨ s.length = 8) ∧ enforceFormat s ≠ s then [s, enforceFormat s] else [s]

/-- One choice, in one of its orders. -/
def assembleSeq (st : Assembly) (seq : List Piece) : Assembly :=
  let s := seq.flatMap Piece.text
  if s.length < 6 ∨ 8 < s.length then st
  else
    let r := seq.length
    let minConf := (seq.map Piece.conf).min?.getD 0
    let st := (spellings s).foldl (assembleText s r minConf) st
    if s.length = 7 then (repairCandidates s).foldl (assembleRepair r minConf) st else st

/-- The pieces with something to read, from left to right. -/
def tokens (pieces : List Piece) : List Piece :=
  ((pieces.map fun p => { p with text := normalize p.text }).filter
    fun p => !p.text.isEmpty).insertionSort fun a b => a.x ≤ b.x

/-- The choices of at most four pieces, each from right to left and from left to right. -/
def sequences (toks : List Piece) : List (List Piece) :=
  (List.range (min 4 toks.length)).flatMap fun k =>
    (combinations (k + 1) toks).flatMap fun combo => [combo.reverse, combo]

/-- A forced text with another letter. -/
def alternative (base : List Char × ℚ) (out : List (List Char × ℚ)) (letter : Char) :
    List (List Char × ℚ) :=
  if base.1[2]? = some letter then out
  else
    let alt := base.1.take 2 ++ letter :: base.1.drop 3
    if (validate alt).2 && (item alt out).isNone then
      alter alt (fun _ => round4 (base.2 * (70 / 100))) out
    else out

/-- The other letters of the texts that were forced to the form. -/
def alternatives (st : Assembly) : List (List Char × ℚ) :=
  st.out.foldl (fun out base =>
    if !st.enforced.contains base.1 ∨ base.1.length ≠ 6 ∧ base.1.length ≠ 8 then out
    else (priorLetters.take 4).foldl (alternative base) out) st.out

/-- `assemble_from_pieces`. -/
def assembleFromPieces (pieces : List Piece) : List (List Char × ℚ) :=
  let toks := tokens pieces
  if toks.isEmpty then [] else ranked (alternatives ((sequences toks).foldl assembleSeq {}))

/-! ## What is forced to the form -/

section

variable {c : Char} {i : ℕ}

theorem enforceChar_digit (hi : i ≠ 2) (hc : isDigit c = true) : enforceChar i c = c := by
  rw [enforceChar, if_neg hi, isDigitChar, hc, Bool.true_or, if_pos rfl]

theorem enforceChar_letter (hc : isLetter c = true) : enforceChar 2 c = c := by
  rw [enforceChar, if_pos rfl, if_pos hc]

/-- Where a digit belongs stands a digit. -/
theorem isDigit_enforceChar (hi : i ≠ 2) (hc : PlateChar c) : isDigit (enforceChar i c) = true := by
  rw [enforceChar, if_neg hi, isDigitChar_of_plateChar hc]
  split
  · assumption
  · decide

/-- Where the letter belongs stands a letter. -/
theorem isLetter_enforceChar (c : Char) : isLetter (enforceChar 2 c) = true := by
  rw [enforceChar, if_pos rfl]
  split
  · assumption
  · cases hvis : visLetters c with
    | nil => decide
    | cons l ls => exact isLetter_visLetters (hvis ▸ List.mem_cons_self)

theorem normal_enforceChar (hc : PlateChar c ∧ digitTrans c = c) :
    PlateChar (enforceChar i c) ∧ digitTrans (enforceChar i c) = enforceChar i c := by
  by_cases hi : i = 2
  · subst hi
    exact normal_letter (isLetter_enforceChar c)
  · rw [enforceChar, if_neg hi]
    split
    · exact hc
    · exact ⟨.inl (by decide), by decide⟩

end

/-- A text of six characters, or of eight. -/
theorem cases_six_eight {t : List Char} (h : t.length = 6 ∨ t.length = 8) :
    (∃ a b l x y z, t = [a, b, l, x, y, z]) ∨ ∃ a b l x y z d e, t = [a, b, l, x, y, z, d, e] := by
  rcases h with hsix | height
  · match t, hsix with
    | [a, b, l, x, y, z], _ => exact .inl ⟨a, b, l, x, y, z, rfl⟩
  · match t, height with
    | [a, b, l, x, y, z, d, e], _ => exact .inr ⟨a, b, l, x, y, z, d, e, rfl⟩

/-- A plate text has six characters, or eight. -/
theorem length_of_plateRe {t : List Char} (h : Normal t) (hplate : plateRe t = true) :
    t.length = 6 ∨ t.length = 8 := by
  obtain ⟨p, rfl⟩ := OcrPlate.exists_plate (fun c hc => (h c hc).1) hplate
  have hthree := p.three_length
  rcases p.province_length with hnone | hsome <;> simp [OcrPlate.text, p.two_length, *]

/-- **What is forced** has the form of a plate. -/
theorem plateRe_enforced {t : List Char} (h : ∀ c ∈ t, PlateChar c)
    (hlength : t.length = 6 ∨ t.length = 8) : plateRe (t.mapIdx enforceChar) = true := by
  have hdigit (i : ℕ) (hi : i ≠ 2) (c : Char) (hc : c ∈ t) : isDigit (enforceChar i c) = true :=
    isDigit_enforceChar hi (h c hc)
  rcases cases_six_eight hlength with ⟨a, b, l, x, y, z, rfl⟩ | ⟨a, b, l, x, y, z, d, e, rfl⟩
  · let p : OcrPlate := {
      two := [enforceChar 0 a, enforceChar 1 b]
      letter := enforceChar 2 l
      three := [enforceChar 3 x, enforceChar 4 y, enforceChar 5 z]
      province := []
      digits := by simp [hdigit]
      official := isLetter_enforceChar l
      two_length := rfl
      three_length := rfl
      province_length := .inl rfl }
    exact p.plateRe_text
  · let p : OcrPlate := {
      two := [enforceChar 0 a, enforceChar 1 b]
      letter := enforceChar 2 l
      three := [enforceChar 3 x, enforceChar 4 y, enforceChar 5 z]
      province := [enforceChar 6 d, enforceChar 7 e]
      digits := by simp [hdigit]
      official := isLetter_enforceChar l
      two_length := rfl
      three_length := rfl
      province_length := .inr rfl }
    exact p.plateRe_text

/-- A plate text is left as it is. -/
theorem enforced_text (p : OcrPlate) : p.text.mapIdx enforceChar = p.text := by
  obtain ⟨a, b, htwo⟩ := List.length_eq_two.1 p.two_length
  obtain ⟨x, y, z, hthree⟩ := List.length_eq_three.1 p.three_length
  have hdigit (i : ℕ) (hi : i ≠ 2) (c : Char) (hc : c ∈ p.two ++ (p.three ++ p.province)) :
      enforceChar i c = c := enforceChar_digit hi (p.digits c hc)
  rw [htwo, hthree] at hdigit
  rcases p.province_cases with hnone | ⟨d, e, hsome, -, -⟩
  · simp [OcrPlate.text, htwo, hthree, hnone, enforceChar_letter p.official, hdigit]
  · simp [OcrPlate.text, htwo, hthree, hsome, enforceChar_letter p.official, hdigit]

theorem normal_enforced {t : List Char} (h : Normal t) : Normal (t.mapIdx enforceChar) := by
  intro c hc
  obtain ⟨i, hi, rfl⟩ := List.mem_mapIdx.1 hc
  exact normal_enforceChar (h _ (List.getElem_mem hi))

/-- What is forced is valid. -/
theorem validate_enforceFormat {text : List Char}
    (h : (normalize text).length = 6 ∨ (normalize text).length = 8) :
    (validate (enforceFormat text)).2 = true := by
  have hnormal := normal_normalize text
  rw [validate, enforceFormat]
  dsimp only
  rw [if_neg (by omega), normalize_of_normal (normal_enforced hnormal)]
  exact plateRe_enforced (fun c hc => (hnormal c hc).1) h

/-- What is valid is not changed. -/
theorem enforceFormat_valid {text : List Char} (h : (validate text).2 = true) :
    enforceFormat text = normalize text := by
  obtain ⟨p, hp⟩ := OcrPlate.exists_plate (fun c hc => (normal_normalize text c hc).1) h
  rw [enforceFormat, ← hp]
  split
  · rfl
  · exact enforced_text p

/-! ## The table -/

/-- A row of the table: a plate text in normal form, with a score of at most 0.99. -/
structure Row (e : List Char × ℚ) : Prop where
  normal : Normal e.1
  form : plateRe e.1 = true
  le : e.2 ≤ 99 / 100

/-- **The invariant of the table**: its rows are plate texts, each once. -/
structure Table (out : List (List Char × ℚ)) : Prop where
  rows : ∀ e ∈ out, Row e
  distinct : (out.map Prod.fst).Nodup

/-- A step that loses no text. -/
structure Extends (out out' : List (List Char × ℚ)) : Prop where
  table : Table out'
  grows : ∀ u ∈ out.map Prod.fst, u ∈ out'.map Prod.fst

section

variable {out out' : List (List Char × ℚ)}

theorem table_nil : Table (Assembly.out {}) := ⟨by simp, List.nodup_nil⟩

theorem Table.refl (h : Table out) : Extends out out := ⟨h, fun _ hu => hu⟩

theorem Extends.trans {out'' : List (List Char × ℚ)} (h : Extends out out')
    (h' : Extends out' out'') : Extends out out'' :=
  ⟨h'.table, fun u hu => h'.grows u (h.grows u hu)⟩

/-- One entry of the table. -/
theorem Table.alter {n : List Char} {f : Option ℚ → ℚ} (h : Table out) (normal : Normal n)
    (form : plateRe n = true) (hnew : f none ≤ 99 / 100)
    (hold : ∀ v ≤ 99 / 100, f (some v) ≤ 99 / 100) :
    Extends out (alter n f out) ∧ n ∈ (alter n f out).map Prod.fst := by
  have hkeys (u : List Char) : u ∈ (PyDict.alter n f out).map Prod.fst ↔
      u ∈ out.map Prod.fst ∨ u = n := by
    rw [keys_alter]
    split
    · rename_i hmem
      exact ⟨.inl, fun h => h.elim id fun heq => heq ▸ hmem⟩
    · rw [List.mem_append, List.mem_singleton]
  have hrows : ∀ e ∈ groupInto id (fun _ => f) out [n], Row e :=
    forall_mem_groupInto h.rows (by simpa using ⟨normal, form, hnew⟩)
      (by simpa using fun v hv => ⟨normal, form, hold v hv.le⟩)
  exact ⟨⟨⟨hrows, nodup_alter h.distinct⟩, fun u hu => (hkeys u).2 (.inl hu)⟩,
    (hkeys n).2 (.inr rfl)⟩

theorem round4_le {q : ℚ} (h : q ≤ 99 / 100) : round4 q ≤ 99 / 100 := by
  have hround : roundHalfEven (q * 10000) ≤ 9900 := roundHalfEven_le (by push_cast; linarith)
  have hcast : (roundHalfEven (q * 10000) : ℚ) ≤ 9900 := by exact_mod_cast hround
  rw [round4]
  linarith

theorem record_spec {n : List Char} (score : ℚ) (h : Table out) (normal : Normal n)
    (form : plateRe n = true) :
    Extends out (record n score out) ∧ n ∈ (record n score out).map Prod.fst := by
  have hscore : round4 (min (99 / 100) score) ≤ 99 / 100 := round4_le (min_le_left _ _)
  refine h.alter normal form hscore fun v hv => ?_
  dsimp only
  split
  · exact hscore
  · exact hv

/-- **A run of steps** that lose no text loses no text. -/
theorem foldl_extends {σ ι : Type} {t : σ → List (List Char × ℚ)} {step : σ → ι → σ}
    (is : List ι) {st : σ} (h : Table (t st))
    (hstep : ∀ st, ∀ i ∈ is, Table (t st) → Extends (t st) (t (step st i))) :
    Extends (t st) (t (is.foldl step st)) := by
  induction is generalizing st with
  | nil => exact h.refl
  | cons i is ih =>
    have hfirst := hstep st i List.mem_cons_self h
    exact hfirst.trans (ih hfirst.table fun st j hj => hstep st j (List.mem_cons_of_mem i hj))

/-- What one step of a run adds is there at the end. -/
theorem mem_foldl {σ ι : Type} {t : σ → List (List Char × ℚ)} {step : σ → ι → σ}
    {is : List ι} {st : σ} (h : Table (t st))
    (hstep : ∀ st, ∀ i ∈ is, Table (t st) → Extends (t st) (t (step st i)))
    {i : ι} (hi : i ∈ is) {u : List Char}
    (hadds : ∀ st, Table (t st) → u ∈ (t (step st i)).map Prod.fst) :
    u ∈ (t (is.foldl step st)).map Prod.fst := by
  obtain ⟨before, after, rfl⟩ := List.append_of_mem hi
  rw [List.foldl_append, List.foldl_cons]
  have hbefore := foldl_extends before h fun st j hj => hstep st j (List.mem_append_left _ hj)
  have hthere := hstep _ i hi hbefore.table
  refine (foldl_extends after hthere.table fun st j hj =>
    hstep st j (List.mem_append_right _ (List.mem_cons_of_mem i hj))).grows u ?_
  exact hadds _ hbefore.table

end

/-! ## One choice -/

section

variable {st : Assembly}

/-- One text adds its normal form, if that is a plate text. -/
theorem assembleText_spec (s : List Char) (r : ℕ) (minConf : ℚ) (s2 : List Char)
    (h : Table st.out) : Extends st.out (assembleText s r minConf st s2).out ∧
      ((validate s2).2 = true →
        normalize s2 ∈ (assembleText s r minConf st s2).out.map Prod.fst) := by
  unfold assembleText
  dsimp only [validate]
  split
  · rename_i hnot
    exact ⟨h.refl, fun hvalid => by simp [hvalid] at hnot⟩
  · rename_i hvalid
    exact (record_spec _ h (normal_normalize s2) (by simpa using hvalid)).imp_right fun hadds _ =>
      hadds

theorem assembleRepair_extends (r : ℕ) (minConf : ℚ) (fixed : List Char × ℚ) (h : Table st.out) :
    Extends st.out (assembleRepair r minConf st fixed).out := by
  unfold assembleRepair
  dsimp only [validate]
  split
  · exact h.refl
  · rename_i hvalid
    exact (record_spec _ h (normal_normalize fixed.1) (by simpa using hvalid)).1

/-- The texts of a choice add what it reads, if that is a plate text. -/
theorem spellings_spec (s : List Char) (r : ℕ) (minConf : ℚ) (h : Table st.out) :
    Extends st.out ((spellings s).foldl (assembleText s r minConf) st).out ∧
      (Normal s → plateRe s = true →
        s ∈ ((spellings s).foldl (assembleText s r minConf) st).out.map Prod.fst) := by
  have hstep (st : Assembly) (s2 : List Char) (_ : s2 ∈ spellings s) (h : Table st.out) :=
    (assembleText_spec s r minConf s2 h).1
  refine ⟨foldl_extends _ h hstep, fun hnormal hplate => ?_⟩
  have hmem : s ∈ spellings s := by
    unfold spellings
    split <;> exact List.mem_cons_self
  refine mem_foldl h hstep hmem fun st hst => ?_
  have hadds := (assembleText_spec s r minConf s hst).2
  rw [validate, normalize_of_normal hnormal] at hadds
  exact hadds hplate

/-- **One choice** adds what it reads, if that is a plate text. -/
theorem assembleSeq_spec (seq : List Piece) (h : Table st.out) :
    Extends st.out (assembleSeq st seq).out ∧
      (Normal (seq.flatMap Piece.text) → plateRe (seq.flatMap Piece.text) = true →
        seq.flatMap Piece.text ∈ (assembleSeq st seq).out.map Prod.fst) := by
  unfold assembleSeq
  dsimp only
  split
  · rename_i hlength
    refine ⟨h.refl, fun hnormal hplate => ?_⟩
    have hcases := length_of_plateRe hnormal hplate
    omega
  · obtain ⟨htexts, hadds⟩ := spellings_spec (seq.flatMap Piece.text) seq.length
      ((seq.map Piece.conf).min?.getD 0) h
    split
    · have hrepairs := foldl_extends (repairCandidates (seq.flatMap Piece.text)) htexts.table
        fun st fixed _ hst => assembleRepair_extends seq.length
          ((seq.map Piece.conf).min?.getD 0) fixed hst
      exact ⟨htexts.trans hrepairs, fun hnormal hplate => hrepairs.grows _ (hadds hnormal hplate)⟩
    · exact ⟨htexts, hadds⟩

end

/-! ## Other letters -/

theorem alternative_extends {base : List Char × ℚ} {out : List (List Char × ℚ)} (letter : Char)
    (hbase : base.2 ≤ 99 / 100) (hnormal : Normal base.1) (hletter : isLetter letter = true)
    (h : Table out) : Extends out (alternative base out letter) := by
  have hsub : (base.1.take 2 ++ letter :: base.1.drop 3).Sublist
      (base.1.take 2 ++ letter :: base.1.drop 2) :=
    ((List.drop_sublist_drop_left base.1 (by omega)).cons_cons letter).append_left _
  have halt := (hnormal.insert (normal_letter hletter) 2).subset hsub.subset
  have hscore : round4 (base.2 * (70 / 100)) ≤ 99 / 100 := round4_le (by linarith)
  unfold alternative
  dsimp only
  split
  · exact h.refl
  · rw [validate, normalize_of_normal halt]
    split
    · rename_i hvalid
      exact (h.alter halt (Bool.and_eq_true_iff.1 hvalid).1 hscore fun _ _ => hscore).1
    · exact h.refl

theorem alternatives_extends {st : Assembly} (h : Table st.out) :
    Extends st.out (alternatives st) := by
  refine foldl_extends (t := id) st.out h fun out base hbase hout => ?_
  have hrow := h.rows base hbase
  dsimp only [id]
  split
  · exact hout.refl
  · refine foldl_extends (t := id) _ hout fun out letter hletter hout => ?_
    exact alternative_extends letter hrow.le hrow.normal
      (isLetter_priorLetters (List.mem_of_mem_take hletter)) hout

/-! ## Every choice -/

/-- What the assembler returns: distinct plate texts, by falling scores of at most 0.99. -/
structure SoundReadings (readings : List (List Char × ℚ)) : Prop where
  valid : ∀ e ∈ readings, validate e.1 = (e.1, true)
  distinct : (readings.map Prod.fst).Nodup
  falling : readings.Pairwise fun a b => b.2 ≤ a.2
  le : ∀ e ∈ readings, e.2 ≤ 99 / 100

/-- At most four of the pieces, from right to left, that read a plate. -/
structure ReadsPlate (pieces chosen : List Piece) : Prop where
  mem : chosen ⊆ pieces
  length : chosen.length ≤ 4
  order : chosen.Pairwise fun a b => b.x < a.x
  chars : ∀ c ∈ chosen.flatMap Piece.text, PlateChar c
  valid : (validate (chosen.flatMap Piece.text)).2 = true

/-- The table before the other letters, and after. -/
theorem assembled_spec (pieces : List Piece) :
    Table ((sequences (tokens pieces)).foldl assembleSeq {}).out ∧
      Extends ((sequences (tokens pieces)).foldl assembleSeq {}).out
        (alternatives ((sequences (tokens pieces)).foldl assembleSeq {})) := by
  have htable := (foldl_extends (t := Assembly.out) (sequences (tokens pieces)) table_nil
    fun st seq _ hst => (assembleSeq_spec seq hst).1).table
  exact ⟨htable, alternatives_extends htable⟩

/-- Without tokens there is no choice. -/
theorem assembleFromPieces_eq (pieces : List Piece) : assembleFromPieces pieces =
    ranked (alternatives ((sequences (tokens pieces)).foldl assembleSeq {})) := by
  unfold assembleFromPieces
  dsimp only
  split
  · rename_i hempty
    rw [List.isEmpty_iff.1 hempty]
    rfl
  · rfl

theorem assembleFromPieces_sound (pieces : List Piece) :
    SoundReadings (assembleFromPieces pieces) := by
  have htable := (assembled_spec pieces).2.table
  rw [assembleFromPieces_eq]
  exact {
    valid := fun e he => by
      have hrow := htable.rows e (mem_ranked.1 he)
      rw [validate, normalize_of_normal hrow.normal, hrow.form]
    distinct := ((perm_ranked _).map Prod.fst).nodup_iff.2 htable.distinct
    falling := pairwise_ranked _
    le := fun e he => (htable.rows e (mem_ranked.1 he)).le }

/-- The tokens are sorted by where they stand. -/
theorem pairwise_tokens (pieces : List Piece) :
    (tokens pieces).Pairwise fun a b => a.x ≤ b.x := by
  have : Std.Total fun a b : Piece => a.x ≤ b.x := ⟨fun a b => le_total a.x b.x⟩
  have : IsTrans Piece fun a b => a.x ≤ b.x := ⟨fun _ _ _ hab hbc => hab.trans hbc⟩
  exact List.pairwise_insertionSort _ _

/-- A choice of tokens is tried from right to left. -/
theorem reverse_mem_sequences {toks combo : List Piece} (hsub : combo.Sublist toks)
    (hpos : combo ≠ []) (hfour : combo.length ≤ 4) : combo.reverse ∈ sequences toks := by
  have hlength := hsub.length_le
  have hone := List.length_pos_iff.2 hpos
  refine List.mem_flatMap.2 ⟨combo.length - 1, List.mem_range.2 (by omega), ?_⟩
  refine List.mem_flatMap.2 ⟨combo, mem_combinations.2 ⟨hsub, by omega⟩, List.mem_cons_self⟩

/-- The choice, in the words of the tokens. -/
theorem ReadsPlate.tokens {pieces chosen : List Piece} (h : ReadsPlate pieces chosen) :
    ∃ seq ∈ sequences (tokens pieces),
      seq.flatMap Piece.text = normalize (chosen.flatMap Piece.text) := by
  let token (p : Piece) : Piece := { p with text := normalize p.text }
  let seq := (chosen.map token).filter fun p => !p.text.isEmpty
  have hpiece (p : Piece) (hp : p ∈ chosen) : normalize p.text = p.text.map digitTrans :=
    normalize_plateChars fun c hc => h.chars c (List.mem_flatMap.2 ⟨p, hp, hc⟩)
  have htext : seq.flatMap Piece.text = normalize (chosen.flatMap Piece.text) := by
    have hkeep (ps : List Piece) :
        (ps.filter fun p => !p.text.isEmpty).flatMap Piece.text = ps.flatMap Piece.text := by
      induction ps with
      | nil => rfl
      | cons p ps ih =>
        rw [List.filter_cons]
        split
        · rw [List.flatMap_cons, List.flatMap_cons, ih]
        · rename_i hempty
          have hnil : p.text = [] := by simpa using hempty
          rw [List.flatMap_cons, hnil, List.nil_append, ih]
    rw [hkeep, normalize_plateChars h.chars, List.map_flatMap, List.flatMap_map]
    exact List.flatMap_congr hpiece
  refine ⟨seq, ?_, htext⟩
  have hne : seq ≠ [] := by
    intro hnil
    have hvalid := h.valid
    rw [validate, ← htext, hnil] at hvalid
    cases hvalid
  have hsub : seq.reverse ⊆ PlateText.tokens pieces := by
    intro p hp
    have hp := List.mem_filter.1 (List.mem_reverse.1 hp)
    obtain ⟨q, hq, rfl⟩ := List.mem_map.1 hp.1
    exact (List.mem_insertionSort _).2
      (List.mem_filter.2 ⟨List.mem_map_of_mem (h.mem hq), hp.2⟩)
  have horder : seq.reverse.Pairwise fun a b => a.x < b.x := by
    rw [List.pairwise_reverse]
    refine List.Pairwise.filter _ ?_
    rw [List.pairwise_map]
    exact h.order
  have hlength : seq.length ≤ 4 := by
    refine (List.length_filter_le _ _).trans ?_
    rw [List.length_map]
    exact h.length
  have hmem := reverse_mem_sequences (sublist_of_pairwise_lt horder (pairwise_tokens pieces) hsub)
    (by simpa using hne) (by simpa using hlength)
  rwa [List.reverse_reverse] at hmem

/-- **No reading of a plate is lost.** -/
theorem ReadsPlate.mem_assembleFromPieces {pieces chosen : List Piece}
    (h : ReadsPlate pieces chosen) :
    normalize (chosen.flatMap Piece.text) ∈ (assembleFromPieces pieces).map Prod.fst := by
  obtain ⟨seq, hseq, htext⟩ := h.tokens
  have hadds : normalize (chosen.flatMap Piece.text) ∈
      ((sequences (PlateText.tokens pieces)).foldl assembleSeq {}).out.map Prod.fst := by
    refine mem_foldl (t := Assembly.out) table_nil
      (fun st seq _ hst => (assembleSeq_spec seq hst).1) hseq fun st hst => ?_
    have hreads := (assembleSeq_spec seq hst).2
    rw [htext] at hreads
    exact hreads (normal_normalize _) h.valid
  rw [assembleFromPieces_eq, (perm_ranked _).map Prod.fst |>.mem_iff]
  exact (assembled_spec pieces).2.grows _ hadds

/-- **The assembler** returns distinct plate texts by falling scores, and every plate that at most
four pieces read from right to left is among them. What has the length of a plate can be forced to
its form, and a plate text is left as it is. -/
theorem assembleFromPieces_spec :
    (∀ pieces, SoundReadings (assembleFromPieces pieces) ∧
      ∀ chosen, ReadsPlate pieces chosen →
        normalize (chosen.flatMap Piece.text) ∈ (assembleFromPieces pieces).map Prod.fst ∧
          (Normal (chosen.flatMap Piece.text) →
            chosen.flatMap Piece.text ∈ (assembleFromPieces pieces).map Prod.fst)) ∧
    ∀ text, ((normalize text).length = 6 ∨ (normalize text).length = 8 →
        (validate (enforceFormat text)).2 = true) ∧
      ((validate text).2 = true → enforceFormat text = normalize text) := by
  refine ⟨fun pieces => ⟨assembleFromPieces_sound pieces, fun chosen h => ?_⟩, fun text =>
    ⟨validate_enforceFormat, enforceFormat_valid⟩⟩
  refine ⟨h.mem_assembleFromPieces, fun hnormal => ?_⟩
  have hmem := h.mem_assembleFromPieces
  rwa [normalize_of_normal hnormal] at hmem

/-- The pieces of a plate, from left to right. -/
def platePieces : List Piece :=
  [⟨10, "118".toList, 9 / 10⟩, ⟨20, "ب".toList, 7 / 10⟩, ⟨30, "13".toList, 4 / 5⟩]

theorem assembleFromPieces_spec_pieces :
    "13ب118".toList ∈ (assembleFromPieces platePieces).map Prod.fst := by
  have hsame : normalize "13ب118".toList = "13ب118".toList := by decide
  have hnormal : Normal "13ب118".toList := hsame ▸ normal_normalize _
  have hreads : ReadsPlate platePieces platePieces.reverse := {
    mem := fun _ h => List.mem_reverse.1 h
    length := by decide
    order := by norm_num [platePieces]
    chars := fun c hc => (hnormal c hc).1
    valid := by decide }
  exact ((assembleFromPieces_spec.1 platePieces).2 _ hreads).2 hnormal

end ParkingSystem.PlateText
