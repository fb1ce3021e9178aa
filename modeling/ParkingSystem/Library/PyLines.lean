import ParkingSystem.Library.PyText

/-!
# Lines of a Text

`str.splitlines` and what is written for it: lines that hold no line break come back as they are.

- `splitlines` knows every line boundary of `str.splitlines`, and takes `\r\n` for one;
- `splitFirst` is `str.split(sep, 1)`, for a separator of one character that is in the text.
-/

namespace PyText

/-! ## Lines -/

/-- The line boundaries of `str.splitlines`. -/
def isLineBreak (c : Char) : Bool :=
  let n := c.toNat
  (10 ≤ n && n ≤ 13) || (28 ≤ n && n ≤ 30) || n == 0x85 || n == 0x2028 || n == 0x2029

/-- A text on one line. -/
def OneLine (l : List Char) : Prop := ∀ c ∈ l, isLineBreak c = false

/-- `str.splitlines`. -/
def splitlines : List Char → List (List Char)
  | [] => []
  | '\r' :: '\n' :: cs => [] :: splitlines cs
  | c :: cs =>
    if isLineBreak c then [] :: splitlines cs
    else match splitlines cs with
      | [] => [[c]]
      | l :: ls => (c :: l) :: ls

/-- `"\n".join(lines) + "\n"`. -/
def joinLines (lines : List (List Char)) : List Char := ['\n'].intercalate lines ++ ['\n']

theorem oneLine_nil : OneLine [] := List.forall_mem_nil _

theorem OneLine.subset {l l' : List Char} (h : OneLine l) (hsub : l' ⊆ l) : OneLine l' :=
  fun c hc => h c (hsub hc)

/-- **What a text is split into** are texts on one line. -/
theorem oneLine_of_mem_splitlines {t : List Char} : ∀ l ∈ splitlines t, OneLine l := by
  induction t using splitlines.induct with
  | case1 => simp [splitlines]
  | case2 cs ih =>
    rw [splitlines]
    exact List.forall_mem_cons.2 ⟨oneLine_nil, ih⟩
  | case3 c cs hpair hbreak ih =>
    rw [splitlines, if_pos hbreak]
    · exact List.forall_mem_cons.2 ⟨oneLine_nil, ih⟩
    · exact hpair
  | case4 c cs hpair hbreak hrest ih =>
    rw [splitlines, if_neg hbreak, hrest]
    · simpa [OneLine] using hbreak
    · exact hpair
  | case5 c cs hpair hbreak l ls hrest ih =>
    rw [splitlines, if_neg hbreak, hrest]
    · rw [hrest, List.forall_mem_cons] at ih
      exact List.forall_mem_cons.2 ⟨List.forall_mem_cons.2 ⟨by simpa using hbreak, ih.1⟩, ih.2⟩
    · exact hpair

/-- A character that is no line break stands before the first line of the rest. -/
theorem splitlines_cons {c : Char} (hc : isLineBreak c = false) (cs : List Char) :
    splitlines (c :: cs) = match splitlines cs with
      | [] => [[c]]
      | l :: ls => (c :: l) :: ls := by
  have hpair : ∀ rest, c = '\r' → cs = '\n' :: rest → False := by
    rintro rest rfl -
    exact absurd hc (by decide)
  rw [splitlines, if_neg (by simp [hc])]
  exact hpair

/-- A line that is ended is the first one. -/
theorem splitlines_append {l : List Char} (h : OneLine l) (t : List Char) :
    splitlines (l ++ '\n' :: t) = l :: splitlines t := by
  induction l with
  | nil =>
    have hpair : ∀ rest, '\n' = '\r' → t = '\n' :: rest → False := by
      rintro rest hcr
      exact absurd hcr (by decide)
    rw [List.nil_append, splitlines, if_pos (by decide)]
    exact hpair
  | cons c l ih =>
    rw [OneLine, List.forall_mem_cons] at h
    rw [List.cons_append, splitlines_cons h.1, ih h.2]

/-- **What is joined** is split into the same lines. -/
theorem splitlines_lines {lines : List (List Char)} (h : ∀ l ∈ lines, OneLine l) :
    splitlines (lines.flatMap (· ++ ['\n'])) = lines := by
  induction lines with
  | nil => rfl
  | cons l lines ih =>
    rw [List.forall_mem_cons] at h
    rw [List.flatMap_cons, List.append_assoc, List.singleton_append, splitlines_append h.1, ih h.2]

theorem joinLines_eq {lines : List (List Char)} (h : lines ≠ []) :
    joinLines lines = lines.flatMap (· ++ ['\n']) := by
  induction lines with
  | nil => exact absurd rfl h
  | cons l lines ih =>
    cases lines with
    | nil => simp [joinLines]
    | cons l' lines =>
      have hrest := ih (List.cons_ne_nil _ _)
      rw [joinLines] at hrest
      rw [joinLines, List.intercalate_cons_cons, List.append_assoc, hrest]
      rfl

/-! ## Parts of a line -/

/-- `text.split(sep, 1)`, where the separator is in the text. -/
def splitFirst (sep : Char) (cs : List Char) : List Char × List Char :=
  (cs.takeWhile (· ≠ sep), (cs.dropWhile (· ≠ sep)).drop 1)

theorem splitFirst_append {sep : Char} {k : List Char} (h : sep ∉ k) (v : List Char) :
    splitFirst sep (k ++ sep :: v) = (k, v) := by
  have hk : ∀ c ∈ k, decide (c ≠ sep) = true := fun c hc => by
    simpa using fun heq : c = sep => h (heq ▸ hc)
  rw [splitFirst, List.takeWhile_append_of_pos hk, List.dropWhile_append_of_pos hk]
  simp

/-- A text whose ends are no white space. -/
theorem strip_eq_self {cs : List Char} (hfirst : ∀ c ∈ cs.head?, isSpace c = false)
    (hlast : ∀ c ∈ cs.getLast?, isSpace c = false) : strip cs = cs := by
  have hdrop {ds : List Char} (h : ∀ c ∈ ds.head?, isSpace c = false) :
      ds.dropWhile isSpace = ds := by
    cases ds with
    | nil => rfl
    | cons d ds => rw [List.dropWhile_cons, h d rfl, if_neg (by decide)]
  rw [strip, hdrop hfirst, hdrop (by simpa using hlast), List.reverse_reverse]

theorem isSpace_of_isDigit {c : Char} (h : c.isDigit = true) : isSpace c = false := by
  have hlt : c.toNat < 58 := by
    rw [Char.isDigit, Bool.and_eq_true, decide_eq_true_eq, decide_eq_true_eq] at h
    exact Nat.lt_succ_of_le (UInt32.le_iff_toNat_le.1 h.2)
  exact forall_char_of_lt (p := fun c => c.isDigit = true → isSpace c = false) (by decide) hlt h

/-- Nothing is left of a blank text, and of no other. -/
theorem strip_eq_nil {cs : List Char} : strip cs = [] ↔ ∀ c ∈ cs, isSpace c = true := by
  rw [strip, List.reverse_eq_nil_iff, List.dropWhile_eq_nil_iff]
  constructor
  · intro h
    -- the first character that is not blank would be left
    have hdrop : cs.dropWhile isSpace = [] := by
      by_contra hne
      have hhead := List.head_dropWhile_not isSpace hne
      rw [h _ (List.mem_reverse.2 (List.head_mem hne))] at hhead
      cases hhead
    exact List.dropWhile_eq_nil_iff.1 hdrop
  · intro h c hc
    exact h c ((List.dropWhile_sublist _).subset (List.mem_reverse.1 hc))

/-- The ends of what is stripped are no white space. -/
theorem getLast_strip {cs : List Char} : ∀ c ∈ (strip cs).getLast?, isSpace c = false := by
  intro c hc
  have hnot := List.head?_dropWhile_not isSpace (cs.dropWhile isSpace).reverse
  rw [strip, List.getLast?_reverse] at hc
  rw [Option.mem_def.1 hc] at hnot
  simpa using hnot

end PyText
