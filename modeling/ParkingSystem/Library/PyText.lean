import Mathlib.Algebra.BigOperators.Group.List.Basic
import Mathlib.Algebra.Order.Field.Rat
import Mathlib.Data.Int.Notation
import Mathlib.Data.List.TakeWhile

/-!
# Python Text

The parts of Python's `str`, `re`, `int` and `float` that decide how a text is read, over
lists of characters.

- `isSpace` is `str.isspace`, which is also the class `\s`;
- `digitValue` knows the decimal digits (category Nd, Unicode 14), which are the class `\d`
  and what `int` and `float` accept;
- `upper` is `str.upper` up to characters whose upper case has no ASCII character in it:
  these are left as they are.
-/

namespace PyText

/-! ## Characters -/

/-- `str.isspace`. -/
def isSpace (c : Char) : Bool :=
  let n := c.toNat
  (9 ≤ n && n ≤ 13) || (28 ≤ n && n ≤ 32) || n == 0x85 || n == 0xA0 || n == 0x1680 ||
    (0x2000 ≤ n && n ≤ 0x200A) || n == 0x2028 || n == 0x2029 || n == 0x202F || n == 0x205F ||
    n == 0x3000

/-- The zeros of the decimal digit blocks. -/
def digitZeros : List ℕ :=
  [0x30, 0x660, 0x6F0, 0x7C0, 0x966, 0x9E6, 0xA66, 0xAE6, 0xB66, 0xBE6, 0xC66, 0xCE6, 0xD66,
    0xDE6, 0xE50, 0xED0, 0xF20, 0x1040, 0x1090, 0x17E0, 0x1810, 0x1946, 0x19D0, 0x1A80, 0x1A90,
    0x1B50, 0x1BB0, 0x1C40, 0x1C50, 0xA620, 0xA8D0, 0xA900, 0xA9D0, 0xA9F0, 0xAA50, 0xABF0,
    0xFF10, 0x104A0, 0x10D30, 0x11066, 0x110F0, 0x11136, 0x111D0, 0x112F0, 0x11450, 0x114D0,
    0x11650, 0x116C0, 0x11730, 0x118E0, 0x11950, 0x11C50, 0x11D50, 0x11DA0, 0x16A60, 0x16AC0,
    0x16B50, 0x1D7CE, 0x1D7D8, 0x1D7E2, 0x1D7EC, 0x1D7F6, 0x1E140, 0x1E2F0, 0x1E950, 0x1FBF0]

/-- The value of a decimal digit. -/
def digitValue (c : Char) : Option ℕ :=
  (digitZeros.find? fun z => z ≤ c.toNat && c.toNat < z + 10).map fun z => c.toNat - z

/-- The class `\d`. -/
def isDigit (c : Char) : Bool := (digitValue c).isSome

/-- The digits that `str.isdigit` accepts and `int` does not. -/
def isOtherDigit (c : Char) : Bool :=
  let n := c.toNat
  n == 0xB2 || n == 0xB3 || n == 0xB9 || (0x1369 ≤ n && n ≤ 0x1371) || n == 0x19DA || n == 0x2070 ||
    (0x2074 ≤ n && n ≤ 0x2079) || (0x2080 ≤ n && n ≤ 0x2089) || (0x2460 ≤ n && n ≤ 0x2468) ||
    (0x2474 ≤ n && n ≤ 0x247C) || (0x2488 ≤ n && n ≤ 0x2490) || n == 0x24EA ||
    (0x24F5 ≤ n && n ≤ 0x24FD) || n == 0x24FF || (0x2776 ≤ n && n ≤ 0x277E) ||
    (0x2780 ≤ n && n ≤ 0x2788) || (0x278A ≤ n && n ≤ 0x2792) || (0x10A40 ≤ n && n ≤ 0x10A43) ||
    (0x10E60 ≤ n && n ≤ 0x10E68) || (0x11052 ≤ n && n ≤ 0x1105A) || (0x1F100 ≤ n && n ≤ 0x1F10A)

/-- The upper case of one character, where it has an ASCII character in it. -/
def upperChar (c : Char) : List Char :=
  if c.isLower then [c.toUpper]
  else match c.toNat with
    | 0xDF => ['S', 'S']
    | 0x131 => ['I']
    | 0x149 => [Char.ofNat 0x2BC, 'N']
    | 0x17F => ['S']
    | 0x1F0 => ['J', Char.ofNat 0x30C]
    | 0x1E96 => ['H', Char.ofNat 0x331]
    | 0x1E97 => ['T', Char.ofNat 0x308]
    | 0x1E98 => ['W', Char.ofNat 0x30A]
    | 0x1E99 => ['Y', Char.ofNat 0x30A]
    | 0x1E9A => ['A', Char.ofNat 0x2BE]
    | 0xFB00 => ['F', 'F']
    | 0xFB01 => ['F', 'I']
    | 0xFB02 => ['F', 'L']
    | 0xFB03 => ['F', 'F', 'I']
    | 0xFB04 => ['F', 'F', 'L']
    | 0xFB05 => ['S', 'T']
    | 0xFB06 => ['S', 'T']
    | _ => [c]

/-- What is checked of the characters up to a bound. -/
theorem forall_char_of_lt {p : Char → Prop} {n : ℕ} (h : ∀ k < n, p (Char.ofNat k)) {c : Char}
    (hc : c.toNat < n) : p c := by
  have hself := h c.toNat hc
  rwa [Char.ofNat_toNat] at hself

/-- What is decided of each character of a text, and not of every character there is. -/
theorem forall_mem_of_all {p : Char → Prop} [DecidablePred p] {text : List Char}
    (h : text.all (fun c => decide (p c)) = true) : ∀ c ∈ text, p c :=
  fun c hc => of_decide_eq_true (List.all_eq_true.1 h c hc)

/-! ## Strings -/

/-- `str.upper`. -/
def upper (cs : List Char) : List Char := cs.flatMap upperChar

/-- `str.upper` on strings. -/
def upperString (s : String) : String := String.ofList (upper s.toList)

/-- `str.strip`. -/
def strip (cs : List Char) : List Char :=
  ((cs.dropWhile isSpace).reverse.dropWhile isSpace).reverse

/-- `str.replace`, from left to right; `skip` characters of a replaced occurrence are still
to be dropped. -/
def replaceFrom (pat rep : List Char) : ℕ → List Char → List Char
  | _, [] => []
  | skip + 1, _ :: cs => replaceFrom pat rep skip cs
  | 0, c :: cs =>
    if pat.isPrefixOf (c :: cs) then rep ++ replaceFrom pat rep (pat.length - 1) cs
    else c :: replaceFrom pat rep 0 cs

/-- `str.replace` for a non-empty pattern. -/
def replace (pat rep cs : List Char) : List Char := replaceFrom pat rep 0 cs

theorem replaceFrom_append (pat rep w rest : List Char) :
    replaceFrom pat rep w.length (w ++ rest) = replace pat rep rest := by
  induction w with
  | nil => rfl
  | cons c w ih => exact ih

/-- An occurrence at the start is replaced. -/
theorem replace_append {pat : List Char} (hpat : pat ≠ []) (rep rest : List Char) :
    replace pat rep (pat ++ rest) = rep ++ replace pat rep rest := by
  cases pat with
  | nil => exact absurd rfl hpat
  | cons p ps =>
    have hstarts : (p :: ps).isPrefixOf (p :: (ps ++ rest)) = true :=
      List.isPrefixOf_iff_prefix.2 ⟨rest, rfl⟩
    rw [replace, List.cons_append, replaceFrom, if_pos hstarts]
    exact congrArg (rep ++ ·) (replaceFrom_append _ _ ps rest)

/-- Where no occurrence starts, a character stays. -/
theorem replace_cons {pat : List Char} {c : Char} {cs : List Char} (rep : List Char)
    (h : ¬ pat <+: c :: cs) : replace pat rep (c :: cs) = c :: replace pat rep cs := by
  rw [replace, replaceFrom, if_neg fun hstarts => h (List.isPrefixOf_iff_prefix.1 hstarts)]
  rfl

/-- Induction along a replacement: an occurrence at the start, or a character that stays. -/
theorem replace_induction {pat : List Char} (hpat : pat ≠ []) {P : List Char → Prop}
    (nil : P []) (found : ∀ rest, P rest → P (pat ++ rest))
    (kept : ∀ c cs, ¬ pat <+: c :: cs → P cs → P (c :: cs)) (text : List Char) : P text := by
  induction hlen : text.length using Nat.strong_induction_on generalizing text with
  | _ n ih =>
    cases text with
    | nil => exact nil
    | cons c cs =>
      by_cases hstarts : pat <+: c :: cs
      · obtain ⟨rest, hrest⟩ := hstarts
        have hpos := List.length_pos_iff.2 hpat
        have hshort : rest.length < n := by
          rw [← hlen, ← hrest, List.length_append]
          omega
        rw [← hrest]
        exact found rest (ih rest.length hshort rest rfl)
      · exact kept c cs hstarts (ih cs.length (by simp [← hlen]) cs rfl)

/-- Characters that are not in the pattern survive its replacement. -/
theorem mem_replace {pat : List Char} (hpat : pat ≠ []) {c : Char} (hc : c ∉ pat)
    (rep : List Char) {text : List Char} (h : c ∈ text) : c ∈ replace pat rep text := by
  induction text using replace_induction hpat with
  | nil => exact h
  | found rest ih =>
    rw [replace_append hpat]
    exact List.mem_append_right _ (ih ((List.mem_append.1 h).resolve_left hc))
  | kept d cs hstarts ih =>
    rw [replace_cons rep hstarts]
    rcases List.mem_cons.1 h with rfl | hmem
    · exact List.mem_cons_self
    · exact List.mem_cons_of_mem _ (ih hmem)

/-- A translation that keeps the characters of a replacement apart from the others commutes
with it. -/
theorem replace_map {pat : List Char} (hpat : pat ≠ []) {rep : List Char} {f : Char → Char}
    (hf : ∀ p ∈ pat, ∀ c, f c = p ↔ c = p) (hrep : ∀ c ∈ rep, f c = c) (text : List Char) :
    replace pat rep (text.map f) = (replace pat rep text).map f := by
  have hfix (cs : List Char) (hcs : ∀ c ∈ cs, f c = c) : cs.map f = cs := by
    simpa using List.map_congr_left hcs
  have hstarts (cs : List Char) : pat <+: cs.map f ↔ pat <+: cs := by
    clear hpat hrep hfix
    induction pat generalizing cs with
    | nil => simp
    | cons p ps ih =>
      cases cs with
      | nil => simp
      | cons c cs =>
        rw [List.map_cons, List.cons_prefix_cons, List.cons_prefix_cons, eq_comm,
          hf p List.mem_cons_self c, ih (fun q hq => hf q (List.mem_cons_of_mem _ hq)), eq_comm]
  induction text using replace_induction hpat with
  | nil => rfl
  | found rest ih =>
    rw [List.map_append, hfix pat fun p hp => (hf p hp p).2 rfl, replace_append hpat,
      replace_append hpat, List.map_append, hfix rep hrep, ih]
  | kept c cs hc ih =>
    rw [List.map_cons, replace_cons rep (fun h => hc ((hstarts (c :: cs)).1 h)),
      replace_cons rep hc, List.map_cons, ih]

/-- A character that is not in the pattern keeps the replacements on its two sides apart. -/
theorem replace_separated {pat : List Char} (hpat : pat ≠ []) (rep : List Char) {d : Char}
    (hd : d ∉ pat) (cs rest : List Char) :
    replace pat rep (cs ++ d :: rest) = replace pat rep cs ++ d :: replace pat rep rest := by
  induction cs using replace_induction hpat with
  | nil =>
    refine replace_cons rep fun hstarts => ?_
    obtain ⟨p, ps, rfl⟩ := List.exists_cons_of_ne_nil hpat
    exact hd ((List.cons_prefix_cons.1 hstarts).1 ▸ List.mem_cons_self)
  | found after ih =>
    rw [List.append_assoc, replace_append hpat, replace_append hpat, ih, List.append_assoc]
  | kept c cs hstarts ih =>
    -- an occurrence that starts here would reach over the character
    have hnot : ¬ pat <+: c :: (cs ++ d :: rest) := by
      intro hlong
      rcases List.prefix_or_prefix_of_prefix hlong (List.prefix_append (c :: cs) (d :: rest)) with
        hshort | ⟨more, hmore⟩
      · exact hstarts hshort
      · rw [← hmore, ← List.cons_append, List.prefix_append_right_inj] at hlong
        cases more with
        | nil =>
          rw [List.append_nil] at hmore
          exact hstarts (hmore ▸ List.prefix_refl _)
        | cons o more =>
          obtain rfl := (List.cons_prefix_cons.1 hlong).1
          exact hd (hmore ▸ List.mem_append_right _ List.mem_cons_self)
    rw [List.cons_append, replace_cons rep hnot, ih, replace_cons rep hstarts]
    rfl

theorem length_replace_le {pat : List Char} (hpat : pat ≠ []) {rep : List Char}
    (hrep : rep.length ≤ pat.length) (text : List Char) :
    (replace pat rep text).length ≤ text.length := by
  induction text using replace_induction hpat with
  | nil => exact le_rfl
  | found rest ih =>
    rw [replace_append hpat, List.length_append, List.length_append]
    omega
  | kept c cs hstarts ih =>
    rw [replace_cons rep hstarts, List.length_cons, List.length_cons]
    omega

/-- **A replacement by something shorter** changes exactly the texts with an occurrence. -/
theorem replace_eq_self_iff {pat : List Char} (hpat : pat ≠ []) {rep : List Char}
    (hrep : rep.length < pat.length) (text : List Char) :
    replace pat rep text = text ↔ ¬ pat <:+: text := by
  induction text using replace_induction hpat with
  | nil => exact iff_of_true rfl fun h => hpat (List.eq_nil_of_infix_nil h)
  | found rest ih =>
    refine iff_of_false (fun hsame => ?_) fun h => h (List.prefix_append pat rest).isInfix
    have hlength := length_replace_le hpat (Nat.le_of_lt hrep) rest
    have hlong := congrArg List.length hsame
    rw [replace_append hpat, List.length_append, List.length_append] at hlong
    omega
  | kept c cs hstarts ih =>
    rw [replace_cons rep hstarts, List.infix_cons_iff, or_iff_right hstarts, ← ih, List.cons.injEq,
      and_iff_right rfl]

/-- Where there is no occurrence, the text stays. -/
theorem replace_of_not_infix {pat : List Char} (hpat : pat ≠ []) (rep : List Char)
    {text : List Char} (h : ¬ pat <:+: text) : replace pat rep text = text := by
  induction text using replace_induction hpat with
  | nil => rfl
  | found rest ih => exact absurd (List.prefix_append pat rest).isInfix h
  | kept c cs hstarts ih =>
    rw [replace_cons rep hstarts, ih fun hin => h (hin.trans (List.suffix_cons c cs).isInfix)]

/-- A text that a replacement leaves, and that has no character of its own, was there before. -/
theorem prefix_of_prefix_replace {pat : List Char} (hpat : pat ≠ []) {d : Char}
    {q w text : List Char} (hd : d ∉ w) (h : w <+: replace pat (d :: q) text) : w <+: text := by
  induction text using replace_induction hpat generalizing w with
  | nil => exact h
  | found rest ih =>
    rw [replace_append hpat] at h
    cases w with
    | nil => exact List.nil_prefix
    | cons x w =>
      obtain rfl := (List.cons_prefix_cons.1 h).1
      exact absurd List.mem_cons_self hd
  | kept c cs hstarts ih =>
    rw [replace_cons _ hstarts] at h
    cases w with
    | nil => exact List.nil_prefix
    | cons x w =>
      rw [List.cons_prefix_cons] at h ⊢
      exact ⟨h.1, ih (fun hmem => hd (List.mem_cons_of_mem _ hmem)) h.2⟩

/-- **One pass is enough**: where the first character of the pattern is replaced by another, and
the pattern does not overlap itself, no occurrence is left. -/
theorem not_infix_replace {c d : Char} {q : List Char} (hd : d ∉ c :: q)
    (hover : ∀ w, w <:+ q → w ≠ [] → ¬ w <+: c :: q) (text : List Char) :
    ¬ (c :: q) <:+: replace (c :: q) (d :: q) text := by
  have hpat : c :: q ≠ [] := List.cons_ne_nil c q
  induction text using replace_induction hpat with
  | nil => exact fun h => hpat (List.eq_nil_of_infix_nil h)
  | found rest ih =>
    -- an occurrence would start in the rest of the pattern that stays
    have hwithin (w : List Char) (hw : w <:+ q) :
        ¬ (c :: q) <:+: w ++ replace (c :: q) (d :: q) rest := by
      induction w with
      | nil => exact ih
      | cons x w ihw =>
        rw [List.cons_append, List.infix_cons_iff, not_or]
        refine ⟨fun hstarts => ?_, ihw ((List.suffix_cons x w).trans hw)⟩
        have hshort : x :: w <+: c :: q := by
          refine List.prefix_of_prefix_length_le (List.prefix_append (x :: w) _) hstarts ?_
          exact (hw.length_le).trans (by simp)
        exact hover (x :: w) hw (List.cons_ne_nil x w) hshort
    rw [replace_append hpat, List.cons_append, List.infix_cons_iff, not_or]
    refine ⟨fun hstarts => ?_, hwithin q (List.suffix_refl q)⟩
    exact hd ((List.cons_prefix_cons.1 hstarts).1 ▸ List.mem_cons_self)
  | kept x cs hstarts ih =>
    rw [replace_cons _ hstarts, List.infix_cons_iff, not_or]
    refine ⟨fun hagain => hstarts ?_, ih⟩
    rw [List.cons_prefix_cons] at hagain ⊢
    exact ⟨hagain.1, prefix_of_prefix_replace hpat
      (fun hmem => hd (List.mem_cons_of_mem _ hmem)) hagain.2⟩

theorem mem_strip {c : Char} (hc : isSpace c = false) {cs : List Char} (h : c ∈ cs) :
    c ∈ strip cs := by
  have hdrop {ds : List Char} (hmem : c ∈ ds) : c ∈ ds.dropWhile isSpace := by
    rw [← List.takeWhile_append_dropWhile (p := isSpace) (l := ds), List.mem_append] at hmem
    refine hmem.resolve_left fun htake => ?_
    rw [List.mem_takeWhile_imp htake] at hc
    cases hc
  exact List.mem_reverse.2 (hdrop (List.mem_reverse.2 (hdrop h)))

theorem strip_subset {c : Char} {cs : List Char} (h : c ∈ strip cs) : c ∈ cs :=
  (List.dropWhile_sublist _).subset
    (List.mem_reverse.1 ((List.dropWhile_sublist _).subset (List.mem_reverse.1 h)))

theorem strip_isPrefix (cs : List Char) : strip cs <+: cs.dropWhile isSpace := by
  have hrev : (cs.dropWhile isSpace).reverse.dropWhile isSpace <:+
      (cs.dropWhile isSpace).reverse := List.dropWhile_suffix _
  simpa [strip] using List.reverse_prefix.2 hrev

theorem strip_isInfix (cs : List Char) : strip cs <:+: cs :=
  (strip_isPrefix cs).isInfix.trans (List.dropWhile_suffix isSpace).isInfix

/-- Stripping goes through what keeps white space and makes none. -/
theorem strip_flatMap {f : Char → List Char} (hspace : ∀ c, isSpace c = true → f c = [c])
    (hother : ∀ c, isSpace c = false → f c ≠ [] ∧ ∀ x ∈ f c, isSpace x = false)
    (cs : List Char) : strip (cs.flatMap f) = (strip cs).flatMap f := by
  have hdrop {g : Char → List Char} (hspace : ∀ c, isSpace c = true → g c = [c])
      (hother : ∀ c, isSpace c = false → g c ≠ [] ∧ ∀ x ∈ g c, isSpace x = false)
      (cs : List Char) : (cs.flatMap g).dropWhile isSpace = (cs.dropWhile isSpace).flatMap g := by
    induction cs with
    | nil => rfl
    | cons c cs ih =>
      rw [List.flatMap_cons]
      cases hc : isSpace c with
      | true => simp [hspace c hc, hc, ih]
      | false =>
        obtain ⟨hne, hall⟩ := hother c hc
        obtain ⟨x, xs, hx⟩ := List.exists_cons_of_ne_nil hne
        have hfirst : isSpace x = false := hall x (hx ▸ List.mem_cons_self)
        simp [hc, hx, hfirst]
  unfold strip
  rw [hdrop hspace hother, List.reverse_flatMap, hdrop (fun c hc => by simp [hspace c hc])
    (fun c hc => ⟨by simpa using (hother c hc).1, by simpa using (hother c hc).2⟩),
    List.reverse_flatMap]
  simp [Function.comp_def]

theorem dropWhile_isSpace_of_prefix {cs text : List Char} (h : cs <+: text.dropWhile isSpace) :
    cs.dropWhile isSpace = cs := by
  cases cs with
  | nil => rfl
  | cons c cs =>
    have hc : isSpace c = false := by
      have hhead : (text.dropWhile isSpace).head? = some c := by
        obtain ⟨rest, hrest⟩ := h
        rw [← hrest]
        rfl
      have hnot := List.head?_dropWhile_not isSpace text
      rw [hhead] at hnot
      simpa using hnot
    rw [List.dropWhile_cons, hc]
    rfl

@[simp] theorem strip_strip (cs : List Char) : strip (strip cs) = strip cs := by
  have hback : (strip cs).reverse.dropWhile isSpace = (strip cs).reverse := by
    rw [strip, List.reverse_reverse]
    exact dropWhile_isSpace_of_prefix (List.prefix_refl _)
  conv_lhs => rw [strip, dropWhile_isSpace_of_prefix (strip_isPrefix cs), hback, List.reverse_reverse]

theorem isLower_toNat {c : Char} (h : c.isLower = true) : 97 ≤ c.toNat ∧ c.toNat < 123 := by
  have hrange : (decide (c.val ≥ 97) && decide (c.val ≤ 122)) = true := h
  have hle : c.val ≤ 122 := of_decide_eq_true (Bool.and_eq_true_iff.1 hrange).2
  have hge : 97 ≤ c.val := of_decide_eq_true (Bool.and_eq_true_iff.1 hrange).1
  exact ⟨UInt32.le_iff_toNat_le.1 hge, Nat.lt_succ_of_le (UInt32.le_iff_toNat_le.1 hle)⟩

/-- White space is its own upper case, and the upper case of anything else is upper case without
white space. -/
theorem upperChar_spec (c : Char) : upperChar c ≠ [] ∧ (isSpace c = true → upperChar c = [c]) ∧
    (isSpace c = false → (upperChar c).all (fun x => !isSpace x) = true) ∧
    (upperChar c).all (fun x => upperChar x == [x]) = true := by
  by_cases hlower : c.isLower = true
  · have hall : ∀ n < 123, 97 ≤ n → isSpace (Char.ofNat n) = false ∧
        isSpace (Char.ofNat n).toUpper = false ∧
        upperChar (Char.ofNat n).toUpper = [(Char.ofNat n).toUpper] := by decide
    obtain ⟨hge, hlt⟩ := isLower_toNat hlower
    have hc := hall c.toNat hlt hge
    rw [Char.ofNat_toNat] at hc
    rw [upperChar, if_pos hlower]
    simp [hc]
  · have hself : upperChar c = [c] ∨ upperChar c ≠ [c] := em _
    rcases hself with hself | hexpands
    · simp [hself]
    · unfold upperChar at hexpands
      rw [if_neg hlower] at hexpands
      split at hexpands
      case h_18 => exact absurd rfl hexpands
      all_goals
        rename_i hc
        have hchar := congrArg Char.ofNat hc
        rw [Char.ofNat_toNat] at hchar
        rw [hchar]
        decide

theorem upper_upper (cs : List Char) : upper (upper cs) = upper cs := by
  unfold upper
  rw [List.flatMap_assoc]
  refine List.flatMap_congr fun c _ => ?_
  have hall := (upperChar_spec c).2.2.2
  have hsingle (ds : List Char) (h : ds.all (fun x => upperChar x == [x]) = true) :
      ds.flatMap upperChar = ds := by
    induction ds with
    | nil => rfl
    | cons d ds ih =>
      rw [List.all_cons, Bool.and_eq_true, beq_iff_eq] at h
      rw [List.flatMap_cons, h.1, ih h.2, List.singleton_append]
  exact hsingle _ hall

theorem strip_upper (cs : List Char) : strip (upper cs) = upper (strip cs) :=
  strip_flatMap (fun c => (upperChar_spec c).2.1)
    (fun c hc => ⟨(upperChar_spec c).1, fun x hx => by
      simpa using List.all_eq_true.1 ((upperChar_spec c).2.2.1 hc) x hx⟩) cs

/-- `str.split` at one character. -/
def split (sep : Char) : List Char → List (List Char)
  | [] => [[]]
  | c :: cs =>
    if c == sep then [] :: split sep cs
    else match split sep cs with
      | [] => [[c]]
      | w :: ws => (c :: w) :: ws

/-- `str.split()`: the words between white space. -/
def words : List Char → List (List Char)
  | [] => []
  | c :: cs =>
    if isSpace c then words cs
    else match cs with
      | [] => [[c]]
      | d :: _ => if isSpace d then [c] :: words cs
        else match words cs with
          | [] => [[c]]
          | w :: ws => (c :: w) :: ws

/-- The operator `in` between strings. -/
def isInfix (pat : List Char) : List Char → Bool
  | [] => pat.isEmpty
  | c :: cs => pat.isPrefixOf (c :: cs) || isInfix pat cs

section

variable {w cs : List Char}

theorem isInfix_iff : isInfix w cs = true ↔ w <:+: cs := by
  induction cs with
  | nil => simp [isInfix]
  | cons c cs ih =>
    rw [isInfix, Bool.or_eq_true, List.isPrefixOf_iff_prefix, ih, List.infix_cons_iff]

/-- A part without white space survives stripping. -/
theorem infix_strip (hw : ∀ c ∈ w, isSpace c = false) (h : w <:+: cs) : w <:+: strip cs := by
  have hdrop {v : List Char} (hv : ∀ c ∈ v, isSpace c = false) {text : List Char}
      (h : v <:+: text) : v <:+: text.dropWhile isSpace := by
    induction text with
    | nil => exact h
    | cons c text ih =>
      cases hc : isSpace c with
      | false => rwa [List.dropWhile_cons_of_neg (by simp [hc])]
      | true =>
        rw [List.dropWhile_cons_of_pos hc]
        rcases List.infix_cons_iff.1 h with hstarts | hin
        · cases v with
          | nil => exact List.nil_infix
          | cons d v =>
            obtain rfl := (List.cons_prefix_cons.1 hstarts).1
            rw [hv d List.mem_cons_self] at hc
            cases hc
        · exact ih hin
  have hfront := hdrop hw h
  have hback := hdrop (fun c hc => hw c (List.mem_reverse.1 hc)) (List.reverse_infix.2 hfront)
  rw [← List.reverse_infix, List.reverse_reverse] at hback
  exact hback

/-- A part that has no character of a pattern survives its replacement. -/
theorem infix_replace {pat : List Char} (hpat : pat ≠ []) (rep : List Char)
    (hw : ∀ c ∈ w, c ∉ pat) (h : w <:+: cs) : w <:+: replace pat rep cs := by
  obtain ⟨before, after, rfl⟩ := h
  have hstays (v : List Char) (hv : ∀ c ∈ v, c ∉ pat) (text : List Char) :
      replace pat rep (v ++ text) = v ++ replace pat rep text := by
    induction v with
    | nil => rfl
    | cons c v ih =>
      have hone := replace_separated hpat rep (hv c List.mem_cons_self) [] (v ++ text)
      rw [List.nil_append] at hone
      rw [List.cons_append, hone, ih fun d hd => hv d (List.mem_cons_of_mem c hd)]
      rfl
  cases w with
  | nil => exact List.nil_infix
  | cons c w =>
    rw [List.append_assoc, List.cons_append,
      replace_separated hpat rep (hw c List.mem_cons_self),
      hstays w fun d hd => hw d (List.mem_cons_of_mem c hd)]
    exact ⟨replace pat rep before, replace pat rep after, by simp⟩

end

/-- The order on strings, by code points. -/
def le : List Char → List Char → Bool
  | [], _ => true
  | _ :: _, [] => false
  | a :: as, b :: bs => a.toNat < b.toNat || (a.toNat == b.toNat && le as bs)

/-! ## Numbers -/

/-- Digits with single underscores between them, most significant first; `none` when there
is anything else. -/
def digits : List Char → Option (List ℕ)
  | [] => none
  | c :: cs => do
    let d ← digitValue c
    match cs with
    | [] => some [d]
    | c' :: cs' => if c' == '_' then (digits cs').map (d :: ·) else (digits (c' :: cs')).map (d :: ·)

/-- The number a list of decimal digits writes. -/
def ofDigits (ds : List ℕ) : ℕ := ds.foldl (fun n d => 10 * n + d) 0

/-- A sign, if any, and the rest. -/
def sign : List Char → Bool × List Char
  | '-' :: cs => (true, cs)
  | '+' :: cs => (false, cs)
  | cs => (false, cs)

/-- The most digits that `int(text)` converts. -/
def maxIntDigits : ℕ := 4300

/-- `int(text)`; `none` is a ValueError. -/
def pyInt (cs : List Char) : Option ℤ := do
  let (neg, body) := sign (strip cs)
  let ds ← digits body
  if maxIntDigits < ds.length then none
  else
    let n : ℤ := ofDigits ds
    some (if neg then -n else n)

/-- A float, with its special values. Finite values are exact rationals. -/
inductive PyFloat where
  | num (q : ℚ)
  | inf (neg : Bool)
  | nan
  deriving DecidableEq, Repr

namespace PyFloat

/-- The operator `<`. -/
def lt : PyFloat → PyFloat → Bool
  | .num a, .num b => a < b
  | .num _, .inf neg => !neg
  | .inf neg, .num _ => neg
  | .inf a, .inf b => a && !b
  | _, _ => false

@[simp] theorem lt_num (a b : ℚ) : lt (.num a) (.num b) = decide (a < b) := rfl

end PyFloat

/-- Digits, possibly none. -/
def optDigits (cs : List Char) : Option (List ℕ) := if cs.isEmpty then some [] else digits cs

/-- A decimal number times a power of ten. -/
def scale (n : ℕ) (e : ℤ) : ℚ :=
  if 0 ≤ e then (n * 10 ^ e.toNat : ℕ) else mkRat n (10 ^ (-e).toNat)

/-- The unsigned part of `float(text)`. -/
def unsignedFloat (cs : List Char) : Option PyFloat :=
  let word := String.ofList (cs.map Char.toLower)
  if word = "inf" ∨ word = "infinity" then some (.inf false)
  else if word = "nan" then some .nan
  else do
    let (mantissa, exponent) := cs.span fun c => !(c == 'e' || c == 'E')
    let (whole, frac) := mantissa.span fun c => !(c == '.')
    let ds ← optDigits whole
    let fs ← optDigits (frac.drop 1)
    if ds.isEmpty && fs.isEmpty then none
    else
      let e ← if exponent.isEmpty then some 0 else do
        let (neg, body) := sign (exponent.drop 1)
        let n : ℤ := ofDigits (← digits body)
        some (if neg then -n else n)
      some (.num (scale (ofDigits (ds ++ fs)) (e - fs.length)))

/-- `float(text)`; `none` is a ValueError. -/
def pyFloat (cs : List Char) : Option PyFloat := do
  let (neg, body) := sign (strip cs)
  let x ← unsignedFloat body
  some (if neg then match x with
    | .num q => .num (-q)
    | .inf b => .inf (!b)
    | .nan => .nan
  else x)

/-- Round half to even, as `round` does. -/
def roundHalfEven (q : ℚ) : ℤ :=
  let f := q.floor
  let r := q - f
  if r < 1 / 2 then f
  else if 1 / 2 < r then f + 1
  else if f % 2 = 0 then f else f + 1

/-- Rounding keeps below a whole number. -/
theorem roundHalfEven_le {q : ℚ} {n : ℤ} (h : q ≤ n) : roundHalfEven q ≤ n := by
  have hfloor : q.floor ≤ n := by exact_mod_cast (Rat.floor_le q).trans h
  unfold roundHalfEven
  dsimp only
  by_cases heq : q.floor = n
  · -- nothing is left over
    have hrest : q - q.floor ≤ 0 := by
      rw [heq]
      exact sub_nonpos.2 h
    rw [if_pos (hrest.trans_lt (by decide +kernel))]
    exact hfloor
  · have hless : q.floor + 1 ≤ n := by omega
    split_ifs <;> omega

theorem roundHalfEven_nonneg {q : ℚ} (h : 0 ≤ q) : 0 ≤ roundHalfEven q := by
  have hfloor : 0 ≤ q.floor := Rat.le_floor_iff.2 (by exact_mod_cast h)
  unfold roundHalfEven
  dsimp only
  split_ifs <;> omega

end PyText
