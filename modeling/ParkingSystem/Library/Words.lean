import ParkingSystem.Library.PyText

/-!
# Words of a Text

A text is read word by word: what stands between separators, without the empty words that
separators at an end or next to each other leave.
-/

namespace PyText

section

variable (sep : Char → Bool)

/-- The words of a text, when a word has been begun. -/
def wordsFrom (word : List Char) : List Char → List (List Char)
  | [] => if word.isEmpty then [] else [word]
  | c :: cs =>
    if sep c then
      if word.isEmpty then wordsFrom [] cs else word :: wordsFrom [] cs
    else wordsFrom (word ++ [c]) cs

/-- The words of a text. -/
def wordsBy (cs : List Char) : List (List Char) := wordsFrom sep [] cs

variable {sep}

/-- A text without separators is read to the end of the word that was begun. -/
theorem wordsFrom_append {w : List Char} (h : ∀ c ∈ w, sep c = false) (word rest : List Char) :
    wordsFrom sep word (w ++ rest) = wordsFrom sep (word ++ w) rest := by
  induction w generalizing word with
  | nil => rw [List.nil_append, List.append_nil]
  | cons c w ih =>
    obtain ⟨hc, hw⟩ := List.forall_mem_cons.1 h
    rw [List.cons_append, wordsFrom, hc, if_neg (by decide), ih hw, List.append_assoc,
      List.singleton_append]

/-- A separator ends a word. -/
theorem wordsBy_append {w : List Char} {s : Char} (hne : w ≠ []) (h : ∀ c ∈ w, sep c = false)
    (hs : sep s = true) (rest : List Char) : wordsBy sep (w ++ s :: rest) = w :: wordsBy sep rest := by
  have hempty : w.isEmpty = false := by simpa using hne
  rw [wordsBy, wordsFrom_append h, List.nil_append, wordsFrom, if_pos hs, hempty,
    if_neg (by decide), wordsBy]

/-- A text without separators is one word. -/
theorem wordsBy_self {w : List Char} (hne : w ≠ []) (h : ∀ c ∈ w, sep c = false) :
    wordsBy sep w = [w] := by
  have happend := wordsFrom_append h [] []
  rw [List.append_nil, List.nil_append, wordsFrom] at happend
  rw [wordsBy, happend, if_neg (by simpa using hne)]

/-- **Words joined by separators** are read back. -/
theorem wordsBy_intercalate {s : Char} (hs : sep s = true) {ws : List (List Char)}
    (h : ∀ w ∈ ws, w ≠ [] ∧ ∀ c ∈ w, sep c = false) : wordsBy sep ([s].intercalate ws) = ws := by
  induction ws with
  | nil => rfl
  | cons w ws ih =>
    obtain ⟨⟨hne, hw⟩, hws⟩ := List.forall_mem_cons.1 h
    cases ws with
    | nil =>
      rw [List.intercalate_singleton]
      exact wordsBy_self hne hw
    | cons v ws =>
      rw [List.intercalate_cons_cons, List.append_assoc, List.singleton_append,
        wordsBy_append hne hw hs, ih hws]

/-- What leaves the separator and every word as it is leaves the text as it is. -/
theorem map_intercalate {f : Char → Char} {s : Char} (hs : f s = s) {ws : List (List Char)}
    (h : ∀ w ∈ ws, w.map f = w) : ([s].intercalate ws).map f = [s].intercalate ws := by
  induction ws with
  | nil => rfl
  | cons w ws ih =>
    obtain ⟨hw, hws⟩ := List.forall_mem_cons.1 h
    cases ws with
    | nil => rw [List.intercalate_singleton, hw]
    | cons v ws =>
      rw [List.intercalate_cons_cons, List.map_append, List.map_append, hw, ih hws,
        List.map_singleton, hs]

/-- Every word is something, with no separator in it. -/
theorem mem_wordsFrom {word cs : List Char} (hword : ∀ c ∈ word, sep c = false) :
    ∀ w ∈ wordsFrom sep word cs, w ≠ [] ∧ ∀ c ∈ w, sep c = false := by
  induction cs generalizing word with
  | nil =>
    intro w hw
    rw [wordsFrom] at hw
    split at hw
    next => cases hw
    next hne =>
      rw [List.mem_singleton.1 hw]
      exact ⟨by simpa using hne, hword⟩
  | cons c cs ih =>
    have hnil := @ih [] (List.forall_mem_nil _)
    rw [wordsFrom]
    split
    next =>
      split
      next => exact hnil
      next hne => exact List.forall_mem_cons.2 ⟨⟨by simpa using hne, hword⟩, hnil⟩
    next hc =>
      refine ih fun x hx => ?_
      rcases List.mem_append.1 hx with hx | hx
      · exact hword x hx
      · rw [List.mem_singleton.1 hx]
        simpa using hc

/-- The characters of a word are characters of the text. -/
theorem mem_of_mem_wordsFrom {word cs : List Char} {w : List Char}
    (hw : w ∈ wordsFrom sep word cs) : ∀ c ∈ w, c ∈ word ∨ c ∈ cs := by
  induction cs generalizing word with
  | nil =>
    rw [wordsFrom] at hw
    split at hw
    next => cases hw
    next =>
      rw [List.mem_singleton.1 hw]
      exact fun c hc => Or.inl hc
  | cons d cs ih =>
    have hrest (hw : w ∈ wordsFrom sep [] cs) : ∀ c ∈ w, c ∈ word ∨ c ∈ d :: cs := fun c hc =>
      Or.inr (List.mem_cons_of_mem _ ((ih hw c hc).resolve_left List.not_mem_nil))
    rw [wordsFrom] at hw
    split at hw
    next =>
      split at hw
      next => exact hrest hw
      next =>
        rcases List.mem_cons.1 hw with rfl | hw
        · exact fun c hc => Or.inl hc
        · exact hrest hw
    next =>
      intro c hc
      rcases ih hw c hc with hword | hcs
      · rcases List.mem_append.1 hword with hword | hd
        · exact Or.inl hword
        · rw [List.mem_singleton.1 hd]
          exact Or.inr List.mem_cons_self
      · exact Or.inr (List.mem_cons_of_mem _ hcs)

theorem mem_of_mem_wordsBy {cs w : List Char} (hw : w ∈ wordsBy sep cs) {c : Char} (hc : c ∈ w) :
    c ∈ cs :=
  (mem_of_mem_wordsFrom hw c hc).resolve_left List.not_mem_nil

theorem mem_wordsBy {cs : List Char} : ∀ w ∈ wordsBy sep cs, w ≠ [] ∧ ∀ c ∈ w, sep c = false :=
  mem_wordsFrom (List.forall_mem_nil _)

end

end PyText
