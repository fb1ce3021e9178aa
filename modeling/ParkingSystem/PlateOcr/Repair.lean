import ParkingSystem.PlateOcr.System
import Mathlib.Tactic.NormNum

/-!
# Repaired Plate Texts

`repair_candidates` tries the texts that are one mistake of the reader away. Each step looks at one
text that it has not seen, and what it finds is a plate text; a plate text that it has seen is
found. From this, what the steps try is what they find.
-/

namespace ParkingSystem.PlateText

open Plate PyText PyDict

/-! ## Six characters -/

section

variable {s : List Char}

theorem isDigit_of_isDigitText (h : Normal s) (hs : isDigitText s = true) :
    ∀ c ∈ s, isDigit c = true := by
  intro c hc
  rw [← isDigitChar_of_plateChar (h c hc).1]
  exact List.all_eq_true.1 (Bool.and_eq_true_iff.1 hs).2 c hc

/-- Two digits, an official letter and three digits. -/
def sixPlate (two : List Char) (letter : Char) (three : List Char)
    (digits : ∀ c ∈ two ++ three, isDigit c = true) (official : isLetter letter = true)
    (two_length : two.length = 2) (three_length : three.length = 3) : OcrPlate where
  two := two
  letter := letter
  three := three
  province := []
  digits := by simpa using digits
  official := official
  two_length := two_length
  three_length := three_length
  province_length := .inl rfl

/-- A text of the form of a plate. -/
theorem plateRe_six {two three : List Char} {letter : Char}
    (digits : ∀ c ∈ two ++ three, isDigit c = true) (official : isLetter letter = true)
    (two_length : two.length = 2) (three_length : three.length = 3) :
    plateRe (two ++ letter :: three) = true := by
  have hform := (sixPlate two letter three digits official two_length three_length).plateRe_text
  simpa [sixPlate, OcrPlate.text] using hform

theorem isLetter_visLetters {l c : Char} (h : l ∈ visLetters c) : isLetter l = true := by
  have hall (cs : List Char) (hcs : cs.all isLetter = true) (hl : l ∈ cs) : isLetter l = true :=
    List.all_eq_true.1 hcs l hl
  unfold visLetters at h
  split at h
  all_goals exact hall _ (by decide) h

theorem isLetter_priorLetters {l : Char} (h : l ∈ priorLetters) : isLetter l = true := by
  have hall : priorLetters.all isLetter = true := by decide
  exact List.all_eq_true.1 hall l h

theorem isLetter_letterGuesses {l c : Char} (h : l ∈ letterGuesses c) : isLetter l = true := by
  rcases List.mem_append.1 (List.mem_of_mem_take h) with hvis | hprior
  · exact isLetter_visLetters hvis
  · exact isLetter_priorLetters (List.mem_filter.1 hprior).1

/-- A mirrored text is taken apart at its letter. -/
theorem isMirrored_spec (h : Normal s) (hlength : s.length = 6) (hs : isMirrored s = true) :
    ∃ two letter three, s = three ++ letter :: two ∧ swapGroups s = two ++ letter :: three ∧
      (∀ c ∈ two ++ three, isDigit c = true) ∧ isLetter letter = true ∧ two.length = 2 ∧
        three.length = 3 := by
  obtain ⟨x, y, z, l, a, b, rfl⟩ : ∃ x y z l a b, s = [x, y, z, l, a, b] := by
    match s, hlength with
    | [x, y, z, l, a, b], _ => exact ⟨x, y, z, l, a, b, rfl⟩
  simp only [isMirrored, Bool.and_eq_true] at hs
  obtain ⟨⟨hthree, hletter⟩, htwo⟩ := hs
  have hthree' := isDigit_of_isDigitText (h.subset (List.take_subset 3 _)) hthree
  have htwo' := isDigit_of_isDigitText (h.subset (List.drop_subset 4 _)) htwo
  refine ⟨[a, b], l, [x, y, z], rfl, rfl, fun c hc => ?_, hletter, rfl, rfl⟩
  exact (List.mem_append.1 hc).elim (htwo' c) (hthree' c)

end

/-! ## One step -/

/-- What may be found: a plate text in normal form, with a multiplier. -/
structure Found (e : List Char × ℚ) : Prop where
  normal : Normal e.1
  form : plateRe e.1 = true
  pos : 0 < e.2
  le_one : e.2 ≤ 1

/-- Two digits, a letter and three digits are found. -/
theorem found_six {two three : List Char} {letter : Char} {mul : ℚ} (normal : Normal (two ++ three))
    (digits : ∀ c ∈ two ++ three, isDigit c = true) (official : isLetter letter = true)
    (two_length : two.length = 2) (three_length : three.length = 3) (hpos : 0 < mul)
    (hle : mul ≤ 1) : Found (two ++ letter :: three, mul) where
  normal c hc := by
    rcases List.mem_append.1 hc with htwo | hrest
    · exact normal c (List.mem_append_left _ htwo)
    · rcases List.mem_cons.1 hrest with rfl | hthree
      · exact normal_letter official
      · exact normal c (List.mem_append_right _ hthree)
  form := plateRe_six digits official two_length three_length
  pos := hpos
  le_one := hle

/-- **The invariant of the steps**: what is found is a plate text, and a plate text that was seen is
found. -/
structure Repairs.Sound (st : Repairs) : Prop where
  found : ∀ e ∈ st.out, Found e
  complete : ∀ u ∈ st.seen, plateRe u = true → u ∈ st.out.map Prod.fst

/-- A step that tries a text. -/
structure Tries (st st' : Repairs) (s : List Char) : Prop where
  sound : st'.Sound
  tried : s ∈ st'.seen
  seen : ∀ u ∈ st.seen, u ∈ st'.seen

section

variable {st : Repairs} {s : List Char}

/-- A text without the form of a plate is seen. -/
theorem Repairs.Sound.see (h : st.Sound) (hs : plateRe s = false) :
    Tries st { st with seen := s :: st.seen } s where
  sound := by
    refine ⟨h.found, fun u hu hplate => ?_⟩
    rcases List.mem_cons.1 hu with rfl | hu
    · rw [hs] at hplate
      cases hplate
    · exact h.complete u hu hplate
  tried := List.mem_cons_self
  seen _ hu := List.mem_cons_of_mem _ hu

/-- More is found. -/
theorem Repairs.Sound.find (h : st.Sound) {added : List (List Char × ℚ)}
    (hadded : ∀ e ∈ added, Found e) : Repairs.Sound { st with out := st.out ++ added } where
  found e he := (List.mem_append.1 he).elim (h.found e) (hadded e)
  complete u hu hplate := by
    rw [List.map_append]
    exact List.mem_append_left _ (h.complete u hu hplate)

/-- A plate text is seen and found. -/
theorem Repairs.Sound.take (h : st.Sound) (hnormal : Normal s) (hplate : plateRe s = true) {mul : ℚ}
    (hpos : 0 < mul) (hle : mul ≤ 1) :
    Tries st { seen := s :: st.seen, out := st.out ++ [(s, mul)] } s where
  sound := by
    have hfound : Found (s, mul) := ⟨hnormal, hplate, hpos, hle⟩
    refine ⟨(h.find (List.forall_mem_singleton.2 hfound)).found, fun u hu hu' => ?_⟩
    rw [List.map_append, List.mem_append]
    rcases List.mem_cons.1 hu with rfl | hu
    · exact .inr (by simp)
    · exact .inl (h.complete u hu hu')
  tried := List.mem_cons_self
  seen _ hu := List.mem_cons_of_mem _ hu

/-- **A run of steps** tries the text of each of them. -/
theorem foldl_tries {ι : Type} {step : Repairs → ι → Repairs} (tried : ι → List Char) (is : List ι)
    (hstep : ∀ st, ∀ i ∈ is, st.Sound → Tries st (step st i) (tried i)) (h : st.Sound) :
    (is.foldl step st).Sound ∧ (∀ i ∈ is, tried i ∈ (is.foldl step st).seen) ∧
      ∀ u ∈ st.seen, u ∈ (is.foldl step st).seen := by
  induction is generalizing st with
  | nil => exact ⟨h, by simp, fun _ hu => hu⟩
  | cons i is ih =>
    have hfirst := hstep st i List.mem_cons_self h
    obtain ⟨hsound, htried, hseen⟩ :=
      ih (fun st j hj => hstep st j (List.mem_cons_of_mem _ hj)) hfirst.sound
    refine ⟨hsound, fun j hj => ?_, fun u hu => hseen u (hfirst.seen u hu)⟩
    rcases List.mem_cons.1 hj with rfl | hj
    · exact hseen _ hfirst.tried
    · exact htried j hj

end

/-- One deletion tries what is left of the text. -/
theorem repairDeletion_tries {t : List Char} {st : Repairs} {i : ℕ} (ht : Normal t)
    (hlength : t.length = 7) (hi : i < 7) (h : st.Sound) :
    Tries st (repairDeletion t st i) (t.eraseIdx i) := by
  have hnormal : Normal (t.eraseIdx i) := ht.subset (List.eraseIdx_subset)
  have hsix : (t.eraseIdx i).length = 6 := by rw [List.length_eraseIdx_of_lt (by omega), hlength]
  have hvalid (u : List Char) (hu : Normal u) : validate u = (u, plateRe u) := by
    rw [validate, normalize_of_normal hu]
  unfold repairDeletion
  dsimp only
  split
  · rename_i hmem
    exact ⟨h, hmem, fun _ hu => hu⟩
  · rw [hvalid _ hnormal]
    dsimp only
    split
    · rename_i hplate
      exact h.take hnormal hplate (by norm_num) (by norm_num)
    · rename_i hplate
      have hseen := h.see (Bool.eq_false_of_not_eq_true hplate)
      split
      · -- the letter was read as a digit
        rename_i hdigits
        obtain ⟨-, htwo, -, hthree⟩ := hdigits
        refine ⟨hseen.sound.find fun e he => ?_, hseen.tried, hseen.seen⟩
        obtain ⟨l, hl, rfl⟩ := List.mem_map.1 he
        have hletter := isLetter_letterGuesses hl
        have htwo' := isDigit_of_isDigitText (hnormal.subset (List.take_subset 2 _)) htwo
        have hthree' := isDigit_of_isDigitText (hnormal.subset (List.drop_subset 3 _)) hthree
        exact found_six (fun c hc => hnormal c ((List.mem_append.1 hc).elim
            (fun h => List.take_subset 2 _ h) fun h => List.drop_subset 3 _ h))
          (fun c hc => (List.mem_append.1 hc).elim (htwo' c) (hthree' c)) hletter
          (by rw [List.length_take]; omega) (by rw [List.length_drop]; omega) (by norm_num)
          (by norm_num)
      · split
        · -- the groups were read from right to left
          rename_i hmirrored
          obtain ⟨two, letter, three, hs, hswap, hdigits, hletter, htwo, hthree⟩ :=
            isMirrored_spec hnormal hsix hmirrored.2
          rw [hswap]
          split
          · exact hseen
          · have hparts : Normal (two ++ three) := fun c hc => hnormal c (by
              rw [hs]
              simp only [List.mem_append, List.mem_cons] at hc ⊢
              tauto)
            have hfound : Found (two ++ letter :: three, 17 / 20) :=
              found_six hparts hdigits hletter htwo hthree (by norm_num) (by norm_num)
            have hswapped := hseen.sound.take hfound.normal hfound.form hfound.pos hfound.le_one
            rw [hvalid _ hfound.normal]
            dsimp only
            rw [if_pos hfound.form]
            exact ⟨hswapped.sound, hswapped.seen _ hseen.tried,
              fun u hu => hswapped.seen u (hseen.seen u hu)⟩
        · exact hseen

theorem digitsText_spec {d : Char} (h : d ∈ digitsText) :
    isDigit d = true ∧ PlateChar d ∧ digitTrans d = d := by
  have hall : (digitsText.all fun d => isDigit d && digitTrans d == d) = true := by decide
  have hd := List.all_eq_true.1 hall d h
  rw [Bool.and_eq_true, beq_iff_eq] at hd
  exact ⟨hd.1, .inl hd.1, hd.2⟩

/-- A text with one more character. -/
theorem Normal.insert {t : List Char} (ht : Normal t) {d : Char} (hd : PlateChar d ∧ digitTrans d = d)
    (i : ℕ) : Normal (t.take i ++ d :: t.drop i) := by
  intro c hc
  rcases List.mem_append.1 hc with htake | hrest
  · exact ht c (List.take_subset i t htake)
  · rcases List.mem_cons.1 hrest with rfl | hdrop
    · exact hd
    · exact ht c (List.drop_subset i t hdrop)

/-- One insertion tries the longer text. -/
theorem repairInsertion_tries {t : List Char} {st : Repairs} {place : ℕ × Char} (ht : Normal t)
    (hplace : place.2 ∈ digitsText) (h : st.Sound) :
    Tries st (repairInsertion t st place) (t.take place.1 ++ place.2 :: t.drop place.1) := by
  have hnormal := ht.insert (digitsText_spec hplace).2 place.1
  unfold repairInsertion
  dsimp only
  split
  · rename_i hmem
    exact ⟨h, hmem, fun _ hu => hu⟩
  · rw [validate, normalize_of_normal hnormal]
    dsimp only
    split
    · rename_i hplate
      exact h.take hnormal hplate (by norm_num) (by norm_num)
    · rename_i hplate
      exact h.see (Bool.eq_false_of_not_eq_true hplate)

/-! ## What is found -/

/-- The places and the digits of the insertions. -/
theorem mem_places {place : ℕ × Char} :
    place ∈ (List.range 6).flatMap (fun i => digitsText.map fun d => (i, d)) ↔
      place.1 < 6 ∧ place.2 ∈ digitsText := by
  obtain ⟨i, d⟩ := place
  simp only [List.mem_flatMap, List.mem_range, List.mem_map, Prod.mk.injEq]
  constructor
  · rintro ⟨j, hj, e, he, rfl, rfl⟩
    exact ⟨hj, he⟩
  · rintro ⟨hi, hd⟩
    exact ⟨i, hi, d, hd, rfl, rfl⟩

theorem sound_nil : Repairs.Sound {} := ⟨by simp, by simp⟩

/-- The run of the deletions. -/
theorem deletions_tried {t : List Char} (ht : Normal t) (hlength : t.length = 7) :
    (repairOrder.foldl (repairDeletion t) {}).Sound ∧
      ∀ i < 7, t.eraseIdx i ∈ (repairOrder.foldl (repairDeletion t) {}).seen := by
  have horder : ∀ i, i ∈ repairOrder ↔ i < 7 := by
    intro i
    simp only [repairOrder, List.mem_cons, List.not_mem_nil, or_false]
    omega
  obtain ⟨hsound, htried, -⟩ := foldl_tries (fun i => t.eraseIdx i) repairOrder
    (fun st i hi hst => repairDeletion_tries ht hlength ((horder i).1 hi) hst) sound_nil
  exact ⟨hsound, fun i hi => htried i ((horder i).2 hi)⟩

/-- The run of the insertions. -/
theorem insertions_tried {t : List Char} (ht : Normal t) :
    let places := (List.range 6).flatMap fun i => digitsText.map fun d => (i, d)
    (places.foldl (repairInsertion t) {}).Sound ∧ ∀ i < 6, ∀ d ∈ digitsText,
      t.take i ++ d :: t.drop i ∈ (places.foldl (repairInsertion t) {}).seen := by
  intro places
  obtain ⟨hsound, htried, -⟩ := foldl_tries
    (fun place : ℕ × Char => t.take place.1 ++ place.2 :: t.drop place.1) places
    (fun st place hplace hst => repairInsertion_tries ht (mem_places.1 hplace).2 hst) sound_nil
  exact ⟨hsound, fun i hi d hd => htried (i, d) (mem_places.2 ⟨hi, hd⟩)⟩

/-- **What is found** is a plate text. -/
theorem repairsFound_found {t : List Char} (ht : Normal t) : ∀ e ∈ repairsFound t, Found e := by
  unfold repairsFound
  split
  · rename_i hlength
    exact (deletions_tried ht hlength).1.found
  · split
    · rename_i hlength
      split
      · rename_i hmirrored
        obtain ⟨two, letter, three, hs, hswap, hdigits, hletter, htwo, hthree⟩ :=
          isMirrored_spec ht hlength hmirrored
        have hfound : Found (two ++ letter :: three, 17 / 20) :=
          found_six (fun c hc => ht c (by
            rw [hs]
            simp only [List.mem_append, List.mem_cons] at hc ⊢
            tauto)) hdigits hletter htwo hthree (by norm_num) (by norm_num)
        rw [hswap, validate, normalize_of_normal hfound.normal]
        dsimp only
        rw [if_pos hfound.form]
        simpa using hfound
      · simp
    · split
      · rename_i hdigits
        intro e he
        obtain ⟨l, hl, rfl⟩ := List.mem_map.1 he
        have hall := isDigit_of_isDigitText ht hdigits.2
        have hparts : ∀ c ∈ t.take 2 ++ t.drop 2, c ∈ t := by
          rw [List.take_append_drop]
          exact fun _ hc => hc
        exact found_six (fun c hc => ht c (hparts c hc)) (fun c hc => hall c (hparts c hc))
          (isLetter_priorLetters hl) (by rw [List.length_take]; omega)
          (by rw [List.length_drop]; omega) (by norm_num) (by norm_num)
      · split
        · exact (insertions_tried ht).1.found
        · simp

/-! ## The table -/

/-- The highest of two values. -/
theorem keepHighest_eq (rows table : List (List Char × ℚ)) : rows.foldl keepHighest table =
    groupInto Prod.fst (fun entry old => match old with
      | some v => if v < entry.2 then entry.2 else v
      | none => entry.2) table rows := rfl

/-- The merged table has the texts that are found, each once, and its entries are of the kind of
those found. -/
theorem merged_spec {rows : List (List Char × ℚ)} (h : ∀ e ∈ rows, Found e) :
    (∀ e ∈ rows.foldl keepHighest [], Found e) ∧
      ((rows.foldl keepHighest []).map Prod.fst).Nodup ∧
        ∀ u, u ∈ (rows.foldl keepHighest []).map Prod.fst ↔ u ∈ rows.map Prod.fst := by
  rw [keepHighest_eq]
  refine ⟨forall_mem_groupInto (by simp) h fun e he v hv => ?_, nodup_groupInto rows (by simp),
    fun u => ?_⟩
  · have hfound := h e he
    dsimp only
    split
    · exact hfound
    · exact hv
  · rw [mem_keys_groupInto, List.mem_map]
    simp

theorem mem_ranked {table : List (List Char × ℚ)} {e : List Char × ℚ} :
    e ∈ ranked table ↔ e ∈ table := List.mem_insertionSort _

theorem perm_ranked (table : List (List Char × ℚ)) : (ranked table).Perm table :=
  List.perm_insertionSort _ _

/-- A ranking is by value, from the highest. -/
theorem pairwise_ranked (table : List (List Char × ℚ)) :
    (ranked table).Pairwise fun a b => b.2 ≤ a.2 := by
  have : Std.Total fun a b : List Char × ℚ => b.2 ≤ a.2 := ⟨fun a b => le_total b.2 a.2⟩
  have : IsTrans (List Char × ℚ) fun a b => b.2 ≤ a.2 := ⟨fun _ _ _ hab hbc => hbc.trans hab⟩
  exact List.pairwise_insertionSort _ table

/-! ## Candidates -/

/-- What candidates have to be: distinct plate texts, by falling multipliers. -/
structure SoundRepairs (candidates : List (List Char × ℚ)) : Prop where
  valid : ∀ e ∈ candidates, (validate e.1).2 = true
  distinct : (candidates.map Prod.fst).Nodup
  range : ∀ e ∈ candidates, 0 < e.2 ∧ e.2 ≤ 1
  falling : candidates.Pairwise fun a b => b.2 ≤ a.2

/-- The texts of the candidates are those that are found. -/
theorem mem_repairCandidates {text u : List Char} :
    u ∈ (repairCandidates text).map Prod.fst ↔ u ∈ (repairsFound (normalize text)).map Prod.fst := by
  rw [repairCandidates, (perm_ranked _).map Prod.fst |>.mem_iff]
  exact (merged_spec (repairsFound_found (normal_normalize text))).2.2 u

theorem repairCandidates_found (text : List Char) : ∀ e ∈ repairCandidates text, Found e :=
  fun e he => (merged_spec (repairsFound_found (normal_normalize text))).1 e (mem_ranked.1 he)

/-- **Candidates are sound**, whatever was read. -/
theorem repairCandidates_sound (text : List Char) : SoundRepairs (repairCandidates text) where
  valid e he := by
    have hfound := repairCandidates_found text e he
    rw [validate, normalize_of_normal hfound.normal]
    exact hfound.form
  distinct := ((perm_ranked _).map Prod.fst).nodup_iff.2
    (merged_spec (repairsFound_found (normal_normalize text))).2.1
  range e he := ⟨(repairCandidates_found text e he).pos, (repairCandidates_found text e he).le_one⟩
  falling := pairwise_ranked _

/-- A plate text needs no repair. -/
theorem repairsFound_text (p : OcrPlate) : repairsFound p.text = [] := by
  obtain ⟨a, b, htwo⟩ := List.length_eq_two.1 p.two_length
  have hmirrored : isMirrored p.text = false := by
    simp [isMirrored, isDigitText, OcrPlate.text, htwo, (letter_spec p.official).1]
  have hlength : p.text.length = 6 ∨ p.text.length = 8 := by
    have hthree := p.three_length
    rcases p.province_length with hnone | hsome <;> simp [OcrPlate.text, *]
  unfold repairsFound
  rw [if_neg (by omega), hmirrored]
  rcases hlength with hsix | height
  · simp [hsix]
  · simp [height]

theorem repairCandidates_valid {text : List Char} (h : (validate text).2 = true) :
    repairCandidates text = [] := by
  obtain ⟨p, hp⟩ := OcrPlate.exists_plate (fun c hc => (normal_normalize text c hc).1) h
  rw [repairCandidates, ← hp, repairsFound_text]
  rfl

/-! ## Mistakes that are undone -/

/-- A mistake of the reader in a plate of six characters. -/
inductive Misread (p : OcrPlate) : List Char → Prop
  | insertion (before after : List Char) (c : Char) (h : p.text = before ++ after)
    (hc : c ∈ digitsText ∨ isLetter c = true) : Misread p (before ++ c :: after)
  | deletion (before after : List Char) (c : Char) (h : p.text = before ++ c :: after)
    (hc : isDigit c = true) : Misread p (before ++ after)
  | mirror : Misread p (p.three ++ p.letter :: p.two)

/-- What is inserted is undone. -/
theorem insertion_repaired {t before after : List Char} {c : Char} (ht : Normal t)
    (hplate : plateRe t = true) (hlength : t.length = 6) (h : t = before ++ after)
    (hc : c ∈ digitsText ∨ isLetter c = true) :
    t ∈ (repairCandidates (before ++ c :: after)).map Prod.fst := by
  have hnormal : Normal (before ++ c :: after) := by
    intro d hd
    rcases List.mem_append.1 hd with hbefore | hrest
    · exact ht d (h ▸ List.mem_append_left _ hbefore)
    · rcases List.mem_cons.1 hrest with rfl | hafter
      · exact hc.elim (fun h => (digitsText_spec h).2) normal_letter
      · exact ht d (h ▸ List.mem_append_right _ hafter)
  have hlong : (before ++ c :: after).length = 7 := by
    rw [h, List.length_append] at hlength
    rw [List.length_append, List.length_cons]
    omega
  have hless : before.length < 7 := by
    rw [h, List.length_append] at hlength
    omega
  have herase : (before ++ c :: after).eraseIdx before.length = t := by
    rw [List.eraseIdx_append_of_length_le le_rfl, Nat.sub_self, List.eraseIdx_cons_zero, h]
  obtain ⟨hsound, htried⟩ := deletions_tried hnormal hlong
  have hseen := htried before.length hless
  rw [herase] at hseen
  rw [mem_repairCandidates, normalize_of_normal hnormal, repairsFound, if_pos hlong]
  exact hsound.complete t hseen hplate

/-- A plate of six characters without a digit is taken for one without a digit. -/
theorem repairsFound_deletion {p : OcrPlate} (hsix : p.province = []) {before after : List Char}
    {c : Char} (h : p.text = before ++ c :: after) (hc : isDigit c = true) :
    (before ++ after).length = 5 ∧ repairsFound (before ++ after) =
      (((List.range 6).flatMap fun i => digitsText.map fun d => (i, d)).foldl
        (repairInsertion (before ++ after)) {}).out := by
  have hdigitChar {d : Char} (hd : isDigit d = true) : isDigitChar d = true := by
    rw [isDigitChar, hd, Bool.true_or]
  have hletter := (letter_spec p.official).1
  have hlength := congrArg List.length h
  have hcount := congrArg (fun t => (t.filter isDigitChar).length) h
  have hfilter {ds : List Char} (hds : ∀ d ∈ ds, isDigit d = true) : ds.filter isDigitChar = ds :=
    List.filter_eq_self.2 fun d hd => hdigitChar (hds d hd)
  simp only [OcrPlate.text, hsix, List.append_nil, List.length_append, List.length_cons,
    p.two_length, p.three_length] at hlength
  simp only [OcrPlate.text, hsix, List.append_nil, List.filter_append, List.filter_cons, hletter,
    hdigitChar hc, Bool.false_eq_true, if_false, if_true, List.length_append, List.length_cons,
    hfilter fun d => OcrPlate.two_digit (p := p), hfilter fun d => OcrPlate.three_digit (p := p),
    p.two_length, p.three_length] at hcount
  have hmem : p.letter ∈ before ++ after := by
    have hin : p.letter ∈ before ++ c :: after := by
      rw [← h, OcrPlate.text]
      simp
    rw [List.mem_append, List.mem_cons] at hin
    rcases hin with hbefore | rfl | hafter
    · exact List.mem_append_left _ hbefore
    · rw [isDigit_of_isLetter p.official] at hc
      cases hc
    · exact List.mem_append_right _ hafter
  have hnot : isDigitText (before ++ after) = false := by
    rw [← Bool.not_eq_true]
    intro hall
    have hchar := List.all_eq_true.1 (Bool.and_eq_true_iff.1 hall).2 _ hmem
    rw [hletter] at hchar
    cases hchar
  have hany : (before ++ after).any isLetter = true := List.any_eq_true.2 ⟨_, hmem, p.official⟩
  have hfive : (before ++ after).length = 5 := by
    rw [List.length_append]
    omega
  have hfour : ((before ++ after).filter isDigitChar).length = 4 := by
    rw [List.filter_append, List.length_append]
    omega
  refine ⟨hfive, ?_⟩
  unfold repairsFound
  rw [if_neg (by omega), if_neg (by omega), if_neg (by simp [hnot]),
    if_pos ⟨hfive, hany, hfour⟩]

/-- What is left out is put back, if it is a digit of ASCII. -/
theorem deletion_repaired {p : OcrPlate} (hsix : p.province = []) {before after : List Char}
    {c : Char} (ht : Normal p.text) (h : p.text = before ++ c :: after) (hc : c ∈ digitsText) :
    p.text ∈ (repairCandidates (before ++ after)).map Prod.fst := by
  have hnormal : Normal (before ++ after) := ht.subset (by rw [h]; simp)
  obtain ⟨hfive, hfound⟩ := repairsFound_deletion hsix h (digitsText_spec hc).1
  obtain ⟨hsound, htried⟩ := insertions_tried hnormal
  have hplace : before.length < 6 := by
    rw [List.length_append] at hfive
    omega
  have hseen := htried before.length hplace c hc
  rw [List.take_left, List.drop_left, ← h] at hseen
  rw [mem_repairCandidates, normalize_of_normal hnormal, hfound]
  exact hsound.complete _ hseen p.plateRe_text

/-- What an insertion finds is the longer text. -/
theorem repairInsertion_out {t : List Char} (ht : Normal t) (places : List (ℕ × Char))
    (hplaces : ∀ place ∈ places, place.2 ∈ digitsText) (st : Repairs) :
    ∀ e ∈ (places.foldl (repairInsertion t) st).out, e ∈ st.out ∨
      ∃ i, ∃ d ∈ digitsText, e.1 = t.take i ++ d :: t.drop i := by
  induction places generalizing st with
  | nil => exact fun e he => .inl he
  | cons place places ih =>
    intro e he
    rcases ih (fun q hq => hplaces q (List.mem_cons_of_mem _ hq)) _ e he with hstep | hlater
    · have hd := hplaces place List.mem_cons_self
      have hnormal := ht.insert (digitsText_spec hd).2 place.1
      unfold repairInsertion at hstep
      dsimp only at hstep
      rw [validate, normalize_of_normal hnormal] at hstep
      split at hstep
      · exact .inl hstep
      · split at hstep
        · rcases List.mem_append.1 hstep with hold | hnew
          · exact .inl hold
          · exact .inr ⟨place.1, place.2, hd, by rw [List.mem_singleton.1 hnew]⟩
        · exact .inl hstep
    · exact .inr hlater

/-- A digit that is not one of ASCII is not put back. -/
theorem deletion_lost {p : OcrPlate} (hsix : p.province = []) {before after : List Char} {c : Char}
    (h : p.text = before ++ c :: after) (hc : isDigit c = true) (hnot : c ∉ digitsText) :
    p.text ∉ (repairCandidates (before ++ after)).map Prod.fst := by
  intro hmem
  obtain ⟨e, he, htext⟩ := List.mem_map.1 hmem
  have ht : Normal p.text := htext ▸ (repairCandidates_found _ e he).normal
  have hnormal : Normal (before ++ after) := ht.subset (by rw [h]; simp)
  rw [mem_repairCandidates, normalize_of_normal hnormal, (repairsFound_deletion hsix h hc).2] at hmem
  obtain ⟨e, he, htext⟩ := List.mem_map.1 hmem
  rcases repairInsertion_out hnormal _ (fun place h => (mem_places.1 h).2) {} e he with
    hempty | ⟨i, d, hd, hinsert⟩
  · cases hempty
  · -- the digit is missing: one of ASCII was put in its place
    have hne : d ≠ c := fun heq => hnot (heq ▸ hd)
    have hcount := congrArg (List.count c) (htext.symm.trans hinsert)
    have hsplit : ((before ++ after).take i).count c + ((before ++ after).drop i).count c =
        before.count c + after.count c := by
      rw [← List.count_append, List.take_append_drop, List.count_append]
    rw [h, List.count_append, List.count_cons_self, List.count_append, List.count_cons_of_ne hne]
      at hcount
    omega

/-- Mirrored groups are put back. -/
theorem mirror_repaired {p : OcrPlate} (hsix : p.province = []) (ht : Normal p.text) :
    p.text ∈ (repairCandidates (p.three ++ p.letter :: p.two)).map Prod.fst := by
  have htext : p.text = p.two ++ p.letter :: p.three := by simp [OcrPlate.text, hsix]
  obtain ⟨a, b, htwo⟩ := List.length_eq_two.1 p.two_length
  obtain ⟨x, y, z, hthree⟩ := List.length_eq_three.1 p.three_length
  have hnormal : Normal (p.three ++ p.letter :: p.two) := fun c hc => ht c (by
    rw [htext]
    simp only [List.mem_append, List.mem_cons] at hc ⊢
    tauto)
  have hdigitChar {c : Char} (hc : c ∈ p.two ++ p.three) : isDigitChar c = true := by
    have hdigit : isDigit c = true :=
      (List.mem_append.1 hc).elim OcrPlate.two_digit OcrPlate.three_digit
    rw [isDigitChar, hdigit, Bool.true_or]
  simp only [htwo, hthree] at hdigitChar
  have hmirrored : isMirrored (p.three ++ p.letter :: p.two) = true := by
    simp [isMirrored, isDigitText, htwo, hthree, p.official, hdigitChar]
  have hswap : swapGroups (p.three ++ p.letter :: p.two) = p.text := by
    simp [swapGroups, htext, htwo, hthree]
  have hlength : (p.three ++ p.letter :: p.two).length = 6 := by
    rw [List.length_append, List.length_cons, p.two_length, p.three_length]
  rw [mem_repairCandidates, normalize_of_normal hnormal, repairsFound, if_neg (by omega),
    if_pos hlength, if_pos hmirrored, hswap, validate, normalize_of_normal ht]
  simp [p.plateRe_text]

/-- A plate without a province. -/
abbrev SixPlate := { p : OcrPlate // p.province = [] }

/-- **Repairs**: the candidates of every text are sound, and a plate text has none. The mistakes in
a plate of six characters are undone exactly where its digits are those of ASCII. -/
theorem repairCandidates_iff (text : List Char) (p : SixPlate) :
    (SoundRepairs (repairCandidates text) ∧
      ((validate text).2 = true → repairCandidates text = [])) ∧
    ((∀ text, Misread p.1 text → p.1.text ∈ (repairCandidates text).map Prod.fst) ↔
      ∀ c ∈ p.1.text, isDigit c = true → c ∈ digitsText) := by
  refine ⟨⟨repairCandidates_sound text, repairCandidates_valid⟩, ?_⟩
  obtain ⟨p, hsix⟩ := p
  constructor
  · intro hall c hc hdigit
    by_contra hnot
    obtain ⟨before, after, h⟩ := List.append_of_mem hc
    exact deletion_lost hsix h hdigit hnot (hall _ (.deletion before after c h hdigit))
  · intro hascii text hmisread
    have ht : Normal p.text := by
      intro c hc
      have hpart : c ∈ p.two ++ (p.three ++ p.province) ∨ c = p.letter := by
        simp only [OcrPlate.text, List.mem_append, List.mem_cons] at hc ⊢
        tauto
      rcases hpart with hdigit | rfl
      · exact (digitsText_spec (hascii c hc (p.digits c hdigit))).2
      · exact normal_letter p.official
    have hlength : p.text.length = 6 := by
      rw [OcrPlate.text, hsix, List.length_append, List.length_cons, List.append_nil, p.two_length,
        p.three_length]
    cases hmisread with
    | insertion before after c h hc => exact insertion_repaired ht p.plateRe_text hlength h hc
    | deletion before after c h hc =>
      have hmem : c ∈ p.text := by
        rw [h]
        exact List.mem_append_right _ List.mem_cons_self
      exact deletion_repaired hsix ht h (hascii c hmem hc)
    | mirror => exact mirror_repaired hsix ht

/-- A plate whose last digit is one that normalisation keeps, and that is never put back. -/
def foreignPlate : SixPlate :=
  ⟨sixPlate "12".toList 'ب' "34५".toList (forall_mem_of_all (by decide)) (by decide) (by decide)
    (by decide), rfl⟩

theorem repairCandidates_iff_valid : repairCandidates "13ب118".toList = [] :=
  (repairCandidates_iff "13ب118".toList foreignPlate).1.2 (by decide)

/-- The lost digit of that plate is not found. -/
theorem foreign_digit_lost : ¬ ∀ (p : SixPlate) (text : List Char), Misread p.1 text →
    p.1.text ∈ (repairCandidates text).map Prod.fst := by
  intro h
  have hsplit : foreignPlate.1.text = "12ب34".toList ++ '५' :: [] := by decide
  exact deletion_lost foreignPlate.2 hsplit (by decide) (by decide)
    (h foreignPlate _ (.deletion _ _ '५' hsplit (by decide)))

end ParkingSystem.PlateText
