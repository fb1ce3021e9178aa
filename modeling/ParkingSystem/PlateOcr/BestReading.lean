import ParkingSystem.PlateOcr.Candidates

/-!
# No Valid Reading Is Lost, Almost

What the list of candidates is worth: texts are distinct, scores fall, a family has three members,
and a valid reading is reported as the best one — unless texts that are no plates gather so many
votes that they take all twelve places before the codes of provinces are put on. The points of a
text are stated here in closed form, from the candidates that were collected.
-/

namespace ParkingSystem.PlateText

open Plate PyText PyDict Ranking

/-! ## What is collected -/

/-- A candidate knows whether its text is a plate. -/
structure Candidate.Sound (c : Candidate) : Prop where
  normal : Normal c.text
  valid : c.valid = plateRe c.text

theorem Reading.sound_made {r : Reading} {text : List Char} (mul : ℚ) (tag : String)
    (normal : Normal text) (h : plateRe text = true) : (r.made text mul tag).Sound :=
  ⟨normal, h.symm⟩

theorem sound_enforced {r : Reading} {norm : List Char} (hnormal : Normal norm) :
    ∀ c ∈ enforced r norm, c.Sound := by
  have hfixed : Normal (enforceFormat norm) := by
    rw [enforceFormat, normalize_of_normal hnormal]
    split
    · exact hnormal
    · exact normal_enforced hnormal
  have halt : Normal ((enforceFormat norm).take 2 ++ 'ق' :: (enforceFormat norm).drop 3) := by
    intro c hc
    rcases List.mem_append.1 hc with hc | hc
    · exact hfixed c (List.mem_of_mem_take hc)
    · rcases List.mem_cons.1 hc with rfl | hc
      · exact normal_letter (by decide)
      · exact hfixed c (List.mem_of_mem_drop hc)
  intro c hc
  rw [enforced] at hc
  dsimp only at hc
  split at hc
  next hform =>
    have hplate : plateRe (enforceFormat norm) = true := by
      have hvalid := hform.2.2
      rwa [validate, normalize_of_normal hfixed] at hvalid
    have hmade := Reading.sound_made (r := r) (95 / 100) "+enforce" hfixed hplate
    split at hc
    next htwin =>
      have hplate' := htwin.2.2.2.2
      rw [validate, normalize_of_normal halt] at hplate'
      rcases List.mem_cons.1 hc with rfl | hc
      · exact hmade
      · rw [List.mem_singleton.1 hc]
        exact Reading.sound_made _ _ halt hplate'
    next =>
      rw [List.mem_singleton.1 hc]
      exact hmade
  next => cases hc

theorem sound_repaired {r : Reading} (emitted : List (List Char)) (found : List (List Char × ℚ))
    (h : ∀ e ∈ found, Found e) : ∀ c ∈ repaired r emitted found, c.Sound := by
  induction found generalizing emitted with
  | nil => exact fun c hc => nomatch hc
  | cons e found ih =>
    have hrest := fun emitted => ih emitted fun e' he' => h e' (List.mem_cons_of_mem e he')
    have he := h e List.mem_cons_self
    intro c hc
    rw [repaired] at hc
    split at hc
    · exact hrest _ c hc
    · rcases List.mem_cons.1 hc with rfl | hc
      · exact Reading.sound_made _ _ he.normal he.form
      · exact hrest _ c hc

/-- **Whatever was read**, the candidates are sound. -/
theorem sound_candidates (readings : List Reading) : ∀ c ∈ candidates readings, c.Sound := by
  intro c hc
  obtain ⟨r, -, hc⟩ := List.mem_flatMap.1 hc
  have hnormal : Normal (normalize r.text) := normal_normalize r.text
  have hraw : Candidate.Sound
      { text := normalize r.text, conf := r.conf, method := r.method,
        valid := plateRe (normalize r.text), box := r.box } := ⟨hnormal, rfl⟩
  rw [collect] at hc
  dsimp only [validate] at hc
  split at hc
  · rw [List.mem_singleton.1 hc]
    exact hraw
  · rcases List.mem_cons.1 hc with rfl | hc
    · exact hraw
    · rcases List.mem_append.1 hc with hc | hc
      · exact sound_enforced hnormal c hc
      · exact sound_repaired _ _ (repairCandidates_found _) c hc

/-! ## Points -/

/-- The candidates with a text, of those near the length of a plate. -/
def readingsOf (cands : List Candidate) (t : List Char) : List Candidate :=
  (cands.filter inRange).filter fun c => c.text = t

/-- The texts that are ranked. -/
def texts (cands : List Candidate) : List (List Char) := (cands.filter inRange).map Candidate.text

/-- The first candidate of a text counts in full, each further one for half of itself. -/
def votes : List Candidate → ℚ
  | [] => 0
  | c :: rest => ownScore c + (rest.map fun r => 1 / 2 * min (ownScore r) 3).sum

/-- Whether the letter of a text was guessed when the text was first found. -/
def guessedText (cands : List Candidate) (t : List Char) : Bool :=
  ((readingsOf cands t).head?).any fun c => guessed c.method

/-- Whether a letter was guessed for digits that were read with a letter. -/
def doubted (cands : List Candidate) (t : List Char) : Bool :=
  lettered t && guessedText cands t && (texts cands).any fun u =>
    lettered u && digitGroups u == digitGroups t && !guessedText cands u

/-- What a text is worth: its votes, less the penalty of a guessed letter. -/
def points (cands : List Candidate) (t : List Char) : ℚ :=
  if doubted cands t then votes (readingsOf cands t) * (4 / 5) else votes (readingsOf cands t)

/-- What an entry of the table has of the candidates of its text. -/
structure Tallied (cands : List Candidate) (c : Candidate) : Prop where
  mem : c.text ∈ texts cands
  valid : (∀ r ∈ cands, r.Sound) → c.Sound
  guessed : guessed c.method = guessedText cands c.text
  score : c.score = votes (readingsOf cands c.text)

/-- The candidates of a text, one after the other, meet the entry of the first. -/
theorem fold_vote (rest : List Candidate) (cur : Candidate) :
    ∃ c, rest.foldl (fun v r => some (vote r v)) (some cur) = some c ∧ c.text = cur.text ∧
      c.method = cur.method ∧ c.valid = cur.valid ∧
      c.score = cur.score + (rest.map fun r => 1 / 2 * min (ownScore r) 3).sum := by
  induction rest generalizing cur with
  | nil => exact ⟨cur, rfl, rfl, rfl, rfl, by rw [List.map_nil, List.sum_nil, add_zero]⟩
  | cons r rest ih =>
    obtain ⟨c, hfold, htext, hmethod, hvalid, hscore⟩ := ih (vote r (some cur))
    refine ⟨c, hfold, htext, hmethod, hvalid, ?_⟩
    rw [hscore, List.map_cons, List.sum_cons, ← add_assoc]
    rfl

theorem tallied_dedup {cands : List Candidate} {e : List Char × Candidate} (h : e ∈ dedup cands) :
    e.1 = e.2.text ∧ Tallied cands e.2 := by
  obtain ⟨t, c⟩ := e
  have hnodup : ((dedup cands).map Prod.fst).Nodup := nodup_groupInto _ List.nodup_nil
  have hitem : item t (dedup cands) = some c := (mem_iff_lookup hnodup).1 h
  rw [dedup, item_groupInto] at hitem
  cases hreadings : readingsOf cands t with
  | nil =>
    rw [readingsOf] at hreadings
    rw [hreadings] at hitem
    cases hitem
  | cons first rest =>
    have hfirst : first ∈ readingsOf cands t := by
      rw [hreadings]
      exact List.mem_cons_self
    obtain ⟨hrange, heq⟩ := List.mem_filter.1 hfirst
    have htext : first.text = t := of_decide_eq_true heq
    obtain ⟨c', hfold, htext', hmethod, hvalid, hscore⟩ := fold_vote rest (vote first none)
    have hsame : c' = c := by
      rw [readingsOf] at hreadings
      rw [hreadings, List.foldl_cons, hfold] at hitem
      exact Option.some.inj hitem
    subst hsame
    have hc : c'.text = t := htext'.trans htext
    refine ⟨hc.symm, ?_, fun hsound => ?_, ?_, ?_⟩
    · rw [hc, ← htext]
      exact List.mem_map_of_mem hrange
    · have hown := hsound first (List.mem_of_mem_filter hrange)
      exact ⟨by rw [htext']; exact hown.normal, by rw [hvalid, htext']; exact hown.valid⟩
    · rw [hc, guessedText, hreadings, hmethod]
      rfl
    · rw [hc, hreadings, votes, hscore]
      rfl

/-! ## The order of the texts -/

theorem mem_keys_dedup {cands : List Candidate} {t : List Char} :
    t ∈ (dedup cands).map Prod.fst ↔ t ∈ texts cands := by
  rw [dedup, mem_keys_groupInto, List.map_nil, texts, List.mem_map]
  exact or_iff_right List.not_mem_nil

/-- The texts of the table are its keys. -/
theorem texts_dedup (cands : List Candidate) :
    ((dedup cands).map Prod.snd).map Candidate.text = (dedup cands).map Prod.fst := by
  rw [List.map_map]
  exact List.map_congr_left fun e he => (tallied_dedup he).1.symm

/-- The penalty changes no text. -/
theorem texts_penalize (table : List Candidate) :
    (penalize table).map Candidate.text = table.map Candidate.text := by
  rw [penalize, List.map_map]
  refine List.map_congr_left fun c _ => ?_
  rw [Function.comp_apply]
  split <;> rfl

/-- **A row of the list before it is sorted**: a sound candidate with the points of its text. -/
theorem penalize_spec {cands : List Candidate} {c : Candidate}
    (h : c ∈ penalize ((dedup cands).map Prod.snd)) :
    c.text ∈ texts cands ∧ ((∀ r ∈ cands, r.Sound) → c.Sound) ∧ c.score = points cands c.text := by
  obtain ⟨m, hm, heq⟩ := List.mem_map.1 h
  have htallied {m : Candidate} (hm : m ∈ (dedup cands).map Prod.snd) : Tallied cands m := by
    obtain ⟨e, he, rfl⟩ := List.mem_map.1 hm
    exact (tallied_dedup he).2
  -- the group of a text has the same members in the table and among the texts
  have hgroup : ((dedup cands).map Prod.snd).any (fun u => lettered u.text &&
      digitGroups u.text == digitGroups m.text && !guessed u.method) =
        (texts cands).any fun u => lettered u && digitGroups u == digitGroups m.text &&
          !guessedText cands u := by
    rw [Bool.eq_iff_iff, List.any_eq_true, List.any_eq_true]
    constructor
    · rintro ⟨u, hu, hmember⟩
      rw [(htallied hu).guessed] at hmember
      exact ⟨u.text, (htallied hu).mem, hmember⟩
    · rintro ⟨t, ht, hmember⟩
      obtain ⟨e, he, rfl⟩ := List.mem_map.1 (mem_keys_dedup.2 ht)
      have he' : e.2 ∈ (dedup cands).map Prod.snd := List.mem_map_of_mem he
      rw [(tallied_dedup he).1, ← (htallied he').guessed] at hmember
      exact ⟨e.2, he', hmember⟩
  rw [(htallied hm).guessed, hgroup, ← doubted] at heq
  split at heq
  next hdoubted =>
    subst heq
    refine ⟨(htallied hm).mem, fun hsound => ?_, ?_⟩
    · exact ⟨((htallied hm).valid hsound).normal, ((htallied hm).valid hsound).valid⟩
    · rw [points, if_pos hdoubted, ← (htallied hm).score]
  next hsure =>
    subst heq
    refine ⟨(htallied hm).mem, (htallied hm).valid, ?_⟩
    rw [points, if_neg hsure, (htallied hm).score]

/-- When a text was first seen. -/
def seen (cands : List Candidate) (t : List Char) : ℕ := (texts cands).idxOf t

/-- The list before a family is cut down. -/
def sorted (cands : List Candidate) : List Candidate :=
  byScore Candidate.score (penalize ((dedup cands).map Prod.snd))

theorem nodup_sorted (cands : List Candidate) : ((sorted cands).map Candidate.text).Nodup := by
  rw [sorted, ((perm_byScore _).map Candidate.text).nodup_iff, texts_penalize, texts_dedup]
  exact nodup_groupInto _ List.nodup_nil

theorem mem_texts_sorted {cands : List Candidate} {t : List Char} :
    t ∈ (sorted cands).map Candidate.text ↔ t ∈ texts cands := by
  rw [sorted, ((perm_byScore _).map Candidate.text).mem_iff, texts_penalize, texts_dedup,
    mem_keys_dedup]

/-- **More points come first**, and of equal points what was seen first. -/
theorem pairwise_sorted (cands : List Candidate) : ((sorted cands).map Candidate.text).Pairwise
    (Ahead (points cands) (seen cands)) := by
  have htable : (penalize ((dedup cands).map Prod.snd)).Pairwise fun a b =>
      seen cands a.text < seen cands b.text := by
    have hkeys := pairwise_keys_groupInto Candidate.text vote (cands.filter inRange)
    have htexts : (groupInto Candidate.text vote [] (cands.filter inRange)).map Prod.fst =
        (penalize ((dedup cands).map Prod.snd)).map Candidate.text := by
      rw [texts_penalize, texts_dedup, dedup]
    rw [htexts] at hkeys
    have hrows := List.pairwise_map.1 hkeys
    exact hrows
  refine List.pairwise_map.2 ((pairwise_ahead htable).imp_of_mem fun ha hb hahead => ?_)
  rwa [Ahead, (penalize_spec (mem_byScore.1 ha)).2.2, (penalize_spec (mem_byScore.1 hb)).2.2]
    at hahead

/-! ## What survives the cut -/

theorem cons_of_plateRe {v : List Char} (h : plateRe v = true) :
    ∃ a b c rest, v = a :: b :: c :: rest := by
  rcases v with _ | ⟨a, _ | ⟨b, _ | ⟨c, rest⟩⟩⟩
  · cases h
  · cases h
  · cases h
  · exact ⟨a, b, c, rest, rfl⟩

theorem cons_of_lettered {u : List Char} (h : lettered u = true) :
    ∃ x y l rest, u = x :: y :: l :: rest ∧ isLetter l = true := by
  rcases u with _ | ⟨x, _ | ⟨y, _ | ⟨l, rest⟩⟩⟩
  · simp [lettered] at h
  · simp [lettered] at h
  · simp [lettered] at h
  · rw [lettered, Bool.and_eq_true] at h
    exact ⟨x, y, l, rest, rfl, h.2⟩

/-- A text that is no plate shares the family of a plate only as the digits themselves. -/
theorem eq_family {u v : List Char} (hv : plateRe v = true) (hlength : v.length = 6 ∨ v.length = 8)
    (hu : plateRe u = false) (h : family u = family v) : u = family v := by
  by_cases hletter : lettered u = true
  · exfalso
    obtain ⟨a, b, c, rest, rfl⟩ := cons_of_plateRe hv
    have hform : isDigit a = true ∧ isDigit b = true ∧ isLetter c = true ∧
        (tailMatch rest).isSome = true := by simpa [plateRe, and_assoc] using hv
    have hlettered : lettered (a :: b :: c :: rest) = true := by
      rw [lettered, Bool.and_eq_true, Bool.or_eq_true, decide_eq_true_eq, decide_eq_true_eq]
      exact ⟨hlength, hform.2.2.1⟩
    rw [family, if_pos hletter, family, if_pos hlettered] at h
    obtain ⟨x, y, l, rest', rfl, hl⟩ := cons_of_lettered hletter
    -- with a letter in its place, the digits make a plate of it
    have hparts : x = a ∧ y = b ∧ rest' = rest := by simpa using h
    obtain ⟨rfl, rfl, rfl⟩ := hparts
    have hplate : plateRe (x :: y :: l :: rest') = true := by
      rw [plateRe, hform.1, hform.2.1, hform.2.2.2, Bool.and_true, Bool.true_and]
      exact hl
    rw [hplate] at hu
    cases hu
  · rw [family, if_neg hletter] at h
    exact h

/-- So the family of a plate is not filled with others. -/
theorem count_family {rows : List (List Char)} (hnodup : rows.Nodup) {v : List Char}
    (hv : plateRe v = true) (hlength : v.length = 6 ∨ v.length = 8) :
    (rows.filter fun u => !plateRe u).countP (fun u => family u = family v) < 3 := by
  have hsub : ((rows.filter fun u => !plateRe u).filter fun u => family u = family v) ⊆
      [family v] := by
    intro u hu
    obtain ⟨hu, hfamily⟩ := List.mem_filter.1 hu
    obtain ⟨-, hbad⟩ := List.mem_filter.1 hu
    exact List.mem_singleton.2
      (eq_family hv hlength (by simpa using hbad) (of_decide_eq_true hfamily))
  have hone := (List.subperm_of_subset ((hnodup.filter _).filter _) hsub).length_le
  rw [List.length_singleton] at hone
  rw [List.countP_eq_length_filter]
  omega

/-- The texts that are no plates and stand before one. -/
def rivalsOf (cands : List Candidate) (v : List Char) : Finset (List Char) :=
  rivals (Ahead (points cands) (seen cands)) plateRe (texts cands) v

/-- **Whether a plate that was read is kept**: there is one to which the other texts, three of a
family at most, leave a place. -/
def Kept (cands : List Candidate) : Prop :=
  (∃ t ∈ texts cands, plateRe t = true) →
    ∃ v ∈ texts cands, plateRe v = true ∧ places 3 family (rivalsOf cands v) < MAX_CANDIDATES

theorem voted_eq (cands : List Candidate) : (voted cands).map Candidate.text =
    (quota 3 family [] ((sorted cands).map Candidate.text)).take MAX_CANDIDATES := by
  rw [voted, ← sorted, List.map_take, map_quota, List.map_nil]

theorem sound_voted {cands : List Candidate} (hsound : ∀ c ∈ cands, c.Sound) :
    ∀ c ∈ voted cands, c.Sound := by
  intro c hc
  have hsorted := (quota_sublist _).subset (List.mem_of_mem_take hc)
  exact (penalize_spec (mem_byScore.1 hsorted)).2.1 hsound

theorem exists_valid_voted {cands : List Candidate} (hsound : ∀ c ∈ cands, c.Sound) :
    (∃ c ∈ voted cands, c.valid = true) ↔ ∃ v ∈ texts cands, plateRe v = true ∧
      places 3 family (rivalsOf cands v) < MAX_CANDIDATES := by
  have hroom : ∀ v ∈ (sorted cands).map Candidate.text, plateRe v = true →
      (((sorted cands).map Candidate.text).filter fun u => !plateRe u).countP
        (fun u => family u = family v) < 3 := by
    intro v hv hplate
    obtain ⟨c, hc, rfl⟩ := List.mem_map.1 hv
    have hown := (penalize_spec (mem_byScore.1 hc)).2.1 hsound
    exact count_family (nodup_sorted cands) hplate (length_of_plateRe hown.normal hplate)
  have htake := exists_good_mem_take plateRe MAX_CANDIDATES (fun _ _ h => h.asymm)
    (pairwise_sorted cands) (nodup_sorted cands) hroom
  rw [← voted_eq] at htake
  have htexts : ((sorted cands).map Candidate.text).toFinset = (texts cands).toFinset := by
    ext t
    rw [List.mem_toFinset, List.mem_toFinset, mem_texts_sorted]
  have hrivals (v : List Char) : rivals (Ahead (points cands) (seen cands)) plateRe
      ((sorted cands).map Candidate.text) v = rivalsOf cands v := by
    rw [rivals, htexts, rivalsOf, rivals]
  constructor
  · rintro ⟨c, hc, hvalid⟩
    rw [(sound_voted hsound c hc).valid] at hvalid
    obtain ⟨v, hv, hplate, hplaces⟩ := htake.1 ⟨c.text, List.mem_map_of_mem hc, hvalid⟩
    rw [hrivals] at hplaces
    exact ⟨v, mem_texts_sorted.1 hv, hplate, hplaces⟩
  · rintro ⟨v, hv, hplate, hplaces⟩
    rw [← hrivals] at hplaces
    obtain ⟨t, ht, hplate'⟩ := htake.2 ⟨v, mem_texts_sorted.2 hv, hplate, hplaces⟩
    obtain ⟨c, hc, rfl⟩ := List.mem_map.1 ht
    exact ⟨c, hc, (sound_voted hsound c hc).valid.trans hplate'⟩

/-! ## The codes of provinces -/

/-- What a province makes of a candidate is valid, and is made of a valid one. -/
theorem valid_provinceReads {prov : Provinces} {c cand : Candidate}
    (h : cand ∈ provinceReads prov c) : c.valid = true ∧ cand.valid = true := by
  unfold provinceReads at h
  split at h
  next hvalid _ =>
    refine ⟨hvalid, ?_⟩
    obtain ⟨read, -, hread⟩ := List.mem_filterMap.1 h
    simp only [provinceCandidate] at hread
    split at hread
    · cases hread
    · split at hread
      · cases hread
      · split at hread
        · cases hread
        · rw [← Option.some.inj hread]
  next => cases h

theorem valid_extra (prov : Provinces) {list : List Candidate} {cand : Candidate}
    (h : cand ∈ (extra prov list).map Prod.snd) :
    cand.valid = true ∧ ∃ c ∈ list, c.valid = true := by
  obtain ⟨e, he, rfl⟩ := List.mem_map.1 h
  have hnew : ∀ row ∈ list.flatMap (provinceReads prov),
      row.valid = true ∧ ∃ c ∈ list, c.valid = true := by
    intro row hrow
    obtain ⟨c, hc, hrow⟩ := List.mem_flatMap.1 hrow
    exact ⟨(valid_provinceReads hrow).2, c, hc, (valid_provinceReads hrow).1⟩
  have hall : ∀ e ∈ extra prov list, e.2.valid = true ∧ ∃ c ∈ list, c.valid = true := by
    refine forall_mem_groupInto (by simp) hnew fun row hrow v hv => ?_
    -- of two candidates with a text, one is kept
    rw [keepBetter]
    split
    · exact hnew row hrow
    · exact hv
  exact hall e he

/-- A row that takes the place of another. -/
theorem map_replace {list : List Candidate} {hit cand : Candidate} (h : hit.text = cand.text) :
    (list.replace hit cand).map Candidate.text = list.map Candidate.text := by
  induction list with
  | nil => rfl
  | cons c list ih =>
    rw [List.replace_cons]
    split
    next heq => rw [List.map_cons, List.map_cons, ← eq_of_beq heq, h]
    next => rw [List.map_cons, List.map_cons, ih]

/-- A valid row that takes the place of another: there are no more invalid ones, and no fewer
valid ones. -/
theorem count_replace {list : List Candidate} {hit cand : Candidate} (h : cand.valid = true) :
    (list.replace hit cand).countP (fun c => !c.valid) ≤ list.countP (fun c => !c.valid) ∧
      list.countP Candidate.valid ≤ (list.replace hit cand).countP Candidate.valid := by
  induction list with
  | nil => exact ⟨le_rfl, le_rfl⟩
  | cons c list ih =>
    rw [List.replace_cons]
    split
    · simp only [List.countP_cons, h]
      constructor
      · exact Nat.le_add_right _ _
      · split <;> simp
    · simp only [List.countP_cons]
      exact ⟨Nat.add_le_add_right ih.1 _, Nat.add_le_add_right ih.2 _⟩

/-- **An extra candidate joins**: texts stay distinct, and validity is not lost. -/
theorem join_spec {list : List Candidate} {cand : Candidate} (hvalid : cand.valid = true)
    (hnodup : (list.map Candidate.text).Nodup) :
    ((join list cand).map Candidate.text).Nodup ∧
      (join list cand).countP (fun c => !c.valid) ≤ list.countP (fun c => !c.valid) ∧
      list.countP Candidate.valid ≤ (join list cand).countP Candidate.valid := by
  unfold join
  split
  next hnone =>
    refine ⟨?_, ?_, ?_⟩
    · rw [List.map_append, List.nodup_append]
      refine ⟨hnodup, List.nodup_singleton _, ?_⟩
      rintro t ht u hu rfl
      obtain ⟨c, hc, heq⟩ := List.mem_map.1 ht
      have hdiff := List.find?_eq_none.1 hnone c hc
      rw [heq, List.mem_singleton.1 hu] at hdiff
      exact hdiff (beq_self_eq_true _)
    · rw [List.countP_append, List.countP_singleton, hvalid]
      exact le_rfl
    · rw [List.countP_append]
      exact Nat.le_add_right _ _
  next hit hsome =>
    split
    · have hfound := List.find?_some hsome
      have htext : hit.text = cand.text := eq_of_beq hfound
      rw [map_replace htext]
      exact ⟨hnodup, count_replace hvalid⟩
    · exact ⟨hnodup, le_rfl, le_rfl⟩

/-- All of them join. -/
theorem foldl_join_spec {cands : List Candidate} (hvalid : ∀ c ∈ cands, c.valid = true)
    {list : List Candidate} (hnodup : (list.map Candidate.text).Nodup) :
    ((cands.foldl join list).map Candidate.text).Nodup ∧
      (cands.foldl join list).countP (fun c => !c.valid) ≤ list.countP (fun c => !c.valid) ∧
      list.countP Candidate.valid ≤ (cands.foldl join list).countP Candidate.valid := by
  induction cands generalizing list with
  | nil => exact ⟨hnodup, le_rfl, le_rfl⟩
  | cons cand cands ih =>
    obtain ⟨hstep, hbad, hgood⟩ := join_spec (hvalid cand List.mem_cons_self) hnodup
    obtain ⟨hrest, hbad', hgood'⟩ := ih (fun c hc => hvalid c (List.mem_cons_of_mem cand hc)) hstep
    exact ⟨hrest, hbad'.trans hbad, hgood.trans hgood'⟩

theorem nodup_voted (cands : List Candidate) : ((voted cands).map Candidate.text).Nodup := by
  rw [voted_eq]
  exact ((nodup_sorted cands).sublist (quota_sublist _)).sublist (List.take_sublist _ _)

theorem nodup_ranking (prov : Provinces) (cands : List Candidate) :
    ((ranking prov cands).map Candidate.text).Nodup := by
  rw [ranking, List.map_take]
  refine List.Nodup.sublist (List.take_sublist _ _) ?_
  rw [((perm_byScore _).map Candidate.text).nodup_iff]
  exact (foldl_join_spec (fun c hc => (valid_extra _ hc).1) (nodup_voted cands)).1

/-- **The codes of provinces lose no validity**: a list with a valid candidate keeps one, and a list
without gets none. -/
theorem exists_valid_ranking (prov : Provinces) (cands : List Candidate) :
    (∃ c ∈ ranking prov cands, c.valid = true) ↔ ∃ c ∈ voted cands, c.valid = true := by
  obtain ⟨-, hbad, hgood⟩ :=
    foldl_join_spec (fun c hc => (valid_extra prov hc).1) (nodup_voted cands)
  have hextra {cand : Candidate} (h : cand ∈ (extra prov (voted cands)).map Prod.snd) :=
    (valid_extra _ h).2
  rw [ranking]
  generalize (extra prov (voted cands)).map Prod.snd = extras at *
  have hperm : (byScore Candidate.score (extras.foldl join (voted cands))).Perm
      (extras.foldl join (voted cands)) := perm_byScore _
  constructor
  · rintro ⟨c, hc, hvalid⟩
    by_contra hnone
    -- no candidate is valid, so none gets a province
    have hnil : extras = [] :=
      List.eq_nil_iff_forall_not_mem.2 fun cand hcand => hnone (hextra hcand)
    rw [hnil, List.foldl_nil] at hc
    exact hnone ⟨c, mem_byScore.1 (List.mem_of_mem_take hc), hvalid⟩
  · rintro ⟨c, hc, hvalid⟩
    have hpos : 0 < (voted cands).countP Candidate.valid := List.countP_pos_iff.2 ⟨c, hc, hvalid⟩
    have hcut : (voted cands).length ≤ MAX_CANDIDATES := List.length_take_le _ _
    by_contra hnone
    -- all that the last cut leaves is invalid, and there is not enough of that to fill the list
    have hall : ∀ c ∈ (byScore Candidate.score (extras.foldl join (voted cands))).take
        MAX_CANDIDATES, (!c.valid) = true := by
      intro c hc
      rw [Bool.not_eq_true']
      exact Bool.eq_false_iff.2 fun h => hnone ⟨c, hc, h⟩
    have hcount := List.countP_eq_length.2 hall
    have hfew := (List.take_sublist MAX_CANDIDATES _).countP_le.trans
      (hperm.countP_eq fun c => !c.valid).le
    rw [hcount, List.length_take, hperm.length_eq] at hfew
    have hsplit (l : List Candidate) :
        l.length = l.countP Candidate.valid + l.countP fun c => !c.valid := by
      rw [l.length_eq_countP_add_countP Candidate.valid]
      simp
    have hvoted := hsplit (voted cands)
    have hmerged := hsplit (extras.foldl join (voted cands))
    omega

/-! ## The best candidate -/

/-- **What is reported**: a valid candidate above the threshold where the list has one, else a valid
one where it has one. -/
theorem best_spec (minConf : ℚ) (list : List Candidate) :
    ((∃ c ∈ list, c.valid = true ∧ minConf ≤ c.conf) →
      ∃ c, best minConf list = some c ∧ c.valid = true ∧ minConf ≤ c.conf) ∧
    ((∃ c, best minConf list = some c ∧ c.valid = true) ↔ ∃ c ∈ list, c.valid = true) := by
  unfold best
  cases hsure : list.find? fun c => c.valid && decide (minConf ≤ c.conf) with
  | some c =>
    have hc : c.valid = true ∧ minConf ≤ c.conf := by simpa using List.find?_some hsure
    refine ⟨fun _ => ⟨c, rfl, hc⟩, fun _ => ⟨c, List.mem_of_find?_eq_some hsure, hc.1⟩,
      fun _ => ⟨c, rfl, hc.1⟩⟩
  | none =>
    have hnot := List.find?_eq_none.1 hsure
    refine ⟨?_, ?_⟩
    · rintro ⟨c, hc, hvalid, hconf⟩
      exact absurd (by simp [hvalid, hconf]) (hnot c hc)
    cases hany : list.find? Candidate.valid with
    | some c =>
      have hc : c.valid = true := List.find?_some hany
      exact ⟨fun _ => ⟨c, List.mem_of_find?_eq_some hany, hc⟩, fun _ => ⟨c, rfl, hc⟩⟩
    | none =>
      have hnone := List.find?_eq_none.1 hany
      constructor
      · rintro ⟨c, hhead, hvalid⟩
        exact absurd hvalid (hnone c (List.mem_of_mem_head? hhead))
      · rintro ⟨c, hc, hvalid⟩
        exact absurd hvalid (hnone c hc)

/-- What the list and the best candidate have to be, for the candidates that were collected. -/
structure SoundRanking (readings : List Reading) (prov : Provinces) (minConf : ℚ) : Prop where
  distinct : ((ranking prov (candidates readings)).map Candidate.text).Nodup
  short : (ranking prov (candidates readings)).length ≤ MAX_CANDIDATES
  falling : (ranking prov (candidates readings)).Pairwise fun a b => b.score ≤ a.score
  families : ∀ f, (voted (candidates readings)).countP (fun c => family c.text = f) ≤ 3
  valid : (∃ c ∈ candidates readings, (5 ≤ c.text.length ∧ c.text.length ≤ 9) ∧ c.valid = true) →
    ∃ c, best minConf (ranking prov (candidates readings)) = some c ∧ c.valid = true
  sure : (∃ c ∈ ranking prov (candidates readings), c.valid = true ∧ minConf ≤ c.conf) →
    ∃ c, best minConf (ranking prov (candidates readings)) = some c ∧ c.valid = true ∧
      minConf ≤ c.conf

/-- **The list is sound exactly when the first cut keeps a plate**: when, of the plates that were
read, there is one to which the texts that stand before it and are no plates leave a place. -/
theorem sound_ranking_iff (readings : List Reading) (prov : Provinces) (minConf : ℚ) :
    SoundRanking readings prov minConf ↔ Kept (candidates readings) := by
  have hsound := sound_candidates readings
  have hbest := best_spec minConf (ranking prov (candidates readings))
  -- a valid candidate near the length of a plate is a plate among the texts
  have hread : (∃ c ∈ candidates readings, (5 ≤ c.text.length ∧ c.text.length ≤ 9) ∧
      c.valid = true) ↔ ∃ t ∈ texts (candidates readings), plateRe t = true := by
    constructor
    · rintro ⟨c, hc, hlength, hvalid⟩
      have hrange : inRange c = true := by simpa [inRange] using hlength
      refine ⟨c.text, List.mem_map_of_mem (List.mem_filter.2 ⟨hc, hrange⟩), ?_⟩
      rw [← (hsound c hc).valid, hvalid]
    · rintro ⟨t, ht, hplate⟩
      obtain ⟨c, hc, rfl⟩ := List.mem_map.1 ht
      obtain ⟨hmem, hrange⟩ := List.mem_filter.1 hc
      refine ⟨c, hmem, by simpa [inRange] using hrange, ?_⟩
      rw [(hsound c hmem).valid, hplate]
  have hvalid : (∃ c, best minConf (ranking prov (candidates readings)) = some c ∧
      c.valid = true) ↔ ∃ v ∈ texts (candidates readings), plateRe v = true ∧
        places 3 family (rivalsOf (candidates readings) v) < MAX_CANDIDATES :=
    hbest.2.trans ((exists_valid_ranking prov _).trans (exists_valid_voted hsound))
  constructor
  · intro h hplate
    exact hvalid.1 (h.valid (hread.2 hplate))
  · intro hkept
    refine ⟨nodup_ranking prov _, List.length_take_le _ _, ?_, fun f => ?_,
      fun h => hvalid.2 (hkept (hread.1 h)), hbest.1⟩
    · exact (pairwise_byScore _).sublist (List.take_sublist _ _)
    · exact (List.take_sublist _ _).countP_le.trans (count_quota_le _ f)

/-- Four runs of a reader that saw nine digits. -/
def nineDigits (last : Char) : List Reading :=
  List.replicate 4 { text := "12345678".toList ++ [last], conf := 9 / 10, method := "crop".toList }

/-- Twelve texts of nine digits, each read four times, and a plate that was read once. -/
def outvoted : List Reading :=
  ("0123456789".toList.flatMap nineDigits ++
    (List.replicate 4 { text := "987654321".toList, conf := 9 / 10, method := "crop".toList } ++
    List.replicate 4 { text := "987654320".toList, conf := 9 / 10, method := "crop".toList })) ++
  [{ text := "12ب34511".toList, conf := 3 / 20, method := "crop".toList }]

/-- The plate is not in the list, and the best candidate is no plate. -/
theorem plate_outvoted : ¬ SoundRanking outvoted (fun _ => none) (1 / 2) := by
  intro h
  have hread : ∃ c ∈ candidates outvoted, (5 ≤ c.text.length ∧ c.text.length ≤ 9) ∧
      c.valid = true := by decide +kernel
  obtain ⟨c, hbest, hvalid⟩ := h.valid hread
  have hlost : (best (1 / 2) (ranking (fun _ => none) (candidates outvoted))).map
      Candidate.valid = some false := by decide +kernel
  rw [hbest, Option.map_some, hvalid] at hlost
  cases hlost

end ParkingSystem.PlateText
