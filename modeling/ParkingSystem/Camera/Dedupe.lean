import ParkingSystem.Camera.Leader

/-!
# Repeated Offers of a Plate

`_should_emit` over a whole run of one worker. The table is pruned once it has more than five
hundred keys, so what it still knows is not every plate that was sent.

## Why pruning is safe

What is pruned is older than four windows and older than a minute, and so older than a window: an
accepted offer is in the table, or its window is over.
-/

namespace ParkingSystem

/-! ## Runs -/

/-- A key offered to `_should_emit`, with the time of the call in seconds. -/
structure Offer where
  key : String
  time : ℚ
  deriving DecidableEq, Repr

/-- The offers of a run with the answers of `_should_emit`. -/
def answerOffers (cfg : Config) : LastEmit → List Offer → List (Offer × Bool)
  | _, [] => []
  | last, o :: os =>
    let (sent, last) := shouldEmit cfg o.key o.time last
    (o, sent) :: answerOffers cfg last os

/-- Every offer is answered, in order. -/
@[simp] theorem answerOffers_map_fst (cfg : Config) (last : LastEmit) (os : List Offer) :
    (answerOffers cfg last os).map Prod.fst = os := by
  induction os generalizing last with
  | nil => rfl
  | cons o os ih => simp [answerOffers, ih]

/-- What a window between two events of a plate is for. -/
structure Deduped (ttl : ℚ) (answers : List (Offer × Bool)) : Prop where
  /-- Two accepted offers of a key are a window apart. -/
  spaced : (answers.filter Prod.snd).Pairwise fun a b =>
    a.1.key = b.1.key → ttl ≤ b.1.time - a.1.time
  /-- A rejected offer comes within the window of an accepted one. -/
  justified : ∀ before o after, answers = before ++ (o, false) :: after →
    ∃ a, (a, true) ∈ before ∧ a.key = o.key ∧ o.time - a.time < ttl

/-! ## The invariant -/

/-- What the table knows at a time of the answers so far. -/
structure TableKnows (ttl now : ℚ) (answers : List (Offer × Bool)) (last : LastEmit) : Prop where
  /-- An entry is an accepted offer. -/
  accepted : ∀ entry ∈ last, (⟨entry.1, entry.2⟩, true) ∈ answers
  /-- An accepted offer is known, by itself or a later one, until its window is over. -/
  remembered : ∀ a, (a, true) ∈ answers →
    ttl ≤ now - a.time ∨ ∃ t, last.lookup a.key = some t ∧ a.time ≤ t
  positive : ∀ a, (a, true) ∈ answers → 0 < a.time
  past : ∀ a, (a, true) ∈ answers → a.time ≤ now

section

variable {cfg : Config} {o : Offer} {now : ℚ} {answers : List (Offer × Bool)} {last : LastEmit}

theorem TableKnows.later (h : TableKnows cfg.cameraDedupeTtl now answers last) {now' : ℚ}
    (hnow : now ≤ now') : TableKnows cfg.cameraDedupeTtl now' answers last where
  accepted := h.accepted
  remembered a ha := (h.remembered a ha).imp_left fun hover => by linarith
  positive := h.positive
  past a ha := (h.past a ha).trans hnow

/-- What is in the table after an offer was in it before, or is the offer. -/
theorem mem_shouldEmit {entry : String × ℚ} (h : entry ∈ (shouldEmit cfg o.key o.time last).2) :
    entry ∈ last ∨ (shouldEmit cfg o.key o.time last).1 = true ∧ entry = (o.key, o.time) := by
  unfold shouldEmit at h ⊢
  split at h
  · exact .inl h
  · rename_i hnot
    rw [if_neg hnot]
    have hsent : entry ∈ (o.key, o.time) :: last.filter fun entry => entry.1 != o.key := by
      dsimp only at h
      split at h
      · exact (List.mem_filter.1 h).1
      · exact h
    rcases List.mem_cons.1 hsent with hnew | hold
    · exact .inr ⟨rfl, hnew⟩
    · exact .inl (List.mem_filter.1 hold).1

/-- An offer that is rejected comes within the window of an accepted one. -/
theorem TableKnows.rejected (h : TableKnows cfg.cameraDedupeTtl now answers last)
    (hreject : (shouldEmit cfg o.key o.time last).1 = false) :
    ∃ a, (a, true) ∈ answers ∧ a.key = o.key ∧ o.time - a.time < cfg.cameraDedupeTtl := by
  unfold shouldEmit at hreject
  split at hreject
  · rename_i hrecent
    obtain ⟨t, hlookup, hprev⟩ := (Option.any_eq_true _ _).1 hrecent
    obtain ⟨before, after, rfl, -⟩ := List.lookup_eq_some_iff.1 hlookup
    have hentry := h.accepted (o.key, t) (List.mem_append_right before List.mem_cons_self)
    exact ⟨⟨o.key, t⟩, hentry, rfl, by simpa using (Bool.and_eq_true_iff.1 hprev).2⟩
  · cases hreject

/-- An offer that is accepted is a window away from those of its key. -/
theorem TableKnows.apart (h : TableKnows cfg.cameraDedupeTtl o.time answers last)
    (haccept : (shouldEmit cfg o.key o.time last).1 = true) {a : Offer}
    (ha : (a, true) ∈ answers) (hkey : a.key = o.key) :
    cfg.cameraDedupeTtl ≤ o.time - a.time := by
  rcases h.remembered a ha with hover | ⟨t, hlookup, hle⟩
  · exact hover
  · rw [hkey] at hlookup
    have hpos := h.positive a ha
    have hwindow := (shouldEmit_true haccept).1 t hlookup (by linarith)
    linarith

/-- **An offer** keeps what the table knows. -/
theorem TableKnows.step (h : TableKnows cfg.cameraDedupeTtl o.time answers last)
    (hpos : 0 < o.time) :
    TableKnows cfg.cameraDedupeTtl o.time
      (answers ++ [(o, (shouldEmit cfg o.key o.time last).1)])
      (shouldEmit cfg o.key o.time last).2 := by
  cases hsent : (shouldEmit cfg o.key o.time last).1 with
  | false =>
    have hmem {a : Offer} : (a, true) ∈ answers ++ [(o, false)] ↔ (a, true) ∈ answers := by simp
    rw [shouldEmit_false hsent]
    exact {
      accepted := fun entry hentry => hmem.2 (h.accepted entry hentry)
      remembered := fun a ha => h.remembered a (hmem.1 ha)
      positive := fun a ha => h.positive a (hmem.1 ha)
      past := fun a ha => h.past a (hmem.1 ha) }
  | true =>
    have hmem {a : Offer} : (a, true) ∈ answers ++ [(o, true)] ↔ (a, true) ∈ answers ∨ a = o := by
      simp
    obtain ⟨-, hnew, hothers⟩ := shouldEmit_true hsent
    refine ⟨fun entry hentry => ?_, fun a ha => ?_, fun a ha => ?_, fun a ha => ?_⟩
    · rcases mem_shouldEmit hentry with hold | ⟨-, rfl⟩
      · exact hmem.2 (.inl (h.accepted entry hold))
      · exact hmem.2 (.inr rfl)
    · by_cases hkey : a.key = o.key
      · -- the table has the new offer of the key
        refine .inr ⟨o.time, hkey ▸ hnew, ?_⟩
        rcases hmem.1 ha with hold | rfl
        · exact h.past a hold
        · exact le_rfl
      · have hold : (a, true) ∈ answers := (hmem.1 ha).resolve_right fun hao => hkey (hao ▸ rfl)
        rcases h.remembered a hold with hover | ⟨t, hlookup, hle⟩
        · exact .inl hover
        · rcases hothers a.key t hkey hlookup with hover | hkept
          · exact .inl (by linarith)
          · exact .inr ⟨t, hkept, hle⟩
    · rcases hmem.1 ha with hold | rfl
      · exact h.positive a hold
      · exact hpos
    · rcases hmem.1 ha with hold | rfl
      · exact h.past a hold
      · exact le_rfl

theorem tableKnows_nil (ttl now : ℚ) : TableKnows ttl now [] [] where
  accepted := by simp
  remembered := by simp
  positive := by simp
  past := by simp

/-! ## The law -/

theorem Deduped.snoc {ttl : ℚ} {sent : Bool} (h : Deduped ttl answers)
    (hspaced : sent = true → ∀ a, (a, true) ∈ answers → a.key = o.key → ttl ≤ o.time - a.time)
    (hjustified : sent = false → ∃ a, (a, true) ∈ answers ∧ a.key = o.key ∧ o.time - a.time < ttl) :
    Deduped ttl (answers ++ [(o, sent)]) where
  spaced := by
    cases sent with
    | false => simpa using h.spaced
    | true =>
      rw [List.filter_append, List.pairwise_append]
      refine ⟨h.spaced, by simp, ?_⟩
      rintro ⟨a, ok⟩ ha b hb hkey
      obtain ⟨ha, rfl⟩ := List.mem_filter.1 ha
      obtain rfl : b = (o, true) := by simpa using hb
      exact hspaced rfl a ha hkey
  justified := by
    intro before p after hsplit
    rcases List.eq_nil_or_concat after with rfl | ⟨rest, last, rfl⟩
    · -- the rejected offer is the new one
      obtain ⟨rfl, hnew⟩ := List.append_inj' hsplit rfl
      obtain ⟨rfl, rfl⟩ := Prod.mk.inj (List.singleton_inj.1 hnew)
      exact hjustified rfl
    · have hold : answers ++ [(o, sent)] = before ++ (p, false) :: rest ++ [last] := by
        simpa using hsplit
      exact h.justified before p rest (List.append_inj' hold rfl).1

/-- The rest of a run keeps the law. -/
theorem deduped_answerOffers (os : List Offer) (hpos : ∀ o ∈ os, 0 < o.time)
    (hsorted : (now :: os.map Offer.time).Pairwise (· ≤ ·))
    (hknows : TableKnows cfg.cameraDedupeTtl now answers last)
    (hlaw : Deduped cfg.cameraDedupeTtl answers) :
    Deduped cfg.cameraDedupeTtl (answers ++ answerOffers cfg last os) := by
  induction os generalizing now answers last with
  | nil => simpa [answerOffers] using hlaw
  | cons o os ih =>
    rw [List.map_cons, List.pairwise_cons] at hsorted
    have hnow := hknows.later (hsorted.1 o.time List.mem_cons_self)
    have hstep := hnow.step (hpos o List.mem_cons_self)
    have hlaw' := @Deduped.snoc o answers _ (shouldEmit cfg o.key o.time last).1 hlaw
      (fun haccept a ha hkey => hnow.apart haccept ha hkey) fun hreject => hnow.rejected hreject
    have hrest := ih (fun p hp => hpos p (List.mem_cons_of_mem o hp)) hsorted.2 hstep hlaw'
    rw [List.append_assoc] at hrest
    exact hrest

end

/-- **Repeated offers**: whatever keys are offered at times that do not go back, the offers of a
key that are accepted are a window apart, and only what comes within a window is rejected. -/
theorem answerOffers_deduped (cfg : Config) (os : List Offer) (hpos : ∀ o ∈ os, 0 < o.time)
    (hsorted : (os.map Offer.time).Pairwise (· ≤ ·)) :
    Deduped cfg.cameraDedupeTtl (answerOffers cfg [] os) := by
  have hstart : ((0 : ℚ) :: os.map Offer.time).Pairwise (· ≤ ·) := by
    rw [List.pairwise_cons]
    refine ⟨fun time htime => ?_, hsorted⟩
    obtain ⟨o, ho, rfl⟩ := List.mem_map.1 htime
    exact (hpos o ho).le
  have hempty : Deduped cfg.cameraDedupeTtl [] := ⟨by simp, by simp⟩
  exact deduped_answerOffers os hpos hstart (tableKnows_nil _ 0) hempty

/-- A plate that comes again within the minute is rejected, and accepted after it. -/
theorem answerOffers_deduped_again :
    Deduped 60 (answerOffers {} [] [⟨"12B345", 1⟩, ⟨"12B345", 31⟩, ⟨"12B345", 61⟩]) :=
  answerOffers_deduped {} [⟨"12B345", 1⟩, ⟨"12B345", 31⟩, ⟨"12B345", 61⟩]
    (by simp) (by simp; norm_num)

end ParkingSystem
