import ParkingSystem.ConfigAdmin
import ParkingSystem.Library.Scheduler

/-!
# Published Rules

Edits, publications and disablings of rules at once, one statement at a time. What is in force
should be what a publication read. Each handler decides from the row it read, and each sends a
different set of columns, so two of them can together put a content in force that no
publication has seen.
-/

namespace ParkingSystem

open Table Transaction

/-! ## Requests -/

inductive RuleRequest where
  | update (ruleId : ℕ) (body : RuleBody)
  | publish (ruleId : ℕ) (user : Option ℕ)
  | disable (ruleId : ℕ)

/-- The handler of a request. -/
def RuleRequest.handler : RuleRequest → Handler String
  | update ruleId body => updateRule ruleId body
  | publish ruleId user => publishRule ruleId user
  | disable ruleId => disableRule ruleId

/-- The requests arrive at a store. -/
def ruleWorld {ι : Type} (requests : ι → RuleRequest) (s : Store) :
    World ι Store Lock Label AppError String := .start s fun i => (requests i).handler

/-! ## What is in force -/

/-- The content that the last publication of a rule read. -/
def lastPublished (ruleId : ℕ) (s : Store) : Option RuleContent :=
  (rowsAt Publication.ruleId ruleId s.publications).getLast?.map Publication.content

/-- Every ACTIVE rule is what the publication that made it ACTIVE read. -/
def Published (s : Store) : Prop :=
  ∀ r ∈ s.rules, r.status = "ACTIVE" → lastPublished r.id s = some r.content

/-- **The condition.** A publication finds the content it read, and an edit finds the rule
ACTIVE only where it read it as ACTIVE. -/
def FindsRuleAsRead : Label → Store → Prop
  | .updateRule loaded u, v => ∀ r ∈ v.rules, r.id = loaded.id →
    (u.status = some "ACTIVE" → r.content = loaded.content) ∧
      (u.touchesContent = true → r.status = "ACTIVE" → loaded.status = "ACTIVE")
  | _, _ => True

/-- Requests on rules under a condition on their statements; the rest of the system leaves the
rules alone. -/
def ruleRegime (allowed : Label → Store → Prop) : Regime Store Label where
  isFresh s n := n ∉ s.ids
  allowed := allowed
  env s s' := s'.rules = s.rules ∧ s'.publications = s.publications

/-! ## One update -/

/-- An update of a rule leaves the other rules alone. -/
theorem sendRule_rows {loaded : EntryExitRule} {id : ℕ} (h : id ≠ loaded.id) (u : RuleUpdate)
    (s : Store) : rowsAt EntryExitRule.id id ((sendRule loaded u).apply s).rules =
      rowsAt EntryExitRule.id id s.rules := by
  have hid (r : EntryExitRule) : (u.on r).id = r.id := rfl
  exact rowsAt_updateWhere_of_ne hid h.symm s.rules

theorem lastPublished_of_ne {loaded : EntryExitRule} {id : ℕ} (h : id ≠ loaded.id)
    (u : RuleUpdate) (s : Store) :
    lastPublished id ((sendRule loaded u).apply s) = lastPublished id s := by
  show ((rowsAt _ id (s.publications ++ u.published loaded)).getLast?).map _ = _
  unfold RuleUpdate.published
  split
  · have hother : ({ ruleId := loaded.id, content := loaded.content } : Publication).ruleId ≠ id :=
      h.symm
    rw [rowsAt_append_of_ne hother]
    rfl
  · rw [List.append_nil]
    rfl

/-- A publication is the last one of its rule. -/
theorem lastPublished_of_active {loaded : EntryExitRule} {u : RuleUpdate}
    (h : u.status = some "ACTIVE") (s : Store) :
    lastPublished loaded.id ((sendRule loaded u).apply s) = some loaded.content := by
  have hself := rowsAt_append_self Publication.ruleId s.publications
    { ruleId := loaded.id, content := loaded.content }
  show ((rowsAt _ loaded.id (s.publications ++ u.published loaded)).getLast?).map _ = _
  rw [RuleUpdate.published, if_pos h, hself, List.getLast?_concat]
  rfl

theorem lastPublished_of_not_active {loaded : EntryExitRule} {u : RuleUpdate}
    (h : u.status ≠ some "ACTIVE") (id : ℕ) (s : Store) :
    lastPublished id ((sendRule loaded u).apply s) = lastPublished id s := by
  show ((rowsAt _ id (s.publications ++ u.published loaded)).getLast?).map _ = _
  rw [RuleUpdate.published, if_neg h, List.append_nil]
  rfl

/-- **Step**: an update that finds the rule as it was read keeps what is in force published. -/
theorem Published.sendRule {loaded : EntryExitRule} {u : RuleUpdate} (hu : u.Demotes loaded)
    {s : Store} (h : Published s) (hfinds : FindsRuleAsRead (.updateRule loaded u) s) :
    Published ((sendRule loaded u).apply s) := by
  intro r hr hactive
  rcases mem_updateWhere.1 hr with ⟨q, hq, hid, rfl⟩ | ⟨hin, hother⟩
  · have hid : q.id = loaded.id := by simpa using hid
    obtain ⟨hpublished, hedited⟩ := hfinds q hq hid
    show lastPublished q.id _ = _
    by_cases hstatus : u.status = some "ACTIVE"
    · -- a publication sends no content, and finds the one it read
      have huntouched : u.touchesContent = false := by
        by_contra htouches
        exact hu.apart (by simpa using htouches) hstatus
      rw [hid, lastPublished_of_active hstatus, RuleUpdate.content_of_untouched huntouched,
        hpublished hstatus]
    · rw [lastPublished_of_not_active hstatus]
      -- the rule was ACTIVE already, and no content is sent
      have hkept : q.status = "ACTIVE" ∧ u.status = none := by
        cases hsent : u.status with
        | none => exact ⟨by simpa [RuleUpdate.on, hsent] using hactive, rfl⟩
        | some status =>
          have : status = "ACTIVE" := by simpa [RuleUpdate.on, hsent] using hactive
          exact absurd (hsent.trans (congrArg some this)) hstatus
      have huntouched : u.touchesContent = false := by
        by_contra htouches
        have htouches : u.touchesContent = true := by simpa using htouches
        exact hu.demoted htouches (hedited htouches hkept.1) hkept.2
      rw [RuleUpdate.content_of_untouched huntouched]
      exact h q hq hkept.1
  · have hother : r.id ≠ loaded.id := by simpa using hother
    rw [lastPublished_of_ne hother]
    exact h r hin hactive

/-! ## Rely and guarantee -/

/-- The others keep what is in force published, and leave locked rules alone. -/
def ruleR : Interference Store Lock := fun H s s' =>
  (Published s → Published s') ∧ ∀ id, .ruleRow id ∈ H.locks →
    rowsAt EntryExitRule.id id s'.rules = rowsAt EntryExitRule.id id s.rules

/-- A commit keeps what is in force published, and writes locked rules only. -/
def ruleG : Interference Store Lock := fun H s s' =>
  (Published s → Published s') ∧ ∀ id, .ruleRow id ∉ H.locks →
    rowsAt EntryExitRule.id id s'.rules = rowsAt EntryExitRule.id id s.rules

theorem ruleR_refl (H : Held Lock) (s : Store) : ruleR H s s := ⟨id, fun _ _ => rfl⟩

theorem ruleR_trans (H : Held Lock) (s₁ s₂ s₃ : Store) (h : ruleR H s₁ s₂) (h' : ruleR H s₂ s₃) :
    ruleR H s₁ s₃ :=
  ⟨fun hs => h'.1 (h.1 hs), fun id hl => (h'.2 id hl).trans (h.2 id hl)⟩

/-- What others have committed of the rules and publications. -/
theorem ruleR_of_same {s s' : Store} (hrules : s'.rules = s.rules)
    (hpublications : s'.publications = s.publications) (H : Held Lock) : ruleR H s s' := by
  refine ⟨fun h r hr hactive => ?_, fun id _ => by rw [hrules]⟩
  rw [hrules] at hr
  rw [lastPublished, hpublications]
  exact h r hr hactive

theorem ruleContract {ι : Type} (allowed : Label → Store → Prop) :
    World.Contract (ruleRegime allowed) ruleR ruleG
      (fun _ : ι => anyEnd (ε := AppError) (α := String)) where
  refl := ruleR_refl
  trans := ruleR_trans
  env _ _ h H := ruleR_of_same h.1 h.2 H
  guarantee _ _ _ _ hd hG :=
    -- a rule that one transaction locked is not written by another
    ⟨hG.1, fun id hl => hG.2 id fun hl' => hd.locks _ hl' hl⟩
  aborted _ _ := trivial
  closed _ _ _ _ _ _ _ _ _ := trivial

/-! ## The requests -/

/-- **Saving is safe**: what is sent finds the rule as it was read, and the lock keeps the rule
so until the commit. -/
theorem safe_saveRule {r : EntryExitRule} {u : RuleUpdate} (hu : u.Demotes r) (H : Held Lock)
    (s : Store) : (saveRule r u).Safe (ruleRegime FindsRuleAsRead) ruleR ruleG anyEnd id false H s := by
  have hfinish {pend : Store → Store} {H : Held Lock} {s : Store}
      (hG : ∀ s', ruleR H s s' → ruleG H s' (pend s')) :
      ((Prog.commitTx : Handler Unit).bind fun _ => .ret (u.on r).status).Safe
        (ruleRegime FindsRuleAsRead) ruleR ruleG anyEnd pend false H s :=
    Prog.safe_commit (fun _ _ _ _ _ => trivial) fun _ s' hR =>
      ⟨hG s' hR, Prog.safe_ret fun _ _ => trivial⟩
  unfold saveRule sendChanges
  split
  · exact hfinish fun s' _ => ⟨id, fun _ _ => rfl⟩
  · refine Prog.safe_flush (fun _ _ _ _ _ => trivial) (fun _ _ _ _ _ _ _ _ => trivial)
      fun _ s₁ _ hallowed _ => hfinish fun s₂ hR => ⟨fun hs => ?_, fun id hl => ?_⟩
    · -- the rule is still as the UPDATE found it
      have hrows := hR.2 r.id (by simp [sendRule, Held.lock])
      refine hs.sendRule hu fun q hq hid => hallowed q ?_ hid
      exact (mem_rowsAt.1 (hrows ▸ mem_rowsAt.2 ⟨hq, hid⟩)).1
    · exact sendRule_rows (fun hid => hl (by simp [sendRule, Held.lock, hid])) u s₂

theorem safe_withRule {ruleId : ℕ} {k : EntryExitRule → Handler String} {s : Store}
    (h : ∀ r s', (k r).Safe (ruleRegime FindsRuleAsRead) ruleR ruleG anyEnd id false {} s') :
    (withRule ruleId k).Safe (ruleRegime FindsRuleAsRead) ruleR ruleG anyEnd id false {} s := by
  have hnone (s' : Store) : (Prog.raise .notFound : Handler String).Safe
      (ruleRegime FindsRuleAsRead) ruleR ruleG anyEnd id false {} s' := fun _ _ => trivial
  refine Prog.safe_select (fun hb => by cases hb) fun _ s' _ => ?_
  cases ruleById ruleId (id s') with
  | none => exact hnone s'
  | some r => exact h r s'

/-- **Step**: every request is safe, at whatever store it arrives. -/
theorem RuleRequest.safe (q : RuleRequest) (s : Store) :
    q.handler.Safe (ruleRegime FindsRuleAsRead) ruleR ruleG anyEnd id false {} s := by
  cases q with
  | update ruleId body => exact safe_withRule fun r s' => safe_saveRule (body.demotes r) {} s'
  | publish ruleId user =>
    exact safe_withRule fun r s' => Prog.safe_getTime fun s'' now _ =>
      safe_saveRule (publication_demotes r user now) {} s''
  | disable ruleId => exact safe_withRule fun r s' => safe_saveRule (disabling_demotes r) {} s'

/-- **What is in force**: in every run in which publications and edits find the rule as they
read it, every ACTIVE rule is what its last publication read. -/
theorem published_run {ι : Type} [DecidableEq ι] (requests : ι → RuleRequest) (s : Store)
    (hs : Published s) (w : World ι Store Lock Label AppError String)
    (hrun : World.Run (ruleRegime FindsRuleAsRead) (ruleWorld requests s) w) :
    Published w.committed := by
  have hok : World.Ok (ruleRegime FindsRuleAsRead) ruleR ruleG (fun _ : ι => anyEnd)
      (ruleWorld requests s) := World.Ok.init fun i => (requests i).safe s
  exact (hok.run (ruleContract _) hrun).2.1 hs

/-! ### An edit over a publication -/

instance : ∀ (l : Label) (v : Store), Decidable (FindsRuleAsRead l v)
  | .updateRule loaded u, v => inferInstanceAs (Decidable (∀ r ∈ v.rules, r.id = loaded.id →
      (u.status = some "ACTIVE" → r.content = loaded.content) ∧
        (u.touchesContent = true → r.status = "ACTIVE" → loaded.status = "ACTIVE")))
  | .insertSession _, _ | .insertRecognition _, _ | .insertEvent _, _ | .updateSession, _
  | .insertCharge, _ | .updateCharge _, _ | .insertPayment, _ | .insertAllocation, _
  | .insertAdjustment _, _ | .updateAdjustment _, _ | .updatePermit _, _ | .insertOccupancy, _
  | .updateOccupancy, _ | .lockSpace, _ | .updateSpace, _ | .insertAssignment, _
  | .updateAssignment, _ | .insertRule, _ | .insertTariff _, _ | .updateTariff _ _, _
  | .updateViolation, _ | .updateAppeal, _ | .registry _, _ | .identity _, _ =>
    inferInstanceAs (Decidable True)

instance (allowed : Label → Store → Prop) (s : Store) (n : ℕ) :
    Decidable ((ruleRegime allowed).isFresh s n) := inferInstanceAs (Decidable (n ∉ s.ids))

instance (l : Label) (v : Store) : Decidable ((ruleRegime FindsRuleAsRead).allowed l v) :=
  inferInstanceAs (Decidable (FindsRuleAsRead l v))

instance (l : Label) (v : Store) : Decidable ((ruleRegime fun _ _ => True).allowed l v) :=
  inferInstanceAs (Decidable True)

/-- One draft. -/
def draftStore : Store :=
  { rules := [{ id := 1, name := "guests", conditions := []
                actions := [[("action", .str "refer_to_guard")]] }] }

/-- The draft is published, and its action is changed. -/
def editRace : Fin 2 → RuleRequest
  | 0 => .publish 1 none
  | 1 => .update 1 { name := "guests", actions := some [[("action", .str "allow_with_warning")]] }

/-- What a schedule of the two requests leads to. -/
def afterEdit (allowed : Label → Store → Prop)
    [∀ l v, Decidable ((ruleRegime allowed).allowed l v)] (sched : List (Fin 2 × ℕ × ℤ)) :
    Option (World (Fin 2) Store Lock Label AppError String) :=
  World.runSchedule (ruleRegime allowed) sched 10 (ruleWorld editRace draftStore)

/-- Only drafts: nothing is in force. -/
theorem published_draftStore : Published draftStore := by
  intro r hr hactive
  rw [List.mem_singleton.1 hr] at hactive
  exact absurd hactive (by decide)

/-- The publication alone puts in force what it read. -/
theorem published_run_draftStore :
    ∃ w, World.Run (ruleRegime FindsRuleAsRead) (ruleWorld editRace draftStore) w ∧
      w.committed.rules.map EntryExitRule.status = ["ACTIVE"] ∧ Published w.committed := by
  have hrun : (afterEdit FindsRuleAsRead [(0, 5, 0)]).any
      (fun w => w.committed.rules.map EntryExitRule.status == ["ACTIVE"]) = true := by decide
  obtain ⟨w, hw, hactive⟩ := (Option.any_eq_true _ _).1 hrun
  have hsteps := World.runSchedule_run hw
  exact ⟨w, hsteps, beq_iff_eq.1 hactive,
    published_run editRace draftStore published_draftStore w hsteps⟩

/-- **An edit in force that nobody published**: the edit reads a draft, the publication commits,
and the edit writes its action without a status. -/
theorem edit_in_force :
    ¬ ∀ (requests : Fin 2 → RuleRequest) (s : Store), Published s →
      ∀ w, World.Run (ruleRegime fun _ _ => True) (ruleWorld requests s) w →
        Published w.committed := by
  intro h
  have hrun : (afterEdit (fun _ _ => True) [(1, 1, 0), (0, 5, 0), (1, 3, 0)]).any (fun w =>
      w.allReturned && w.committed.rules.any fun r =>
        r.status == "ACTIVE" && lastPublished r.id w.committed != some r.content) = true := by decide
  obtain ⟨w, hw, hboth⟩ := (Option.any_eq_true _ _).1 hrun
  simp only [Bool.and_eq_true, List.any_eq_true, beq_iff_eq, bne_iff_ne] at hboth
  obtain ⟨_, r, hr, hactive, hother⟩ := hboth
  exact hother (h editRace draftStore published_draftStore w (World.runSchedule_run hw) r hr hactive)

end ParkingSystem
