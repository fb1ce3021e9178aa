import ParkingSystem.Finance.TariffAdmin
import ParkingSystem.Library.Potential
import ParkingSystem.Library.Scheduler

/-!
# The Active Tariff

Creations and activations of tariffs at once, one statement at a time. The tariff in force
should be the one activated last. An activation makes INACTIVE what it saw ACTIVE, and a
creation that needs no approval looks at nothing.
-/

namespace ParkingSystem

open Table Transaction

/-! ## Requests -/

inductive TariffRequest where
  | create (body : TariffCreate)
  | activate (tariffId : ℕ) (user : Option ℕ)

/-- The handler of a request. -/
def TariffRequest.handler (cfg : Config) : TariffRequest → Handler Unit
  | create body => do
    let _ ← createTariff cfg body
    return ()
  | activate tariffId user => do
    let _ ← activateTariff tariffId user
    return ()

/-- A system of tariff requests. -/
abbrev TariffWorld (ι : Type) : Type := World ι Store Lock Label AppError Unit

/-- The requests arrive at a store. -/
def tariffWorld {ι : Type} (cfg : Config) (requests : ι → TariffRequest) (s : Store) :
    TariffWorld ι := .start s fun i => (requests i).handler cfg

/-! ## What is in force -/

/-- Every ACTIVE tariff is the one activated last. -/
def InForce (s : Store) : Prop :=
  ∀ t ∈ s.tariffs, t.status = "ACTIVE" → s.activations.getLast? = some t.id

/-- The tariffs a connection has activated and not committed. -/
def uncommitted {ι : Type} (w : TariffWorld ι) (i : ι) : List ℕ :=
  ((w.conns i).pending {}).activations

/-- No activation waits for its commit. -/
def Quiet {ι : Type} (w : TariffWorld ι) : Prop := ∀ i, uncommitted w i = []

/-- The tariff that a statement activates, if it activates one; a new tariff has no row yet. -/
def Label.activation : Label → Option (Option ℕ)
  | .insertTariff row => if row.status = "ACTIVE" then some none else none
  | .updateTariff loaded u => if u.activates then some (some loaded.id) else none
  | _ => none

/-- **The condition.** A tariff is activated when no activation waits for its commit and no
other tariff is ACTIVE. -/
def ActivatesAlone {ι : Type} (w : TariffWorld ι) (l : Label) (v : Store) : Prop :=
  ∀ own ∈ l.activation, Quiet w ∧ ∀ t ∈ v.tariffs, t.status = "ACTIVE" → own = some t.id

/-- Tariff requests under a condition on their statements; the rest of the system leaves the
tariffs alone. -/
def tariffRegime {ι : Type} (allowed : TariffWorld ι → Label → Store → Prop)
    (w : TariffWorld ι) : Regime Store Label where
  isFresh s n := n ∉ s.tariffs.map Tariff.id
  allowed := allowed w
  env s s' := s'.tariffs = s.tariffs ∧ s'.activations = s.activations

/-! ## Statements -/

/-- What the requests send: tariffs that are inserted, and updates that make a tariff ACTIVE
only as activations. -/
inductive TariffStmt : Stmt → Prop where
  | insert (t : Tariff) : TariffStmt (insertTariff t)
  | update (loaded : Tariff) (u : TariffUpdate)
      (hactive : u.status = some "ACTIVE" → u.activates = true) :
      TariffStmt (updateTariff loaded u)

theorem writesOnly_deactivateOthers (id : ℕ) (others : List Tariff) :
    (deactivateOthers id others).WritesOnly TariffStmt := by
  induction others with
  | nil => trivial
  | cons t rest ih =>
    unfold deactivateOthers
    split
    · exact ih
    · exact (Prog.writesOnly_flush (.update _ _ (fun h => absurd h (by decide)))).bind fun _ => ih

/-- What a request sends. -/
theorem TariffRequest.allWrites (cfg : Config) (q : TariffRequest) :
    (q.handler cfg).AllWrites TariffStmt := by
  cases q with
  | create body =>
    refine Prog.AllWrites.bind ?_ fun _ => trivial
    unfold createTariff
    split
    · refine Prog.writesOnly_newId.allWrites.bind fun id => ?_
      refine Prog.writesOnly_getTime.allWrites.bind fun createdAt => ?_
      refine (Prog.writesOnly_flush (.insert _)).allWrites.bind fun _ => ?_
      exact Prog.allWrites_commitTx.bind fun _ => trivial
    · trivial
  | activate tariffId user =>
    refine Prog.AllWrites.bind ?_ fun _ => trivial
    refine (Prog.writesOnly_select _).allWrites.bind fun obj => ?_
    cases obj with
    | none => trivial
    | some obj =>
      refine (Prog.writesOnly_select _).allWrites.bind fun others => ?_
      refine Prog.writesOnly_getTime.allWrites.bind fun now => ?_
      refine (writesOnly_deactivateOthers _ _).allWrites.bind fun _ => ?_
      refine (Prog.writesOnly_flush (.update _ _ fun _ => rfl)).allWrites.bind fun _ => ?_
      exact Prog.allWrites_commitTx.bind fun _ => trivial

/-! ## Pending updates -/

/-- Pending updates of the tariffs: each row is rewritten by its identifier and its status, rows
are added, and only what is activated becomes ACTIVE. -/
structure TariffEffect (rewrite : Tariff → Tariff) (added : List Tariff) (activated : List ℕ)
    (p : Store → Store) : Prop where
  tariffs : ∀ s, (p s).tariffs = s.tariffs.map rewrite ++ added
  activations : ∀ s, (p s).activations = s.activations ++ activated
  id : ∀ t, (rewrite t).id = t.id
  status : ∀ t t' : Tariff, t.id = t'.id → t.status = t'.status →
    (rewrite t).status = (rewrite t').status
  rewritten : ∀ t, (rewrite t).status = "ACTIVE" → t.status = "ACTIVE" ∨ t.id ∈ activated
  added : ∀ t ∈ added, t.status = "ACTIVE" → t.id ∈ activated

/-- The shape of what a connection has pending. -/
def TariffPending (p : Store → Store) : Prop :=
  ∃ rewrite added, TariffEffect rewrite added (p {}).activations p

theorem tariffPending_id : TariffPending id :=
  ⟨fun t => t, [], by simp, by simp, fun _ => rfl, fun _ _ _ h => h, fun _ h => Or.inl h,
    fun _ h => absurd h List.not_mem_nil⟩

/-- A statement extends what is pending. -/
theorem TariffPending.send {p : Store → Store} (hp : TariffPending p) {st : Stmt}
    (hst : TariffStmt st) : TariffPending fun s => st.apply (p s) := by
  obtain ⟨rewrite, added, h⟩ := hp
  cases hst with
  | insert t =>
    refine ⟨rewrite, added ++ [t], ?_, ?_, h.id, h.status, fun t' ht' => ?_, fun t' ht' hactive => ?_⟩
    · intro s
      show (p s).tariffs ++ [t] = _
      rw [h.tariffs, List.append_assoc]
    · intro s
      show (p s).activations ++ _ = s.activations ++ ((p {}).activations ++ _)
      rw [h.activations, List.append_assoc]
    · exact (h.rewritten t' ht').imp_right (List.mem_append_left _)
    · rcases List.mem_append.1 ht' with hold | hnew
      · exact List.mem_append_left _ (h.added t' hold hactive)
      · obtain rfl := List.mem_singleton.1 hnew
        refine List.mem_append_right _ ?_
        simp [activationOf, hactive]
  | update loaded u hactivates =>
    -- the row after the update, by its identifier and its status
    let written (t : Tariff) : Tariff := if t.id == loaded.id then u.on t else t
    have hid (t : Tariff) : (written t).id = t.id := by
      simp only [written]
      split <;> rfl
    have hstatus (t : Tariff) : (written t).status =
        if t.id = loaded.id then u.status.getD t.status else t.status := by
      by_cases ht : t.id = loaded.id <;> simp [written, ht, TariffUpdate.on]
    have hwritten (t : Tariff) (ht : (written t).status = "ACTIVE") : t.status = "ACTIVE" ∨
        t.id ∈ activationOf loaded.id u.activates := by
      rw [hstatus] at ht
      split at ht
      · rename_i hloaded
        cases hu : u.status with
        | none => exact Or.inl (by simpa [hu] using ht)
        | some status =>
          have hnew : u.status = some "ACTIVE" := by simpa [hu] using ht
          exact Or.inr (by simp [activationOf, hactivates hnew, hloaded])
      · exact Or.inl ht
    refine ⟨written ∘ rewrite, added.map written, ?_, ?_, ?_, ?_, fun t ht => ?_, fun t ht hactive => ?_⟩
    · intro s
      show (p s).tariffs.map written = _
      rw [h.tariffs, List.map_append, List.map_map]
    · intro s
      show (p s).activations ++ _ = s.activations ++ ((p {}).activations ++ _)
      rw [h.activations, List.append_assoc]
    · exact fun t => (hid _).trans (h.id t)
    · intro t t' hids hstatuses
      show (written (rewrite t)).status = (written (rewrite t')).status
      rw [hstatus, hstatus, h.id, h.id, h.status t t' hids hstatuses, hids]
    · rcases hwritten (rewrite t) ht with hold | hnew
      · exact (h.rewritten t hold).imp_right (List.mem_append_left _)
      · exact Or.inr (List.mem_append_right _ (h.id t ▸ hnew))
    · obtain ⟨t₀, ht₀, rfl⟩ := List.mem_map.1 ht
      rw [hid]
      rcases hwritten t₀ hactive with hold | hnew
      · exact List.mem_append_left _ (h.added t₀ ht₀ hold)
      · exact List.mem_append_right _ hnew

section

variable {p q : Store → Store} {s : Store}

/-- Without an activation in it, what is pending keeps the tariff in force. -/
theorem InForce.quiet (h : InForce s) (hp : TariffPending p) (hquiet : (p {}).activations = []) :
    InForce (p s) := by
  obtain ⟨rewrite, added, he⟩ := hp
  intro t ht hactive
  rw [he.activations, hquiet, List.append_nil]
  rw [he.tariffs] at ht
  rcases List.mem_append.1 ht with hold | hnew
  · obtain ⟨t₀, ht₀, rfl⟩ := List.mem_map.1 hold
    rw [he.id]
    refine h t₀ ht₀ ((he.rewritten t₀ hactive).resolve_right fun hmem => ?_)
    rw [hquiet] at hmem
    cases hmem
  · have hmem := he.added t hnew hactive
    rw [hquiet] at hmem
    cases hmem

/-- An activation that would put one tariff in force still does when others commit updates
without one. -/
theorem InForce.after_quiet (hq : TariffPending q) {a : ℕ} (ha : (q {}).activations = [a])
    (h : InForce (q s)) (hp : TariffPending p) (hquiet : (p {}).activations = []) :
    InForce (q (p s)) := by
  obtain ⟨rewriteP, addedP, hp⟩ := hp
  obtain ⟨rewrite, added, hq⟩ := hq
  rw [hquiet] at hp
  rw [ha] at hq
  have hlast (s' : Store) : (q s').activations.getLast? = some a := by
    rw [hq.activations, List.getLast?_concat]
  have hone {t : Tariff} (ht : t ∈ (q s).tariffs) (hactive : t.status = "ACTIVE") : t.id = a :=
    (Option.some.inj ((hlast s).symm.trans (h t ht hactive))).symm
  intro t ht hactive
  rw [hlast]
  refine congrArg some (Eq.symm ?_)
  rw [hq.tariffs] at ht
  rcases List.mem_append.1 ht with hold | hnew
  · obtain ⟨t', ht', rfl⟩ := List.mem_map.1 hold
    rcases hq.rewritten t' hactive with hwas | hactivated
    · rw [hp.tariffs] at ht'
      rcases List.mem_append.1 ht' with hold' | hnew'
      · -- it was ACTIVE before the others committed, and `q` treats it as it did then
        obtain ⟨t₀, ht₀, rfl⟩ := List.mem_map.1 hold'
        have hwas₀ := (hp.rewritten t₀ hwas).resolve_right List.not_mem_nil
        have hthen : (rewrite t₀).status = "ACTIVE" := by
          rw [← hactive]
          exact hq.status _ _ (hp.id t₀).symm (hwas₀.trans hwas.symm)
        have hmem : rewrite t₀ ∈ (q s).tariffs := by
          rw [hq.tariffs]
          exact List.mem_append_left _ (List.mem_map.2 ⟨t₀, ht₀, rfl⟩)
        rw [hq.id, hp.id, ← hq.id t₀]
        exact hone hmem hthen
      · exact absurd (hp.added t' hnew' hwas) List.not_mem_nil
    · rw [hq.id]
      exact List.mem_singleton.1 hactivated
  · exact List.mem_singleton.1 (hq.added t hnew hactive)

/-- Only the tariffs and their activations count. -/
theorem InForce.congr {s' : Store} (hp : TariffPending p) (htariffs : s'.tariffs = s.tariffs)
    (hactivations : s'.activations = s.activations) (h : InForce (p s)) : InForce (p s') := by
  obtain ⟨rewrite, added, he⟩ := hp
  intro t ht hactive
  rw [he.tariffs, htariffs, ← he.tariffs] at ht
  rw [he.activations, hactivations, ← he.activations]
  exact h t ht hactive

end

/-- A statement activates nothing, or the condition puts one tariff in force. -/
theorem TariffStmt.activation {st : Stmt} (hst : TariffStmt st) :
    (st.apply {}).activations = [] ∨ ∃ a, (∀ s, (st.apply s).activations = s.activations ++ [a]) ∧
      ∀ {ι : Type} (w : TariffWorld ι) (v : Store), ActivatesAlone w st.label v →
        Quiet w ∧ InForce (st.apply v) := by
  cases hst with
  | insert t =>
    by_cases hactive : t.status = "ACTIVE"
    · refine Or.inr ⟨t.id, fun s => by simp [insertTariff, activationOf, hactive], ?_⟩
      intro ι w v hallowed
      obtain ⟨hquiet, hother⟩ := hallowed none (by simp [insertTariff, Label.activation, hactive])
      refine ⟨hquiet, fun t' ht' hactive' => ?_⟩
      obtain rfl : t' = t := List.mem_singleton.1 <|
        (List.mem_append.1 ht').resolve_left fun hold => by cases hother t' hold hactive'
      simp [insertTariff, activationOf, hactive]
    · exact Or.inl (by simp [insertTariff, activationOf, hactive])
  | update loaded u hactivates =>
    cases hu : u.activates with
    | false => exact Or.inl (by simp [updateTariff, activationOf, hu])
    | true =>
      refine Or.inr ⟨loaded.id, fun s => by simp [updateTariff, activationOf, hu], ?_⟩
      intro ι w v hallowed
      obtain ⟨hquiet, hother⟩ := hallowed (some loaded.id)
        (by simp [updateTariff, Label.activation, hu])
      refine ⟨hquiet, fun t ht hactive => ?_⟩
      have hid : t.id = loaded.id := by
        rcases mem_updateWhere.1 ht with ⟨t₀, _, hid, rfl⟩ | ⟨hold, _⟩
        · exact beq_iff_eq.1 hid
        · exact (Option.some.inj (hother t hold hactive)).symm
      simp [updateTariff, activationOf, hu, hid]

/-! ## Runs -/

/-- What every run keeps: the tariff in force, and at most one activation that waits for its
commit, which will put its own tariff in force. -/
structure OneWaiting {ι : Type} (w : TariffWorld ι) : Prop where
  written : Written TariffStmt TariffPending w
  inForce : InForce w.committed
  waiting : ∀ i, uncommitted w i ≠ [] → (∃ a, uncommitted w i = [a]) ∧
    InForce ((w.conns i).pending w.committed) ∧ ∀ j, j ≠ i → uncommitted w j = []

section

variable {ι : Type} [DecidableEq ι]

/-- **Step**: an activation under the condition is the only one until it commits. -/
theorem OneWaiting.step {w w' : TariffWorld ι} (h : OneWaiting w)
    (hstep : World.Step (tariffRegime ActivatesAlone w) w w') : OneWaiting w' := by
  have hsame {i : ι} (hi : (w'.conns i).pending = (w.conns i).pending) :
      uncommitted w' i = uncommitted w i := by
    rw [uncommitted, uncommitted, hi]
  have hdropped {i : ι} (hi : (w'.conns i).pending = id) : uncommitted w' i = [] := by
    rw [uncommitted, hi]
    rfl
  have hquietE {i : ι} (hi : uncommitted w i = []) : ((w.conns i).pending {}).activations = [] := hi
  suffices hkept : InForce w'.committed ∧ ∀ i, uncommitted w' i ≠ [] →
      (∃ a, uncommitted w' i = [a]) ∧ InForce ((w'.conns i).pending w'.committed) ∧
        ∀ j, j ≠ i → uncommitted w' j = [] from
    ⟨h.written.step tariffPending_id (fun st hst p hp => hp.send hst) hstep, hkept.1, hkept.2⟩
  cases hstep.effect with
  | quiet i hcommitted hpending hothers =>
    refine ⟨hcommitted ▸ h.inForce, fun k hk => ?_⟩
    have hk' : (w'.conns k).pending = (w.conns k).pending := by
      by_cases hki : k = i
      · subst hki
        exact hpending.resolve_right fun hid => hk (hdropped hid)
      · exact hothers k hki
    rw [hsame hk'] at hk ⊢
    rw [hk', hcommitted]
    obtain ⟨ha, hforce, halone⟩ := h.waiting k hk
    refine ⟨ha, hforce, fun j hj => ?_⟩
    by_cases hji : j = i
    · subst hji
      rcases hpending with hkeeps | hdrops
      · rw [hsame hkeeps, halone j hj]
      · exact hdropped hdrops
    · rw [hsame (hothers j hji), halone j hj]
  | sent i st k hprog hcommitted hallowed hpending hothers =>
    have hst : TariffStmt st := by
      have hi := h.written.prog i
      rw [hprog] at hi
      exact hi.1
    refine ⟨hcommitted ▸ h.inForce, fun k hk => ?_⟩
    have hsent : uncommitted w' i = (st.apply ((w.conns i).pending {})).activations := by
      rw [uncommitted, hpending]
    obtain ⟨rewrite, added, hst'⟩ := tariffPending_id.send hst
    have hall : uncommitted w' i = uncommitted w i ++ (st.apply {}).activations := by
      rw [hsent]
      exact hst'.activations _
    rcases hst.activation with hnothing | ⟨a, hactivates, hcondition⟩
    · -- what was waiting still waits
      have hwas : uncommitted w' i = uncommitted w i := by rw [hall, hnothing, List.append_nil]
      have hsame' (j : ι) : uncommitted w' j = uncommitted w j := by
        by_cases hji : j = i
        · rw [hji, hwas]
        · exact hsame (hothers j hji)
      rw [hsame'] at hk ⊢
      obtain ⟨ha, hforce, halone⟩ := h.waiting k hk
      refine ⟨ha, ?_, fun j hj => (hsame' j).trans (halone j hj)⟩
      rw [hcommitted]
      by_cases hki : k = i
      · subst hki
        rw [hpending]
        exact hforce.quiet (tariffPending_id.send hst) hnothing
      · rw [hothers k hki]
        exact hforce
    · -- the only activation that waits is the new one
      obtain ⟨hquiet, hforce⟩ := hcondition w _ hallowed
      have hothers' (j : ι) (hj : j ≠ i) : uncommitted w' j = [] :=
        (hsame (hothers j hj)).trans (hquiet j)
      obtain rfl : k = i := by
        by_contra hne
        exact hk (hothers' k hne)
      refine ⟨⟨a, ?_⟩, ?_, hothers'⟩
      · rw [hall, hquiet k, hactivates]
        rfl
      · rw [hcommitted, hpending]
        exact hforce
  | committed i hcommitted hpending hothers =>
    have hi : InForce w'.committed := by
      rw [hcommitted]
      by_cases hwaits : uncommitted w i = []
      · exact h.inForce.quiet (h.written.pend i) hwaits
      · exact (h.waiting i hwaits).2.1
    refine ⟨hi, fun k hk => ?_⟩
    have hki : k ≠ i := fun hki => hk (hki ▸ hdropped hpending)
    rw [hsame (hothers k hki)] at hk ⊢
    obtain ⟨⟨a, ha⟩, hforce, halone⟩ := h.waiting k hk
    refine ⟨⟨a, ha⟩, ?_, fun j hj => ?_⟩
    · rw [hothers k hki, hcommitted]
      exact hforce.after_quiet (h.written.pend k) ha (h.written.pend i) (halone i hki.symm)
    · by_cases hji : j = i
      · rw [hji]
        exact hdropped hpending
      · rw [hsame (hothers j hji), halone j hj]
  | env hsettled hconns =>
    have hsame' (j : ι) : uncommitted w' j = uncommitted w j := hsame (by rw [hconns])
    refine ⟨h.inForce.congr tariffPending_id hsettled.1 hsettled.2, fun k hk => ?_⟩
    rw [hsame'] at hk ⊢
    obtain ⟨ha, hforce, halone⟩ := h.waiting k hk
    refine ⟨ha, ?_, fun j hj => (hsame' j).trans (halone j hj)⟩
    rw [hconns]
    exact hforce.congr (h.written.pend k) hsettled.1 hsettled.2

end

/-- The tariff the gate selects is ACTIVE. -/
theorem activeTariff_mem {now : ℤ} {s : Store} {t : Tariff} (h : activeTariff now s = some t) :
    t ∈ s.tariffs ∧ t.status = "ACTIVE" := by
  have hmem := List.mem_of_find?_eq_some h
  simpa [activeTariffs] using hmem

/-- **One tariff in force**: in every run in which tariffs are made ACTIVE one at a time, with no
other ACTIVE one left, all ACTIVE tariffs of every committed store are one tariff, and the gate
selects the one activated last. -/
theorem inForce_run {ι : Type} [DecidableEq ι] (cfg : Config) (requests : ι → TariffRequest)
    (s : Store) (hs : InForce s) (w : TariffWorld ι)
    (hrun : World.RunUnder (tariffRegime ActivatesAlone) (tariffWorld cfg requests s) w) :
    (∀ t ∈ w.committed.tariffs, ∀ t' ∈ w.committed.tariffs, t.status = "ACTIVE" →
      t'.status = "ACTIVE" → t.id = t'.id) ∧
      ∀ now t, activeTariff now w.committed = some t →
        w.committed.activations.getLast? = some t.id := by
  have hstart : OneWaiting (tariffWorld cfg requests s) :=
    ⟨.start tariffPending_id (fun i => (requests i).allWrites cfg) s, hs,
      fun i hi => absurd rfl hi⟩
  have hkept : OneWaiting w := by
    induction hrun with
    | refl => exact hstart
    | tail _ hstep ih => exact ih.step hstep
  refine ⟨fun t ht t' ht' hactive hactive' => ?_, fun now t hselected => ?_⟩
  · have hlast := hkept.inForce t ht hactive
    rw [hkept.inForce t' ht' hactive'] at hlast
    exact (Option.some.inj hlast).symm
  · obtain ⟨ht, hactive⟩ := activeTariff_mem hselected
    exact hkept.inForce t ht hactive

/-! ### A tariff that nobody approved -/

section

variable (w : TariffWorld (Fin 2))

instance : Decidable (Quiet w) := inferInstanceAs (Decidable (∀ i, uncommitted w i = []))

instance (l : Label) (v : Store) : Decidable (ActivatesAlone w l v) :=
  inferInstanceAs (Decidable (∀ own ∈ l.activation,
    Quiet w ∧ ∀ t ∈ v.tariffs, t.status = "ACTIVE" → own = some t.id))

instance (allowed : TariffWorld (Fin 2) → Label → Store → Prop) (s : Store) (n : ℕ) :
    Decidable ((tariffRegime allowed w).isFresh s n) :=
  inferInstanceAs (Decidable (n ∉ s.tariffs.map Tariff.id))

instance (l : Label) (v : Store) : Decidable ((tariffRegime ActivatesAlone w).allowed l v) :=
  inferInstanceAs (Decidable (ActivatesAlone w l v))

instance (l : Label) (v : Store) : Decidable ((tariffRegime (fun _ _ _ => True) w).allowed l v) :=
  inferInstanceAs (Decidable True)

end

/-- A tariff in force and a draft. -/
def tariffStore : Store :=
  { tariffs := [{ id := 1, title := "winter", hourlyAmount := 1000, createdAt := 0 },
      { id := 2, title := "spring", hourlyAmount := 2000, createdAt := 0, status := "DRAFT" }]
    activations := [1] }

theorem inForce_tariffStore : InForce tariffStore := by
  intro t ht hactive
  rcases List.mem_pair.1 ht with rfl | rfl
  · rfl
  · exact absurd hactive (by decide)

/-- The draft is activated, and a third tariff is created. -/
def tariffRequests : Fin 2 → TariffRequest
  | 0 => .activate 2 none
  | 1 => .create { title := "summer", hourlyAmount := 3000 }

/-- The activation alone puts the draft in force. -/
theorem inForce_run_draft :
    ∃ w, World.RunUnder (tariffRegime ActivatesAlone) (tariffWorld {} tariffRequests tariffStore) w ∧
      w.committed.activations = [1, 2] ∧
      ∀ now t, activeTariff now w.committed = some t →
        w.committed.activations.getLast? = some t.id := by
  have hrun : (World.burstUnder (tariffRegime ActivatesAlone) 0 0 6 10
      (tariffWorld {} tariffRequests tariffStore)).any
      (fun w => w.committed.activations == [1, 2]) = true := by decide
  obtain ⟨w, hw, hactivated⟩ := (Option.any_eq_true _ _).1 hrun
  have hsteps := World.burstUnder_run hw
  exact ⟨w, hsteps, beq_iff_eq.1 hactivated,
    (inForce_run {} tariffRequests tariffStore inForce_tariffStore w hsteps).2⟩

/-- **Two tariffs in force**: without approval a new tariff is ACTIVE at once, beside the one
that is. -/
theorem created_beside_active :
    ¬ ∀ (cfg : Config) (requests : Fin 2 → TariffRequest) (s : Store), InForce s →
      ∀ w, World.RunUnder (tariffRegime fun _ _ _ => True) (tariffWorld cfg requests s) w →
        ∀ t ∈ w.committed.tariffs, ∀ t' ∈ w.committed.tariffs, t.status = "ACTIVE" →
          t'.status = "ACTIVE" → t.id = t'.id := by
  intro h
  have hrun : (World.burstUnder (tariffRegime fun _ _ _ => True) 1 0 4 10
      (tariffWorld { tariffRequireApproval := false } tariffRequests tariffStore)).any (fun w =>
        w.committed.tariffs.any fun t => t.status == "ACTIVE" && w.committed.tariffs.any fun t' =>
          t'.status == "ACTIVE" && t.id != t'.id) = true := by decide
  obtain ⟨w, hw, hboth⟩ := (Option.any_eq_true _ _).1 hrun
  simp only [List.any_eq_true, Bool.and_eq_true, beq_iff_eq, bne_iff_ne] at hboth
  obtain ⟨t, ht, hactive, t', ht', hactive', hne⟩ := hboth
  exact hne (h _ tariffRequests tariffStore inForce_tariffStore w (World.burstUnder_run hw) t ht t'
    ht' hactive hactive')

end ParkingSystem
