import ParkingSystem.Gate.Bookkeeping

/-!
# Events That Are Answered

The other direction of the account of an event: from what the store accepts, that the handler
returns and how.
-/

namespace ParkingSystem

open PyValue Table Transaction

/-! ## Answering -/

section

variable {cfg : Config} {e : PlateEvent} {clk : ℕ → ℤ} {r : Reading} {v : Verdict}
  {w : Session Store}

theorem replies_vehicleUnitInfo (vehicle : Vehicle) : (vehicleUnitInfo vehicle).Replies := by
  unfold vehicleUnitInfo
  cases vehicle.unitId with
  | none => exact Prog.replies_ret _
  | some id =>
    refine (Prog.replies_select _).bind fun unit => ?_
    cases unit with
    | none => exact Prog.replies_ret _
    | some u => exact (Prog.replies_select _).bind fun _ => Prog.replies_ret _

theorem replies_unitInfo (vehicle : Option Vehicle) : (unitInfo vehicle).Replies := by
  cases vehicle with
  | none => exact Prog.replies_ret _
  | some v => exact replies_vehicleUnitInfo v

theorem replies_findAssignedSpace (vehicle : Option Vehicle) :
    (findAssignedSpace vehicle).Replies := by
  cases vehicle with
  | none => exact Prog.replies_ret _
  | some v => exact Prog.replies_select _

theorem replies_shownSpace (parking : Option ParkingInfo) : (shownSpace e r parking).Replies := by
  unfold shownSpace
  split
  · exact (replies_findAssignedSpace _).bind fun _ => Prog.replies_ret _
  · exact Prog.replies_ret _

/-- The answer to an event. -/
theorem replies_respond (event : AccessEvent) (id : Option ℕ) (parking : Option ParkingInfo)
    (warnings : List Warning) : (respond e r v event id parking warnings).Replies :=
  (replies_unitInfo _).bind fun _ => (replies_shownSpace _).bind fun _ => Prog.replies_ret _

/-- The answer to a repeated event. -/
theorem replies_duplicateResponse (event : AccessEvent) (gate : Gate) (extra : List Warning) :
    (duplicateResponse event gate extra).Replies := by
  have hvehicle : (eventVehicle event).Replies := by
    unfold eventVehicle
    cases event.vehicleId with
    | none => exact Prog.replies_ret _
    | some id => exact Prog.replies_select _
  exact hvehicle.bind fun _ => (replies_unitInfo _).bind fun _ => Prog.replies_ret _

/-! ## Recording -/

/-- The space assigned to a vehicle is in the store. -/
theorem spaceById_assigned {r : Reading} {s : Store} {sp : ParkingSpace} (h : r.space s = some sp) :
    (spaceById sp.id s).isSome = true := by
  obtain ⟨vehicle, _, hassigned⟩ := Option.bind_eq_some_iff.1 h
  obtain ⟨a, _, hfound⟩ := List.exists_of_findSome?_eq_some hassigned
  rw [spaceById, List.find?_isSome]
  exact ⟨sp, List.mem_of_find?_eq_some hfound, by simp⟩

/-- Taking a space that is there goes through. -/
theorem exec_takeSpace_done (hw : w.broken = false) {sp : ParkingSpace}
    (hthere : (spaceById sp.id w.view).isSome = true) :
    ∃ out, (takeSpace sp).exec clk w =
      (.ok out, { w with view := spaceTaken (some sp) w.view }) := by
  rcases exec_takeSpace clk hw sp with herr | hok
  · have hlock := Prog.exec_flush_done (ε := AppError) clk (lockSpace sp.id) hw rfl
    have hrow := Prog.exec_select (κ := Lock) (τ := Label) (ε := AppError) clk (spaceById sp.id) hw
    have hstart : (takeSpace sp).exec clk w = _ :=
      (Prog.exec_bind_of_ok hlock).trans (Prog.exec_bind_of_ok hrow)
    have hrest := hstart.symm.trans herr
    have hsome : (spaceById sp.id w.view).isNone = false := by
      rw [Option.isNone_eq_false_iff]
      exact hthere
    simp only [hsome, Bool.false_eq_true, if_false] at hrest
    by_cases hfree : (if sp.status = "" then "FREE" else sp.status) = "FREE"
    · have hmade := Prog.exec_flush_done (ε := AppError) clk (updateSpace sp.id "OCCUPIED") hw rfl
      simp only [hfree, ne_eq, not_true_eq_false, if_false, Prog.bind_eq,
        Prog.exec_bind_of_ok hmade] at hrest
      cases hrest
    · simp only [hfree, ne_eq, not_false_eq_true, if_true] at hrest
      cases hrest
  · exact hok

/-- The occupancy of an entry always goes in. -/
theorem exec_occupySpace_done (clk : ℕ → ℤ) (e : PlateEvent) (r : Reading) {w : Session Store}
    (hw : w.broken = false) (eventId : ℕ) :
    ∃ out, (occupySpace e r eventId).exec clk w =
      (.ok out, { w with
        view := spaceTaken (r.space w.view)
          ((insertOccupancy (entryOccupancy e r eventId w.nextId (r.space w.view))).apply w.view)
        nextId := w.nextId + 1 }) := by
  have hw' : ({ w with nextId := w.nextId + 1 } : Session Store).broken = false := hw
  have hstart : (occupySpace e r eventId).exec clk w = _ :=
    (Prog.exec_bind_of_ok (exec_findAssignedSpace hw r)).trans
      ((Prog.exec_bind_of_ok (Prog.exec_newId clk w)).trans
        (Prog.exec_bind_of_ok (Prog.exec_flush_done clk _ hw' rfl)))
  rw [hstart]
  cases hspace : r.space w.view with
  | none => exact ⟨(none, []), rfl⟩
  | some sp =>
    exact exec_takeSpace_done (w := { w with
      view := (insertOccupancy (entryOccupancy e r eventId w.nextId (some sp))).apply w.view
      nextId := w.nextId + 1 }) hw (spaceById_assigned hspace)

/-- The bookkeeping of an entry goes through where its session is accepted. -/
theorem exec_recordEntry_done (clk : ℕ → ℤ) {w : Session Store} (hw : w.broken = false)
    (eventId : ℕ)
    (hsession : opensSession e v →
      (insertSession (entrySession e r eventId w.nextId)).check w.view = none) :
    ∃ out w', (recordEntry e r v eventId).exec clk w = (.ok out, w') ∧ w'.broken = false := by
  by_cases hopens : opensSession e v
  · rw [recordEntry_of_opens hopens, openSession, Prog.bind_eq,
      Prog.exec_bind_of_ok (Prog.exec_newId clk w), Prog.bind_eq]
    have hw' : ({ w with nextId := w.nextId + 1 } : Session Store).broken = false := hw
    rw [Prog.exec_bind_of_ok (Prog.exec_flush_done clk _ hw' (hsession hopens))]
    obtain ⟨out, hout⟩ := exec_occupySpace_done clk e r (w := { w with
      view := (insertSession (entrySession e r eventId w.nextId)).apply w.view
      nextId := w.nextId + 1 }) hw eventId
    exact ⟨out, _, hout, hw⟩
  · rw [recordEntry_of_not_opens hopens]
    exact ⟨_, w, rfl, hw⟩

/-- **Recording** goes through where the event and its session are accepted. -/
theorem exec_recordEvent_done (clk : ℕ → ℤ) (hw : w.broken = false)
    (hevent : (insertEvent (eventRow e r v w.nextId)).check w.view = none)
    (hsession : opensSession e v →
      (insertSession (entrySession e r w.nextId (w.nextId + 1))).check w.view = none) :
    ∃ rec w', (recordEvent e r v).exec clk w = (.ok rec, w') := by
  rw [recordEvent, Prog.bind_eq, Prog.exec_bind_of_ok (Prog.exec_newId clk w), Prog.bind_eq]
  have hw' : ({ w with nextId := w.nextId + 1 } : Session Store).broken = false := hw
  rw [Prog.exec_bind_of_ok (Prog.exec_flush_done clk _ hw' hevent), Prog.bind_eq]
  obtain ⟨⟨parking, warnings⟩, w₂, hentry, hw₂⟩ := exec_recordEntry_done clk
    (e := e) (r := r) (v := v) (w := { w with
      view := (insertEvent (eventRow e r v w.nextId)).apply w.view
      nextId := w.nextId + 1 }) hw w.nextId hsession
  rw [Prog.exec_bind_of_ok hentry]
  have hw₃ : ({ w₂ with
    view := if releases e v then exitStore r w₂.view else w₂.view } : Session Store).broken =
      false := hw₂
  exact ⟨_, _, (Prog.exec_bind_of_ok (exec_recordExit hw₂)).trans
    ((Prog.exec_bind_of_ok (Prog.exec_commitTx clk hw₃)).trans rfl)⟩

/-- Finishing an event that is accepted. -/
theorem exec_finishEvent_done (clk : ℕ → ℤ) (hwet : e.dryRun = false) (hw : w.broken = false)
    (hevent : (insertEvent (eventRow e r v w.nextId)).check w.view = none)
    (hsession : opensSession e v →
      (insertSession (entrySession e r w.nextId (w.nextId + 1))).check w.view = none) :
    ∃ resp w', (finishEvent e r v).exec clk w = (.ok resp, w') := by
  obtain ⟨rec, w₃, hrecord⟩ := exec_recordEvent_done clk hw hevent hsession
  obtain ⟨_, _, _, _, hw₃, _⟩ := exec_recordEvent_ok hrecord
  obtain ⟨resp, hresp⟩ := replies_respond (e := e) (r := r) (v := v) rec.event
    (some rec.event.id) rec.parking rec.warnings clk w₃ hw₃
  refine ⟨resp, w₃, ?_⟩
  rw [finishEvent, if_neg (by simp [hwet]), Prog.bind_eq,
    Prog.exec_bind_of_ok (Prog.exec_attempt clk _ w), hrecord]
  exact hresp

/-! ## Deciding -/

variable {gate : Gate} {w₁ : Session Store} {base : BaseDecision}

/-- The decision goes through where its branch does. -/
theorem exec_decideEvent_done (hw : w.broken = false)
    (hgate : gateByCode e.gateCode w.view = some gate)
    (hrun : ((e.branch cfg gate clk w).run cfg (clk w.tick)).exec clk
      (e.atDecision cfg gate clk w) = (.ok base, w₁)) :
    ∃ v w₂, (decideEvent cfg e (e.readingIn cfg gate clk w)).exec clk
        (e.atDecision cfg gate clk w) = (.ok v, w₂) ∧ Decided cfg clk e gate w base w₁ v w₂ := by
  have hlive : (e.atDecision cfg gate clk w).broken = false := by simpa using hw
  obtain ⟨rs, hview⟩ := atDecision_view cfg e gate clk w
  have hbase : (baseDecision cfg e.direction gate.id (e.plate cfg) (e.vehicle cfg w.view)
      (clk w.tick)).exec clk (e.atDecision cfg gate clk w) = (.ok base, w₁) := by
    rw [exec_baseDecision hlive, hview, baseCase_recognitions]
    exact hrun
  obtain ⟨w₂, hlater, _⟩ := exec_laterLayers cfg e clk
    (e.readingIn cfg gate clk w) base w₁
  have hdecide := (Prog.exec_bind_of_ok hbase).trans hlater
  obtain ⟨base', w₁', hdecided⟩ := exec_decideEvent_ok hw hgate hdecide
  obtain ⟨hbase', rfl⟩ := Prod.mk.inj (hdecided.run.symm.trans hrun)
  obtain rfl := Except.ok.inj hbase'
  exact ⟨_, w₂, hdecide, hdecided⟩

/-- **An event that is accepted is answered**: its recognition goes in, its branch goes through,
and the event and its session go in. -/
theorem processPlateEvent_done (hwet : e.dryRun = false) (hw : w.broken = false)
    (hgate : gateByCode e.gateCode w.view = some gate) (hnew : eventByKey e.key w.view = none)
    (hrecognition : (insertRecognition (e.recognition cfg gate (clk w.tick) w.view w.nextId)).check
      w.view = none)
    (hrun : ((e.branch cfg gate clk w).run cfg (clk w.tick)).exec clk
      (e.atDecision cfg gate clk w) = (.ok base, w₁)) (hw₁ : w₁.broken = false)
    (haccepts : ∀ v w₂, Decided cfg clk e gate w base w₁ v w₂ →
      (insertEvent (eventRow e (e.readingIn cfg gate clk w) v w₂.nextId)).check w₂.view = none ∧
        (opensSession e v → (insertSession (entrySession e (e.readingIn cfg gate clk w) w₂.nextId
          (w₂.nextId + 1))).check w₂.view = none)) :
    ∃ resp w', (processPlateEvent cfg e).exec clk w = (.ok resp, w') := by
  have hw₀ : ({ w with tick := w.tick + 1 } : Session Store).broken = false := hw
  obtain ⟨v, w₂, hdecide, hdecided⟩ := exec_decideEvent_done hw hgate hrun
  obtain ⟨hevent, hsession⟩ := haccepts v w₂ hdecided
  obtain ⟨resp, w', hfinish⟩ := exec_finishEvent_done clk hwet
    (hdecided.broken.trans hw₁) hevent hsession
  refine ⟨resp, w', ?_⟩
  refine (Prog.exec_bind_of_ok (Prog.exec_getTime clk w)).trans ?_
  refine (Prog.exec_bind_of_ok (Prog.exec_select clk _ hw₀)).trans ?_
  simp only [hgate]
  refine (Prog.exec_bind_of_ok (Prog.exec_select clk _ hw₀)).trans ?_
  simp only [hnew]
  refine (Prog.exec_bind_of_ok (exec_readPlate hw₀ fun _ => hrecognition)).trans ?_
  exact (Prog.exec_bind_of_ok hdecide).trans hfinish

/-! ## Events that raise -/

/-- Recording commits last: where it raises, nothing is committed. -/
theorem exec_recordEvent_error {w' : Session Store} {exc : Exc AppError}
    (h : (recordEvent e r v).exec clk w = (.error exc, w')) : w'.committed = w.committed := by
  rw [recordEvent, Prog.bind_eq, Prog.exec_bind_of_ok (Prog.exec_newId clk w)] at h
  have hflush : (Prog.flush (insertEvent (eventRow e r v w.nextId)) : Handler Unit).WritesOnly
      fun _ => True := Prog.writesOnly_flush trivial
  rcases Prog.exec_bind_error h with hevent | ⟨_, w₁, hevent, h⟩
  · exact hflush.committed_eq (w := { w with nextId := w.nextId + 1 }) hevent
  · obtain ⟨hw, _, rfl⟩ := Prog.exec_flush_ok hevent
    rcases Prog.exec_bind_error h with hentry | ⟨⟨parking, warnings⟩, w₂, hentry, h⟩
    · exact (writesOnly_recordEntry e r v w.nextId).committed_eq (w := { w with
        view := (insertEvent (eventRow e r v w.nextId)).apply w.view
        nextId := w.nextId + 1 }) hentry
    · -- what comes after the entry always goes through
      obtain ⟨hw₂, _, _⟩ := exec_recordEntry_ok (w := { w with
        view := (insertEvent (eventRow e r v w.nextId)).apply w.view
        nextId := w.nextId + 1 }) hw hentry
      have h := (Prog.exec_bind_of_ok (exec_recordExit hw₂)).symm.trans h
      have hw₃ : ({ w₂ with
        view := if releases e v then exitStore r w₂.view else w₂.view } : Session Store).broken =
          false := hw₂
      have h := (Prog.exec_bind_of_ok (Prog.exec_commitTx clk hw₃)).symm.trans h
      cases h

/-- A conflict is answered from what is committed. -/
theorem exec_recoverConflict_committed {w' : Session Store}
    {res : Except (Exc AppError) GateResponse}
    (h : (recoverConflict e r).exec clk w = (res, w')) : w'.committed = w.committed := by
  have h := (Prog.exec_bind_of_ok (Prog.exec_rollbackTx clk w)).symm.trans h
  refine Prog.WritesOnly.committed_eq (P := fun _ => False)
    (w := { w with view := w.committed, broken := false }) ?_ h
  refine (Prog.writesOnly_select _).bind fun dup => ?_
  cases dup with
  | some event => exact readOnly_duplicateResponse _ _ _
  | none =>
    refine (readOnly_conflictSession e r).bind fun session => ?_
    cases session <;> trivial

theorem exec_finishEvent_error {w' : Session Store} {exc : Exc AppError}
    (h : (finishEvent e r v).exec clk w = (.error exc, w')) : w'.committed = w.committed := by
  unfold finishEvent at h
  split at h
  · exact (readOnly_respond e r v _ _ _ _).committed_eq h
  · have h := (Prog.exec_bind_of_ok (Prog.exec_attempt clk _ _)).symm.trans h
    rcases hrecord : (recordEvent e r v).exec clk w with ⟨exc' | rec, w₃⟩
    · have hsame := exec_recordEvent_error hrecord
      simp only [hrecord] at h
      split at h
      · rename_i hok
        cases hok
      · exact (exec_recoverConflict_committed h).trans hsame
      · cases h
        exact hsame
    · -- an event that was recorded is answered
      obtain ⟨_, _, _, _, hw₃, _⟩ := exec_recordEvent_ok hrecord
      simp only [hrecord] at h
      obtain ⟨resp, hresp⟩ := replies_respond (e := e) (r := r) (v := v) rec.event
        (some rec.event.id) rec.parking rec.warnings clk w₃ hw₃
      cases hresp.symm.trans h

/-- **An event that raises commits nothing.** -/
theorem processPlateEvent_error {w' : Session Store} {exc : Exc AppError}
    (h : (processPlateEvent cfg e).exec clk w = (.error exc, w')) :
    w'.committed = w.committed := by
  have h := (Prog.exec_bind_of_ok (Prog.exec_getTime clk w)).symm.trans h
  have hsame : ({ w with tick := w.tick + 1 } : Session Store).committed = w.committed := rfl
  rw [← hsame]
  generalize ({ w with tick := w.tick + 1 } : Session Store) = w₀ at h ⊢
  rcases Prog.exec_bind_error h with hgate | ⟨gate, w_g, hgate, h⟩
  · exact (Prog.writesOnly_select (P := fun _ => False) _).committed_eq hgate
  obtain ⟨_, _, rfl⟩ := Prog.exec_select_ok hgate
  cases gate with
  | none =>
    cases h
    rfl
  | some gate =>
    rcases Prog.exec_bind_error h with hkey | ⟨existing, w_k, hkey, h⟩
    · exact (Prog.writesOnly_select (P := fun _ => False) _).committed_eq hkey
    obtain ⟨_, _, rfl⟩ := Prog.exec_select_ok hkey
    cases existing with
    | some event => exact (readOnly_duplicateResponse event gate []).committed_eq h
    | none =>
      have hread := writesOnly_readPlate cfg e gate (clk w.tick)
      rcases Prog.exec_bind_error h with h | ⟨r, w_r, hr, h⟩
      · exact hread.committed_eq h
      have hdecide := writesOnly_decideEvent cfg e r
      have h₁ := hread.committed_eq hr
      rcases Prog.exec_bind_error h with h | ⟨v, w_v, hv, h⟩
      · exact (hdecide.committed_eq h).trans h₁
      · exact (exec_finishEvent_error h).trans ((hdecide.committed_eq hv).trans h₁)

end

end ParkingSystem
