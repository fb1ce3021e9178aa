import ParkingSystem.Gate.Outcome
import ParkingSystem.Library.Hoare

/-!
# Plate Reviews

`resolve_plate_review`: a human confirms, corrects or rejects what a camera read. The reading
itself stays as it is, the correction is kept beside it, and an audit row says what the status
was before and what it is now.

## What goes wrong

Nothing asks for the status of a reading, so that it can be reviewed again. A second review leaves
the columns of an earlier correction where they are, and every audit row says that the reading was
NEEDS_REVIEW.
-/

namespace ParkingSystem

open PyText Plate Table Transaction

/-! ## The endpoint -/

/-- The body of a review. -/
structure PlateReviewResolve where
  action : String := "CONFIRM"
  plateRaw : Option String := none
  note : Option String := none

/-- The columns of a correction. -/
structure PlateCorrection where
  plateCorrected : String
  plateCorrectedNormalized : Option String
  correctedBy : ℕ
  correctedAt : ℤ

/-- The columns an UPDATE of a reading writes. -/
structure ReviewUpdate where
  correction : Option PlateCorrection := none
  correctionNote : Option (Option String) := none
  reviewStatus : ReviewStatus

/-- The row once the columns are written. -/
def ReviewUpdate.on (u : ReviewUpdate) (p : PlateRecognitionEvent) : PlateRecognitionEvent :=
  match u.correction with
  | none =>
    { p with correctionNote := u.correctionNote.getD p.correctionNote, reviewStatus := u.reviewStatus }
  | some c =>
    { p with
      plateCorrected := some c.plateCorrected
      plateCorrectedNormalized := c.plateCorrectedNormalized
      correctedBy := some c.correctedBy, correctedAt := some c.correctedAt
      correctionNote := u.correctionNote.getD p.correctionNote, reviewStatus := u.reviewStatus }

/-- Whether the columns of an update fit. -/
def ReviewUpdate.fits (u : ReviewUpdate) : Bool :=
  u.correction.all fun c => fitsChar 64 c.plateCorrected && fitsChar? 32 c.plateCorrectedNormalized

/-- UPDATE of a reading. -/
def updateRecognition (id : ℕ) (u : ReviewUpdate) : Stmt where
  label := .registry .updateRecognition
  locks := [.recognitionRow id]
  check _ := if !u.fits then some .data else none
  apply s := { s with recognitions := updateWhere (fun p => p.id == id) u.on s.recognitions }

/-- INSERT of an audit row. -/
def insertPlateReviewAudit (audit : PlateReviewAudit) : Stmt where
  label := .registry .insertPlateReviewAudit
  locks := []
  check _ := none
  apply s := { s with plateReviewAudits := s.plateReviewAudits ++ [audit] }

/-- `db.get(PlateRecognitionEvent, id)`. -/
def recognitionById (id : ℕ) (s : Store) : Option PlateRecognitionEvent :=
  s.recognitions.find? fun p => p.id == id

/-- The answer to a review. -/
structure PlateReviewResponse where
  id : ℕ
  reviewStatus : ReviewStatus
  plateRaw : String
  plateCorrected : Option String
  plateCorrectedNormalized : Option String

/-- A review by a user, who may have the permission for it. -/
structure PlateReviewRequest where
  user : ℕ
  mayReview : Bool
  body : PlateReviewResolve

namespace PlateReviewRequest

/-- `body.action.upper()`. -/
def action (r : PlateReviewRequest) : String := upperString r.body.action

/-- What a review writes at an instant: a correction with its note, or a status alone, with a
note if there is one. -/
def update (cfg : Config) (r : PlateReviewRequest) (now : ℤ) : ReviewUpdate :=
  if r.action = "CORRECT" then
    { correction := some
        { plateCorrected := r.body.plateRaw.getD ""
          plateCorrectedNormalized := normalizePlate cfg.plateLetterMapping (r.body.plateRaw.getD "")
          correctedBy := r.user, correctedAt := now }
      correctionNote := some r.body.note, reviewStatus := .corrected }
  else
    { correctionNote := if (r.body.note.getD "") = "" then none else some r.body.note
      reviewStatus := if r.action = "CONFIRM" then .confirmed else .rejected }

/-- The audit row of a review of `p`: `old_values` does not look at its status. -/
def audit (r : PlateReviewRequest) (p p' : PlateRecognitionEvent) (id : ℕ) : PlateReviewAudit :=
  { id, userId := r.user, action := "PLATE_REVIEW_" ++ r.action, entityId := p.id
    oldPlateRaw := p.plateRaw, oldReviewStatus := .needsReview
    newPlateCorrected := p'.plateCorrected, newReviewStatus := p'.reviewStatus, note := r.body.note }

end PlateReviewRequest

/-- `resolve_plate_review`. -/
def resolvePlateReview (cfg : Config) (recognitionId : ℕ) (r : PlateReviewRequest) :
    Handler PlateReviewResponse :=
  if !r.mayReview then Prog.raise (.forbidden "مجوز بازبینی پلاک ندارید")
  else do
    let found ← .select (recognitionById recognitionId)
    match found with
    | none => Prog.raise .notFound
    | some p =>
      if !(["CONFIRM", "CORRECT", "REJECT"].contains r.action) then
        Prog.raise (.forbidden "عملیات نامعتبر است (CONFIRM/CORRECT/REJECT)")
      else if r.action = "CORRECT" ∧ (r.body.plateRaw.getD "") = "" then
        Prog.raise (.forbidden "برای اصلاح، مقدار پلاک الزامی است")
      else do
        let now ← Prog.getTime
        let p' := (r.update cfg now).on p
        let id ← Prog.newId
        Prog.flush (updateRecognition p.id (r.update cfg now))
        Prog.flush (insertPlateReviewAudit (r.audit p p' id))
        Prog.commitTx
        return { id := p'.id, reviewStatus := p'.reviewStatus, plateRaw := p'.plateRaw
                 plateCorrected := p'.plateCorrected
                 plateCorrectedNormalized := p'.plateCorrectedNormalized }

/-! ## What a review does -/

/-- The corrected plate of a review, as far as it can be read. -/
def PlateReviewRequest.readPlate (cfg : Config) (r : PlateReviewRequest) : Option String :=
  normalizePlate cfg.plateLetterMapping (r.body.plateRaw.getD "")

/-- Whether a review of a reading that is there is carried out. -/
def PlateReviewRequest.accepted (cfg : Config) (r : PlateReviewRequest) : Bool :=
  r.mayReview && ["CONFIRM", "CORRECT", "REJECT"].contains r.action &&
    (r.action != "CORRECT" || (r.body.plateRaw.getD "" != "" &&
      fitsChar 64 (r.body.plateRaw.getD "") && fitsChar? 32 (r.readPlate cfg)))

/-- The store after a review that is carried out. -/
def PlateReviewRequest.reviewed (cfg : Config) (r : PlateReviewRequest) (now : ℤ) (auditId : ℕ)
    (p : PlateRecognitionEvent) (s : Store) : Store :=
  (insertPlateReviewAudit (r.audit p ((r.update cfg now).on p) auditId)).apply
    ((updateRecognition p.id (r.update cfg now)).apply s)

section

variable {cfg : Config} {clk : ℕ → ℤ} {id : ℕ} {r : PlateReviewRequest} {w : Session Store}

/-- Only a correction writes columns that may not fit. -/
theorem PlateReviewRequest.update_fits (cfg : Config) (now : ℤ) : (r.update cfg now).fits =
    (r.action != "CORRECT" ||
      (fitsChar 64 (r.body.plateRaw.getD "") && fitsChar? 32 (r.readPlate cfg))) := by
  unfold PlateReviewRequest.update
  split
  · simp [ReviewUpdate.fits, PlateReviewRequest.readPlate, *]
  · simp [ReviewUpdate.fits, *]

/-- What a review leaves of a store that is as committed: the store with the review where it is
carried out, else the store as it was. -/
theorem resolvePlateReview_wp (hlive : w.broken = false) (hview : w.view = w.committed) :
    (resolvePlateReview cfg id r).wp clk (fun _ w' => w'.committed =
      match recognitionById id w.committed with
      | none => w.committed
      | some p => if r.accepted cfg then r.reviewed cfg (clk w.tick) w.nextId p w.committed
          else w.committed) w := by
  unfold resolvePlateReview PlateReviewRequest.accepted
  cases hmay : r.mayReview with
  | false =>
    refine Prog.wp_raise ?_
    cases recognitionById id w.committed <;> simp
  | true =>
    refine Prog.wp_select (fun hbroken => absurd hbroken (by simp [hlive])) fun _ => ?_
    rw [hview]
    cases recognitionById id w.committed with
    | none => exact Prog.wp_raise rfl
    | some p =>
      dsimp only
      cases haction : ["CONFIRM", "CORRECT", "REJECT"].contains r.action with
      | false => exact Prog.wp_raise (by simp)
      | true =>
        simp only [Bool.not_true, Bool.false_eq_true, if_false, Bool.true_and]
        by_cases hempty : r.action = "CORRECT" ∧ r.body.plateRaw.getD "" = ""
        · rw [if_pos hempty]
          exact Prog.wp_raise (by simp [hempty.1, hempty.2])
        · rw [if_neg hempty]
          -- what is left of the guard is the check of the UPDATE
          have hfits : (r.action != "CORRECT" || (r.body.plateRaw.getD "" != "" &&
              fitsChar 64 (r.body.plateRaw.getD "") && fitsChar? 32 (r.readPlate cfg))) =
              (r.update cfg (clk w.tick)).fits := by
            rw [r.update_fits cfg]
            by_cases hcorrect : r.action = "CORRECT"
            · have hgiven : (r.body.plateRaw.getD "" != "") = true :=
                bne_iff_ne.2 fun h => hempty ⟨hcorrect, h⟩
              rw [hgiven, Bool.true_and]
            · rw [bne_iff_ne.2 hcorrect, Bool.true_or, Bool.true_or]
          rw [hfits]
          refine Prog.wp_getTime ?_
          refine Prog.wp_newId (Prog.wp_flush ?_ ?_ ?_)
          · exact fun hbroken => absurd hbroken (by simp [hlive])
          · intro _ reject hcheck
            cases hno : (r.update cfg (clk w.tick)).fits with
            | false => rfl
            | true => simp [updateRecognition, hno] at hcheck
          · intro _ hcheck
            have hyes : (r.update cfg (clk w.tick)).fits = true := by
              simpa [updateRecognition] using hcheck
            refine Prog.wp_flush (fun hbroken => absurd hbroken (by simp [hlive])) nofun fun _ _ => ?_
            refine Prog.wp_commit (fun hbroken => absurd hbroken (by simp [hlive])) fun _ => ?_
            refine Prog.wp_ret ?_
            simp only [hyes, if_true, PlateReviewRequest.reviewed, hview]

theorem resolvePlateReview_after (cfg : Config) (clk : ℕ → ℤ) (id : ℕ) (r : PlateReviewRequest)
    (w : Session Store) :
    ((resolvePlateReview cfg id r).after clk w).committed =
      match recognitionById id w.committed with
      | none => w.committed
      | some p => if r.accepted cfg then r.reviewed cfg (clk w.tick) w.nextId p w.committed
          else w.committed :=
  (resolvePlateReview_wp (w := .fresh w.committed w.nextId w.tick) rfl rfl).ends

/-- An update keeps what the camera read. -/
theorem ReviewUpdate.on_reading (u : ReviewUpdate) (p : PlateRecognitionEvent) :
    (u.on p).id = p.id ∧ (u.on p).plateRaw = p.plateRaw ∧
      (u.on p).plateNormalized = p.plateNormalized ∧ (u.on p).reviewStatus = u.reviewStatus := by
  unfold ReviewUpdate.on
  cases u.correction <;> exact ⟨rfl, rfl, rfl, rfl⟩

theorem recognitionById_id {s : Store} {p : PlateRecognitionEvent}
    (h : recognitionById id s = some p) : p.id = id := by
  simpa using List.find?_some h

/-- The reading that was reviewed. -/
theorem recognitionById_reviewed (cfg : Config) (r : PlateReviewRequest) {s : Store}
    {p : PlateRecognitionEvent} (hp : recognitionById id s = some p) (now : ℤ) (auditId : ℕ) :
    recognitionById id (r.reviewed cfg now auditId p s) = some ((r.update cfg now).on p) := by
  have hid := recognitionById_id hp
  have hkey (q : PlateRecognitionEvent) := ((r.update cfg now).on_reading q).1
  have hfound := find?_updateWhere_self hkey id s.recognitions
  rw [← recognitionById, hp] at hfound
  rw [PlateReviewRequest.reviewed, hid]
  exact hfound

end

/-! ## The history of a reading -/

/-- The columns of a correction are set exactly where the status is CORRECTED. -/
structure PlateRecognitionEvent.CorrectionAgrees (p : PlateRecognitionEvent) : Prop where
  corrected : p.plateCorrected.isSome = true ↔ p.reviewStatus = .corrected
  normalized : p.plateCorrectedNormalized.isSome = true ↔ p.reviewStatus = .corrected
  correctedBy : p.correctedBy.isSome = true ↔ p.reviewStatus = .corrected
  correctedAt : p.correctedAt.isSome = true ↔ p.reviewStatus = .corrected

/-- What a step from `s` to `s'` is to keep of a reading: what the camera read, that the columns of
a correction and the status agree, and that a new audit row has the status of before. -/
structure ReviewKept (id : ℕ) (s s' : Store) : Prop where
  reading : ∀ p' ∈ recognitionById id s', ∃ p ∈ recognitionById id s,
    p'.plateRaw = p.plateRaw ∧ p'.plateNormalized = p.plateNormalized
  correction : ∀ p' ∈ recognitionById id s', p'.CorrectionAgrees
  audits : ∃ new, s'.plateReviewAudits = s.plateReviewAudits ++ new ∧
    ∀ audit ∈ new, ∀ p ∈ recognitionById id s, audit.oldReviewStatus = p.reviewStatus

/-- Whether a review is not a correction to a plate that cannot be read. -/
def PlateReviewRequest.readable (cfg : Config) (r : PlateReviewRequest) : Bool :=
  r.action != "CORRECT" || (r.readPlate cfg).isSome

section

variable {cfg : Config} {clk : ℕ → ℤ} {id : ℕ} {r : PlateReviewRequest} {w : Session Store}
  {p : PlateRecognitionEvent}

/-- The reading a plate event is stored as has no correction, and waits for a review or for none. -/
theorem recognition_correctionAgrees (e : PlateEvent) (gate : Gate) (now : ℤ) (s : Store) (id : ℕ) :
    (e.recognition cfg gate now s id).CorrectionAgrees := by
  have hstatus : (e.recognition cfg gate now s id).reviewStatus ≠ .corrected := by
    show captureReview cfg _ _ _ s ≠ _
    unfold captureReview reviewStatusFor
    split_ifs <;> simp
  constructor <;> exact ⟨fun h => absurd h (by simp [PlateEvent.recognition]), fun h => absurd h hstatus⟩

/-- After a review of a reading without a correction the columns agree, unless the review is a
correction that cannot be read. -/
theorem correctionAgrees_update (cfg : Config) (r : PlateReviewRequest) (hp : p.CorrectionAgrees) (hstatus : p.reviewStatus ≠ .corrected)
    (now : ℤ) : ((r.update cfg now).on p).CorrectionAgrees ↔ r.readable cfg = true := by
  unfold PlateReviewRequest.readable PlateReviewRequest.readPlate PlateReviewRequest.update
  by_cases hcorrect : r.action = "CORRECT"
  · -- the status is CORRECTED, and three of the columns are set in any case
    rw [if_pos hcorrect, hcorrect, bne_self_eq_false, Bool.false_or]
    refine ⟨fun h => h.normalized.2 rfl, fun hread => ?_⟩
    exact ⟨by simp [ReviewUpdate.on], by simpa [ReviewUpdate.on] using hread,
      by simp [ReviewUpdate.on], by simp [ReviewUpdate.on]⟩
  · rw [if_neg hcorrect, bne_iff_ne.2 hcorrect, Bool.true_or]
    have hnot : (if r.action = "CONFIRM" then ReviewStatus.confirmed else .rejected) ≠ .corrected := by
      split_ifs <;> simp
    refine ⟨fun _ => rfl, fun _ => ⟨?_, ?_, ?_, ?_⟩⟩
    · exact ⟨fun h => absurd (hp.corrected.1 h) hstatus, fun h => absurd h hnot⟩
    · exact ⟨fun h => absurd (hp.normalized.1 h) hstatus, fun h => absurd h hnot⟩
    · exact ⟨fun h => absurd (hp.correctedBy.1 h) hstatus, fun h => absurd h hnot⟩
    · exact ⟨fun h => absurd (hp.correctedAt.1 h) hstatus, fun h => absurd h hnot⟩

/-- A review leaves a status no reading waits in. -/
theorem update_reviewStatus_ne (now : ℤ) : (r.update cfg now).reviewStatus ≠ .needsReview := by
  unfold PlateReviewRequest.update
  split_ifs <;> simp

/-- Nothing is asked of a step that changes nothing. -/
theorem ReviewKept.refl (hp : recognitionById id w.committed = some p) (hagrees : p.CorrectionAgrees) :
    ReviewKept id w.committed w.committed where
  reading p' hp' := ⟨p', hp', rfl, rfl⟩
  correction p' hp' := by
    rw [hp, Option.mem_some_iff] at hp'
    exact hp' ▸ hagrees
  audits := ⟨[], (List.append_nil _).symm, nofun⟩

/-- A review that is carried out keeps the history where the reading waits for one, and a
correction can be read. -/
theorem reviewKept_reviewed (cfg : Config) (hp : recognitionById id w.committed = some p)
    (hagrees : p.CorrectionAgrees) (now : ℤ) (auditId : ℕ) :
    ReviewKept id w.committed (r.reviewed cfg now auditId p w.committed) ↔
      p.reviewStatus = .needsReview ∧ r.readable cfg = true := by
  have hfound := recognitionById_reviewed cfg r hp now auditId
  constructor
  · intro h
    -- the audit row says NEEDS_REVIEW, whatever the status is
    have hwaits : p.reviewStatus = .needsReview := by
      obtain ⟨new, hnew, hold⟩ := h.audits
      obtain rfl := List.append_cancel_left hnew
      exact (hold _ (List.mem_singleton.2 rfl) p hp).symm
    refine ⟨hwaits, (correctionAgrees_update cfg r hagrees ?_ now).1 (h.correction _ hfound)⟩
    simp [hwaits]
  · rintro ⟨hwaits, hread⟩
    refine ⟨fun p' hp' => ⟨p, hp, ?_⟩, fun p' hp' => ?_, ⟨_, rfl, fun audit haudit q hq => ?_⟩⟩
    · rw [hfound, Option.mem_some_iff] at hp'
      subst hp'
      exact ⟨((r.update cfg now).on_reading p).2.1, ((r.update cfg now).on_reading p).2.2.1⟩
    · rw [hfound, Option.mem_some_iff] at hp'
      exact hp' ▸ (correctionAgrees_update cfg r hagrees (by simp [hwaits]) now).2 hread
    · rw [hp, Option.mem_some_iff] at hq
      rw [List.mem_singleton.1 haudit, ← hq, hwaits]
      rfl

/-- Every step of a sequence of reviews keeps the history of the reading. -/
abbrev HistoryKept (cfg : Config) (clk : ℕ → ℤ) (id : ℕ) (rs : List PlateReviewRequest)
    (w : Session Store) : Prop :=
  Prog.EachMeets clk (resolvePlateReview cfg id)
    (fun r w => ReviewKept id w.committed ((resolvePlateReview cfg id r).after clk w).committed) rs w

/-- A reading that waits for no review has its history kept as long as no review is carried out. -/
theorem historyKept_settled (cfg : Config) (clk : ℕ → ℤ) (rs : List PlateReviewRequest) :
    ∀ {p : PlateRecognitionEvent} {w : Session Store}, recognitionById id w.committed = some p →
      p.CorrectionAgrees → p.reviewStatus ≠ .needsReview →
      (HistoryKept cfg clk id rs w ↔ rs.filter (·.accepted cfg) = []) := by
  induction rs with
  | nil => exact fun _ _ _ => ⟨fun _ => rfl, fun _ => trivial⟩
  | cons r rs ih =>
    intro p w hp hagrees hsettled
    have hafter := resolvePlateReview_after cfg clk id r w
    rw [hp] at hafter
    dsimp only at hafter
    rw [HistoryKept, Prog.EachMeets]
    cases haccepted : r.accepted cfg with
    | true =>
      rw [haccepted, if_pos rfl] at hafter
      rw [hafter, reviewKept_reviewed cfg hp hagrees, List.filter_cons_of_pos haccepted]
      exact ⟨fun h => absurd h.1.1 hsettled, fun h => absurd h (List.cons_ne_nil _ _)⟩
    | false =>
      rw [haccepted, if_neg (by simp)] at hafter
      rw [List.filter_cons_of_neg (by simp [haccepted]), ← ih (hafter ▸ hp) hagrees hsettled, hafter]
      exact and_iff_right (ReviewKept.refl hp hagrees)

/-- **Plate reviews: every step keeps the history of a reading exactly when at most one review is
carried out, on a reading that waits for one, and a correction to a plate that can be read.** What
the camera read never changes; after a second review the audit rows are wrong, and the columns of
an earlier correction stay beside another status. -/
theorem plateReviews_iff (rs : List PlateReviewRequest) (hp : recognitionById id w.committed = some p)
    (hagrees : p.CorrectionAgrees) :
    HistoryKept cfg clk id rs w ↔
      (rs.filter (·.accepted cfg)).length ≤ 1 ∧ ∀ r ∈ rs.filter (·.accepted cfg),
        p.reviewStatus = .needsReview ∧ r.readable cfg = true := by
  induction rs generalizing w with
  | nil => exact ⟨fun _ => ⟨Nat.zero_le _, nofun⟩, fun _ => trivial⟩
  | cons r rs ih =>
    have hafter := resolvePlateReview_after cfg clk id r w
    rw [hp] at hafter
    dsimp only at hafter
    rw [HistoryKept, Prog.EachMeets]
    cases haccepted : r.accepted cfg with
    | false =>
      rw [haccepted, if_neg (by simp)] at hafter
      rw [List.filter_cons_of_neg (by simp [haccepted]), ← ih (hafter ▸ hp), hafter]
      exact and_iff_right (ReviewKept.refl hp hagrees)
    | true =>
      rw [haccepted, if_pos rfl] at hafter
      rw [List.filter_cons_of_pos haccepted, List.length_cons]
      have hfound := recognitionById_reviewed cfg r hp (clk w.tick) w.nextId
      have hsettled : ((r.update cfg (clk w.tick)).on p).reviewStatus ≠ .needsReview := by
        rw [((r.update cfg (clk w.tick)).on_reading p).2.2.2]
        exact update_reviewStatus_ne _
      have hrest (hkept : ReviewKept id w.committed
          (r.reviewed cfg (clk w.tick) w.nextId p w.committed)) :=
        historyKept_settled cfg clk rs (hafter ▸ hfound)
          (hkept.correction _ hfound) hsettled
      rw [hafter]
      constructor
      · rintro ⟨hkept, hothers⟩
        rw [(hrest hkept).1 hothers]
        refine ⟨Nat.le_refl _, fun r' hr' => ?_⟩
        rw [List.mem_singleton.1 hr']
        exact (reviewKept_reviewed cfg hp hagrees _ _).1 hkept
      · rintro ⟨hone, hall⟩
        have hkept := (reviewKept_reviewed cfg hp hagrees (clk w.tick) w.nextId).2
          (hall r List.mem_cons_self)
        have hnone := List.length_eq_zero_iff.1 (Nat.le_zero.1 (Nat.le_of_succ_le_succ hone))
        exact ⟨hkept, (hrest hkept).2 hnone⟩

end

/-! ### A correction that is confirmed afterwards -/

/-- A reading that waits for a review. -/
def blurredReading : PlateRecognitionEvent :=
  { id := 1, gateId := "G1", deviceId := none, direction := "IN", plateRaw := "12B34567"
    plateNormalized := some "12B34567", confidence := none, capturedAt := 0, receivedAt := 0
    sourceEventId := "S1", rawPayload := none, reviewStatus := .needsReview, captureQuality := {}
    envelopeOk := false, processingMs := none }

/-- The database of the reading. -/
def oneReading : Session Store := .fresh { recognitions := [blurredReading] } 2 0

/-- A review that corrects the plate. -/
def correctingReview : PlateReviewRequest :=
  { user := 7, mayReview := true, body := { action := "CORRECT", plateRaw := some "12B34568" } }

/-- A review that confirms what was read. -/
def confirmingReview : PlateReviewRequest := { user := 7, mayReview := true, body := {} }

theorem blurredReading_agrees : blurredReading.CorrectionAgrees := by
  constructor <;> decide

theorem plateReviews_iff_correction :
    HistoryKept {} (fun _ => 0) 1 [correctingReview] oneReading ↔
      ([correctingReview].filter (·.accepted {})).length ≤ 1 ∧
        ∀ r ∈ [correctingReview].filter (·.accepted {}),
          blurredReading.reviewStatus = .needsReview ∧ r.readable {} = true :=
  plateReviews_iff [correctingReview] rfl blurredReading_agrees

theorem confirmedCorrection_stale :
    ¬ ∀ (cfg : Config) (clk : ℕ → ℤ) (id : ℕ) (rs : List PlateReviewRequest) (w : Session Store)
      (p : PlateRecognitionEvent), recognitionById id w.committed = some p → p.CorrectionAgrees →
        HistoryKept cfg clk id rs w := by
  intro hall
  have hkept := hall {} (fun _ => 0) 1 [correctingReview, confirmingReview] oneReading
    blurredReading rfl blurredReading_agrees
  -- the correction is carried out, and the reading waits no longer
  have haccepted : correctingReview.accepted {} = true := by decide
  have hafter := resolvePlateReview_after {} (fun _ => 0) 1 correctingReview oneReading
  rw [show recognitionById 1 oneReading.committed = some blurredReading from rfl] at hafter
  dsimp only at hafter
  rw [haccepted, if_pos rfl] at hafter
  have hfound := recognitionById_reviewed {} correctingReview
    (show recognitionById 1 oneReading.committed = some blurredReading from rfl) 0 2
  have hagrees := (correctionAgrees_update {} correctingReview blurredReading_agrees
    (by decide) 0).2 (by decide +kernel)
  have hnone := (historyKept_settled {} (fun _ => 0) [confirmingReview] (hafter ▸ hfound) hagrees
    (by decide)).1 hkept.2
  exact absurd hnone (by decide)

end ParkingSystem
