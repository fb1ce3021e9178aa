import ParkingSystem.Settings

/-!
# Capture Envelope

Whether a reading of a plate can be acted on without a human: the angle, light and speed of
the capture against thresholds from the `plate_envelope` setting, and the confidence of the
reading against a threshold of its own. A reading that fails goes to review.
-/

namespace ParkingSystem

open PyText PyValue Transaction

/-- `resolve_envelope_thresholds`. -/
structure EnvelopeThresholds where
  maxAngleDeg : PyFloat
  minLux : PyFloat
  maxSpeedKmh : PyFloat
  lowConf : PyFloat
  deriving DecidableEq

/-- A measurement outside its threshold. -/
inductive EnvelopeViolation where
  | angle (angleDeg : ℚ) (max : PyFloat)
  | lux (lux : ℚ) (min : PyFloat)
  | speed (speedKmh : ℚ) (max : PyFloat)
  deriving DecidableEq

structure EnvelopeResult where
  ok : Bool
  reviewRequired : Bool
  violations : List EnvelopeViolation
  thresholds : EnvelopeThresholds

def resolveEnvelopeThresholds (cfg : Config) : Handler EnvelopeThresholds := do
  let maxAngleDeg ← getPolicySetting "plate_envelope" ["MAX_ANGLE_DEG"] Json.toFloat
    (.num cfg.envelopeMaxAngleDeg)
  let minLux ← getPolicySetting "plate_envelope" ["MIN_LUX"] Json.toFloat
    (.num cfg.envelopeMinLux)
  let maxSpeedKmh ← getPolicySetting "plate_envelope" ["MAX_SPEED_KMH"] Json.toFloat
    (.num cfg.envelopeMaxSpeedKmh)
  let lowConf ← getPolicySetting "plate_envelope" ["REVIEW_LOW_CONF"] Json.toFloat
    (.num cfg.plateReviewLowConf)
  return { maxAngleDeg, minLux, maxSpeedKmh, lowConf }

/-- The thresholds on a store. -/
def envelopeThresholds (cfg : Config) (s : Store) : EnvelopeThresholds :=
  { maxAngleDeg := policySetting "plate_envelope" ["MAX_ANGLE_DEG"] Json.toFloat
      (.num cfg.envelopeMaxAngleDeg) s
    minLux := policySetting "plate_envelope" ["MIN_LUX"] Json.toFloat
      (.num cfg.envelopeMinLux) s
    maxSpeedKmh := policySetting "plate_envelope" ["MAX_SPEED_KMH"] Json.toFloat
      (.num cfg.envelopeMaxSpeedKmh) s
    lowConf := policySetting "plate_envelope" ["REVIEW_LOW_CONF"] Json.toFloat
      (.num cfg.plateReviewLowConf) s }

theorem reads_resolveEnvelopeThresholds (cfg : Config) :
    (resolveEnvelopeThresholds cfg).Reads (envelopeThresholds cfg) :=
  (reads_getPolicySetting _ _ _ _).bind fun _ =>
  (reads_getPolicySetting _ _ _ _).bind fun _ =>
  (reads_getPolicySetting _ _ _ _).bind fun _ =>
  (reads_getPolicySetting _ _ _ _).bind fun _ => Prog.reads_ret _

theorem readOnly_resolveEnvelopeThresholds (cfg : Config) :
    (resolveEnvelopeThresholds cfg).ReadOnly :=
  (readOnly_getPolicySetting _ _ _ _).bind fun _ =>
  (readOnly_getPolicySetting _ _ _ _).bind fun _ =>
  (readOnly_getPolicySetting _ _ _ _).bind fun _ =>
  (readOnly_getPolicySetting _ _ _ _).bind fun _ => trivial

/-- `abs`. -/
def absRat (q : ℚ) : ℚ := if q < 0 then -q else q

/-- The violated thresholds; a missing measurement violates nothing. -/
def envelopeViolations (q : CaptureQuality) (th : EnvelopeThresholds) :
    List EnvelopeViolation :=
  (match q.angleDeg with
    | some a => if th.maxAngleDeg.lt (.num (absRat a)) then [.angle a th.maxAngleDeg] else []
    | none => []) ++
  (match q.lux with
    | some l => if (PyFloat.num l).lt th.minLux then [.lux l th.minLux] else []
    | none => []) ++
  (match q.speedKmh with
    | some v => if th.maxSpeedKmh.lt (.num v) then [.speed v th.maxSpeedKmh] else []
    | none => [])

/-- `confidence is not None and float(confidence) < threshold`. -/
def lowConfidence (confidence : Option ℚ) (threshold : PyFloat) : Bool :=
  confidence.any fun c => (PyFloat.num c).lt threshold

/-- The evaluation, once the thresholds are known. -/
def evaluateWith (q : CaptureQuality) (confidence : Option ℚ) (plate : Option String)
    (th : EnvelopeThresholds) : EnvelopeResult :=
  let violations := envelopeViolations q th
  let unknownPlate := !(plate.any fun p => p != "")
  { ok := violations.isEmpty && !unknownPlate
    reviewRequired := lowConfidence confidence th.lowConf || unknownPlate || !violations.isEmpty
    violations
    thresholds := th }

/-- `evaluate_capture`. -/
def evaluateCapture (cfg : Config) (q : CaptureQuality) (confidence : Option ℚ)
    (plate : Option String) : Handler EnvelopeResult := do
  let th ← resolveEnvelopeThresholds cfg
  return evaluateWith q confidence plate th

/-- `review_status_for`. -/
def reviewStatusFor (cfg : Config) (confidence : Option ℚ) (env : EnvelopeResult) :
    ReviewStatus :=
  if env.reviewRequired then .needsReview
  else if lowConfidence confidence (.num cfg.plateReviewLowConf) then .needsReview
  else .autoOk

/-- The evaluation on a store. -/
def captureResult (cfg : Config) (q : CaptureQuality) (confidence : Option ℚ)
    (plate : Option String) (s : Store) : EnvelopeResult :=
  evaluateWith q confidence plate (envelopeThresholds cfg s)

/-- The review status on a store. -/
def captureReview (cfg : Config) (q : CaptureQuality) (confidence : Option ℚ)
    (plate : Option String) (s : Store) : ReviewStatus :=
  reviewStatusFor cfg confidence (captureResult cfg q confidence plate s)

theorem reads_evaluateCapture (cfg : Config) (q : CaptureQuality) (confidence : Option ℚ)
    (plate : Option String) :
    (evaluateCapture cfg q confidence plate).Reads (captureResult cfg q confidence plate) :=
  (reads_resolveEnvelopeThresholds cfg).bind fun _ => Prog.reads_ret _

theorem readOnly_evaluateCapture (cfg : Config) (q : CaptureQuality) (confidence : Option ℚ)
    (plate : Option String) : (evaluateCapture cfg q confidence plate).ReadOnly :=
  (readOnly_resolveEnvelopeThresholds cfg).bind fun _ => trivial

/-- An unreadable plate always goes to review. -/
theorem captureReview_unreadable (cfg : Config) (q : CaptureQuality) (confidence : Option ℚ)
    (s : Store) : captureReview cfg q confidence none s = .needsReview := by
  simp [captureReview, reviewStatusFor, captureResult, evaluateWith]

/-- Review of a readable plate with no measurements: the confidence decides, against both
thresholds. -/
theorem captureReview_confidence (cfg : Config) (confidence : Option ℚ) {plate : String}
    (hp : plate ≠ "") (s : Store) :
    captureReview cfg {} confidence (some plate) s = .needsReview ↔
      lowConfidence confidence (envelopeThresholds cfg s).lowConf = true ∨
        lowConfidence confidence (.num cfg.plateReviewLowConf) = true := by
  by_cases hlow : lowConfidence confidence (envelopeThresholds cfg s).lowConf = true
  · simp [captureReview, reviewStatusFor, captureResult, evaluateWith, hlow]
  · simp [captureReview, reviewStatusFor, captureResult, evaluateWith, envelopeViolations, hlow,
      hp]

end ParkingSystem
