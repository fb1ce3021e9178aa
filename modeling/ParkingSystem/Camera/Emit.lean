import ParkingSystem.Gate.Outcome

/-!
# Readings Sent by a Camera

The poller and the `capture-ocr` endpoint choose one reading of a frame and send it to the
gate. The engine's confidence is a number between 0 and 1; both senders multiply it by a
hundred, and the envelope compares what it gets with a threshold between 0 and 1.
-/

namespace ParkingSystem

open Plate PyText PyValue Transaction

/-! ## Readings of a frame -/

/-- An entry of `plates` in the result of `read_image`. -/
structure PlateItem where
  raw : String
  persian : String
  system : Option String
  valid : Bool
  confidence : ℚ
  method : String
  deriving DecidableEq

/-- `item.get("valid") and item.get("system") and item.get("confidence", 0) >= minimum`. -/
def PlateItem.usable (minConf : ℚ) (item : PlateItem) : Bool :=
  item.valid && item.system.any (· != "") && decide (minConf ≤ item.confidence)

/-- The text of a usable reading. -/
def PlateItem.text (item : PlateItem) : String := item.system.getD ""

/-- The reading that is sent: the first usable one. -/
def chooseReading (minConf : ℚ) (plates : List PlateItem) : Option PlateItem :=
  plates.find? (PlateItem.usable minConf)

/-- `round(float(confidence) * 100, 1)`. -/
def emittedConfidence (c : ℚ) : ℚ := (roundHalfEven (c * 100 * 10) : ℚ) / 10

/-! ## Repeated plates -/

/-- `_last_emit`: when a plate was sent last, in seconds. -/
abbrev LastEmit := List (String × ℚ)

/-- `_norm_key`. -/
def normKey (cfg : Config) (plate : String) : String :=
  match normalizePlate cfg.plateLetterMapping plate with
  | some n => if n = "" then plain else n
  | none => plain
where
  /-- The ASCII letters and digits of the text. -/
  plain : String :=
    String.ofList ((upper (plate.toList.map digitTrans)).filter fun c =>
      (decide ('A' ≤ c) && decide (c ≤ 'Z')) || (decide ('0' ≤ c) && decide (c ≤ '9')))

/-- `_should_emit`, with the table it leaves. -/
def shouldEmit (cfg : Config) (key : String) (now : ℚ) (last : LastEmit) : Bool × LastEmit :=
  if (last.lookup key).any fun prev => prev != 0 && decide (now - prev < cfg.cameraDedupeTtl) then
    (false, last)
  else
    let sent := (key, now) :: last.filter fun entry => entry.1 != key
    let cutoff := now - max 60 (cfg.cameraDedupeTtl * 4)
    (true, if 500 < sent.length then sent.filter fun entry => !decide (entry.2 < cutoff) else sent)

/-! ## Sending -/

/-- The gate a camera stands at. -/
structure CameraSide where
  side : String
  gateCode : String
  direction : String

/-- `gate_for`; the endpoint has the same defaults. -/
def gateFor (side : String) (gateCode direction : Option String) : CameraSide :=
  { side
    gateCode := orText gateCode ("GATE-" ++ side ++ "-01")
    direction := orText direction side }
where
  /-- `x or default`. -/
  orText (x : Option String) (default : String) : String :=
    match x with
    | some s => if s = "" then default else s
    | none => default

/-- The event of a reading. -/
def cameraEvent (cam : CameraSide) (plateRaw : String) (confidence : ℚ) (source : String)
    (payload : Dict) (id : ℕ) (now : ℤ) : PlateEvent :=
  { gateCode := cam.gateCode, direction := cam.direction, plateRaw
    sourceEventId := "cam-" ++ toString id, confidence := some confidence
    capturedAt := some now
    rawPayload := some (.obj (payload ++ [("source", .str source)])) }

/-- `emit_plate_event`, without the notification and the relay of the barrier. -/
def emitPlateEvent (cfg : Config) (cam : CameraSide) (plateRaw : String) (confidence : ℚ)
    (source : String) (payload : Dict) : Handler GateResponse := do
  let id ← Prog.newId
  let now ← Prog.getTime
  processPlateEvent cfg (cameraEvent cam plateRaw confidence source payload id now)

/-- Who sends readings. The endpoint may be given a minimum of its own. -/
inductive Emitter where
  | poller
  | capture (minConf : Option ℚ)

/-- The confidence below which a reading is not sent. -/
def Emitter.minConf (cfg : Config) : Emitter → ℚ
  | .poller => cfg.cameraMinConf
  | .capture minConf => minConf.getD cfg.cameraMinConf

def Emitter.source : Emitter → String
  | .poller => "camera-poller"
  | .capture _ => "camera-capture"

def Emitter.payload (side : String) (item : PlateItem) : Emitter → Dict
  | .poller => [("side", .str side), ("raw_read", .str item.raw), ("persian", .str item.persian),
      ("method", .str item.method)]
  | .capture _ => []

/-- The event a sender makes of a reading. -/
def Emitter.event (em : Emitter) (cam : CameraSide) (item : PlateItem) (id : ℕ) (now : ℤ) :
    PlateEvent :=
  cameraEvent cam item.text (emittedConfidence item.confidence) em.source
    (em.payload cam.side item) id now

/-- A sender makes an event of a reading. -/
def Emitter.send (cfg : Config) (em : Emitter) (cam : CameraSide) (item : PlateItem) :
    Handler GateResponse :=
  emitPlateEvent cfg cam item.text (emittedConfidence item.confidence) em.source
    (em.payload cam.side item)

/-- `_process_frame`, from the result of the engine on; what raises is noted and dropped. -/
def processFrame (cfg : Config) (cam : CameraSide) (plates : List PlateItem) (now : ℚ)
    (last : LastEmit) : Handler (Option GateResponse) × LastEmit :=
  match chooseReading (Emitter.minConf cfg .poller) plates with
  | none => (.ret none, last)
  | some item =>
    let key := normKey cfg item.text
    if key = "" then (.ret none, last)
    else match shouldEmit cfg key now last with
      | (false, last) => (.ret none, last)
      | (true, last) =>
        (do
          let sent ← Prog.attempt do
            let resp ← Emitter.poller.send cfg cam item
            Prog.commitTx
            return resp
          return sent.toOption, last)

/-- The end of `capture_ocr`: the reading, and the answer where one is sent. -/
def captureOcr (cfg : Config) (autoEmit : Bool) (minConf : Option ℚ) (cam : CameraSide)
    (plates : List PlateItem) (now : ℚ) (last : LastEmit) :
    Handler (Option GateResponse) × LastEmit :=
  match chooseReading (Emitter.minConf cfg (.capture minConf)) plates with
  | none => (.ret none, last)
  | some item =>
    if !autoEmit then (.ret none, last)
    else
      let key := normKey cfg item.text
      -- a reading without a key is sent every time
      match if key = "" then (true, last) else shouldEmit cfg key now last with
      | (false, last) => (.ret none, last)
      | (true, last) =>
        (do
          let sent ← ((Emitter.capture minConf).send cfg cam item).attempt
          return sent.toOption, last)

/-- What a sender does with a frame. -/
def Emitter.run (cfg : Config) (cam : CameraSide) (plates : List PlateItem) (now : ℚ)
    (last : LastEmit) : Emitter → Handler (Option GateResponse)
  | .poller => (processFrame cfg cam plates now last).1
  | .capture minConf => (captureOcr cfg true minConf cam plates now last).1

section

variable {cfg : Config} {em : Emitter} {cam : CameraSide} {item : PlateItem} {clk : ℕ → ℤ}

/-- Sending a reading is processing its event, under the next identifier and instant. -/
theorem exec_send (w : Session Store) :
    (em.send cfg cam item).exec clk w =
      (processPlateEvent cfg (em.event cam item w.nextId (clk w.tick))).exec clk
        { w with nextId := w.nextId + 1, tick := w.tick + 1 } := by
  refine (Prog.exec_bind_of_ok (Prog.exec_newId clk w)).trans ?_
  exact (Prog.exec_bind_of_ok (Prog.exec_getTime clk _)).trans rfl

/-- An attempt that gave a value is a run that returned it. -/
theorem exec_attempt_toOption {p : Handler GateResponse} {w w' : Session Store}
    {resp : GateResponse}
    (h : (p.attempt.bind fun sent => .ret sent.toOption).exec clk w = (.ok (some resp), w')) :
    p.exec clk w = (.ok resp, w') := by
  have h := (Prog.exec_bind_of_ok (Prog.exec_attempt clk p w)).symm.trans h
  rcases hp : p.exec clk w with ⟨exc | found, w₁⟩
  · simp [hp, Except.toOption] at h
  · obtain ⟨rfl, rfl⟩ : found = resp ∧ w₁ = w' := by simpa [hp, Except.toOption] using h
    rfl

/-- **An answer of a sender** is that of the gate to the reading it chose. -/
theorem exec_run_some {plates : List PlateItem} {now : ℚ} {last : LastEmit} {w w' : Session Store}
    {resp : GateResponse} (hitem : chooseReading (em.minConf cfg) plates = some item)
    (h : (em.run cfg cam plates now last).exec clk w = (.ok (some resp), w')) :
    ∃ w₁, (em.send cfg cam item).exec clk w = (.ok resp, w₁) := by
  cases em with
  | poller =>
    simp only [Emitter.run, processFrame, hitem] at h
    split at h
    · cases h
    · split at h
      · cases h
      · have h := exec_attempt_toOption h
        obtain ⟨found, w₁, hsend, h⟩ := Prog.exec_bind_ok h
        obtain ⟨_, w₂, _, h⟩ := Prog.exec_bind_ok h
        cases h
        exact ⟨w₁, hsend⟩
  | capture minConf =>
    simp only [Emitter.run, captureOcr, hitem, Bool.not_true, Bool.false_eq_true, if_false] at h
    split at h
    · cases h
    · exact ⟨w', exec_attempt_toOption h⟩

end

/-! ## Confidence and review -/

/-- The reading is reviewed for its confidence: without one it would not be. -/
def PlateEvent.ReviewedForConfidence (cfg : Config) (e : PlateEvent) (s : Store) : Prop :=
  e.review cfg s = .needsReview ∧
    PlateEvent.review cfg { e with confidence := none } s ≠ .needsReview

/-- What the thresholds ask of a confidence that is sent. -/
def lowWhenSent (cfg : Config) (t c : ℚ) : Prop :=
  emittedConfidence c < t ∨ emittedConfidence c < cfg.plateReviewLowConf

section

variable {cfg : Config} {em : Emitter} {cam : CameraSide} {item : PlateItem} {s : Store} {t : ℚ}

/-- A readable plate is reviewed exactly for the confidence that is sent. -/
theorem event_review_iff (ht : (envelopeThresholds cfg s).lowConf = .num t) {plate : String}
    (hplate : normalizePlate cfg.plateLetterMapping item.text = some plate) (id : ℕ) (now : ℤ) :
    (em.event cam item id now).review cfg s = .needsReview ↔ lowWhenSent cfg t item.confidence := by
  show captureReview cfg {} (some (emittedConfidence item.confidence))
    (normalizePlate cfg.plateLetterMapping item.text) s = .needsReview ↔ _
  rw [hplate, captureReview_confidence cfg _ (normalizePlate_ne_empty hplate), ht]
  simp [lowConfidence, lowWhenSent]

/-- An unreadable plate is reviewed whatever its confidence. -/
theorem event_review_unreadable (hplate : normalizePlate cfg.plateLetterMapping item.text = none)
    (id : ℕ) (now : ℤ) (confidence : Option ℚ) :
    PlateEvent.review cfg { em.event cam item id now with confidence } s = .needsReview := by
  show captureReview cfg {} confidence (normalizePlate cfg.plateLetterMapping item.text) s = _
  rw [hplate]
  exact captureReview_unreadable cfg _ _ _

/-- Without a confidence a readable plate is not reviewed. -/
theorem event_review_noConfidence {plate : String}
    (hplate : normalizePlate cfg.plateLetterMapping item.text = some plate) (id : ℕ) (now : ℤ) :
    PlateEvent.review cfg { em.event cam item id now with confidence := none } s ≠
      .needsReview := by
  intro h
  have h : captureReview cfg {} none (normalizePlate cfg.plateLetterMapping item.text) s =
    .needsReview := h
  rw [hplate, captureReview_confidence cfg _ (normalizePlate_ne_empty hplate)] at h
  simp [lowConfidence] at h

/-- A reading that needs review is never answered with an open barrier. -/
theorem exec_run_reviewed (hreview : ∀ id now, (em.event cam item id now).review cfg s = .needsReview)
    {clk : ℕ → ℤ} {n k : ℕ} (hnew : eventByKey (em.event cam item n (clk k)).key s = none)
    {plates : List PlateItem} (hitem : chooseReading (em.minConf cfg) plates = some item) {now : ℚ}
    {last : LastEmit} {resp : GateResponse} {w' : Session Store}
    (h : (em.run cfg cam plates now last).exec clk (.fresh s n k) = (.ok (some resp), w')) :
    resp.barrierAction ≠ .opened := by
  obtain ⟨w₁, hsend⟩ := exec_run_some hitem h
  rw [exec_send] at hsend
  intro hopened
  obtain ⟨gate, base, w₂, v, w₃, hdecided, hending⟩ := processPlateEvent_ok rfl rfl hnew hsend
  have hallowed := (hending.opened_iff hdecided).1 hopened
  rw [hdecided.verdict, verdictOn_allowed] at hallowed
  exact hallowed.1 (hreview n (clk k))

/-- **Confidence and review**: a confidence below the threshold, and no other, sends a reading to
review and keeps the barrier closed, exactly where the plate cannot be read or the percentage
that is sent is below a threshold when the confidence is. -/
theorem confidence_reviewed_iff (cfg : Config) (em : Emitter) (cam : CameraSide)
    (item : PlateItem) (s : Store) {t : ℚ} (ht : (envelopeThresholds cfg s).lowConf = .num t) :
    ((item.confidence < t →
        (∀ id now, (em.event cam item id now).review cfg s = .needsReview) ∧
        ∀ (clk : ℕ → ℤ) (n k : ℕ) (plates : List PlateItem) (now : ℚ) (last : LastEmit)
          (resp : GateResponse) (w' : Session Store),
          eventByKey (em.event cam item n (clk k)).key s = none →
          chooseReading (em.minConf cfg) plates = some item →
          (em.run cfg cam plates now last).exec clk (.fresh s n k) = (.ok (some resp), w') →
          resp.barrierAction ≠ .opened) ∧
      (t ≤ item.confidence →
        ∀ id now, ¬ (em.event cam item id now).ReviewedForConfidence cfg s)) ↔
      normalizePlate cfg.plateLetterMapping item.text = none ∨
        (item.confidence < t ↔ lowWhenSent cfg t item.confidence) := by
  cases hplate : normalizePlate cfg.plateLetterMapping item.text with
  | none =>
    have hreview (id : ℕ) (now : ℤ) : (em.event cam item id now).review cfg s = .needsReview :=
      event_review_unreadable hplate id now _
    refine iff_of_true ⟨fun _ => ⟨hreview, ?_⟩, fun _ id now hfor => ?_⟩ (Or.inl rfl)
    · intro clk n k plates now last resp w' hnew hitem h
      exact exec_run_reviewed hreview hnew hitem h
    · exact hfor.2 (event_review_unreadable hplate id now none)
  | some plate =>
    simp only [reduceCtorEq, false_or]
    have hiff (id : ℕ) (now : ℤ) : (em.event cam item id now).review cfg s = .needsReview ↔
        lowWhenSent cfg t item.confidence := event_review_iff ht hplate id now
    constructor
    · rintro ⟨hlow, hhigh⟩
      constructor
      · intro hc
        exact (hiff 0 0).1 ((hlow hc).1 0 0)
      · intro hsent
        by_contra hc
        exact hhigh (Rat.not_lt.1 hc) 0 0
          ⟨(hiff 0 0).2 hsent, event_review_noConfidence hplate 0 0⟩
    · intro hcond
      refine ⟨fun hc => ?_, fun hc id now hfor => ?_⟩
      · have hreview (id : ℕ) (now : ℤ) :
            (em.event cam item id now).review cfg s = .needsReview := (hiff id now).2 (hcond.1 hc)
        refine ⟨hreview, ?_⟩
        intro clk n k plates now last resp w' hnew hitem h
        exact exec_run_reviewed hreview hnew hitem h
      · exact absurd (hcond.2 ((hiff id now).1 hfor.1)) (Rat.not_lt.2 hc)

end

/-! ### A poor reading at the default threshold -/

/-- A registered vehicle with a permit. -/
def permitStore : Store :=
  { gates := [{ id := "g1", code := "GATE-IN-01", name := "North" }]
    vehicles := [{ id := 1, plateNormalized := "12B345IR67", createdAt := 0 }]
    permits := [{ id := 2, plateNormalized := "12B345IR67", createdAt := 0 }] }

/-- A reading with less confidence than the threshold asks for. -/
def poorReading : PlateItem :=
  { raw := "12ب34567", persian := "۱۲ب۳۴۵-۶۷", system := some "12B345IR67", valid := true
    confidence := 3 / 5, method := "yolo" }

theorem confidence_reviewed_iff_poorReading :
    ((poorReading.confidence < 7 / 10 →
        (∀ id now, (Emitter.poller.event (gateFor "IN" none none) poorReading id now).review {}
          permitStore = .needsReview) ∧
        ∀ (clk : ℕ → ℤ) (n k : ℕ) (plates : List PlateItem) (now : ℚ) (last : LastEmit)
          (resp : GateResponse) (w' : Session Store),
          eventByKey (Emitter.poller.event (gateFor "IN" none none) poorReading n (clk k)).key
            permitStore = none →
          chooseReading (Emitter.poller.minConf {}) plates = some poorReading →
          (Emitter.poller.run {} (gateFor "IN" none none) plates now last).exec clk
            (.fresh permitStore n k) = (.ok (some resp), w') →
          resp.barrierAction ≠ .opened) ∧
      (7 / 10 ≤ poorReading.confidence → ∀ id now,
        ¬ (Emitter.poller.event (gateFor "IN" none none) poorReading id now).ReviewedForConfidence
          {} permitStore)) ↔
      normalizePlate "MANY_TO_ONE" poorReading.text = none ∨
        (poorReading.confidence < 7 / 10 ↔ lowWhenSent {} (7 / 10) poorReading.confidence) :=
  confidence_reviewed_iff {} .poller (gateFor "IN" none none) poorReading permitStore
    (by decide +kernel)

/-- **A poor reading that opens the barrier** -/
theorem poorReading_opened :
    ¬ ∀ (cfg : Config) (em : Emitter) (cam : CameraSide) (item : PlateItem) (s : Store) (t : ℚ)
      (clk : ℕ → ℤ) (n k : ℕ) (plates : List PlateItem) (now : ℚ) (last : LastEmit)
      (resp : GateResponse) (w' : Session Store),
      0 ≤ item.confidence → item.confidence ≤ 1 → 0 < t → t ≤ 1 →
      (envelopeThresholds cfg s).lowConf = .num t →
      eventByKey (em.event cam item n (clk k)).key s = none →
      chooseReading (em.minConf cfg) plates = some item →
      (em.run cfg cam plates now last).exec clk (.fresh s n k) = (.ok (some resp), w') →
      item.confidence < t → resp.barrierAction ≠ .opened := by
  intro h
  have hopened : (((Emitter.poller.run {} (gateFor "IN" none none) [poorReading] 0 []).exec
      (fun _ => 0) (.fresh permitStore 10 0)).1.toOption.join.any fun resp =>
        resp.barrierAction == .opened) = true := by
    decide +kernel
  have hitem : chooseReading (Emitter.poller.minConf {}) [poorReading] = some poorReading := by
    decide +kernel
  rcases hexec : (Emitter.poller.run {} (gateFor "IN" none none) [poorReading] 0 []).exec
    (fun _ => 0) (.fresh permitStore 10 0) with ⟨exc | found, w'⟩
  · simp [hexec, Except.toOption] at hopened
  · cases found with
    | none => simp [hexec, Except.toOption] at hopened
    | some resp =>
      refine h {} .poller (gateFor "IN" none none) poorReading permitStore (7 / 10) (fun _ => 0)
        10 0 [poorReading] 0 [] resp w' ?_ ?_ ?_ ?_ rfl (by decide) hitem hexec ?_ ?_
      · decide +kernel
      · decide +kernel
      · decide +kernel
      · decide +kernel
      · decide +kernel
      · simpa [hexec, Except.toOption] using hopened

end ParkingSystem
