import ParkingSystem.Library.Hoare
import ParkingSystem.Registry.Admin
import ParkingSystem.Violations

/-!
# Issuing Violations

Two endpoints create violations. `POST /violations` (which also takes what a device recorded
while it was offline, under a `client_ref`) writes the columns by name. `POST /ops/fine` reads the
columns off the table: it sets those that a list of alternative names matches, and then every
column that must have a value and has none.

A violation is good for something where the state machine knows its status and its penalty is the
amount it was issued with.
-/

namespace ParkingSystem

open PyText Plate Table Transaction

/-! ## Statements -/

/-- INSERT of a violation. -/
def insertViolation (v : Violation) : Stmt where
  label := .registry .insertViolation
  locks := (v.clientRef.map Lock.violationClientRef).toList
  check s :=
    if !(fitsChar? 32 v.plateNormalized && fitsChar? 36 v.parkingSpaceId &&
        fitsChar 16 v.status && fitsChar? 64 v.clientRef && fitsChar? 36 v.imageFileId &&
        fitsBigInt v.penaltyAmount) then some .data
    else if v.clientRef.isSome && s.violations.any fun u => u.clientRef == v.clientRef then
      some .integrity
    else if !(refersTo Store.vehicles Vehicle.id v.vehicleId s &&
        refersTo Store.violationTypes ViolationType.id (some v.violationTypeId) s) then
      some .integrity
    else none
  apply s := { s with violations := s.violations ++ [v] }

/-- INSERT of a violation type. -/
def insertViolationType (t : ViolationType) : Stmt where
  label := .registry .insertViolationType
  locks := [.violationTypeCode t.code]
  check s :=
    if !(fitsChar 32 t.code && fitsChar 128 t.title && fitsBigInt t.defaultPenaltyAmount) then
      some .data
    else if s.violationTypes.any fun u => u.code == t.code then some .integrity
    else none
  apply s := { s with violationTypes := s.violationTypes ++ [t] }

/-- What both endpoints answer: the violation, the amount it was issued with, and whether it was
there before. -/
structure IssueResponse where
  id : ℕ
  amount : ℤ
  duplicate : Bool := false
  deriving DecidableEq, Repr

/-! ## POST /violations -/

/-- `ViolationCreate`. -/
structure ViolationCreate where
  plateRaw : String
  violationTypeCode : String
  description : Option String := none
  parkingSpaceId : Option String := none
  clientRef : Option String := none
  imageFileId : Option String := none
  deriving DecidableEq, Repr

/-- The violation under a `client_ref`; the empty one is none. -/
def violationByRef (clientRef : Option String) (s : Store) : Option Violation :=
  clientRef.bind fun ref =>
    if ref = "" then none else s.violations.find? fun v => v.clientRef == some ref

/-- The vehicle a plate names, if it can be read. -/
def vehicleAt (plate : Option String) (s : Store) : Option Vehicle :=
  plate.bind fun plate => s.vehicles.find? fun v => v.plateNormalized == plate

/-- The answer for a violation that is there. -/
def existingViolation (v : Violation) : IssueResponse :=
  { id := v.id, amount := v.penaltyAmount, duplicate := true }

/-- The INSERT of `create_violation`: a `client_ref` that another request took in between is
answered with that request's violation. -/
def storeViolation (v : Violation) : Handler IssueResponse :=
  Prog.onIntegrity
    (do
      Prog.flush (insertViolation v)
      Prog.commitTx
      return { id := v.id, amount := v.penaltyAmount })
    (do
      Prog.rollbackTx
      let existing ← .select (violationByRef v.clientRef)
      match existing with
      | some u => return existingViolation u
      | none => .throw (.rejected .integrity))

/-- The row of `create_violation`. -/
def ViolationCreate.row (body : ViolationCreate) (plate : Option String) (vehicle : Option Vehicle)
    (t : ViolationType) (user : Option ℕ) (id : ℕ) (now : ℤ) : Violation :=
  { id, vehicleId := vehicle.map Vehicle.id, plateNormalized := plate, violationTypeId := t.id
    parkingSpaceId := body.parkingSpaceId, occurredAt := now, description := body.description
    penaltyAmount := t.defaultPenaltyAmount, registeredBy := user, clientRef := body.clientRef
    imageFileId := body.imageFileId }

/-- `create_violation`. -/
def createViolation (cfg : Config) (body : ViolationCreate) (user : Option ℕ) :
    Handler IssueResponse :=
  if plateTextValid body.plateRaw then do
    let existing ← .select (violationByRef body.clientRef)
    match existing with
    | some v => return existingViolation v
    | none => do
      let vtype ← .select fun s : Store =>
        s.violationTypes.find? fun t => t.code == body.violationTypeCode
      match vtype with
      | none => Prog.raise .notFound
      | some t =>
        if t.requiresImage && (body.imageFileId.getD "").isEmpty then
          Prog.raise (.unprocessable "REQUIRED_IMAGE_MISSING")
        else do
          let plate := normalizePlate cfg.plateLetterMapping body.plateRaw
          let vehicle ← .select (vehicleAt plate)
          let id ← Prog.newId
          let now ← Prog.getTime
          storeViolation (body.row plate vehicle t user id now)
  else Prog.raise (.unprocessable "plate_raw")

/-! ## POST /ops/fine -/

/-- A value of a column. -/
inductive ColumnValue where
  | text (s : Option String)
  | int (n : ℤ)
  | bool (b : Bool)
  | time (t : ℤ)
  | ref (id : ℕ)
  deriving DecidableEq, Repr

/-- `python_type`. -/
inductive PyType where
  | str
  | int
  | bool
  | datetime
  deriving DecidableEq, Repr

/-- A column of a table, as far as the loop looks at it. -/
structure Column where
  name : String
  pyType : PyType := .str
  nullable : Bool := false
  hasDefault : Bool := false
  foreignKey : Bool := false
  deriving DecidableEq, Repr

/-- `Violation.__table__.columns`. -/
def violationColumns : List Column :=
  [{ name := "id", hasDefault := true },
    { name := "vehicle_id", nullable := true, foreignKey := true },
    { name := "plate_normalized", nullable := true },
    { name := "violation_type_id", foreignKey := true },
    { name := "parking_space_id", nullable := true },
    { name := "gate_id", nullable := true },
    { name := "occurred_at", pyType := .datetime },
    { name := "description", nullable := true },
    { name := "penalty_amount", pyType := .int, hasDefault := true },
    { name := "registered_by", nullable := true },
    { name := "status", hasDefault := true },
    { name := "reviewed_by", nullable := true },
    { name := "reviewed_at", pyType := .datetime, nullable := true },
    { name := "client_ref", nullable := true },
    { name := "image_file_id", nullable := true },
    { name := "created_at", pyType := .datetime, hasDefault := true },
    { name := "updated_at", pyType := .datetime, hasDefault := true }]

/-- `FineCreate`. -/
structure FineCreate where
  plateRaw : String
  amount : ℤ := 500000
  reason : Option String := none
  violationType : String := "MANUAL"
  deriving DecidableEq, Repr

/-- The columns set so far. -/
abbrev FineData := List (String × ColumnValue)

/-- The alternative names, with what each would get. -/
def FineCreate.alternatives (body : FineCreate) : FineData :=
  [("plate_raw", .text (some body.plateRaw)), ("violation_type", .text (some body.violationType)),
    ("type", .text (some body.violationType)), ("amount", .int body.amount),
    ("fine_amount", .int body.amount), ("reason", .text body.reason),
    ("description", .text body.reason), ("status", .text (some "ACTIVE"))]

/-- `data` before the loop: the alternatives that the table has. -/
def FineCreate.data (body : FineCreate) (plate : String) (vehicle : Option Vehicle) : FineData :=
  ("plate_normalized", .text (some plate)) ::
    body.alternatives.filter (fun entry => violationColumns.any fun c => c.name == entry.1) ++
      (vehicle.map fun v => ("vehicle_id", ColumnValue.ref v.id)).toList

/-- Whether the loop passes a column over. -/
def FineData.passesOver (data : FineData) (c : Column) : Bool :=
  (data.lookup c.name).isSome || ["id", "created_at", "updated_at"].contains c.name ||
    c.nullable || c.hasDefault

/-- The first violation type, which is made where there is none. It is the only table that a
foreign key of a violation leads to which the loop follows; its columns without a default are
texts. -/
def anyViolationType : Handler (Option ViolationType) := do
  let found ← .select fun s : Store => s.violationTypes.head?
  match found with
  | some t => return some t
  | none => do
    let id ← Prog.newId
    Prog.flush (insertViolationType { id, code := "MANUAL", title := "MANUAL" })
    .select fun s : Store => s.violationTypes.head?

/-- One turn of the loop over the columns. -/
def fillColumn (user : ℕ) (data : FineData) (c : Column) : Handler FineData :=
  if data.passesOver c then return data
  else if c.foreignKey && c.name != "vehicle_id" then do
    let found ← anyViolationType
    match found with
    | some t => return (c.name, .ref t.id) :: data
    | none => return data
  else if "_id".toList.isSuffixOf c.name.toList then return (c.name, .ref user) :: data
  else match c.pyType with
    | .int => return (c.name, .int 0) :: data
    | .bool => return (c.name, .bool false) :: data
    | .datetime => do
      let now ← Prog.getTime
      return (c.name, .time now) :: data
    -- a random text
    | .str => do
      let id ← Prog.newId
      return (c.name, .text (some (toString id))) :: data

/-- The loop. -/
def fillColumns (user : ℕ) : FineData → List Column → Handler FineData
  | data, [] => return data
  | data, c :: columns => do
    let data ← fillColumn user data c
    fillColumns user data columns

/-- A text column of `data`. -/
def FineData.text (data : FineData) (name : String) : Option String :=
  match data.lookup name with
  | some (.text s) => s
  | _ => none

/-- A reference column of `data`. -/
def FineData.ref (data : FineData) (name : String) : Option ℕ :=
  match data.lookup name with
  | some (.ref id) => some id
  | _ => none

/-- `Violation(**data)`: a column that is not in `data` has its default. -/
def FineData.row (data : FineData) (id : ℕ) : Violation :=
  { id, vehicleId := data.ref "vehicle_id", plateNormalized := data.text "plate_normalized"
    violationTypeId := (data.ref "violation_type_id").getD 0
    occurredAt := match data.lookup "occurred_at" with
      | some (.time t) => t
      | _ => 0
    description := data.text "description"
    penaltyAmount := match data.lookup "penalty_amount" with
      | some (.int n) => n
      | _ => 0
    status := (data.text "status").getD "REGISTERED" }

/-- `create_fine`. -/
def createFine (cfg : Config) (body : FineCreate) (user : ℕ) : Handler IssueResponse := do
  let plate := plateKey cfg body.plateRaw
  let vehicle ← .select (vehicleAt (some plate))
  let data ← fillColumns user (body.data plate vehicle) violationColumns
  let id ← Prog.newId
  Prog.flush (insertViolation (data.row id))
  Prog.commitTx
  return { id, amount := body.amount }

/-! ## What the endpoints create -/

section Created

variable {cfg : Config} {clk : ℕ → ℤ} {s : Store} {n k : ℕ}

/-- The violations a request added. -/
def createdViolations (s s' : Store) : List Violation := s'.violations.drop s.violations.length

/-- How `POST /violations` ends: it added nothing, or one violation that the state machine knows,
and answered with its penalty. -/
def RegisteredOne (s : Store) (r : Except (Exc AppError) IssueResponse) (w : Session Store) : Prop :=
  w.committed.violations = s.violations ∨
    ∃ v : Violation, w.committed.violations = s.violations ++ [v] ∧ v.status = "REGISTERED" ∧
      fitsBigInt v.penaltyAmount = true ∧ r = .ok { id := v.id, amount := v.penaltyAmount }

theorem insertViolation_fits {v : Violation} (h : (insertViolation v).check s = none) :
    fitsBigInt v.penaltyAmount = true := by
  simp only [insertViolation] at h
  split at h
  · cases h
  · simp_all

theorem storeViolation_wp {v : Violation} (hstatus : v.status = "REGISTERED") {w : Session Store}
    (hview : w.view = s) (hcommitted : w.committed = s) :
    (storeViolation v).wp clk (RegisteredOne s) w := by
  subst hview
  have hsame : w.committed.violations = w.view.violations := by rw [hcommitted]
  refine Prog.wp_onIntegrity (Prog.wp_flush (fun _ => .inl hsame) (fun _ r _ => ?_) fun _ hc =>
    Prog.wp_commit (fun _ => .inl hsame) fun _ => Prog.wp_ret ?_)
  · cases r with
    | data => exact .inl hsame
    | integrity =>
      -- the handler adds nothing, whatever it finds
      refine Prog.wp_rollback (Prog.wp_select (fun _ => .inl hsame) fun _ => ?_)
      split
      · exact Prog.wp_ret (.inl hsame)
      · exact Prog.wp_throw (.inl hsame)
  · exact .inr ⟨v, rfl, hstatus, insertViolation_fits hc, rfl⟩

theorem createViolation_wp (body : ViolationCreate) (user : Option ℕ) :
    (createViolation cfg body user).wp clk (RegisteredOne s) (Session.fresh s n k) := by
  have hsame (r : Except (Exc AppError) IssueResponse) :
      RegisteredOne s r (Session.fresh s n k) := .inl rfl
  unfold createViolation
  split
  · refine Prog.wp_select (fun _ => hsame _) fun _ => ?_
    split
    · exact Prog.wp_ret (hsame _)
    · refine Prog.wp_select (fun _ => hsame _) fun _ => ?_
      split
      · exact Prog.wp_raise (hsame _)
      · split
        · exact Prog.wp_raise (hsame _)
        · exact Prog.wp_select (fun _ => hsame _) fun _ => Prog.wp_newId <| Prog.wp_getTime <|
            storeViolation_wp rfl rfl rfl
  · exact Prog.wp_raise (hsame _)

/-! ### POST /ops/fine -/

theorem FineCreate.data_eq (body : FineCreate) (plate : String) (vehicle : Option Vehicle) :
    body.data plate vehicle =
      [("plate_normalized", .text (some plate)), ("description", .text body.reason),
        ("status", .text (some "ACTIVE"))] ++
        (vehicle.map fun v => ("vehicle_id", ColumnValue.ref v.id)).toList := rfl

/-- The two columns that the loop fills. -/
def fillRequired (data : FineData) : Handler FineData := do
  let found ← anyViolationType
  match found with
  | some t => do
    let now ← Prog.getTime
    return ("occurred_at", .time now) :: ("violation_type_id", .ref t.id) :: data
  | none => do
    let now ← Prog.getTime
    return ("occurred_at", .time now) :: data

theorem fillColumns_violation (body : FineCreate) (plate : String) (vehicle : Option Vehicle)
    (user : ℕ) :
    fillColumns user (body.data plate vehicle) violationColumns =
      fillRequired (body.data plate vehicle) := by
  -- every column before the violation type is passed over
  have hstart : fillColumns user (body.data plate vehicle) violationColumns =
      (anyViolationType.bind fun found => match found with
        | some t => pure (("violation_type_id", ColumnValue.ref t.id) :: body.data plate vehicle)
        | none => pure (body.data plate vehicle)).bind fun data =>
          fillColumns user data (violationColumns.drop 4) := by
    rw [FineCreate.data_eq]
    cases vehicle <;> rfl
  rw [hstart, Prog.bind_assoc, FineCreate.data_eq]
  refine congrArg anyViolationType.bind (funext fun found => ?_)
  -- and every one after it, the time apart
  cases found <;> cases vehicle <;> rfl

/-- A live session that has not touched vehicles and violations. -/
structure AtFine (s : Store) (w : Session Store) : Prop where
  live : w.broken = false
  committed : w.committed = s
  violations : w.view.violations = s.violations
  vehicles : w.view.vehicles = s.vehicles

theorem atFine_fresh : AtFine s (Session.fresh s n k) := ⟨rfl, rfl, rfl, rfl⟩

theorem anyViolationType_wp {w : Session Store} (h : AtFine s w) :
    anyViolationType.wp clk
      (fun r w' => AtFine s w' ∧ ∃ t ∈ w'.view.violationTypes, r = .ok (some t)) w := by
  refine Prog.wp_select (fun hb => absurd hb (by simp [h.live])) fun _ => ?_
  cases hhead : w.view.violationTypes.head? with
  | some t => exact Prog.wp_ret ⟨h, t, List.mem_of_mem_head? hhead, rfl⟩
  | none =>
    have hnil := List.head?_eq_none_iff.1 hhead
    -- the first row of an empty table is the one put there
    have hfirst (id : ℕ) : (insertViolationType
        { id, code := "MANUAL", title := "MANUAL" }).check w.view = none := by
      simp only [insertViolationType, hnil]
      rfl
    refine Prog.wp_newId (Prog.wp_flush (fun hb => absurd hb (by simp [h.live]))
      (fun _ r hr => absurd hr (by simp [hfirst])) fun _ _ => ?_)
    refine Prog.wp_of_exec (Prog.exec_select clk _ h.live)
      ⟨⟨h.live, h.committed, h.violations, h.vehicles⟩, ?_⟩
    simp only [insertViolationType, hnil, List.nil_append, List.head?_cons]
    exact ⟨_, List.mem_singleton_self _, rfl⟩

/-- The violation that a fine becomes: the amount is nowhere in it. -/
def FineCreate.row (body : FineCreate) (plate : String) (vehicle : Option Vehicle)
    (t : ViolationType) (now : ℤ) (id : ℕ) : Violation :=
  { id, vehicleId := vehicle.map Vehicle.id, plateNormalized := some plate
    violationTypeId := t.id, occurredAt := now, description := body.reason, penaltyAmount := 0
    status := "ACTIVE" }

theorem FineCreate.row_eq (body : FineCreate) (plate : String) (vehicle : Option Vehicle)
    (t : ViolationType) (now : ℤ) (id : ℕ) :
    FineData.row (("occurred_at", .time now) :: ("violation_type_id", .ref t.id) ::
      body.data plate vehicle) id = body.row plate vehicle t now id := by
  rw [FineCreate.data_eq]
  cases vehicle <;> rfl

theorem refersTo_of_mem {α : Type} {rows : Store → List α} {key : α → ℕ} {s : Store} {a : α}
    (h : a ∈ rows s) : refersTo rows key (some (key a)) s = true := by
  simp only [refersTo, Option.all_some, List.any_eq_true]
  exact ⟨a, h, by simp⟩

/-- The INSERT of a fine is refused for the length of its key only. -/
theorem insertFine_check (body : FineCreate) (plate : String) {t : ViolationType} (now : ℤ)
    (id : ℕ) {s' : Store} (hvehicles : s'.vehicles = s.vehicles) (ht : t ∈ s'.violationTypes) :
    (insertViolation (body.row plate (vehicleAt (some plate) s) t now id)).check s' =
      if fitsChar 32 plate then none else some .data := by
  have htype : refersTo Store.violationTypes ViolationType.id (some t.id) s' = true :=
    refersTo_of_mem ht
  have hvehicle : refersTo Store.vehicles Vehicle.id
      ((vehicleAt (some plate) s).map Vehicle.id) s' = true := by
    cases hv : vehicleAt (some plate) s with
    | none => rfl
    | some v =>
      have hmem : v ∈ s'.vehicles := hvehicles ▸ List.mem_of_find?_eq_some hv
      exact refersTo_of_mem hmem
  have hpenalty : fitsBigInt 0 = true := rfl
  have hstatus : fitsChar 16 "ACTIVE" = true := rfl
  cases hfits : fitsChar 32 plate <;>
    simp [insertViolation, FineCreate.row, fitsChar?, hfits, htype, hvehicle, hpenalty, hstatus]

/-- What `POST /ops/fine` leaves: one violation that no transition leaves, unless its key is too
long. -/
def FinedOne (s : Store) (plate : String) (w : Session Store) : Prop :=
  if fitsChar 32 plate then
    ∃ v : Violation, w.committed.violations = s.violations ++ [v] ∧ v.status = "ACTIVE"
  else w.committed.violations = s.violations

theorem createFine_wp (body : FineCreate) (user : ℕ) :
    (createFine cfg body user).wp clk (fun _ w => FinedOne s (plateKey cfg body.plateRaw) w)
      (Session.fresh s n k) := by
  unfold createFine
  generalize plateKey cfg body.plateRaw = plate
  refine Prog.wp_select (fun hb => absurd hb Bool.false_ne_true) fun _ => Prog.wp_bind ?_
  rw [Session.fresh_view, fillColumns_violation]
  refine Prog.wp_bind ((anyViolationType_wp atFine_fresh).mono fun r w' hr => ?_)
  obtain ⟨hat, t, ht, rfl⟩ := hr
  refine Prog.wp_getTime (Prog.wp_ret (Prog.wp_newId ?_))
  rw [FineCreate.row_eq]
  have hcheck := insertFine_check body plate (clk w'.tick) w'.nextId hat.vehicles ht
  by_cases hfits : fitsChar 32 plate = true
  · rw [if_pos hfits] at hcheck
    have hrow : FinedOne s plate { w' with
        committed := (insertViolation (body.row plate (vehicleAt (some plate) s) t (clk w'.tick)
          w'.nextId)).apply w'.view } :=
      (if_pos hfits).mpr ⟨_, congrArg (· ++ [_]) hat.violations, rfl⟩
    exact Prog.wp_flush (fun hb => absurd hb (by simp [hat.live]))
      (fun _ r hr => absurd hr (by simp [hcheck])) fun _ _ =>
      Prog.wp_commit (fun hb => absurd hb (by simp [hat.live])) fun _ => Prog.wp_ret hrow
  · rw [if_neg hfits] at hcheck
    have hsame : FinedOne s plate { w' with broken := true } :=
      (if_neg hfits).mpr (congrArg Store.violations hat.committed)
    exact Prog.wp_flush (fun hb => absurd hb (by simp [hat.live])) (fun _ r _ => hsame)
      fun _ hc => absurd hc (by simp [hcheck])

end Created

/-! ## What a violation is good for -/

/-- **A violation that can be confirmed and cancelled**: the state machine knows its status;
wherever it stands as it was issued and has no charge, cancelling it goes through, and confirming
it goes through and charges the amount it was issued with. -/
structure Confirmable (v : Violation) (amount : ℤ) : Prop where
  known : v.status ∈ violationTransitions.map Prod.fst
  confirms : ∀ (clk : ℕ → ℤ) (user : Option ℕ) (s : Store) (n k : ℕ),
    violationById v.id s = some v → chargeOfViolation v.id s = none →
    (∀ c ∈ s.charges, c.id < n) →
    ∃ r w, (confirmViolation v.id user).exec clk (Session.fresh s n k) = (.ok r, w) ∧
      (0 < amount → ∃ c : Charge, w.committed.charges = s.charges ++ [c] ∧
        c.violationId = some v.id ∧ c.amount = amount)
  cancels : ∀ (clk : ℕ → ℤ) (user : Option ℕ) (s : Store) (n k : ℕ),
    violationById v.id s = some v → chargeOfViolation v.id s = none →
    ∃ r w, (cancelViolation v.id user).exec clk (Session.fresh s n k) = (.ok r, w) ∧
      ∀ u ∈ w.committed.violations, u.id = v.id → u.status = "CANCELLED"

theorem updateViolation_status {id : ℕ} {status : String} {user : Option ℕ} {now : ℤ} {s : Store}
    {u : Violation} (hu : u ∈ ((updateViolation id status user now).apply s).violations)
    (hid : u.id = id) : u.status = status := by
  rcases mem_updateWhere.1 hu with ⟨u₀, -, -, rfl⟩ | ⟨-, hne⟩
  · rfl
  · exact absurd hid (beq_eq_false_iff_ne.1 hne)

section Registered

variable {v : Violation} {clk : ℕ → ℤ} {s : Store} {n k : ℕ}

/-- The charge of a confirmation is accepted: its amount was in a column before. -/
theorem insertCharge_check {c : Charge} (hfits : fitsBigInt c.amount = true)
    (hfresh : ∀ c' ∈ s.charges, c'.id < c.id) : (insertCharge c).check s = none := by
  have hnew : ∀ c' ∈ s.charges, ¬ c'.id = c.id := fun c' hc' => Nat.ne_of_lt (hfresh c' hc')
  simpa [insertCharge, hfits] using hnew

/-- A violation without a charge gets one, if it costs anything. -/
theorem chargeViolation_wp {w : Session Store} (hlive : w.broken = false)
    (hfits : fitsBigInt v.penaltyAmount = true) (hcharge : chargeOfViolation v.id w.view = none)
    (hfresh : ∀ c ∈ w.view.charges, c.id < w.nextId) :
    (chargeViolation v).wp clk (fun r w' => r = .ok () ∧ w'.broken = false ∧
      (0 < v.penaltyAmount → ∃ c : Charge, w'.view.charges = w.view.charges ++ [c] ∧
        c.violationId = some v.id ∧ c.amount = v.penaltyAmount)) w := by
  refine Prog.wp_select (fun hb => absurd hb (by simp [hlive])) fun _ => ?_
  rw [hcharge]
  by_cases hpos : 0 < v.penaltyAmount
  · rw [if_pos (by simp [hpos])]
    refine Prog.wp_newId (Prog.wp_getTime (Prog.wp_flush_last
      (fun hb => absurd hb (by simp [hlive])) (fun _ r hr => ?_) fun _ _ =>
        ⟨rfl, hlive, fun _ => ⟨_, rfl, rfl, rfl⟩⟩))
    -- its amount was in a column before, and its identifier is new
    exact absurd hr (by rw [insertCharge_check hfits hfresh]; exact nofun)
  · rw [if_neg (by simp [hpos])]
    exact Prog.wp_ret ⟨rfl, hlive, fun h => absurd h hpos⟩

theorem confirmViolation_registered (hstatus : v.status = "REGISTERED")
    (hfits : fitsBigInt v.penaltyAmount = true) (user : Option ℕ)
    (hv : violationById v.id s = some v) (hcharge : chargeOfViolation v.id s = none)
    (hfresh : ∀ c ∈ s.charges, c.id < n) :
    ∃ r w, (confirmViolation v.id user).exec clk (Session.fresh s n k) = (.ok r, w) ∧
      (0 < v.penaltyAmount → ∃ c : Charge, w.committed.charges = s.charges ++ [c] ∧
        c.violationId = some v.id ∧ c.amount = v.penaltyAmount) := by
  apply Prog.wp.exec_ok
  refine Prog.wp_select (fun hb => absurd hb Bool.false_ne_true) fun _ => ?_
  rw [Session.fresh_view, hv]
  have hconfirmed : ¬ v.status = "CONFIRMED" := by rw [hstatus]; decide
  have hopen : canTransition v.status "CONFIRMED" = true := by rw [hstatus]; decide
  simp only [hconfirmed, if_false, hopen, Bool.not_true, Bool.false_eq_true]
  refine Prog.wp_getTime (Prog.wp_flush (fun hb => absurd hb Bool.false_ne_true)
    (fun _ r hr => nomatch hr) fun _ _ => Prog.wp_bind ?_)
  refine (chargeViolation_wp rfl hfits hcharge hfresh).mono fun r w hr => ?_
  obtain ⟨rfl, hlive, hcharged⟩ := hr
  exact Prog.wp_commit (fun hb => absurd hb (by simp [hlive])) fun _ => Prog.wp_ret
    ⟨_, rfl, hcharged⟩

theorem voidUnpaidCharge_wp {w : Session Store} (hlive : w.broken = false)
    (hcharge : chargeOfViolation v.id w.view = none) :
    (voidUnpaidCharge v.id).wp clk (fun r w' => r = .ok false ∧ w' = w) w := by
  refine Prog.wp_select (fun hb => absurd hb (by simp [hlive])) fun _ => ?_
  rw [hcharge]
  exact Prog.wp_ret ⟨rfl, rfl⟩

theorem cancelViolation_registered (hstatus : v.status = "REGISTERED") (user : Option ℕ)
    (hv : violationById v.id s = some v) (hcharge : chargeOfViolation v.id s = none) :
    ∃ r w, (cancelViolation v.id user).exec clk (Session.fresh s n k) = (.ok r, w) ∧
      ∀ u ∈ w.committed.violations, u.id = v.id → u.status = "CANCELLED" := by
  apply Prog.wp.exec_ok
  refine Prog.wp_select (fun hb => absurd hb Bool.false_ne_true) fun _ => ?_
  rw [Session.fresh_view, hv]
  have hcancelled : ¬ v.status = "CANCELLED" := by rw [hstatus]; decide
  have hopen : canTransition v.status "CANCELLED" = true := by rw [hstatus]; decide
  simp only [hcancelled, if_false, hopen, Bool.not_true, Bool.false_eq_true]
  refine Prog.wp_getTime (Prog.wp_flush (fun hb => absurd hb Bool.false_ne_true)
    (fun _ r hr => nomatch hr) fun _ _ => Prog.wp_bind ?_)
  refine (voidUnpaidCharge_wp rfl hcharge).mono fun r w hr => ?_
  obtain ⟨rfl, rfl⟩ := hr
  refine Prog.wp_bind (Prog.wp_select (fun hb => absurd hb Bool.false_ne_true) fun _ => ?_)
  exact Prog.wp_ret (Prog.wp_commit (fun hb => absurd hb Bool.false_ne_true) fun _ =>
    Prog.wp_ret ⟨_, rfl, fun u hu hid => updateViolation_status hu hid⟩)

end Registered

theorem confirmable_registered {v : Violation} (hstatus : v.status = "REGISTERED")
    (hfits : fitsBigInt v.penaltyAmount = true) : Confirmable v v.penaltyAmount where
  known := by
    rw [hstatus]
    exact List.mem_cons_self
  confirms _ user _ _ _ hv hcharge hfresh :=
    confirmViolation_registered hstatus hfits user hv hcharge hfresh
  cancels _ user _ _ _ hv hcharge := cancelViolation_registered hstatus user hv hcharge

/-- Every violation that a request on `s` added is good for what it was issued for. -/
def AllConfirmable (s : Store) (r : Except (Exc AppError) IssueResponse) (w : Session Store) :
    Prop :=
  ∀ v ∈ createdViolations s w.committed, ∃ response, r = .ok response ∧
    Confirmable v response.amount

theorem RegisteredOne.allConfirmable {s : Store} {r : Except (Exc AppError) IssueResponse}
    {w : Session Store} (h : RegisteredOne s r w) : AllConfirmable s r w := by
  intro v hv
  rcases h with hsame | ⟨v', hnew, hstatus, hfits, rfl⟩
  · simp [createdViolations, hsame] at hv
  · rw [createdViolations, hnew, List.drop_left, List.mem_singleton] at hv
    subst hv
    exact ⟨_, rfl, confirmable_registered hstatus hfits⟩

theorem FinedOne.allConfirmable_iff {s : Store} {plate : String}
    {r : Except (Exc AppError) IssueResponse} {w : Session Store} (h : FinedOne s plate w) :
    AllConfirmable s r w ↔ 32 < plate.length := by
  unfold FinedOne at h
  split at h
  case isTrue hfits =>
    obtain ⟨v, hnew, hstatus⟩ := h
    refine iff_of_false (fun hall => ?_) (by simpa [fitsChar] using hfits)
    obtain ⟨response, -, hgood⟩ := hall v (by simp [createdViolations, hnew])
    -- no transition starts from the status of a fine
    have hknown := hgood.known
    rw [hstatus] at hknown
    exact absurd hknown (by decide)
  case isFalse hlong =>
    refine iff_of_true (fun v hv => ?_) (by simpa [fitsChar] using hlong)
    simp [createdViolations, h] at hv

theorem createFine_allConfirmable_iff (cfg : Config) (clk : ℕ → ℤ) (body : FineCreate) (user : ℕ)
    (s : Store) (n k : ℕ) :
    (createFine cfg body user).wp clk (AllConfirmable s) (Session.fresh s n k) ↔
      32 < (plateKey cfg body.plateRaw).length := by
  constructor
  · intro h
    rcases hexec : (createFine cfg body user).exec clk (Session.fresh s n k) with ⟨r, w⟩
    have hfined := (createFine_wp body user).of_exec hexec
    exact hfined.allConfirmable_iff.1 (h.of_exec hexec)
  · exact fun hlong => (createFine_wp body user).mono fun _ _ h => h.allConfirmable_iff.2 hlong

/-- A request for a violation. -/
inductive IssueRequest where
  | violations (body : ViolationCreate) (user : Option ℕ)
  | fine (body : FineCreate) (user : ℕ)

def IssueRequest.handler (cfg : Config) : IssueRequest → Handler IssueResponse
  | .violations body user => createViolation cfg body user
  | .fine body user => createFine cfg body user

/-- Run on a store, a request leaves nothing but violations that are good for what they were
issued for. -/
def IssueRequest.IssuesWell (cfg : Config) (clk : ℕ → ℤ) (request : IssueRequest) (s : Store)
    (n k : ℕ) : Prop :=
  (request.handler cfg).wp clk (AllConfirmable s) (Session.fresh s n k)

/-- What an issued violation needs: it is not a fine, unless one whose key is too long for its
column, which is refused. -/
def IssueRequest.NoFine (cfg : Config) : IssueRequest → Prop
  | .violations _ _ => True
  | .fine body _ => 32 < (plateKey cfg body.plateRaw).length

/-- **The violations that a request creates can be confirmed and cancelled, and are charged as
they were issued, exactly where it is not a fine.** -/
theorem issuesWell_iff (cfg : Config) (clk : ℕ → ℤ) (request : IssueRequest) (s : Store)
    (n k : ℕ) : request.IssuesWell cfg clk s n k ↔ request.NoFine cfg := by
  cases request with
  | violations body user =>
    exact iff_of_true ((createViolation_wp body user).mono fun _ _ h => h.allConfirmable) trivial
  | fine body user => exact createFine_allConfirmable_iff cfg clk body user s n k

/-- A fine on a plate nobody knows. -/
def strangerFine : FineCreate := { plateRaw := "12ب34567" }

theorem strangerFine_stuck :
    ¬ ∀ (cfg : Config) (clk : ℕ → ℤ) (request : IssueRequest) (s : Store) (n k : ℕ),
      request.IssuesWell cfg clk s n k := by
  intro h
  have hwell := h {} (fun _ => 0) (.fine strangerFine 1) {} 0 0
  have hlong := (createFine_allConfirmable_iff {} (fun _ => 0) strangerFine 1 {} 0 0).1 hwell
  exact absurd hlong (by decide)

end ParkingSystem
