import ParkingSystem.Gate.Process

/-!
# Parking Spaces

The endpoints of the parking module that an operator uses: assign a space, end an assignment,
declare an occupancy vacated.
-/

namespace ParkingSystem

open Table Transaction

/-- `ParkingAssignmentCreate`. -/
structure ParkingAssignmentCreate where
  parkingSpaceId : ℕ
  unitId : Option ℕ := none
  vehicleId : Option ℕ := none
  assignmentType : String := "PERMANENT"
  deriving DecidableEq, Repr

/-! ## Statements -/

/-- INSERT of an assignment. -/
def insertAssignment (a : ParkingAssignment) : Stmt where
  label := .insertAssignment
  locks := []
  check _ := if !fitsChar 16 a.assignmentType then some .data else none
  apply s := { s with assignments := s.assignments ++ [a] }

/-- UPDATE of the status of an assignment. -/
def updateAssignment (id : ℕ) (status : String) : Stmt where
  label := .updateAssignment
  locks := [.assignmentRow id]
  check _ := none
  apply s := { s with
    assignments := updateWhere (fun a => a.id == id) (fun a => { a with status }) s.assignments }

/-! ## Lookups -/

/-- The ACTIVE assignment of a space. -/
def activeAssignment (spaceId : ℕ) (s : Store) : Option ParkingAssignment :=
  s.assignments.find? fun a => a.parkingSpaceId == spaceId && a.status == "ACTIVE"

/-- `db.get(ParkingAssignment, id)`. -/
def assignmentById (id : ℕ) (s : Store) : Option ParkingAssignment :=
  s.assignments.find? fun a => a.id == id

/-- `db.get(ParkingOccupancy, id)`. -/
def occupancyById (id : ℕ) (s : Store) : Option ParkingOccupancy :=
  s.occupancies.find? fun o => o.id == id

/-- Whether what a request refers to is there; a reference it does not make is. -/
def refersTo {α : Type} (rows : Store → List α) (key : α → ℕ) (id : Option ℕ) (s : Store) : Bool :=
  id.all fun id => (rows s).any fun row => key row == id

/-! ## Endpoints -/

/-- `create_assignment`. -/
def createAssignment (body : ParkingAssignmentCreate) : Handler ParkingAssignment := do
  Prog.flush (lockSpace body.parkingSpaceId)
  let space ← .select (spaceById body.parkingSpaceId)
  match space with
  | none => Prog.raise .notFound
  | some space =>
    if !space.isActive then Prog.raise .conflict
    else do
      let dup ← .select (activeAssignment body.parkingSpaceId)
      if dup.isSome then Prog.raise .conflict
      else do
        let vehicle ← .select (refersTo Store.vehicles Vehicle.id body.vehicleId)
        if !vehicle then Prog.raise .notFound
        else do
          let unit ← .select (refersTo Store.units ResidentialUnit.id body.unitId)
          if !unit then Prog.raise .notFound
          else do
            let id ← Prog.newId
            let row : ParkingAssignment :=
              { id, parkingSpaceId := body.parkingSpaceId, unitId := body.unitId
                vehicleId := body.vehicleId, assignmentType := body.assignmentType }
            Prog.flush (insertAssignment row)
            Prog.commitTx
            return row

/-- `close_assignment`. -/
def closeAssignment (assignmentId : ℕ) : Handler Unit := do
  let assignment ← .select (assignmentById assignmentId)
  match assignment with
  | none => Prog.raise .notFound
  | some a => do
    Prog.flush (updateAssignment a.id "CLOSED")
    Prog.commitTx

/-- `vacate`: whatever the status of the occupancy was. -/
def vacateOccupancy (occupancyId : ℕ) : Handler Unit := do
  let occupancy ← .select (occupancyById occupancyId)
  match occupancy with
  | none => Prog.raise .notFound
  | some o => do
    let now ← Prog.getTime
    Prog.flush (vacate o.id now)
    freeSpace o.parkingSpaceId
    Prog.commitTx

/-! ## What they write -/

/-- The statements on assignments. -/
inductive AssignmentStmt : Stmt → Prop
  | lock (id : ℕ) : AssignmentStmt (lockSpace id)
  | insert (a : ParkingAssignment) : AssignmentStmt (insertAssignment a)
  | update (id : ℕ) (status : String) : AssignmentStmt (updateAssignment id status)

theorem allWrites_createAssignment (body : ParkingAssignmentCreate) :
    (createAssignment body).AllWrites AssignmentStmt := by
  have hselect {α : Type} (f : Store → α) :
      (Prog.select f : Handler α).AllWrites AssignmentStmt := (Prog.writesOnly_select f).allWrites
  refine (Prog.writesOnly_flush (.lock _)).allWrites.bind fun _ => (hselect _).bind fun space => ?_
  cases space with
  | none => trivial
  | some space =>
    dsimp only
    split
    · trivial
    · refine (hselect _).bind fun dup => ?_
      split
      · trivial
      · refine (hselect _).bind fun vehicle => ?_
        split
        · trivial
        · refine (hselect _).bind fun unit => ?_
          split
          · trivial
          · exact Prog.AllWrites.bind (fun _ => trivial) fun _ =>
              (Prog.writesOnly_flush (.insert _)).allWrites.bind fun _ =>
                Prog.allWrites_commitTx.bind fun _ => trivial

theorem allWrites_closeAssignment (assignmentId : ℕ) :
    (closeAssignment assignmentId).AllWrites AssignmentStmt := by
  refine (Prog.writesOnly_select _).allWrites.bind fun assignment => ?_
  cases assignment with
  | none => trivial
  | some a =>
    exact (Prog.writesOnly_flush (.update _ _)).allWrites.bind fun _ => Prog.allWrites_commitTx

end ParkingSystem
