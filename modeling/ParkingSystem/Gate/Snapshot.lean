import ParkingSystem.Gate.Process

/-!
# The Offline Snapshot

What a gate agent takes along for when the server cannot be reached: the plates with a permit
for its gate, and the restricted plates.
-/

namespace ParkingSystem

open PyValue Table Transaction

/-- A permit in a snapshot. -/
structure SnapshotPermit where
  plate : String
  permitId : ℕ
  permitType : String
  validUntil : Option ℤ
  maxEntries : Option ℤ
  usedEntries : ℤ
  deriving DecidableEq, Repr

/-- A restriction in a snapshot. -/
structure SnapshotRestriction where
  plate : String
  type : String
  deriving DecidableEq, Repr

structure Snapshot where
  generatedAt : ℤ
  gate : Gate
  allowedPlates : List SnapshotPermit
  restrictedPlates : List SnapshotRestriction
  deriving DecidableEq, Repr

/-- Whether a snapshot lists a permit; unlike an entry it asks neither for the start of the
permit nor for its days and hours. -/
def AccessPermit.listed (gateId : String) (now : ℤ) (p : AccessPermit) : Bool :=
  p.status == "ACTIVE" && !(p.validUntil.any fun t => t < now) && p.allowedGateIds.all (gateIn gateId)

def AccessPermit.snapshot (p : AccessPermit) : SnapshotPermit :=
  { plate := p.plateNormalized, permitId := p.id, permitType := p.permitType
    validUntil := p.validUntil, maxEntries := p.maxEntries, usedEntries := p.usedEntries }

/-- Whether a snapshot lists a restriction: also one that has yet to start. -/
def VehicleRestriction.listed (now : ℤ) (r : VehicleRestriction) : Bool :=
  r.status == "ACTIVE" && !(r.endsAt.any fun t => t < now)

def VehicleRestriction.snapshot (r : VehicleRestriction) : SnapshotRestriction :=
  { plate := r.plateNormalized, type := r.restrictionType }

/-- The permits of a snapshot. -/
def listedPermits (gateId : String) (now : ℤ) (s : Store) : List SnapshotPermit :=
  (s.permits.filter (AccessPermit.listed gateId now)).map AccessPermit.snapshot

/-- The restrictions of a snapshot. -/
def listedRestrictions (now : ℤ) (s : Store) : List SnapshotRestriction :=
  (s.restrictions.filter (VehicleRestriction.listed now)).map VehicleRestriction.snapshot

/-- `offline_snapshot`. -/
def offlineSnapshot (gateCode : String) : Handler Snapshot := do
  let gate ← .select (gateByCode gateCode)
  match gate with
  | none => Prog.raise (.gateNotFound gateCode)
  | some gate => do
    let now ← Prog.getTime
    let allowedPlates ← .select (listedPermits gate.id now)
    let restrictedPlates ← .select (listedRestrictions now)
    return { generatedAt := now, gate, allowedPlates, restrictedPlates }

/-- The snapshot of a store at an instant. -/
def snapshotAt (gate : Gate) (now : ℤ) (s : Store) : Snapshot :=
  { generatedAt := now, gate, allowedPlates := listedPermits gate.id now s
    restrictedPlates := listedRestrictions now s }

/-- With nobody else on the store, the snapshot is that of the store at the clock. -/
theorem exec_offlineSnapshot (clk : ℕ → ℤ) {gateCode : String} {gate : Gate} {w : Session Store}
    (hw : w.broken = false) (hgate : gateByCode gateCode w.view = some gate) :
    (offlineSnapshot gateCode).exec clk w =
      (.ok (snapshotAt gate (clk w.tick) w.view), { w with tick := w.tick + 1 }) := by
  refine (Prog.exec_bind_of_ok (Prog.exec_select clk _ hw)).trans ?_
  simp only [hgate]
  refine (Prog.exec_bind_of_ok (Prog.exec_getTime clk w)).trans ?_
  have hw' : ({ w with tick := w.tick + 1 } : Session Store).broken = false := hw
  refine (Prog.exec_bind_of_ok (Prog.exec_select clk _ hw')).trans ?_
  exact (Prog.exec_bind_of_ok (Prog.exec_select clk _ hw')).trans rfl

end ParkingSystem
