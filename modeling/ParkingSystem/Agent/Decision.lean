import ParkingSystem.Gate.Snapshot

/-!
# The Offline Decision

What a gate agent decides on its own from the last snapshot, without the server.
-/

namespace ParkingSystem

/-- The answer of the agent. -/
structure OfflineDecision where
  decision : Decision
  reason : String
  barrier : BarrierAction
  deriving DecidableEq, Repr

/-- The agent lets the plate pass. -/
def offlineAllow (reason : String) : OfflineDecision := ⟨.offlineAllow, reason, .opened⟩

/-- The agent keeps the barrier closed and asks for a review. -/
def offlineReview (reason : String) : OfflineDecision :=
  ⟨.offlineRequireReview, reason, .keepClosed⟩

/-- `{p["plate"]: p for p in allowed_plates}.get(plate)`: the last permit of a plate counts. -/
def Snapshot.permit (snap : Snapshot) (plate : String) : Option SnapshotPermit :=
  snap.allowedPlates.reverse.find? fun p => p.plate == plate

/-- Whether a snapshot restricts a plate. -/
def Snapshot.restricts (snap : Snapshot) (plate : String) : Bool :=
  snap.restrictedPlates.any fun r => r.plate == plate

/-- The decision on an entry, given the plate's permit. -/
def offlineEntry (now : ℤ) : Option SnapshotPermit → OfflineDecision
  | none => offlineReview "PLATE_NOT_IN_SNAPSHOT"
  | some p =>
    if p.validUntil.any fun t => t < now then offlineReview "PERMIT_EXPIRED"
    else if p.maxEntries.any fun m => m ≤ p.usedEntries then
      offlineReview "PERMIT_MAX_ENTRIES_REACHED"
    else offlineAllow "PLATE_IN_LOCAL_SNAPSHOT"

/-- `offline_decide`. -/
def offlineDecide (snapshot : Option Snapshot) (plate : Option String) (direction : String)
    (locallyInside : Bool) (now : ℤ) : OfflineDecision :=
  match snapshot, plate with
  | none, _ => offlineReview "NO_LOCAL_SNAPSHOT"
  | some _, none => offlineReview "PLATE_NOT_READABLE"
  | some snap, some plate =>
    if snap.restricts plate then offlineReview "PLATE_RESTRICTED"
    else if direction = "OUT" then
      if locallyInside || (snap.permit plate).isSome then offlineAllow "OFFLINE_EXIT_OK"
      else offlineReview "NO_LOCAL_ENTRY_RECORD"
    else offlineEntry now (snap.permit plate)

/-- The barrier does what the decision says. -/
theorem offlineDecide_barrier (snapshot : Option Snapshot) (plate : Option String)
    (direction : String) (locallyInside : Bool) (now : ℤ) :
    (offlineDecide snapshot plate direction locallyInside now).barrier =
      barrierActionFor (offlineDecide snapshot plate direction locallyInside now).decision := by
  have hentry (p : Option SnapshotPermit) :
      (offlineEntry now p).barrier = barrierActionFor (offlineEntry now p).decision := by
    unfold offlineEntry
    split
    · rfl
    · split_ifs <;> rfl
  unfold offlineDecide
  split
  · rfl
  · rfl
  · split_ifs
    · rfl
    · rfl
    · rfl
    · exact hentry _

end ParkingSystem
