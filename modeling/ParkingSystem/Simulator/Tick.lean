import ParkingSystem.Gate.Process
import ParkingSystem.Library.PyDict

/-!
# The Simulator

`simulator/service.py`: a loop that, tick after tick, sends a plate to the gate, on a database of
its own, and keeps in memory which plates it has inside. A plate that leaves is taken out of the
dictionary before the gate is asked; one that comes is put in after the gate has answered.

What a tick draws at random and what the world around it does are the fields of `Tick`: the plate
that is chosen, what `_resolve_region` finds, the clock, and where an exception comes from. The
decision itself is that of `process_plate_event`.
-/

namespace ParkingSystem.Simulator

open PyValue Transaction

/-! ## State -/

/-- `_state["stats"]`. -/
structure Stats where
  events : ℕ := 0
  entry : ℕ := 0
  exit : ℕ := 0
  violations : ℕ := 0
  residentEntries : ℕ := 0
  guestEntries : ℕ := 0

inductive Kind where
  | resident
  | guest
  deriving DecidableEq, Repr

/-- An entry of `_state["inside"]`. -/
structure Info where
  since : ℤ
  kind : Kind
  province : Option String
  city : Option String

/-- `_state["last"]`. -/
structure Last where
  time : ℤ
  gate : String
  direction : String
  plate : String
  kind : Kind
  decision : Decision
  reason : Json
  barrier : BarrierAction
  province : Option String
  city : Option String
  insideCount : ℕ

/-- The part of `_state` that a tick changes. -/
structure State where
  stats : Stats := {}
  byProvince : List (String × ℕ) := []
  inside : List (String × Info) := []
  last : Option Last := none

/-- The keys of `inside`. -/
def State.plates (st : State) : List String := st.inside.map Prod.fst

/-- `start`, where nothing runs. -/
def start (st : State) : State := { st with stats := {}, byProvince := [], inside := [] }

/-! ## The choice of a tick -/

/-- `LETTERS`. -/
def LETTERS : List String :=
  ["ب", "ج", "د", "س", "ص", "ط", "ق", "ل", "م", "ن", "و", "هـ", "ی"]

/-- The codes of `_guest_plate`. -/
def GUEST_CODES : List String :=
  ["11", "12", "13", "14", "15", "16", "22", "23", "24", "28", "30", "32", "36", "46", "51", "56",
    "63", "67", "72", "77", "83", "93"]

/-- What `_guest_plate` draws. -/
structure GuestDraw where
  two : ℕ
  letter : String
  three : ℕ
  code : String

def GuestDraw.Possible (g : GuestDraw) : Prop :=
  10 ≤ g.two ∧ g.two ≤ 99 ∧ g.letter ∈ LETTERS ∧ 100 ≤ g.three ∧ g.three ≤ 999 ∧
    g.code ∈ GUEST_CODES

/-- `_guest_plate`. -/
def guestPlate (g : GuestDraw) : String :=
  toString g.two ++ " " ++ g.letter ++ " " ++ toString g.three ++ " ایران " ++ g.code

/-- Which plate moves: one that is inside, a vehicle that is not, or a guest. A guest may have been
granted a permit, between two instants. -/
inductive Choice where
  | leaves (plate : String)
  | resident (v : Vehicle)
  | guest (g : GuestDraw) (granted : Option (ℤ × ℤ))

/-- What the draws of a tick can come to. -/
def Choice.Possible (st : State) (s : Store) : Choice → Prop
  | .leaves plate => plate ∈ st.plates
  | .resident v => v ∈ s.vehicles ∧ v.plateRaw ∉ st.plates
  | .guest g _ => g.Possible

/-- The plate, before the gate reads it. -/
def Choice.plateRaw : Choice → String
  | .leaves plate => plate
  | .resident v => v.plateRaw
  | .guest g _ => guestPlate g

def Choice.direction : Choice → String
  | .leaves _ => "OUT"
  | _ => "IN"

def Choice.gate : Choice → String
  | .leaves _ => "GATE-OUT-01"
  | _ => "GATE-IN-01"

/-- `info.get("kind", "RESIDENT")` of a plate that leaves. -/
def Choice.kind (st : State) : Choice → Kind
  | .leaves plate => ((PyDict.item plate st.inside).map Info.kind).getD .resident
  | .resident _ => .resident
  | .guest _ _ => .guest

/-- The province and the city, given what `_resolve_region` finds. -/
def Choice.region (st : State) (resolved : Option String × Option String) :
    Choice → Option String × Option String
  | .leaves plate => ((PyDict.item plate st.inside).bind Info.province,
      (PyDict.item plate st.inside).bind Info.city)
  | .resident v =>
    if v.plateProvince.any (· ≠ "") then (v.plateProvince, v.plateCity) else resolved
  | .guest _ _ => resolved

/-- `inside.pop(plate_raw)`, for a plate that leaves. -/
def Choice.takeOut (st : State) : Choice → State
  | .leaves plate => { st with inside := PyDict.pop plate st.inside }
  | _ => st

/-- The row that `_grant_guest_permit` adds. -/
def guestPermit (cfg : Config) (raw : String) (id : ℕ) (validFrom now : ℤ) : AccessPermit :=
  { id, plateNormalized := (Plate.normalizePlate cfg.plateLetterMapping raw).getD raw
    permitType := "GUEST", validFrom := some validFrom
    validUntil := some (now + 3 * 3600 * 1000000), createdAt := now }

/-- The permits, after the choice. -/
def Choice.permits (cfg : Config) (id : ℕ) (s : Store) : Choice → Store
  | .guest g (some (validFrom, now)) =>
    { s with permits := s.permits ++ [guestPermit cfg (guestPlate g) id validFrom now] }
  | _ => s

/-! ## The answer of the gate -/

/-- Where the database fails a request of the gate: nowhere, before its commit, or after it. -/
inductive Fault where
  | nowhere
  | beforeCommit
  | afterCommit
  deriving DecidableEq, Repr

/-- Everything a tick does not decide for itself. -/
structure Tick where
  choice : Choice
  resolved : Option String × Option String := (none, none)
  /-- Whether the lookups before the gate went through. -/
  asked : Bool := true
  /-- `f"sim-{timestamp}-{random}"`. -/
  source : String
  confidence : ℚ
  /-- The instants that the gate reads. -/
  clk : ℕ → ℤ
  fault : Fault := .nowhere
  /-- The instant at which the answer is noted. -/
  now : ℤ

/-- What a tick can be: no lookup stands between a plate that leaves and the gate. -/
def Tick.Possible (st : State) (s : Store) (t : Tick) : Prop :=
  t.choice.Possible st s ∧ (t.choice.direction = "OUT" → t.asked = true)

/-- The request of a tick. -/
def Tick.event (t : Tick) : PlateEvent :=
  { gateCode := t.choice.gate, direction := t.choice.direction, plateRaw := t.choice.plateRaw
    sourceEventId := t.source, confidence := some t.confidence
    rawPayload := some (.obj [("source", .str "simulator")]) }

/-- `DENY_SET`. -/
def denySet : Decision → Bool
  | .deny | .unknownPlate | .requireOperatorApproval | .offlineRequireReview => true
  | _ => false

/-- The counters of an entry that was let in. -/
def Stats.countEntry (stats : Stats) : Kind → Stats
  | .resident => { stats with
      entry := stats.entry + 1, residentEntries := stats.residentEntries + 1 }
  | .guest => { stats with entry := stats.entry + 1, guestEntries := stats.guestEntries + 1 }

/-- What a tick was about, for what follows the answer. -/
structure Visit where
  plate : String
  gate : String
  direction : String
  kind : Kind
  province : Option String
  city : Option String

/-- The counters and the dictionary, after an answer. -/
def settle (st : State) (v : Visit) (now : ℤ) (decision : Decision) : State :=
  if denySet decision then
    { st with stats := { st.stats with violations := st.stats.violations + 1 } }
  else if decision.allowed && v.direction == "IN" then
    { st with
      stats := st.stats.countEntry v.kind
      byProvince := match v.province with
        | some p =>
          if p = "" then st.byProvince
          else PyDict.alter p (fun count => count.getD 0 + 1) st.byProvince
        | none => st.byProvince
      inside := PyDict.alter v.plate
        (fun _ => { since := now, kind := v.kind, province := v.province, city := v.city })
        st.inside }
  else if decision.allowed && v.direction == "OUT" then
    { st with stats := { st.stats with exit := st.stats.exit + 1 } }
  else st

/-- `_state["last"]`, after an answer. -/
def lastOf (st : State) (v : Visit) (now : ℤ) (resp : GateResponse) : Last :=
  { time := now, gate := v.gate, direction := v.direction, plate := v.plate, kind := v.kind
    decision := resp.decision, reason := resp.decisionReason, barrier := resp.barrierAction
    province := v.province, city := v.city, insideCount := st.inside.length }

/-- An answer, noted. -/
def State.note (st : State) (v : Visit) (now : ℤ) (resp : GateResponse) : State :=
  let st' := settle st v now resp.decision
  { st' with last := some (lastOf st' v now resp) }

/-- `stats["events"] += 1`. -/
def State.counted (st : State) : State :=
  { st with stats := { st.stats with events := st.stats.events + 1 } }

/-! ## Runs -/

/-- The simulator with its database. `letIn` is not in the code: it records the plates that the
gate let in for the simulator, whether or not the simulator heard of it. -/
structure World where
  sim : State
  store : Store
  nextId : ℕ
  letIn : List String := []

/-- The gate handles the request of a tick, in a session of its own. -/
def Tick.handled (cfg : Config) (t : Tick) (w : World) :
    Except (Exc AppError) GateResponse × Session Store :=
  (processPlateEvent cfg t.event).exec t.clk
    (.fresh (t.choice.permits cfg w.nextId w.store) (w.nextId + 1) 0)

/-- What the simulator hears: nothing, where an exception reached it. -/
def Tick.answer (cfg : Config) (t : Tick) (w : World) : Option GateResponse :=
  if t.fault = .nowhere then (t.handled cfg w).1.toOption else none

/-- The database after the request. -/
def Tick.stored (cfg : Config) (t : Tick) (w : World) : Store :=
  if t.fault = .beforeCommit then t.choice.permits cfg w.nextId w.store
  else (t.handled cfg w).2.committed

/-- Whether the gate lets a plate in at a tick. -/
def Tick.admits (cfg : Config) (t : Tick) (w : World) : Bool :=
  t.asked && t.fault != .beforeCommit && t.choice.direction == "IN" &&
    (t.handled cfg w).1.toOption.any fun resp => resp.decision.allowed

/-- What a tick was about. -/
def Tick.visit (t : Tick) (st : State) : Visit :=
  { plate := t.choice.plateRaw, gate := t.choice.gate, direction := t.choice.direction
    kind := t.choice.kind st, province := (t.choice.region st t.resolved).1
    city := (t.choice.region st t.resolved).2 }

/-- The simulator after a request, given what it heard. -/
def Tick.hear (t : Tick) (st : State) : Option GateResponse → State
  | some resp => (t.choice.takeOut st.counted).note (t.visit st) t.now resp
  | none => t.choice.takeOut st.counted

/-- `_tick`, in the loop, which swallows what it raises. -/
def Tick.run (cfg : Config) (t : Tick) (w : World) : World :=
  if !t.asked then
    { w with
      sim := w.sim.counted, store := t.choice.permits cfg w.nextId w.store
      nextId := w.nextId + 1 }
  else
    { sim := t.hear w.sim (t.answer cfg w), store := t.stored cfg w
      nextId := (t.handled cfg w).2.nextId
      letIn := if t.admits cfg w then t.choice.plateRaw :: w.letIn else w.letIn }

/-- The worlds of the runs from `start` on a database, whose ticks all meet a condition. -/
inductive Reached (cfg : Config) (ok : Tick → World → Prop) (st : State) (s : Store) (n : ℕ) :
    World → Prop where
  | start : Reached cfg ok st s n { sim := start st, store := s, nextId := n }
  | tick {w : World} {t : Tick} (h : Reached cfg ok st s n w) (hpossible : t.Possible w.sim w.store)
      (hok : ok t w) : Reached cfg ok st s n (t.run cfg w)

end ParkingSystem.Simulator
