import ParkingSystem.Gate.AuditRun
import ParkingSystem.Library.Potential
import ParkingSystem.Violations

/-!
# Reports on the Traffic

The two reports that count access events: the dashboard, whose day starts at midnight UTC, and
the hourly traffic, whose day is that of Tehran and which reads at most 10000 rows. Both go by the
type of an event, and the type of an event depends on decision, direction and the manual flag
through conditions of its own.
-/

namespace ParkingSystem

open Table Transaction

/-- A time zone: the local time of an instant, and the instant of a local time. -/
structure Zone where
  toLocal : ℤ → ℤ
  toUtc : ℤ → ℤ

/-- `timezone(timedelta(hours=3, minutes=30))`. -/
def tehranFixed : Zone where
  toLocal t := t + 12600000000
  toUtc t := t - 12600000000

/-- `t.replace(hour=0, minute=0, second=0, microsecond=0)`. -/
def midnight (t : ℤ) : ℤ := t - timeOfDay t

/-- The instant at which the local day of an instant starts. -/
def Zone.dayStart (z : Zone) (now : ℤ) : ℤ := z.toUtc (midnight (z.toLocal now))

/-- The local hour of an instant. -/
def Zone.hour (z : Zone) (t : ℤ) : ℤ := timeOfDay (z.toLocal t) / 3600000000

/-- An event since an instant. -/
def AccessEvent.since (t : ℤ) (ev : AccessEvent) : Bool := decide (t ≤ ev.eventTime)

/-! ## The dashboard -/

/-- The numbers of the dashboard, those of gates and devices apart. -/
structure Dashboard where
  presentVehicles : ℕ
  entriesToday : ℕ
  exitsToday : ℕ
  deniedToday : ℕ
  unpaidTotal : ℤ
  violationsToday : ℕ
  deriving DecidableEq, Repr

/-- `event_type.in_(["ENTRY", "MANUAL_ENTRY"])`. -/
def EventType.countsAsEntry (t : EventType) : Bool := t == .entry || t == .manualEntry

/-- `dashboard`. -/
def dashboard (now : ℤ) (s : Store) : Dashboard :=
  let todayStart := midnight now
  { presentVehicles := s.sessions.countP fun x => x.status == .opened
    entriesToday := s.events.countP fun ev =>
      ev.since todayStart && ev.eventType.countsAsEntry
    exitsToday := s.events.countP fun ev =>
      ev.since todayStart && ev.eventType == .exit
    deniedToday := s.events.countP fun ev =>
      ev.since todayStart && (ev.decision == .deny || ev.decision == .unknownPlate)
    unpaidTotal := ((s.charges.filter fun c => c.status == .unpaid).map Charge.amount).sum
    violationsToday := s.violations.countP fun v => decide (todayStart ≤ v.occurredAt) }

/-! ## The hourly traffic -/

structure Bucket where
  hour : ℤ
  entries : ℕ := 0
  exits : ℕ := 0
  deriving DecidableEq, Repr

/-- The empty buckets. -/
def emptyBuckets : List Bucket := (List.range 24).map fun h : ℕ => { hour := (h : ℤ) }

/-- One more event in a bucket. -/
def Bucket.count (t : EventType) (b : Bucket) : Bucket :=
  if t.countsAsEntry then { b with entries := b.entries + 1 } else { b with exits := b.exits + 1 }

/-- `event_type.in_(["ENTRY", "MANUAL_ENTRY", "EXIT"])`. -/
def EventType.counted (t : EventType) : Bool := t.countsAsEntry || t == .exit

/-- The rows of the query, without its limit. -/
def trafficRows (z : Zone) (now : ℤ) (s : Store) : List AccessEvent :=
  s.events.filter fun ev => ev.since (z.dayStart now) && ev.eventType.counted

/-- `.limit(10000)`. -/
def trafficLimit : ℕ := 10000

/-- `hourly_traffic`. -/
def hourlyTraffic (z : Zone) (now : ℤ) (s : Store) : List Bucket :=
  ((trafficRows z now s).take trafficLimit).foldl
    (fun buckets ev => updateWhere (fun b => b.hour == z.hour ev.eventTime)
      (Bucket.count ev.eventType) buckets) emptyBuckets

/-! ## What they are to count -/

/-- An event at an entry. -/
def EventType.ofEntry (t : EventType) : Bool :=
  t == .entry || t == .manualEntry || t == .deniedEntry

/-- An event at an exit. -/
def EventType.ofExit (t : EventType) : Bool :=
  t == .exit || t == .manualExit || t == .deniedExit

/-- Whether the decision of an event opened the barrier. -/
def AccessEvent.opened (ev : AccessEvent) : Bool := barrierActionFor ev.decision == .opened

/-- The admissions of the local day. -/
def admittedEntries (z : Zone) (now : ℤ) (s : Store) : ℕ :=
  s.events.countP fun ev =>
    ev.since (z.dayStart now) && (ev.eventType.ofEntry && ev.opened)

/-- The departures of the local day, the manual ones included. -/
def admittedExits (z : Zone) (now : ℤ) (s : Store) : ℕ :=
  s.events.countP fun ev =>
    ev.since (z.dayStart now) && (ev.eventType.ofExit && ev.opened)

/-- **The counts reflect the admissions.** -/
structure ReflectsTraffic (z : Zone) (now : ℤ) (s : Store) : Prop where
  entries : (dashboard now s).entriesToday = admittedEntries z now s
  exits : (dashboard now s).exitsToday = admittedExits z now s
  hourlyEntries : ((hourlyTraffic z now s).map Bucket.entries).sum = admittedEntries z now s
  hourlyExits : ((hourlyTraffic z now s).map Bucket.exits).sum = admittedExits z now s

/-! ## The buckets together -/

theorem timeOfDay_bounds (t : ℤ) : 0 ≤ timeOfDay t ∧ timeOfDay t < dayMicros := by
  unfold timeOfDay dayMicros
  omega

/-- Every instant has one of the 24 hours. -/
theorem Zone.hour_mem (z : Zone) (t : ℤ) : z.hour t ∈ emptyBuckets.map Bucket.hour := by
  have hbounds := timeOfDay_bounds (z.toLocal t)
  have hhour : 0 ≤ z.hour t ∧ z.hour t < 24 := by
    unfold Zone.hour
    unfold dayMicros at hbounds
    omega
  have hlt : (z.hour t).toNat < 24 := by omega
  rw [emptyBuckets, List.map_map, List.mem_map]
  exact ⟨(z.hour t).toNat, List.mem_range.2 hlt, Int.toNat_of_nonneg hhour.1⟩

theorem emptyBuckets_nodup : (emptyBuckets.map Bucket.hour).Nodup := by decide

/-- **The loop counts every row once**: the buckets keep their hours, and their sums grow by the
entries and the exits among the rows. -/
theorem sums_countRows (z : Zone) (rows : List AccessEvent) (buckets : List Bucket)
    (hhours : buckets.map Bucket.hour = emptyBuckets.map Bucket.hour) :
    let counted := rows.foldl (fun buckets ev =>
      updateWhere (fun b => b.hour == z.hour ev.eventTime) (Bucket.count ev.eventType) buckets)
      buckets
    (counted.map Bucket.entries).sum =
        (buckets.map Bucket.entries).sum + rows.countP (fun ev => ev.eventType.countsAsEntry) ∧
      (counted.map Bucket.exits).sum =
        (buckets.map Bucket.exits).sum + rows.countP (fun ev => !ev.eventType.countsAsEntry) := by
  induction rows generalizing buckets with
  | nil => exact ⟨rfl, rfl⟩
  | cons ev rows ih =>
    have hhour (t : EventType) (b : Bucket) : (b.count t).hour = b.hour := by
      unfold Bucket.count
      split <;> rfl
    have hnext := ih (updateWhere (fun b => b.hour == z.hour ev.eventTime)
      (Bucket.count ev.eventType) buckets)
      ((map_updateWhere (hhour ev.eventType) buckets).trans hhours)
    have hnodup : (buckets.map Bucket.hour).Nodup := hhours ▸ emptyBuckets_nodup
    have hmem : z.hour ev.eventTime ∈ buckets.map Bucket.hour := hhours ▸ z.hour_mem ev.eventTime
    have hentries := sum_updateWhere_key (g := Bucket.entries) (f := Bucket.count ev.eventType)
      (d := ev.eventType.countsAsEntry.toNat) (fun b => by
        unfold Bucket.count
        cases ev.eventType.countsAsEntry <;> rfl) hnodup hmem
    have hexits := sum_updateWhere_key (g := Bucket.exits) (f := Bucket.count ev.eventType)
      (d := (!ev.eventType.countsAsEntry).toNat) (fun b => by
        unfold Bucket.count
        cases ev.eventType.countsAsEntry <;> rfl) hnodup hmem
    dsimp only at hnext ⊢
    rw [List.foldl_cons, hnext.1, hnext.2, hentries, hexits, List.countP_cons, List.countP_cons]
    cases ev.eventType.countsAsEntry <;> simp <;> omega

/-! ## What is miscounted -/

/-- An entry that the dashboard counts and should not: it opened no barrier (it was referred to an
operator), or it was before the local day. -/
def overcountedEntry (z : Zone) (now : ℤ) (ev : AccessEvent) : Bool :=
  ev.since (midnight now) && ev.eventType.countsAsEntry && !(ev.opened && ev.since (z.dayStart now))

/-- An admission that the dashboard misses: it was in the local day and before midnight UTC. -/
def missedEntry (z : Zone) (now : ℤ) (ev : AccessEvent) : Bool :=
  ev.since (z.dayStart now) && ev.eventType.ofEntry && ev.opened && !ev.since (midnight now)

/-- An exit that the dashboard counts and should not. -/
def overcountedExit (z : Zone) (now : ℤ) (ev : AccessEvent) : Bool :=
  ev.since (midnight now) && ev.eventType == .exit && !(ev.opened && ev.since (z.dayStart now))

/-- A departure that the dashboard misses: a manual one, or one before midnight UTC. -/
def missedExit (z : Zone) (now : ℤ) (ev : AccessEvent) : Bool :=
  ev.since (z.dayStart now) && ev.eventType.ofExit && ev.opened &&
    (ev.eventType == .manualExit || !ev.since (midnight now))

/-- An event of the local day that opened no barrier. -/
def referred (z : Zone) (now : ℤ) (ev : AccessEvent) : Bool :=
  ev.since (z.dayStart now) && !ev.opened

/-- **When the counts come out right**: what is counted too much is as much as what is missed.
* on the dashboard, entries that opened no barrier or were before the local day, against
  admissions between the local midnight and midnight UTC; exits likewise, against these and the
  manual departures;
* by the hour, entries and exits that opened no barrier, against those beyond the limit of the
  query, and the manual departures. -/
structure Evens (z : Zone) (now : ℤ) (s : Store) : Prop where
  entries : s.events.countP (overcountedEntry z now) = s.events.countP (missedEntry z now)
  exits : s.events.countP (overcountedExit z now) = s.events.countP (missedExit z now)
  hourlyEntries :
    s.events.countP (fun ev => ev.eventType.countsAsEntry && referred z now ev) =
      ((trafficRows z now s).drop trafficLimit).countP fun ev => ev.eventType.countsAsEntry
  hourlyExits :
    s.events.countP (fun ev => ev.eventType == .exit && referred z now ev) =
      ((trafficRows z now s).drop trafficLimit).countP (fun ev => ev.eventType == .exit) +
        s.events.countP fun ev =>
          ev.since (z.dayStart now) && ev.eventType == .manualExit && ev.opened

/-- How the gate types its events: by decision, direction and manual flag. Opening the barrier by
hand has a type of its own. -/
def AccessEvent.Typed (ev : AccessEvent) : Prop :=
  ev.eventType = .barrierOpen ∨
    ∃ direction, ev.eventType = eventTypeFor direction ev.isManual ev.decision

/-- An event with the type of a refusal opened no barrier. -/
theorem AccessEvent.Typed.refused {ev : AccessEvent} (h : ev.Typed)
    (htype : ev.eventType = .deniedEntry ∨ ev.eventType = .deniedExit) : ev.opened = false := by
  rcases h with h | ⟨direction, h⟩
  · rw [h] at htype
    rcases htype with h | h <;> cases h
  · rw [h, eventTypeFor] at htype
    split at htype
    case isTrue hdecision =>
      unfold AccessEvent.opened
      rcases hdecision with h | h <;> rw [h] <;> rfl
    case isFalse =>
      split at htype <;> split at htype <;> rcases htype with h | h <;> cases h

/-! ## When the counts reflect the admissions -/

section Balance

variable (z : Zone) (now : ℤ) {s : Store}

/-- A fact about the flags of an event is checked on each of their values. -/
theorem dashboard_entries_balance (htyped : ∀ ev ∈ s.events, ev.Typed) :
    (dashboard now s).entriesToday + s.events.countP (missedEntry z now) =
      admittedEntries z now s + s.events.countP (overcountedEntry z now) := by
  refine countP_balance fun ev hev => ?_
  have hrefused := (htyped ev hev).refused
  unfold missedEntry overcountedEntry
  generalize ev.since (midnight now) = u, ev.since (z.dayStart now) = d, ev.opened = o at *
  cases ht : ev.eventType <;> rw [ht] at hrefused <;> revert hrefused <;>
    cases u <;> cases d <;> cases o <;> decide

theorem dashboard_exits_balance (htyped : ∀ ev ∈ s.events, ev.Typed) :
    (dashboard now s).exitsToday + s.events.countP (missedExit z now) =
      admittedExits z now s + s.events.countP (overcountedExit z now) := by
  refine countP_balance fun ev hev => ?_
  have hrefused := (htyped ev hev).refused
  unfold missedExit overcountedExit
  generalize ev.since (midnight now) = u, ev.since (z.dayStart now) = d, ev.opened = o at *
  cases ht : ev.eventType <;> rw [ht] at hrefused <;> revert hrefused <;>
    cases u <;> cases d <;> cases o <;> decide

/-- The buckets sum up to the rows within the limit. -/
theorem hourly_sums (s : Store) :
    ((hourlyTraffic z now s).map Bucket.entries).sum =
        ((trafficRows z now s).take trafficLimit).countP (fun ev => ev.eventType.countsAsEntry) ∧
      ((hourlyTraffic z now s).map Bucket.exits).sum =
        ((trafficRows z now s).take trafficLimit).countP fun ev => !ev.eventType.countsAsEntry := by
  have hsums := sums_countRows z ((trafficRows z now s).take trafficLimit) emptyBuckets rfl
  have hentries : (emptyBuckets.map Bucket.entries).sum = 0 := by decide
  have hexits : (emptyBuckets.map Bucket.exits).sum = 0 := by decide
  rw [hentries, hexits, Nat.zero_add, Nat.zero_add] at hsums
  exact hsums

/-- A row of the query that is no entry is an exit. -/
theorem trafficRows_exit {z : Zone} {now : ℤ} {ev : AccessEvent} (hev : ev ∈ trafficRows z now s) :
    (!ev.eventType.countsAsEntry) = (ev.eventType == .exit) := by
  have hcounted := (Bool.and_eq_true_iff.1 (List.mem_filter.1 hev).2).2
  revert hcounted
  cases ev.eventType <;> decide

theorem hourly_entries_balance (htyped : ∀ ev ∈ s.events, ev.Typed) :
    ((hourlyTraffic z now s).map Bucket.entries).sum +
        ((trafficRows z now s).drop trafficLimit).countP (fun ev => ev.eventType.countsAsEntry) =
      admittedEntries z now s +
        s.events.countP (fun ev => ev.eventType.countsAsEntry && referred z now ev) := by
  rw [(hourly_sums z now s).1, ← List.countP_append, List.take_append_drop, trafficRows, List.countP_filter]
  have hbalance : s.events.countP (fun ev => ev.eventType.countsAsEntry &&
        (ev.since (z.dayStart now) && ev.eventType.counted)) + s.events.countP (fun _ => false) =
      admittedEntries z now s +
        s.events.countP (fun ev => ev.eventType.countsAsEntry && referred z now ev) := by
    refine countP_balance fun ev hev => ?_
    have hrefused := (htyped ev hev).refused
    unfold referred
    generalize ev.since (z.dayStart now) = d, ev.opened = o at *
    cases ht : ev.eventType <;> rw [ht] at hrefused <;> revert hrefused <;>
      cases d <;> cases o <;> decide
  simpa using hbalance

theorem hourly_exits_balance (htyped : ∀ ev ∈ s.events, ev.Typed) :
    ((hourlyTraffic z now s).map Bucket.exits).sum +
        (((trafficRows z now s).drop trafficLimit).countP (fun ev => ev.eventType == .exit) +
          s.events.countP fun ev =>
            ev.since (z.dayStart now) && ev.eventType == .manualExit && ev.opened) =
      admittedExits z now s +
        s.events.countP (fun ev => ev.eventType == .exit && referred z now ev) := by
  have hexits : ((trafficRows z now s).take trafficLimit).countP
      (fun ev => !ev.eventType.countsAsEntry) =
      ((trafficRows z now s).take trafficLimit).countP fun ev => ev.eventType == .exit :=
    List.countP_congr fun ev hev => by rw [trafficRows_exit (List.mem_of_mem_take hev)]
  rw [(hourly_sums z now s).2, hexits, ← Nat.add_assoc, ← List.countP_append, List.take_append_drop,
    trafficRows, List.countP_filter]
  refine countP_balance fun ev hev => ?_
  have hrefused := (htyped ev hev).refused
  unfold referred
  generalize ev.since (z.dayStart now) = d, ev.opened = o at *
  cases ht : ev.eventType <;> rw [ht] at hrefused <;> revert hrefused <;>
    cases d <;> cases o <;> decide

/-- Where every event is typed as the gate types it, the counts are right exactly where what is
counted too much and what is missed are as much. -/
theorem reflectsTraffic_iff_evens (htyped : ∀ ev ∈ s.events, ev.Typed) :
    ReflectsTraffic z now s ↔ Evens z now s := by
  have hentries := dashboard_entries_balance z now htyped
  have hexits := dashboard_exits_balance z now htyped
  have hhourly := hourly_entries_balance z now htyped
  have hhourly' := hourly_exits_balance z now htyped
  constructor
  · rintro ⟨h₁, h₂, h₃, h₄⟩
    exact ⟨by omega, by omega, by omega, by omega⟩
  · rintro ⟨h₁, h₂, h₃, h₄⟩
    exact ⟨by omega, by omega, by omega, by omega⟩

end Balance

/-! ## Every run -/

theorem eventRow_typed (e : PlateEvent) (r : Reading) (v : Verdict) (id : ℕ) :
    (eventRow e r v id).Typed := .inr ⟨e.direction, rfl⟩

/-- A typed event is at an entry where the submission says IN, and else at an exit. -/
theorem ofEntry_eventTypeFor (direction : String) (isManual : Bool) (decision : Decision) :
    (eventTypeFor direction isManual decision).ofEntry = decide (direction = "IN") ∧
      (eventTypeFor direction isManual decision).ofExit = !decide (direction = "IN") := by
  unfold eventTypeFor
  split <;> split <;> (try split) <;> simp_all [EventType.ofEntry, EventType.ofExit]

/-- The statements of an event keep the events typed. -/
theorem coversEvent_typed (e : PlateEvent) : CoversEvent
    (fun st => ∀ s, (∀ ev ∈ s.events, ev.Typed) → ∀ ev ∈ (st.apply s).events, ev.Typed) e where
  reading h := by
    cases h
    exact fun _ h => h
  decision h := by cases h <;> exact fun _ h => h
  event r v id s h ev hev := by
    rcases List.mem_append.1 hev with hold | hnew
    · exact h ev hold
    · rw [List.mem_singleton.1 hnew]
      exact eventRow_typed e r v id
  entry h := by
    cases h with
    | space h => cases h <;> exact fun _ h => h
    | _ => exact fun _ h => h
  exit h := by
    cases h with
    | space h => cases h <;> exact fun _ h => h
    | _ => exact fun _ h => h

/-- Gate requests; in between, an operator may open the barrier by hand, and everybody else may
change everything but the events. -/
def trafficRegime : Regime Store Label where
  isFresh s n := n ∉ s.ids
  allowed _ _ := True
  env s s' := ∀ ev ∈ s'.events, ev ∈ s.events ∨ ev.eventType = .barrierOpen

/-- **Traffic counts**: after every history of gate requests, at every instant, the reports count
what was admitted exactly where what they count too much and what they miss are as much. -/
theorem traffic_run {ι : Type} [DecidableEq ι] (cfg : Config) (requests : ι → GateRequest)
    (s : Store) (hs : ∀ ev ∈ s.events, ev.Typed)
    (w : World ι Store Lock Label AppError GateAnswer)
    (hrun : World.Run trafficRegime (gateWorld cfg requests s) w) (z : Zone) (now : ℤ) :
    ReflectsTraffic z now w.committed ↔ Evens z now w.committed := by
  have htyped : ∀ ev ∈ w.committed.events, ev.Typed := by
    refine World.run_keeps (I := fun s => ∀ ev ∈ s.events, ev.Typed)
      (fun i => (requests i).allWrites_of cfg coversEvent_typed) (fun s s' henv h ev hev => ?_) hs
      hrun
    exact (henv ev hev).elim (h ev) .inl
  exact reflectsTraffic_iff_evens z now htyped

/-! ### A guest who leaves by hand -/

instance (s : Store) (n : ℕ) : Decidable (trafficRegime.isFresh s n) :=
  inferInstanceAs (Decidable (n ∉ s.ids))

instance (l : Label) (v : Store) : Decidable (trafficRegime.allowed l v) :=
  inferInstanceAs (Decidable True)

instance (z : Zone) (now : ℤ) (s : Store) : Decidable (Evens z now s) :=
  decidable_of_iff (_ ∧ _ ∧ _ ∧ _)
    ⟨fun h => ⟨h.1, h.2.1, h.2.2.1, h.2.2.2⟩, fun h => ⟨h.1, h.2, h.3, h.4⟩⟩

/-- The plate comes in, and is let out by an operator. -/
def guestTrip : Fin 2 → GateRequest
  | 0 => .plateEvent { gateCode := "G1", plateRaw := "12ب34567", sourceEventId := "1" }
  | 1 => .plateEvent { gateCode := "G1", plateRaw := "12ب34567", sourceEventId := "2"
                       direction := "OUT", isManual := true }

/-- After the entry alone, the counts are right. -/
theorem traffic_run_guestEntry :
    ∃ w, World.Run trafficRegime (gateWorld {} guestTrip guestStore) w ∧
      w.committed.events.length = 1 ∧ ReflectsTraffic tehranFixed 0 w.committed := by
  have hrun : (World.runSchedule trafficRegime [(0, 23, 0)] 10
      (gateWorld {} guestTrip guestStore)).any (fun w =>
        w.committed.events.length == 1 && decide (Evens tehranFixed 0 w.committed)) = true := by
    decide
  obtain ⟨w, hw, hboth⟩ := (Option.any_eq_true _ _).1 hrun
  simp only [Bool.and_eq_true, beq_iff_eq, decide_eq_true_eq] at hboth
  have hsteps := World.runSchedule_run hw
  exact ⟨w, hsteps, hboth.1, (traffic_run {} guestTrip guestStore (fun _ h => nomatch h) w hsteps
    tehranFixed 0).2 hboth.2⟩

/-- **The exit by hand** is in neither report. -/
theorem manualExit_uncounted :
    ¬ ∀ (cfg : Config) (requests : Fin 2 → GateRequest) (s : Store),
      (∀ ev ∈ s.events, ev.Typed) →
      ∀ w, World.Run trafficRegime (gateWorld cfg requests s) w →
        ∀ (z : Zone) (now : ℤ), ReflectsTraffic z now w.committed := by
  intro h
  have hrun : (World.runSchedule trafficRegime [(0, 23, 0), (1, 30, 0)] 10
      (gateWorld {} guestTrip guestStore)).any (fun w =>
        (dashboard 0 w.committed).exitsToday == 0 &&
          admittedExits tehranFixed 0 w.committed == 1) = true := by decide
  obtain ⟨w, hw, hboth⟩ := (Option.any_eq_true _ _).1 hrun
  simp only [Bool.and_eq_true, beq_iff_eq] at hboth
  have hreflects := h {} guestTrip guestStore (fun _ h => nomatch h) w (World.runSchedule_run hw)
    tehranFixed 0
  have hsame := hreflects.exits
  omega

end ParkingSystem
