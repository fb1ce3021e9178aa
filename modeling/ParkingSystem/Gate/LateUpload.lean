import ParkingSystem.Gate.Bookkeeping
import ParkingSystem.Gate.Sync
import Mathlib.Data.Int.ConditionallyCompleteOrder

/-!
# Late Uploads

An agent that was offline uploads the entry and the exit of a vehicle later. The session is opened
at the instant the entry was captured, but it is closed at the instant of the upload, and its
duration and its price are taken from the clock of the server as well.
-/

namespace ParkingSystem

open Plate PyValue Table Transaction

/-! ## An answered event leaves nothing pending -/

/-- Nothing is pending in a session. -/
def Session.Clean (w : Session Store) : Prop := w.broken = false ∧ w.view = w.committed

section

variable {cfg : Config} {e : PlateEvent} {clk : ℕ → ℤ} {w w' : Session Store}
  {resp : GateResponse}

/-- What only reads leaves nothing pending. -/
theorem Session.Clean.of_readOnly {α : Type} {p : Handler α} {res : Except (Exc AppError) α}
    (hw : Session.Clean w) (hp : p.ReadOnly) (h : p.exec clk w = (res, w')) :
    Session.Clean w' := by
  obtain ⟨hcommitted, hview, hbroken⟩ := hp.exec_readOnly clk w
  rw [h] at hcommitted hview hbroken
  exact ⟨hbroken.trans hw.1, hview.trans (hw.2.trans hcommitted.symm)⟩

/-- What follows the rollback of a conflict only reads. -/
theorem clean_recoverConflict {r : Reading} {res : Except (Exc AppError) GateResponse}
    (h : (recoverConflict e r).exec clk w = (res, w')) : Session.Clean w' := by
  have h := (Prog.exec_bind_of_ok (Prog.exec_rollbackTx clk w)).symm.trans h
  have hclean : Session.Clean ({ w with view := w.committed, broken := false } : Session Store) :=
    ⟨rfl, rfl⟩
  refine hclean.of_readOnly ?_ h
  refine (Prog.writesOnly_select _).bind fun dup => ?_
  cases dup with
  | some event => exact readOnly_duplicateResponse _ _ _
  | none =>
    refine (readOnly_conflictSession e r).bind fun session => ?_
    cases session <;> trivial

/-- An event that was recorded is committed; one that was in conflict is rolled back. -/
theorem clean_finishEvent {r : Reading} {v : Verdict} (hwet : e.dryRun = false)
    (h : (finishEvent e r v).exec clk w = (.ok resp, w')) : Session.Clean w' := by
  rw [finishEvent, if_neg (by simp [hwet])] at h
  have h := (Prog.exec_bind_of_ok (Prog.exec_attempt clk _ _)).symm.trans h
  rcases hrecord : (recordEvent e r v).exec clk w with ⟨exc | rec, w₃⟩
  · simp only [hrecord] at h
    split at h
    · rename_i hok
      cases hok
    · exact clean_recoverConflict h
    · cases h
  · simp only [hrecord] at h
    obtain ⟨-, -, -, hview, hbroken, -⟩ := exec_recordEvent_ok hrecord
    have hclean : Session.Clean w₃ := ⟨hbroken, hview⟩
    exact hclean.of_readOnly (readOnly_respond e r v _ _ _ _) h

/-- **An answered event** leaves nothing pending. -/
theorem clean_processPlateEvent (hwet : e.dryRun = false) (hw : Session.Clean w)
    (h : (processPlateEvent cfg e).exec clk w = (.ok resp, w')) : Session.Clean w' := by
  cases hkey : eventByKey e.key w.view with
  | some event =>
    obtain ⟨hcommitted, hview, hbroken, -⟩ := processPlateEvent_duplicate hw.1 hkey h
    exact ⟨hbroken, hview.trans (hw.2.trans hcommitted.symm)⟩
  | none =>
    have hw₀ : ({ w with tick := w.tick + 1 } : Session Store).broken = false := hw.1
    have h := (Prog.exec_bind_of_ok (Prog.exec_getTime clk w)).symm.trans h
    have h := (Prog.exec_bind_of_ok (Prog.exec_select clk _ hw₀)).symm.trans h
    cases hgate : gateByCode e.gateCode w.view with
    | none =>
      simp only [hgate] at h
      cases h
    | some gate =>
      simp only [hgate] at h
      have h := (Prog.exec_bind_of_ok (Prog.exec_select clk _ hw₀)).symm.trans h
      simp only [hkey] at h
      obtain ⟨r, w₁, -, h⟩ := Prog.exec_bind_ok h
      obtain ⟨v, w₂, -, hfinish⟩ := Prog.exec_bind_ok h
      exact clean_finishEvent hwet hfinish

end

/-! ## The sessions of the two events -/

section

variable {cfg : Config} {e : PlateEvent} {clk : ℕ → ℤ} {w w' : Session Store}
  {resp : GateResponse}

theorem recordedStore_sessions_opens {r : Reading} {v : Verdict} {n : ℕ} {s : Store}
    (h : opensSession e v) : (recordedStore e r v n s).sessions =
      s.sessions ++ (entrySession e r n (n + 1)).plate.toList.map
        (entrySession e r n (n + 1)).row := by
  rw [recordedStore_opens h, entryStore, spaceTaken_sessions]
  rfl

theorem recordedStore_sessions {r : Reading} {v : Verdict} {n : ℕ} {s : Store}
    (h : ¬ opensSession e v) : (recordedStore e r v n s).sessions = s.sessions := by
  by_cases hreleases : releases e v
  · rw [recordedStore_releases hreleases, exitStore_sessions]
    rfl
  · rw [recordedStore_neither h hreleases]
    rfl

/-- **An entry** opens one session at most, and closes none. -/
theorem entry_sessions (hw : Session.Clean w) (hwet : e.dryRun = false) (hin : e.direction = "IN")
    (h : (processPlateEvent cfg e).exec clk w = (.ok resp, w')) :
    ∃ opened : Option ParkingSession, (∀ r ∈ opened, r.status = .opened) ∧
      w'.committed.sessions = w.committed.sessions ++ opened.toList := by
  cases hkey : eventByKey e.key w.view with
  | some event =>
    obtain ⟨hcommitted, -⟩ := processPlateEvent_duplicate hw.1 hkey h
    exact ⟨none, by simp, by simp [hcommitted]⟩
  | none =>
    obtain ⟨gate, base, w₁, v, w₂, hdecided, hending⟩ := processPlateEvent_ok hw.1 hw.2 hkey h
    have hkept := hdecided.sessions_kept fun policy session hcloses => by
      obtain ⟨_, _, _, hout, _⟩ := baseCase_closes hcloses
      rw [hin] at hout
      exact absurd hout (by decide)
    rw [hw.2] at hkept
    cases hending with
    | dry hdry => simp [hdry] at hwet
    | conflict _ _ _ _ _ hcommitted =>
      exact ⟨none, by simp, by simp [hcommitted, hdecided.committed]⟩
    | stored _ _ _ hcommitted _ _ =>
      rw [hcommitted]
      by_cases hopens : opensSession e v
      · rw [recordedStore_sessions_opens hopens, hkept]
        refine ⟨(entrySession e (e.readingIn cfg gate clk w) w₂.nextId (w₂.nextId + 1)).plate.map
          (entrySession e (e.readingIn cfg gate clk w) w₂.nextId (w₂.nextId + 1)).row, ?_, ?_⟩
        · intro r hr
          obtain ⟨plate, -, rfl⟩ := Option.mem_map.1 hr
          rfl
        · rw [Option.toList_map]
      · rw [recordedStore_sessions hopens, hkept]
        exact ⟨none, by simp, by simp⟩

/-- **An exit** leaves a session as it was, up to its settlement, or closes it at the instant of
the request. -/
theorem exit_sessions (hw : Session.Clean w) (hwet : e.dryRun = false)
    (hout : e.direction = "OUT") (h : (processPlateEvent cfg e).exec clk w = (.ok resp, w'))
    {r : ParkingSession} (hr : r ∈ w'.committed.sessions)
    (huniq : ∀ a ∈ w.committed.sessions, ∀ b ∈ w.committed.sessions, a.id = r.id → b.id = r.id →
      a = b) :
    (∃ r₀ ∈ w.committed.sessions, r₀.unsettled = r.unsettled) ∨
      ∃ session ∈ w.committed.sessions, ∃ k s, session.id = r.id ∧
        (closedSession cfg session (clk w.tick) (clk k) s).unsettled = r.unsettled := by
  cases hkey : eventByKey e.key w.view with
  | some event =>
    obtain ⟨hcommitted, -⟩ := processPlateEvent_duplicate hw.1 hkey h
    exact .inl ⟨r, hcommitted ▸ hr, rfl⟩
  | none =>
    obtain ⟨gate, base, w₁, v, w₂, hdecided, hending⟩ := processPlateEvent_ok hw.1 hw.2 hkey h
    have hopens : ¬ opensSession e v := fun hopens => by
      have hin := hopens.1
      rw [hout] at hin
      exact absurd hin (by decide)
    cases hending with
    | dry hdry => simp [hdry] at hwet
    | conflict _ hopened => exact absurd hopened hopens
    | stored _ hlive _ hcommitted _ _ =>
      rw [hcommitted, recordedStore_sessions hopens] at hr
      cases hbranch : e.branch cfg gate clk w with
      | exitCloses policy session =>
        obtain ⟨_, _, _, _, hlatest⟩ := baseCase_closes hbranch
        have hsession := (latestOpenSession_mem hlatest).1
        obtain ⟨k, s, hrows⟩ := hdecided.rows_closed hlive hbranch
        have hmem := List.mem_map_of_mem (f := ParkingSession.unsettled) hr
        rw [hrows] at hmem
        obtain ⟨q, hq, hqr⟩ := List.mem_map.1 hmem
        have hid : q.id = r.id := (congrArg ParkingSession.id hqr :)
        rw [← hw.2]
        rw [← hw.2] at huniq
        rcases mem_updateWhere.1 hq with ⟨row, hrow, heq, rfl⟩ | ⟨hrow, hne⟩
        · -- the row that is closed is the one that was loaded
          have hsame : session.id = row.id := (beq_iff_eq.1 heq).symm
          obtain rfl := huniq session hsession row hrow (hsame.trans hid) hid
          rw [closeRow_self] at hqr
          exact .inr ⟨session, hsession, k, s, hid, hqr⟩
        · exact .inl ⟨q, hrow, hqr⟩
      | _ =>
        rw [hdecided.sessions_kept (by simp [hbranch]), hw.2] at hr
        exact .inl ⟨r, hr, rfl⟩

end

/-! ## The upload of a stay -/

/-- The two events that an agent captured of a stay while it was offline. -/
structure OfflineStay where
  entry : PlateDetected
  exit : PlateDetected
  enteredAt : ℤ
  leftAt : ℤ
  entry_in : entry.direction = "IN"
  exit_out : exit.direction = "OUT"
  entry_captured : entry.capturedAt = some enteredAt
  exit_captured : exit.capturedAt = some leftAt
  ordered : enteredAt ≤ leftAt

/-- The upload of a stay as a batch, on a store. -/
def OfflineStay.upload (cfg : Config) (stay : OfflineStay) (clk : ℕ → ℤ) (s : Store) (n : ℕ) :
    Except (Exc AppError) (List SyncResult) × Session Store :=
  (syncOffline cfg [stay.entry, stay.exit]).exec clk (.fresh s n 0)

/-- An upload after the end of a stay, in which both events are answered, leaves the session `r`
of its plate: opened by this upload and closed by it. -/
structure OfflineStay.Closes (cfg : Config) (stay : OfflineStay) (plate : String) (s : Store)
    (n : ℕ) (clk : ℕ → ℤ) (r : ParkingSession) : Prop where
  entry_plate : stay.entry.offlineEvent.plate cfg = some plate
  exit_plate : stay.exit.offlineEvent.plate cfg = some plate
  clock : Monotone clk
  later : ∀ k, stay.leftAt < clk k
  answered : ∃ results, (stay.upload cfg clk s n).1 = .ok results ∧
    ∀ x ∈ results, x.outcome.isAnswered = true
  stored : r ∈ (stay.upload cfg clk s n).2.committed.sessions
  plate_eq : r.plateNormalized = plate
  closed : r.status = .closed
  new : ∀ r₀ ∈ s.sessions, r₀.id ≠ r.id

/-- What the closed session of a stay is meant to say, on the tariff and the policy in force. -/
structure OfflineStay.Account (cfg : Config) (stay : OfflineStay) (s : Store)
    (r : ParkingSession) : Prop where
  entryAt : r.entryAt = stay.enteredAt
  exitAt : r.exitAt = some stay.leftAt
  duration : r.durationSeconds = some (secondsBetween stay.enteredAt stay.leftAt)
  amount : r.finalAmount = (calculateAmounts cfg.tehran (activeTariff stay.leftAt s)
    (secondsBetween stay.enteredAt stay.leftAt) (some stay.enteredAt) (tariffPolicy cfg s)).final

/-- The instant of the upload does not matter. -/
structure OfflineStay.UploadIndependent (cfg : Config) (stay : OfflineStay) (plate : String)
    (s : Store) (n : ℕ) : Prop where
  same : ∀ clk clk' r r', stay.Closes cfg plate s n clk r → stay.Closes cfg plate s n clk' r' →
    r.entryAt = r'.entryAt ∧ r.exitAt = r'.exitAt ∧ r.durationSeconds = r'.durationSeconds ∧
      r.finalAmount = r'.finalAmount
  account : ∀ clk r, stay.Closes cfg plate s n clk r → stay.Account cfg s r
  duration : ∀ clk r exitAt, stay.Closes cfg plate s n clk r → r.exitAt = some exitAt →
    r.durationSeconds = some (secondsBetween r.entryAt exitAt)

section

variable {cfg : Config} {clk : ℕ → ℤ} {stay : OfflineStay} {plate : String} {s : Store} {n : ℕ}
  {r : ParkingSession} {w w' : Session Store}

/-- A batch of which every event is answered is its first event and then the rest. -/
theorem exec_syncAll_cons {p : PlateDetected} {ps : List PlateDetected}
    {results : List SyncResult} (h : (syncAll cfg (p :: ps)).exec clk w = (.ok results, w'))
    (hanswered : ∀ x ∈ results, x.outcome.isAnswered = true) :
    ∃ resp w₁ rest, (processPlateEvent cfg p.offlineEvent).exec clk w = (.ok resp, w₁) ∧
      (syncAll cfg ps).exec clk w₁ = (.ok rest, w') ∧
        ∀ x ∈ rest, x.outcome.isAnswered = true := by
  have h := (Prog.exec_bind_of_ok (Prog.exec_attempt clk _ w)).symm.trans h
  obtain ⟨rest, w₂, hrest, hret⟩ := Prog.exec_bind_ok h
  obtain ⟨rfl, rfl⟩ : _ = results ∧ w₂ = w' :=
    ⟨Except.ok.inj (congrArg Prod.fst hret), congrArg Prod.snd hret⟩
  rw [List.forall_mem_cons] at hanswered
  rcases hfirst : (processPlateEvent cfg p.offlineEvent).exec clk w with ⟨exc | resp, w₁⟩
  · rw [hfirst] at hanswered
    cases hanswered.1
  · rw [hfirst] at hrest
    exact ⟨resp, w₁, rest, rfl, hrest, hanswered.2⟩

/-- The upload of a stay processes its entry and then its exit. -/
theorem OfflineStay.Closes.events (h : stay.Closes cfg plate s n clk r) :
    ∃ resp resp' w₁ w₂, (processPlateEvent cfg stay.entry.offlineEvent).exec clk (.fresh s n 2) =
      (.ok resp, w₁) ∧
        (processPlateEvent cfg stay.exit.offlineEvent).exec clk w₁ = (.ok resp', w₂) ∧
          r ∈ w₂.committed.sessions := by
  obtain ⟨results, hok, hanswered⟩ := h.answered
  have hstored := h.stored
  rcases hrun : stay.upload cfg clk s n with ⟨res, w'⟩
  rw [hrun] at hok hstored
  obtain rfl : res = .ok results := hok
  unfold upload syncOffline at hrun
  split at hrun
  · have htimes : (captureTimes [stay.entry, stay.exit]).exec clk (.fresh s n 0) =
        (.ok [(stay.enteredAt, stay.entry), (stay.leftAt, stay.exit)], .fresh s n 2) := by
      simp [captureTimes, stay.entry_captured, stay.exit_captured]
      rfl
    have hrun := (Prog.exec_bind_of_ok htimes).symm.trans hrun
    have hsorted : orderBy Prod.fst [(stay.enteredAt, stay.entry), (stay.leftAt, stay.exit)] =
        [(stay.enteredAt, stay.entry), (stay.leftAt, stay.exit)] := by
      simp [orderBy, stay.ordered]
    rw [hsorted] at hrun
    obtain ⟨resp, w₁, rest, hentry, hrest, hanswered⟩ := exec_syncAll_cons hrun hanswered
    obtain ⟨resp', w₂, rest', hexit, hrest, -⟩ := exec_syncAll_cons hrest hanswered
    obtain rfl : w₂ = w' := congrArg Prod.snd hrest
    exact ⟨resp, resp', w₁, w₂, hentry, hexit, hstored⟩
  · cases hrun

/-- **The exit of an uploaded stay** is an instant of the upload. -/
theorem OfflineStay.Closes.exitAt (h : stay.Closes cfg plate s n clk r) :
    ∃ k, r.exitAt = some (clk k) := by
  obtain ⟨resp, resp', w₁, w₂, hentry, hexit, hstored⟩ := h.events
  have hstart : Session.Clean (.fresh s n 2) := ⟨rfl, rfl⟩
  have hclean := clean_processPlateEvent rfl hstart hentry
  obtain ⟨opened, hopened, hrows⟩ := entry_sessions hstart rfl stay.entry_in hentry
  rw [Session.fresh_committed] at hrows
  -- a row with the identifier of the session is the one that the entry opened
  have hown : ∀ a ∈ w₁.committed.sessions, a.id = r.id → opened = some a := by
    intro a ha hid
    rw [hrows, List.mem_append, Option.mem_toList] at ha
    exact ha.resolve_left fun hold => h.new a hold hid
  have huniq : ∀ a ∈ w₁.committed.sessions, ∀ b ∈ w₁.committed.sessions, a.id = r.id →
      b.id = r.id → a = b := fun a ha b hb hida hidb =>
    Option.some.inj ((hown a ha hida).symm.trans (hown b hb hidb))
  rcases exit_sessions hclean rfl stay.exit_out hexit hstored huniq with
    ⟨r₀, hr₀, heq⟩ | ⟨session, hsession, k, s', hid, heq⟩
  · -- the exit left it alone, and so it is still open
    have hid : r₀.id = r.id := (congrArg ParkingSession.id heq :)
    have hstatus : r₀.status = r.status := (congrArg ParkingSession.status heq :)
    rw [hopened r₀ (hown r₀ hr₀ hid), h.closed] at hstatus
    cases hstatus
  · exact ⟨w₁.tick, (congrArg ParkingSession.exitAt heq :).symm⟩

/-- **Late uploads**: as soon as one upload closes the session of a stay, the instant of the
upload matters. -/
theorem not_uploadIndependent (h : stay.Closes cfg plate s n clk r) :
    ¬ stay.UploadIndependent cfg plate s n := by
  intro hindependent
  obtain ⟨k, hexit⟩ := h.exitAt
  have hleft := (hindependent.account clk r h).exitAt
  have hlater := h.later k
  rw [← Option.some.inj (hleft.symm.trans hexit)] at hlater
  exact lt_irrefl _ hlater

end

/-! ### An hour in the yard -/

/-- A driver came in and left an hour later, while the gate was offline. -/
def hourOffline : OfflineStay :=
  { entry := { gateCode := "G1", plateRaw := "12ب34567", sourceEventId := "1"
               capturedAt := some 0 }
    exit := { gateCode := "G1", direction := "OUT", plateRaw := "12ب34567", sourceEventId := "2"
              capturedAt := some 3600000000 }
    enteredAt := 0, leftAt := 3600000000, entry_in := rfl, exit_out := rfl
    entry_captured := rfl, exit_captured := rfl, ordered := by decide }

/-- An hour costs 1000. -/
def hourlyYard : Store :=
  { gates := [{ id := "g1", code := "G1", name := "North" }]
    vehicles := [{ id := 1, plateRaw := "12ب34567", plateNormalized := "12B345IR67"
                   createdAt := 0 }]
    rules := [{ id := 2, name := "guests", conditions := [], status := "ACTIVE"
                actions := [[("action", .str "allow_with_warning")]] }]
    tariffs := [{ id := 3, title := "hourly", hourlyAmount := 1000, createdAt := 0 }] }

/-- What an upload at an instant answers, and the sessions it leaves. -/
def hourUploaded (instant : ℤ) : Bool × List ParkingSession :=
  let out := hourOffline.upload {} (fun _ => instant) hourlyYard 10
  (out.1.toOption.any fun results => results.all fun x => x.outcome.isAnswered,
    out.2.committed.sessions)

theorem hourOffline_closes {instant : ℤ} {r : ParkingSession} (hlater : 3600000000 < instant)
    (hanswered : (hourUploaded instant).1 = true) (hstored : r ∈ (hourUploaded instant).2)
    (hplate : r.plateNormalized = "12B345IR67") (hclosed : r.status = .closed) :
    hourOffline.Closes {} "12B345IR67" hourlyYard 10 (fun _ => instant) r where
  entry_plate := by decide
  exit_plate := by decide
  clock := monotone_const
  later _ := hlater
  answered := by
    unfold hourUploaded at hanswered
    rcases hrun : (hourOffline.upload {} (fun _ => instant) hourlyYard 10).1 with exc | results
    · simp [hrun, Except.toOption] at hanswered
    · exact ⟨results, rfl, by simpa [hrun, Except.toOption] using hanswered⟩
  stored := hstored
  plate_eq := hplate
  closed := hclosed
  new := by simp [hourlyYard]

/-- An upload an hour after the driver left charges two hours. -/
theorem not_uploadIndependent_hour :
    ¬ hourOffline.UploadIndependent {} "12B345IR67" hourlyYard 10 := by
  have hleft : (hourUploaded 7200000000).2.any (fun r =>
      r.plateNormalized == "12B345IR67" && r.status == .closed) = true := by
    decide +kernel
  obtain ⟨r, hr, hrow⟩ := List.any_eq_true.1 hleft
  rw [Bool.and_eq_true, beq_iff_eq, beq_iff_eq] at hrow
  exact not_uploadIndependent (hourOffline_closes (by decide) (by decide +kernel) hr hrow.1 hrow.2)

/-- **A stay that costs more the later it is uploaded** -/
theorem late_upload_charged :
    ¬ ∀ (cfg : Config) (stay : OfflineStay) (plate : String) (s : Store) (n : ℕ),
      stay.UploadIndependent cfg plate s n := by
  intro h
  have hcost (instant amount : ℤ) (hleft : (hourUploaded instant).2.any (fun r =>
      r.plateNormalized == "12B345IR67" && r.status == .closed && r.finalAmount == amount) =
        true) (hlater : 3600000000 < instant) (hanswered : (hourUploaded instant).1 = true) :
      ∃ r, hourOffline.Closes {} "12B345IR67" hourlyYard 10 (fun _ => instant) r ∧
        r.finalAmount = amount := by
    obtain ⟨r, hr, hrow⟩ := List.any_eq_true.1 hleft
    simp only [Bool.and_eq_true, beq_iff_eq] at hrow
    exact ⟨r, hourOffline_closes hlater hanswered hr hrow.1.1 hrow.1.2, hrow.2⟩
  obtain ⟨r, hr, htwo⟩ := hcost 7200000000 2000 (by decide +kernel) (by decide) (by decide +kernel)
  obtain ⟨r', hr', hthree⟩ :=
    hcost 10800000000 3000 (by decide +kernel) (by decide) (by decide +kernel)
  have hsame := ((h {} hourOffline "12B345IR67" hourlyYard 10).same _ _ r r' hr hr').2.2.2
  rw [htwo, hthree] at hsame
  exact absurd hsame (by decide)

end ParkingSystem
