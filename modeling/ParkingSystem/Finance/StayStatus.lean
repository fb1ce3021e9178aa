import ParkingSystem.Finance.PaymentScope
import ParkingSystem.Library.Hoare

/-!
# Stays That Are Paid

Whether a stay is paid is stored twice, on its session and on its charge. `InStep` says that the
two copies agree, and `StaysKept` is the invariant behind it: `Copied`, of the library, on pairs of
a session and whether it is PAID.

## What goes wrong

The settlement of an exit marks both copies. `create_payment` and `approve_adjustment` mark the
charge and leave its session as it is: a stay they pay in full is PAID on its charge only.
-/

namespace ParkingSystem

open Table Transaction

/-! ## The two copies -/

/-- A CLOSED session and its PARKING charge say the same, and a session without a charge is
FREE. -/
structure InStep (s : Store) : Prop where
  charged : ∀ r ∈ s.sessions, r.status = .closed → ∀ c ∈ s.charges,
    c.parkingSessionId = some r.id → c.chargeType = .parking →
      (r.paymentStatus = .paid ↔ c.status = .paid)
  free : ∀ r ∈ s.sessions, r.status = .closed →
    (∀ c ∈ s.charges, c.parkingSessionId ≠ some r.id) → r.paymentStatus = .free

instance (s : Store) : Decidable (InStep s) :=
  decidable_of_iff ((∀ r ∈ s.sessions, r.status = .closed → ∀ c ∈ s.charges,
      c.parkingSessionId = some r.id → c.chargeType = .parking →
        (r.paymentStatus = .paid ↔ c.status = .paid)) ∧
    ∀ r ∈ s.sessions, r.status = .closed →
      (∀ c ∈ s.charges, c.parkingSessionId ≠ some r.id) → r.paymentStatus = .free)
    ⟨fun h => ⟨h.1, h.2⟩, fun h => ⟨h.charged, h.free⟩⟩

/-- What the sessions say of being paid. -/
def Store.stays (s : Store) : List (ℕ × Bool) :=
  s.sessions.map fun r => (r.id, r.paymentStatus == .paid)

/-- What the charge of a session says of it. -/
def Charge.due (c : Charge) : Option (ℕ × Bool) :=
  c.parkingSessionId.map fun id => (id, c.status == .paid)

/-- What the charges say of the sessions. -/
def Store.dues (s : Store) : List (ℕ × Bool) := s.charges.filterMap Charge.due

/-- A charge's identifier and its session. -/
def Charge.key (c : Charge) : ℕ × Option ℕ := (c.id, c.parkingSessionId)

def Store.chargeKeys (s : Store) : List (ℕ × Option ℕ) := s.charges.map Charge.key

/-- **The invariant**, with the identifiers drawn so far: every due agrees with its session, no
session has two, an OPEN one has none, and a CLOSED one without any is FREE. The prices are those
the schema of a tariff asks for. -/
structure StaysKept (n : ℕ) (s : Store) : Prop where
  copied : Copied s.stays s.dues n
  keys : (s.chargeKeys.map Prod.fst).Nodup
  once : ∀ k ∈ s.chargeKeys, ∀ k' ∈ s.chargeKeys, k.2 = k'.2 → k.2 ≠ none → k = k'
  opened : ∀ r ∈ s.sessions, r.status = .opened →
    r.paymentStatus ≠ .paid ∧ ∀ d ∈ s.dues, d.1 ≠ r.id
  free : ∀ r ∈ s.sessions, r.status = .closed →
    r.paymentStatus = .free ∨ ∃ d ∈ s.dues, d.1 = r.id
  tariffs : ∀ t ∈ s.tariffs, 0 ≤ t.hourlyAmount ∧ 0 ≤ t.dailyMaxAmount.getD 0

/-- Nothing that the invariant speaks of is different. -/
structure SameStays (s s' : Store) : Prop where
  sessions : s'.sessions = s.sessions
  keys : s'.chargeKeys = s.chargeKeys
  dues : s'.dues = s.dues
  tariffs : s'.tariffs = s.tariffs

section

variable {n n' : ℕ} {s s' s'' : Store} {c loaded new : Charge}

theorem mem_dues {d : ℕ × Bool} :
    d ∈ s.dues ↔ ∃ c ∈ s.charges, c.parkingSessionId = some d.1 ∧ (c.status == .paid) = d.2 := by
  obtain ⟨id, paid⟩ := d
  simp only [Store.dues, List.mem_filterMap, Charge.due, Option.map_eq_some_iff, Prod.mk.injEq]
  constructor
  · rintro ⟨c, hc, id', hid, rfl, hpaid⟩
    exact ⟨c, hc, hid, hpaid⟩
  · rintro ⟨c, hc, hid, hpaid⟩
    exact ⟨c, hc, id, hid, rfl, hpaid⟩

/-- The due of a charge that has a session. -/
theorem due_mem (hc : c ∈ s.charges) {id : ℕ} (h : c.parkingSessionId = some id) :
    (id, c.status == .paid) ∈ s.dues := mem_dues.2 ⟨c, hc, h, rfl⟩

/-- **The invariant says what it is for**: the two copies are in step. -/
theorem StaysKept.inStep (h : StaysKept n s) : InStep s where
  charged r hr _ c hc hlink _ := by
    have hsame := h.copied.agree _ (due_mem hc hlink) (r.id, r.paymentStatus == .paid)
      (List.mem_map.2 ⟨r, hr, rfl⟩) rfl
    have hsame : (r.paymentStatus == .paid) = (c.status == .paid) := hsame
    rw [← beq_iff_eq, hsame, beq_iff_eq]
  free r hr hclosed hnone := by
    rcases h.free r hr hclosed with hfree | ⟨d, hd, hid⟩
    · exact hfree
    · obtain ⟨c, hc, hlink, -⟩ := mem_dues.1 hd
      exact absurd (hid ▸ hlink) (hnone c hc)

/-- A yard nobody has parked in. -/
theorem staysKept_empty (n : ℕ) (hsessions : s.sessions = []) (hcharges : s.charges = [])
    (htariffs : ∀ t ∈ s.tariffs, 0 ≤ t.hourlyAmount ∧ 0 ≤ t.dailyMaxAmount.getD 0) :
    StaysKept n s := by
  refine ⟨?_, ?_, ?_, ?_, ?_, htariffs⟩
  · constructor <;> simp [Store.stays, Store.dues, hsessions, hcharges]
  · simp [Store.chargeKeys, hcharges]
  · simp [Store.chargeKeys, hcharges]
  · simp [hsessions]
  · simp [hsessions]

theorem SameStays.refl (s : Store) : SameStays s s := ⟨rfl, rfl, rfl, rfl⟩

theorem SameStays.trans (h : SameStays s s') (h' : SameStays s' s'') : SameStays s s'' :=
  ⟨h'.sessions.trans h.sessions, h'.keys.trans h.keys, h'.dues.trans h.dues,
    h'.tariffs.trans h.tariffs⟩

/-- Tables the invariant does not speak of. -/
theorem SameStays.of_tables (hsessions : s'.sessions = s.sessions)
    (hcharges : s'.charges = s.charges) (htariffs : s'.tariffs = s.tariffs) : SameStays s s' :=
  ⟨hsessions, congrArg (List.map Charge.key) hcharges,
    congrArg (List.filterMap Charge.due) hcharges, htariffs⟩

theorem StaysKept.mono (h : StaysKept n s) (hn : n ≤ n') : StaysKept n' s :=
  { h with copied := h.copied.mono hn }

theorem StaysKept.congr (h : StaysKept n s) (hsame : SameStays s s') : StaysKept n s' := by
  obtain ⟨hsessions, hkeys, hdues, htariffs⟩ := hsame
  have hstays : s'.stays = s.stays := by rw [Store.stays, hsessions, Store.stays]
  constructor
  · rw [hstays, hdues]
    exact h.copied
  · rw [hkeys]
    exact h.keys
  · rw [hkeys]
    exact h.once
  · rw [hsessions, hdues]
    exact h.opened
  · rw [hsessions, hdues]
    exact h.free
  · rw [htariffs]
    exact h.tariffs

/-- No two charges have one identifier. -/
theorem StaysKept.key_eq (h : StaysKept n s) {k k' : ℕ × Option ℕ} (hk : k ∈ s.chargeKeys)
    (hk' : k' ∈ s.chargeKeys) (hid : k.1 = k'.1) : k = k' :=
  List.inj_on_of_nodup_map h.keys hk hk' hid

/-! ## Writing one charge -/

/-- The charges once one of them was written. -/
def chargeWritten (loaded new : Charge) (s : Store) : List Charge :=
  updateWhere (fun r => r.id == loaded.id) (loaded.written new) s.charges

theorem keys_chargeWritten (loaded new : Charge) (s : Store) :
    (chargeWritten loaded new s).map Charge.key = s.chargeKeys :=
  map_updateWhere (f := loaded.written new) (fun _ => rfl) _

/-- Where its status stays, a charge may be written. -/
theorem dues_chargeWritten_of_status (hstatus : new.status = loaded.status) (s : Store) :
    (chargeWritten loaded new s).filterMap Charge.due = s.dues := by
  rw [chargeWritten, updateWhere, List.filterMap_map]
  refine List.filterMap_congr fun r _ => ?_
  by_cases hid : r.id = loaded.id
  · simp [hid, Charge.due, Charge.written, hstatus]
  · simp [hid]

/-- **One copy alone** may be written where it is not the copy of a session, or where its status
stays. -/
theorem StaysKept.dues_chargeWritten (h : StaysKept n s) (hkey : loaded.key ∈ s.chargeKeys)
    (hstatus : loaded.parkingSessionId ≠ none → new.status = loaded.status) :
    (chargeWritten loaded new s).filterMap Charge.due = s.dues := by
  by_cases hnone : loaded.parkingSessionId = none
  · rw [chargeWritten, updateWhere, List.filterMap_map]
    refine List.filterMap_congr fun r hr => ?_
    by_cases hid : r.id = loaded.id
    · -- the row that is written is the one that was loaded
      have hsame := h.key_eq (List.mem_map.2 ⟨r, hr, rfl⟩) hkey hid
      have hlink : r.parkingSessionId = loaded.parkingSessionId := (congrArg Prod.snd hsame :)
      simp [hid, Charge.due, Charge.written, hlink, hnone]
    · simp [hid]
  · exact dues_chargeWritten_of_status (hstatus hnone) s

theorem StaysKept.same_chargeWritten (h : StaysKept n s) (hkey : loaded.key ∈ s.chargeKeys)
    (hstatus : loaded.parkingSessionId ≠ none → new.status = loaded.status)
    (hsessions : s'.sessions = s.sessions) (hcharges : s'.charges = chargeWritten loaded new s)
    (htariffs : s'.tariffs = s.tariffs) : SameStays s s' where
  sessions := hsessions
  keys := by rw [Store.chargeKeys, hcharges, keys_chargeWritten]
  dues := by rw [Store.dues, hcharges, h.dues_chargeWritten hkey hstatus]
  tariffs := htariffs

theorem sameStays_updateCharge (hstatus : new.status = loaded.status) (s : Store) :
    SameStays s ((updateCharge loaded new).apply s) where
  sessions := rfl
  keys := keys_chargeWritten loaded new s
  dues := dues_chargeWritten_of_status hstatus s
  tariffs := rfl

/-! ## What a stay goes through -/

/-- A charge that has a session has a due of it. -/
theorem due_of_key {k : ℕ × Option ℕ} (hk : k ∈ s.chargeKeys) {id : ℕ} (h : k.2 = some id) :
    ∃ d ∈ s.dues, d.1 = id := by
  obtain ⟨c, hc, rfl⟩ := List.mem_map.1 hk
  exact ⟨_, due_mem hc h, rfl⟩

theorem StaysKept.session_eq (h : StaysKept n s) {r session : ParkingSession} (hr : r ∈ s.sessions)
    (hsession : session ∈ s.sessions) (hid : r.id = session.id) : r = session := by
  have hids : (s.sessions.map ParkingSession.id).Nodup := by
    have hdistinct := h.copied.distinct
    rwa [Store.stays, List.map_map] at hdistinct
  exact List.inj_on_of_nodup_map hids hr hsession hid

/-- **Opening**: a session with an identifier of its own. -/
theorem StaysKept.open (h : StaysKept n s) {r : ParkingSession} (hn : n ≤ r.id) (hn' : r.id < n')
    (hopen : r.status = .opened) (hpay : r.paymentStatus ≠ .paid)
    (hsessions : s'.sessions = s.sessions ++ [r]) (hcharges : s'.charges = s.charges)
    (htariffs : s'.tariffs = s.tariffs) : StaysKept n' s' := by
  have hstays : s'.stays = s.stays ++ [(r.id, false)] := by
    have hlast : (r.paymentStatus == .paid) = false := beq_eq_false_iff_ne.2 hpay
    rw [Store.stays, hsessions, List.map_append, List.map_singleton, hlast]
    rfl
  have hdues : s'.dues = s.dues := congrArg (List.filterMap Charge.due) hcharges
  have hkeys : s'.chargeKeys = s.chargeKeys := congrArg (List.map Charge.key) hcharges
  constructor
  · rw [hstays, hdues]
    exact ((h.copied.mono hn).insert false).mono hn'
  · rw [hkeys]
    exact h.keys
  · rw [hkeys]
    exact h.once
  · intro q hq hqopen
    rw [hdues]
    rw [hsessions] at hq
    rcases List.mem_append.1 hq with hold | hnew
    · exact h.opened q hold hqopen
    · -- every due is of a session that was there
      obtain rfl := List.mem_singleton.1 hnew
      refine ⟨hpay, fun d hd hid => ?_⟩
      have hdrawn := h.copied.drawn d hd
      omega
  · intro q hq hclosed
    rw [hdues]
    rw [hsessions] at hq
    rcases List.mem_append.1 hq with hold | hnew
    · exact h.free q hold hclosed
    · obtain rfl := List.mem_singleton.1 hnew
      rw [hopen] at hclosed
      cases hclosed
  · rw [htariffs]
    exact h.tariffs

/-- **Closing**: an OPEN session becomes a CLOSED one that is not PAID, with a new charge that is
not PAID either, or FREE without one. -/
theorem StaysKept.close (h : StaysKept n s) {session : ParkingSession} (hmem : session ∈ s.sessions)
    (hopen : session.status = .opened) {f : ParkingSession → ParkingSession}
    (hid : ∀ r, (f r).id = r.id) (hclosed : (f session).status = .closed)
    (hpay : (f session).paymentStatus ≠ .paid) {charge : Option Charge}
    (hfree : charge = none → (f session).paymentStatus = .free)
    (hlink : ∀ c ∈ charge, c.parkingSessionId = some session.id ∧ c.status ≠ .paid)
    (hnew : ∀ c ∈ charge, c.id ∉ s.chargeKeys.map Prod.fst)
    (hsessions : s'.sessions = updateWhere (fun r => r.id == session.id) f s.sessions)
    (hcharges : s'.charges = s.charges ++ charge.toList) (htariffs : s'.tariffs = s.tariffs) :
    StaysKept n s' := by
  obtain ⟨hunpaid, hnone⟩ := h.opened session hmem hopen
  have hrow {r : ParkingSession} (hr : r ∈ s.sessions) (hid : (r.id == session.id) = true) :
      r = session := h.session_eq hr hmem (beq_iff_eq.1 hid)
  have hstays : s'.stays = s.stays := by
    rw [Store.stays, hsessions]
    refine map_updateWhere_of_mem fun r hr hwritten => ?_
    obtain rfl := hrow hr hwritten
    rw [hid, beq_eq_false_iff_ne.2 hpay, beq_eq_false_iff_ne.2 hunpaid]
  have hkeys : s'.chargeKeys = s.chargeKeys ++ charge.toList.map Charge.key := by
    rw [Store.chargeKeys, hcharges, List.map_append]
    rfl
  have hdues {d : ℕ × Bool} (hd : d ∈ s'.dues) : d ∈ s.dues ∨ d = (session.id, false) := by
    obtain ⟨c, hc, hcd, hpaid⟩ := mem_dues.1 hd
    rw [hcharges] at hc
    rcases List.mem_append.1 hc with hold | hc
    · exact .inl (mem_dues.2 ⟨c, hold, hcd, hpaid⟩)
    · obtain ⟨hsession, hstatus⟩ := hlink c (Option.mem_toList.1 hc)
      rw [beq_eq_false_iff_ne.2 hstatus] at hpaid
      exact .inr (Prod.ext (Option.some.inj (hcd.symm.trans hsession)) hpaid.symm)
  have holdDues {d : ℕ × Bool} (hd : d ∈ s.dues) : d ∈ s'.dues := by
    obtain ⟨c, hc, hcd⟩ := mem_dues.1 hd
    exact mem_dues.2 ⟨c, hcharges ▸ List.mem_append_left _ hc, hcd⟩
  constructor
  · rw [hstays]
    refine h.copied.link (l := (session.id, false)) (List.mem_map.2 ⟨session, hmem, ?_⟩)
      fun d hd => ?_
    · rw [beq_eq_false_iff_ne.2 hunpaid]
    · rcases hdues hd with hold | rfl
      · exact List.mem_cons_of_mem _ hold
      · exact List.mem_cons_self
  · rw [hkeys, List.map_append, List.nodup_append]
    refine ⟨h.keys, ?_, fun id hold id' hid' heq => ?_⟩
    · cases charge <;> simp
    · obtain ⟨k, hk, rfl⟩ := List.mem_map.1 hid'
      obtain ⟨c, hc, rfl⟩ := List.mem_map.1 hk
      exact hnew c (Option.mem_toList.1 hc) (show c.key.1 ∈ _ from heq ▸ hold)
  · -- an old charge is not one of the session that is closed
    have hother {k : ℕ × Option ℕ} (hk : k ∈ s.chargeKeys) : k.2 ≠ some session.id := by
      intro hlinked
      obtain ⟨d, hd, hdid⟩ := due_of_key hk hlinked
      exact hnone d hd hdid
    have hadded {k : ℕ × Option ℕ} (hk : k ∈ charge.toList.map Charge.key) :
        ∃ c ∈ charge, k = (c.id, some session.id) := by
      obtain ⟨c, hc, rfl⟩ := List.mem_map.1 hk
      have hc := Option.mem_toList.1 hc
      exact ⟨c, hc, Prod.ext rfl (hlink c hc).1⟩
    rw [hkeys]
    intro k hk k' hk' hsame hsome
    rcases List.mem_append.1 hk with hk | hk <;> rcases List.mem_append.1 hk' with hk' | hk'
    · exact h.once k hk k' hk' hsame hsome
    · obtain ⟨c, -, rfl⟩ := hadded hk'
      exact absurd hsame (hother hk)
    · obtain ⟨c, -, rfl⟩ := hadded hk
      exact absurd hsame.symm (hother hk')
    · obtain ⟨c, hc, rfl⟩ := hadded hk
      obtain ⟨c', hc', rfl⟩ := hadded hk'
      rw [Option.mem_unique hc hc']
  · intro r hr hropen
    rw [hsessions] at hr
    rcases mem_updateWhere.1 hr with ⟨q, hq, hwritten, rfl⟩ | ⟨hr, hne⟩
    · obtain rfl := hrow hq hwritten
      rw [hclosed] at hropen
      cases hropen
    · refine ⟨(h.opened r hr hropen).1, fun d hd hdid => ?_⟩
      rcases hdues hd with hold | rfl
      · exact (h.opened r hr hropen).2 d hold hdid
      · exact beq_eq_false_iff_ne.1 hne hdid.symm
  · intro r hr hrclosed
    rw [hsessions] at hr
    rcases mem_updateWhere.1 hr with ⟨q, hq, hwritten, rfl⟩ | ⟨hr, -⟩
    · obtain rfl := hrow hq hwritten
      cases hcharge : charge with
      | none => exact .inl (hfree hcharge)
      | some c =>
        have hc : c ∈ s'.charges := by simp [hcharges, hcharge]
        exact .inr ⟨_, due_mem hc (hlink c hcharge).1, (hid _).symm⟩
    · exact (h.free r hr hrclosed).imp_right fun ⟨d, hd, hdid⟩ => ⟨d, holdDues hd, hdid⟩
  · rw [htariffs]
    exact h.tariffs

/-- **Settling**: a charge that was not PAID and its session are PAID together. -/
theorem StaysKept.settle (h : StaysKept n s) {session : ParkingSession}
    (hkey : loaded.key ∈ s.chargeKeys) (hlink : loaded.parkingSessionId = some session.id)
    (hunpaid : loaded.status = .unpaid) (hnew : new.status = .paid)
    (hpay : session.paymentStatus = .unpaid)
    (hsessions : s'.sessions = updateWhere (fun r => r.id == session.id)
      (session.written { session with paymentStatus := .paid }) s.sessions)
    (hcharges : s'.charges = chargeWritten loaded new s) (htariffs : s'.tariffs = s.tariffs) :
    StaysKept n s' := by
  let paid (k : ℕ × Bool) : ℕ × Bool := if k.1 = session.id then (k.1, true) else k
  have hfst (k : ℕ × Bool) : (paid k).1 = k.1 := by
    simp only [paid]
    split <;> rfl
  have hkeys : s'.chargeKeys = s.chargeKeys := by
    rw [Store.chargeKeys, hcharges, keys_chargeWritten]
  have hstays : s'.stays = s.stays.map paid := by
    rw [Store.stays, hsessions, Store.stays, updateWhere, List.map_map, List.map_map]
    refine List.map_congr_left fun r _ => ?_
    by_cases hid : r.id = session.id
    · simp [hid, paid, ParkingSession.written, hpay, changed]
    · simp [hid, paid]
  have hdues {d : ℕ × Bool} (hd : d ∈ s'.dues) : d ∈ s.dues.map paid := by
    obtain ⟨c, hc, hcd, hstatus⟩ := mem_dues.1 hd
    rw [hcharges] at hc
    rcases mem_updateWhere.1 hc with ⟨q, hq, hid, rfl⟩ | ⟨hc, hne⟩
    · -- the row that was loaded
      have hsame := h.key_eq (List.mem_map.2 ⟨q, hq, rfl⟩) hkey (beq_iff_eq.1 hid)
      have hq' : q.parkingSessionId = some session.id := (congrArg Prod.snd hsame).trans hlink
      refine List.mem_map.2 ⟨_, due_mem hq hq', ?_⟩
      have hd₁ : d.1 = session.id := Option.some.inj (hcd.symm.trans hq')
      have hd₂ : d.2 = true := by
        rw [← hstatus]
        simp [Charge.written, changed, hunpaid, hnew]
      simp only [paid, if_true]
      exact Prod.ext hd₁.symm hd₂.symm
    · refine List.mem_map.2 ⟨d, mem_dues.2 ⟨c, hc, hcd, hstatus⟩, if_neg fun hid => ?_⟩
      -- another charge is another session's
      have hsame := h.once _ (List.mem_map.2 ⟨c, hc, rfl⟩) _ hkey
        (hcd.trans (hid ▸ hlink.symm)) (by simp [Charge.key, hcd])
      exact beq_eq_false_iff_ne.1 hne (congrArg Prod.fst hsame)
  have holdDues {d : ℕ × Bool} (hd : d ∈ s.dues) : ∃ d' ∈ s'.dues, d'.1 = d.1 := by
    obtain ⟨c, hc, hcd, -⟩ := mem_dues.1 hd
    have hkey : c.key ∈ s'.chargeKeys := by
      rw [hkeys]
      exact List.mem_map.2 ⟨c, hc, rfl⟩
    exact due_of_key hkey hcd
  have hsettled {r : ParkingSession} (hr : r ∈ s'.sessions) :
      ∃ q ∈ s.sessions, q.id = r.id ∧ q.status = r.status ∧
        (r.id ≠ session.id → q.paymentStatus = r.paymentStatus) := by
    rw [hsessions] at hr
    rcases mem_updateWhere.1 hr with ⟨q, hq, hid, rfl⟩ | ⟨hr, -⟩
    · exact ⟨q, hq, rfl, by simp [ParkingSession.written], fun hne => absurd (beq_iff_eq.1 hid) hne⟩
    · exact ⟨r, hr, rfl, rfl, fun _ => rfl⟩
  obtain ⟨d₀, hd₀, hd₀id⟩ := due_of_key hkey hlink
  constructor
  · rw [hstays]
    exact (h.copied.together hfst).subset fun d hd => hdues hd
  · rw [hkeys]
    exact h.keys
  · rw [hkeys]
    exact h.once
  · intro r hr hropen
    obtain ⟨q, hq, hid, hstatus, hsame⟩ := hsettled hr
    obtain ⟨hqpay, hqnone⟩ := h.opened q hq (hstatus.trans hropen)
    -- the session that is settled has a charge, so it is not OPEN
    have hne : r.id ≠ session.id := fun heq => hqnone d₀ hd₀ (hd₀id.trans (heq.symm.trans hid.symm))
    refine ⟨hsame hne ▸ hqpay, fun d hd hdid => ?_⟩
    obtain ⟨d₁, hd₁, rfl⟩ := List.mem_map.1 (hdues hd)
    exact hqnone d₁ hd₁ ((hfst d₁).symm.trans (hdid.trans hid.symm))
  · intro r hr hrclosed
    obtain ⟨q, hq, hid, hstatus, hsame⟩ := hsettled hr
    by_cases hne : r.id = session.id
    · obtain ⟨d, hd, hdid⟩ := holdDues hd₀
      exact .inr ⟨d, hd, hdid.trans (hd₀id.trans hne.symm)⟩
    · rcases h.free q hq (hstatus.trans hrclosed) with hfree | ⟨d, hd, hdid⟩
      · exact .inl (hsame hne ▸ hfree)
      · obtain ⟨d', hd', hdid'⟩ := holdDues hd
        exact .inr ⟨d', hd', hdid'.trans (hdid.trans hid)⟩
  · rw [htariffs]
    exact h.tariffs

end

end ParkingSystem
