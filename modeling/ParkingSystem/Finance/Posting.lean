import ParkingSystem.Finance.Ledger
import ParkingSystem.Violations

/-!
# Handlers Keep the Books

`LedgerSafe p`: wherever it is run, between neighbours that keep the books, the handler `p`
commits only what keeps them. The rules compose handlers; the work is in the places where a
charge that was read is written back.
-/

namespace ParkingSystem

open Plate Table Transaction

/-- The postcondition every part of a handler meets: the books are in order, and the
transaction, unless it is broken, has nothing left to make up. -/
def LedgerPost (strict : Prop) {ε α : Type} : Post Store Lock ε α :=
  fun _ pend b H s => Books strict s ∧ (b = false → Settled strict pend H s)

/-- The handler keeps the books. -/
def LedgerSafe (ρ : Regime Store Label) (R : Interference Store Lock) (strict : Prop) {α : Type}
    (p : Handler α) : Prop :=
  ∀ pend b H s, Books strict s → (b = false → Settled strict pend H s) →
    p.Safe ρ R (ledgerG strict) (LedgerPost strict) pend b H s

section

variable {ρ : Regime Store Label} {R : Interference Store Lock} {strict : Prop}
  {α β : Type} {pend : Store → Store} {b : Bool} {H : Held Lock} {d : ℕ → ℤ} {lag : Option ℕ}
  {s s' : Store}

/-! ## Rules -/

theorem LedgerMode.books (hM : LedgerMode ρ R strict) (hs : Books strict s) (hR : R H s s') :
    Books strict s' := (hM.rely _ _ _ hR hs).books

/-- The postcondition, where a state of the transaction already gives it. -/
theorem Settled.post (hM : LedgerMode ρ R strict) {ε : Type} {r : Except (Exc ε) α}
    (h : Settled strict pend H s) (hR : R H s s') : LedgerPost strict r pend b H s' :=
  ⟨(h.stable hM hR).books, fun _ => h.stable hM hR⟩

/-- The postcondition of a broken transaction. -/
theorem ledgerPost_broken {ε : Type} {r : Except (Exc ε) α} (hs : Books strict s) :
    LedgerPost strict r pend true H s := ⟨hs, fun hb => by cases hb⟩

/-- What an exception on a broken transaction leaves. -/
theorem LedgerMode.broken (hM : LedgerMode ρ R strict) {ε : Type} {r : Except (Exc ε) α}
    (hs : Books strict s) {s'' : Store} (hR : R H s s') (hR' : R H s' s'') :
    LedgerPost strict r pend true H s'' :=
  ledgerPost_broken (hM.books (hM.books hs hR) hR')

/-- A transaction stays as settled as it was, whatever others commit. -/
theorem Settled.stable_of (hM : LedgerMode ρ R strict) (h : b = false → Settled strict pend H s)
    (hR : R H s s') : b = false → Settled strict pend H s' := fun hb => (h hb).stable hM hR

/-- A part of a transaction that leaves the ledger's tables alone. -/
theorem ledgerSafe_of_writesOnly (hM : LedgerMode ρ R strict) {p : Handler α}
    (hp : p.WritesOnly fun st => ∀ x, LedgerSame x (st.apply x)) : LedgerSafe ρ R strict p := by
  intro pend b H s hs h
  refine Prog.WritesOnly.safe_of (fun _ _ _ _ _ hI hR => ?_) (fun _ _ _ _ n hI => ?_)
    (fun _ _ _ _ hI => ?_) (fun _ _ _ _ hst hI => ?_) hp ⟨hs, h⟩
  · exact ⟨hM.books hI.1 hR, Settled.stable_of hM hI.2 hR⟩
  · exact ⟨hI.1, fun hb => (hI.2 hb).draw n⟩
  · exact ledgerPost_broken (r := (.error .aborted : Except (Exc AppError) α)) hI.1
  · exact ⟨hI.1, fun hb => (hI.2 hb).other hst⟩

theorem ledgerSafe_readOnly (hM : LedgerMode ρ R strict) {p : Handler α} (hp : p.ReadOnly) :
    LedgerSafe ρ R strict p := ledgerSafe_of_writesOnly hM hp.writesOnly

theorem LedgerSafe.bind (hM : LedgerMode ρ R strict) {p : Handler α} {f : α → Handler β}
    (hp : LedgerSafe ρ R strict p) (hf : ∀ a, LedgerSafe ρ R strict (f a)) :
    LedgerSafe ρ R strict (p.bind f) := fun pend b H s hs h =>
  (hp pend b H s hs h).bind hM.refl (fun a _ _ _ _ hQ => hf a _ _ _ _ hQ.1 hQ.2)
    fun _ _ _ _ _ hQ => hQ

theorem LedgerSafe.attempt {p : Handler α} (hp : LedgerSafe ρ R strict p) :
    LedgerSafe ρ R strict p.attempt := fun pend b H s hs h =>
  (hp pend b H s hs h).attempt.mono fun _ _ _ _ _ ⟨_, _, hQ⟩ => hQ

theorem ledgerSafe_ret (hM : LedgerMode ρ R strict) (a : α) :
    LedgerSafe ρ R strict (.ret a : Handler α) := ledgerSafe_readOnly hM trivial

theorem ledgerSafe_throw (hM : LedgerMode ρ R strict) (e : Exc AppError) :
    LedgerSafe ρ R strict (.throw e : Handler α) := ledgerSafe_readOnly hM trivial

theorem ledgerSafe_select (hM : LedgerMode ρ R strict) (f : Store → α) :
    LedgerSafe ρ R strict (.select f : Handler α) :=
  ledgerSafe_readOnly hM (Prog.writesOnly_select f)

theorem ledgerSafe_newId (hM : LedgerMode ρ R strict) :
    LedgerSafe ρ R strict (Prog.newId : Handler ℕ) :=
  ledgerSafe_readOnly hM Prog.writesOnly_newId

theorem ledgerSafe_getTime (hM : LedgerMode ρ R strict) :
    LedgerSafe ρ R strict (Prog.getTime : Handler ℤ) :=
  ledgerSafe_readOnly hM Prog.writesOnly_getTime

/-- A statement on other tables. -/
theorem ledgerSafe_flush (hM : LedgerMode ρ R strict) {st : Stmt}
    (hst : ∀ x, LedgerSame x (st.apply x)) : LedgerSafe ρ R strict (Prog.flush st) :=
  ledgerSafe_of_writesOnly hM (Prog.writesOnly_flush hst)

/-- A statement that leaves a settled transaction settled. -/
theorem ledgerSafe_flush_of (hM : LedgerMode ρ R strict) {st : Stmt}
    (hst : ∀ pend H s, Settled strict pend H s → st.check (pend s) = none →
      Settled strict (fun x => st.apply (pend x)) (H.lock st.locks) s) :
    LedgerSafe ρ R strict (Prog.flush st) := by
  intro pend b H s hs h s' hR
  have hs' := hM.books hs hR
  refine ⟨fun hb s'' hR' => hb ▸ ledgerPost_broken (hM.books hs' hR'),
    fun _ _ r _ s'' hR' => ledgerPost_broken (hM.books hs' hR'), fun hb _ hc s'' hR' => ?_⟩
  exact (hst pend H s' ((h hb).stable hM hR) hc).post hM hR'

/-- A commit keeps the books, because the transaction has nothing left to make up. -/
theorem safe_commit_of_settled (hM : LedgerMode ρ R strict) {k : Unit → Handler α}
    (hk : ∀ s, Books strict s →
      (k ()).Safe ρ R (ledgerG strict) (LedgerPost strict) id false {} s)
    (hs : Books strict s) (h : b = false → Settled strict pend H s) :
    (Prog.commitTx.bind k).Safe ρ R (ledgerG strict) (LedgerPost strict) pend b H s := by
  refine Prog.safe_commit (fun _ s' s'' hR hR' => hM.broken hs hR hR') fun hb s' hR => ?_
  have hset := (h hb).stable hM hR
  exact ⟨Settled.commit hset, hk _ (Settled.commit hset hset.books).books⟩

theorem ledgerSafe_commit (hM : LedgerMode ρ R strict) :
    LedgerSafe ρ R strict Prog.commitTx := by
  intro pend b H s hs h
  have hk := safe_commit_of_settled (k := fun _ => .ret ()) hM
    (fun s hs => ledgerSafe_ret hM () _ _ _ _ hs fun _ => Settled.start hs) hs h
  exact hk

theorem ledgerSafe_rollback (hM : LedgerMode ρ R strict) :
    LedgerSafe ρ R strict Prog.rollbackTx := by
  intro pend b H s hs h s' hR
  have hs' := hM.books hs hR
  exact ledgerSafe_ret hM () _ _ _ _ hs' fun _ => Settled.start hs'

theorem LedgerSafe.onIntegrity (hM : LedgerMode ρ R strict) {body handler : Handler α}
    (hb : LedgerSafe ρ R strict body) (hh : LedgerSafe ρ R strict handler) :
    LedgerSafe ρ R strict (Prog.onIntegrity body handler) := by
  refine LedgerSafe.bind hM hb.attempt fun r => ?_
  rcases r with e | a
  · cases e with
    | rejected r =>
      cases r with
      | integrity => exact hh
      | data => exact ledgerSafe_throw hM _
    | _ => exact ledgerSafe_throw hM _
  · exact ledgerSafe_ret hM a

/-! ## Rules between a read and the writes that go with it

With `strict` the committed store does not move at all, so what was read is still there. -/

/-- The handler keeps the books from here on. -/
abbrev KeepsBooks (ρ : Regime Store Label) (R : Interference Store Lock) (strict : Prop)
    (p : Handler α) (pend : Store → Store) (H : Held Lock) (s : Store) : Prop :=
  p.Safe ρ R (ledgerG strict) (LedgerPost strict) pend false H s

theorem Posting.safe_select (hM : LedgerMode ρ R strict) {f : Store → α} {k : α → Handler β}
    (h : Posting strict pend H d lag s)
    (hk : ∀ s', Posting strict pend H d lag s' → (strict → s = s') → R H s s' →
      KeepsBooks ρ R strict (k (f (pend s'))) pend H s') :
    KeepsBooks ρ R strict ((Prog.select f).bind k) pend H s := by
  refine Prog.safe_select (fun hb => by cases hb) fun _ s' hR => ?_
  exact hk s' (h.stable hM hR) (fun hst => hM.alone hst _ _ _ hR) hR

theorem Posting.safe_flush (hM : LedgerMode ρ R strict) {st : Stmt} {k : Unit → Handler β}
    (h : Posting strict pend H d lag s)
    (hk : ∀ s', Posting strict pend H d lag s' → st.check (pend s') = none →
      ρ.allowed st.label (pend s') → (strict → s = s') → R H s s' →
      KeepsBooks ρ R strict (k ()) (fun x => st.apply (pend x)) (H.lock st.locks) s') :
    KeepsBooks ρ R strict ((Prog.flush st).bind k) pend H s := by
  refine Prog.safe_flush (fun hb => by cases hb)
    (fun _ _ _ _ hR hR' _ _ => hM.broken h.books hR hR') fun _ s' hR ha hc => ?_
  exact hk s' (h.stable hM hR) hc ha (fun hst => hM.alone hst _ _ _ hR) hR

theorem Posting.safe_newId (hM : LedgerMode ρ R strict) {k : ℕ → Handler β}
    (h : Posting strict pend H d lag s)
    (hk : ∀ n s', Posting strict pend (H.draw n) d lag s' → (strict → s = s') →
      KeepsBooks ρ R strict (k n) pend (H.draw n) s') :
    KeepsBooks ρ R strict ((Prog.newId : Handler ℕ).bind k) pend H s :=
  Prog.safe_newId fun s' n hR _ =>
    hk n s' ((h.stable hM hR).draw n) fun hst => hM.alone hst _ _ _ hR

theorem Posting.safe_getTime (hM : LedgerMode ρ R strict) {k : ℤ → Handler β}
    (h : Posting strict pend H d lag s)
    (hk : ∀ t s', Posting strict pend H d lag s' → (strict → s = s') → R H s s' →
      KeepsBooks ρ R strict (k t) pend H s') :
    KeepsBooks ρ R strict ((Prog.getTime : Handler ℤ).bind k) pend H s :=
  Prog.safe_getTime fun s' t hR =>
    hk t s' (h.stable hM hR) (fun hst => hM.alone hst _ _ _ hR) hR

/-- One more statement of a list. -/
theorem Posting.safe_flushAll_cons (hM : LedgerMode ρ R strict) {st : Stmt} {sts : List Stmt}
    {k : Unit → Handler β} (h : Posting strict pend H d lag s)
    (hk : ∀ s', Posting strict pend H d lag s' → st.check (pend s') = none →
      ρ.allowed st.label (pend s') → (strict → s = s') → R H s s' →
      KeepsBooks ρ R strict ((flushAll sts).bind k) (fun x => st.apply (pend x))
        (H.lock st.locks) s') :
    KeepsBooks ρ R strict ((flushAll (st :: sts)).bind k) pend H s := by
  rw [flushAll, Prog.bind_eq, Prog.bind_assoc]
  exact h.safe_flush hM hk

/-- A part that only reads, in the middle of a handler. -/
theorem Settled.safe_readOnly (hM : LedgerMode ρ R strict) {p : Handler α} (hp : p.ReadOnly)
    {k : α → Handler β} (h : Settled strict pend H s)
    (hk : ∀ a H' s', Settled strict pend H' s' → (strict → s = s') →
      KeepsBooks ρ R strict (k a) pend H' s') :
    KeepsBooks ρ R strict (p.bind k) pend H s := by
  have hset {H' : Held Lock} {s' : Store} (hR : R H s s') (hl : H'.locks = H.locks) :
      Settled strict pend H' s' := by
    have h' := h.stable hM hR
    exact { h' with
      footCharge := hl ▸ h'.footCharge, footAdjustment := hl ▸ h'.footAdjustment
      off := hl ▸ h'.off }
  refine hp.safe_bind hM.refl hM.trans (fun H n s s' hR => hM.draw H n s s' hR)
    (fun e H' s' hR hl => ⟨(hset hR hl).books, fun _ => hset hR hl⟩) fun a H' s' hR hl _ => ?_
  exact hk a H' s' (hset hR hl) fun hst => hM.alone hst _ _ _ hR

/-- A handler that starts with a query fails on a broken transaction. -/
theorem safe_select_broken (hM : LedgerMode ρ R strict) {f : Store → α} {k : α → Handler β}
    (hs : Books strict s) :
    ((Prog.select f).bind k).Safe ρ R (ledgerG strict) (LedgerPost strict) pend true H s :=
  Prog.safe_select (fun _ _ _ hR hR' => hM.broken hs hR hR') fun hb => by cases hb

/-- A handler that starts with a statement fails on a broken transaction. -/
theorem safe_flush_broken (hM : LedgerMode ρ R strict) {st : Stmt} {k : Unit → Handler β}
    (hs : Books strict s) :
    ((Prog.flush st).bind k).Safe ρ R (ledgerG strict) (LedgerPost strict) pend true H s :=
  Prog.safe_flush (fun _ _ _ hR hR' => hM.broken hs hR hR') (fun hb => by cases hb)
    fun hb => by cases hb

end

end ParkingSystem
