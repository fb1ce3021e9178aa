import Mathlib.Logic.Relation
import Mathlib.Data.Int.Notation
import Mathlib.Data.List.Basic

/-!
# Transaction Programs

A request handler over a relational store, written as a program whose nodes are the
points where it touches the outside: one statement (a read or a flush), a commit, a
rollback, a fresh identifier, a reading of the clock.

## Two meanings

- `Prog.exec` runs one program with nobody else on the store.
- `Interleaving.lean` runs any number of programs against one committed store, one
  node at a time, with READ COMMITTED visibility and locks held until commit.

The programs do not change between the two: what is proved about a handler run alone
and about the same handler interleaved is about one definition.

## Failure

A rejected flush breaks the transaction: every later statement of the session raises
until a rollback. Exceptions are values of `Exc`, so a handler can catch them.
-/

namespace Transaction

/-! ## Exceptions and flush outcomes -/

/-- Why the store refused a statement. -/
inductive Reject where
  /-- A unique index or a NOT NULL constraint. -/
  | integrity
  /-- A value that does not fit its column. -/
  | data
  deriving DecidableEq, Repr

/-- An exception: the store's own, or one of the application's (`ε`). -/
inductive Exc (ε : Type) where
  | rejected (r : Reject)
  /-- The session needs a rollback before it can be used again. -/
  | pendingRollback
  /-- The store dropped the session: lost connection, deadlock victim. -/
  | aborted
  | app (e : ε)
  deriving DecidableEq, Repr

/-- What a flush tells the program. -/
inductive Flush where
  | done
  | rejected (r : Reject)
  | pendingRollback
  deriving DecidableEq, Repr

/-- A data-changing statement: what it is (`label`, for conditions on runs), the locks it
takes until the end of the transaction, the constraints checked on the session's view,
and the update. -/
structure Statement (σ κ τ : Type) where
  label : τ
  locks : List κ
  check : σ → Option Reject
  apply : σ → σ

/-! ## Programs -/

/-- A program over a store `σ`, with locks `κ`, statement labels `τ`, application
exceptions `ε` and result `α`. A read gets the session's view, or `none` when the
transaction is broken. -/
inductive Prog (σ κ τ ε α : Type) where
  | ret (a : α)
  | throw (e : Exc ε)
  | read (k : Option σ → Prog σ κ τ ε α)
  | write (s : Statement σ κ τ) (k : Flush → Prog σ κ τ ε α)
  | commit (k : Bool → Prog σ κ τ ε α)
  | rollback (k : Prog σ κ τ ε α)
  | uuid (k : ℕ → Prog σ κ τ ε α)
  | clock (k : ℤ → Prog σ κ τ ε α)

namespace Prog

variable {σ κ τ ε α β : Type}

/-- Sequencing. -/
def bind : Prog σ κ τ ε α → (α → Prog σ κ τ ε β) → Prog σ κ τ ε β
  | .ret a, f => f a
  | .throw e, _ => .throw e
  | .read k, f => .read fun v => (k v).bind f
  | .write s k, f => .write s fun r => (k r).bind f
  | .commit k, f => .commit fun b => (k b).bind f
  | .rollback k, f => .rollback (k.bind f)
  | .uuid k, f => .uuid fun n => (k n).bind f
  | .clock k, f => .clock fun t => (k t).bind f

instance : Monad (Prog σ κ τ ε) where
  pure := .ret
  bind := .bind

@[simp] theorem pure_eq (a : α) : (pure a : Prog σ κ τ ε α) = .ret a := rfl

@[simp] theorem bind_eq (p : Prog σ κ τ ε α) (f : α → Prog σ κ τ ε β) :
    (p >>= f) = p.bind f := rfl

theorem bind_assoc {γ : Type} (p : Prog σ κ τ ε α) (f : α → Prog σ κ τ ε β)
    (g : β → Prog σ κ τ ε γ) : (p.bind f).bind g = p.bind fun a => (f a).bind g := by
  induction p with
  | ret a => rfl
  | throw e => rfl
  | read k ih => simp only [bind, ih]
  | write s k ih => simp only [bind, ih]
  | commit k ih => simp only [bind, ih]
  | rollback k ih => simp only [bind, ih]
  | uuid k ih => simp only [bind, ih]
  | clock k ih => simp only [bind, ih]

@[simp] theorem bind_ret (p : Prog σ κ τ ε α) : (p.bind fun a => .ret a) = p := by
  induction p with
  | ret a => rfl
  | throw e => rfl
  | read k ih => simp only [bind, ih]
  | write s k ih => simp only [bind, ih]
  | commit k ih => simp only [bind, ih]
  | rollback k ih => simp only [bind, ih]
  | uuid k ih => simp only [bind, ih]
  | clock k ih => simp only [bind, ih]

/-- `try`: the exception, if any, becomes the result. -/
def attempt : Prog σ κ τ ε α → Prog σ κ τ ε (Except (Exc ε) α)
  | .ret a => .ret (.ok a)
  | .throw e => .ret (.error e)
  | .read k => .read fun v => (k v).attempt
  | .write s k => .write s fun r => (k r).attempt
  | .commit k => .commit fun b => (k b).attempt
  | .rollback k => .rollback k.attempt
  | .uuid k => .uuid fun n => (k n).attempt
  | .clock k => .clock fun t => (k t).attempt

/-- Run a query on the session's view. -/
def select (f : σ → α) : Prog σ κ τ ε α :=
  .read fun
    | some s => .ret (f s)
    | none => .throw .pendingRollback

/-- Send a statement to the store. -/
def flush (s : Statement σ κ τ) : Prog σ κ τ ε Unit :=
  .write s fun
    | .done => .ret ()
    | .rejected r => .throw (.rejected r)
    | .pendingRollback => .throw .pendingRollback

def commitTx : Prog σ κ τ ε Unit :=
  .commit fun
    | true => .ret ()
    | false => .throw .pendingRollback

def rollbackTx : Prog σ κ τ ε Unit := .rollback (.ret ())

def raise (e : ε) : Prog σ κ τ ε α := .throw (.app e)

def newId : Prog σ κ τ ε ℕ := .uuid .ret

def getTime : Prog σ κ τ ε ℤ := .clock .ret

/-- `try ... except IntegrityError`. -/
def onIntegrity (body handler : Prog σ κ τ ε α) : Prog σ κ τ ε α :=
  body.attempt.bind fun
    | .ok a => .ret a
    | .error (.rejected .integrity) => handler
    | .error e => .throw e

/-- What a finished program returned. -/
def result? : Prog σ κ τ ε α → Option α
  | .ret a => some a
  | _ => none

/-- A pure computation that may raise. -/
def ofExcept : Except ε α → Prog σ κ τ ε α
  | .ok a => .ret a
  | .error e => .throw (.app e)

end Prog

/-! ## Running alone -/

/-- A session with nobody else on the store: what is committed, what the session sees,
whether its transaction is broken, the next fresh identifier and how often the clock was
read. -/
structure Session (σ : Type) where
  committed : σ
  view : σ
  broken : Bool
  nextId : ℕ
  tick : ℕ

/-- A session opened on a committed store. -/
def Session.fresh {σ : Type} (s : σ) (nextId tick : ℕ) : Session σ :=
  { committed := s, view := s, broken := false, nextId, tick }

@[simp] theorem Session.fresh_view {σ : Type} (s : σ) (nextId tick : ℕ) :
    (Session.fresh s nextId tick).view = s := rfl

@[simp] theorem Session.fresh_committed {σ : Type} (s : σ) (nextId tick : ℕ) :
    (Session.fresh s nextId tick).committed = s := rfl

namespace Prog

variable {σ κ τ ε α β : Type}

/-- Run a program alone; `clk n` is the `n`-th reading of the clock. -/
def exec (clk : ℕ → ℤ) : Prog σ κ τ ε α → Session σ → Except (Exc ε) α × Session σ
  | .ret a, w => (.ok a, w)
  | .throw e, w => (.error e, w)
  | .read k, w => (k (if w.broken then none else some w.view)).exec clk w
  | .write s k, w =>
    if w.broken then (k .pendingRollback).exec clk w
    else match s.check w.view with
      | none => (k .done).exec clk { w with view := s.apply w.view }
      | some r => (k (.rejected r)).exec clk { w with broken := true }
  | .commit k, w =>
    if w.broken then (k false).exec clk w
    else (k true).exec clk { w with committed := w.view }
  | .rollback k, w => k.exec clk { w with view := w.committed, broken := false }
  | .uuid k, w => (k w.nextId).exec clk { w with nextId := w.nextId + 1 }
  | .clock k, w => (k (clk w.tick)).exec clk { w with tick := w.tick + 1 }

theorem exec_read (clk : ℕ → ℤ) (k : Option σ → Prog σ κ τ ε α) (w : Session σ) :
    (read k).exec clk w = (k (if w.broken then none else some w.view)).exec clk w := rfl

theorem exec_write (clk : ℕ → ℤ) (s : Statement σ κ τ) (k : Flush → Prog σ κ τ ε α)
    (w : Session σ) :
    (write s k).exec clk w =
      if w.broken then (k .pendingRollback).exec clk w
      else match s.check w.view with
        | none => (k .done).exec clk { w with view := s.apply w.view }
        | some r => (k (.rejected r)).exec clk { w with broken := true } := by
  rw [exec]

theorem exec_commit (clk : ℕ → ℤ) (k : Bool → Prog σ κ τ ε α) (w : Session σ) :
    (commit k).exec clk w =
      if w.broken then (k false).exec clk w
      else (k true).exec clk { w with committed := w.view } := rfl

/-- How a session goes on after a first part. -/
def andThen (clk : ℕ → ℤ) (f : α → Prog σ κ τ ε β) :
    Except (Exc ε) α × Session σ → Except (Exc ε) β × Session σ
  | (.ok a, w) => (f a).exec clk w
  | (.error e, w) => (.error e, w)

@[simp] theorem andThen_ok (clk : ℕ → ℤ) (f : α → Prog σ κ τ ε β) (a : α) (w : Session σ) :
    andThen clk f (.ok a, w) = (f a).exec clk w := rfl

@[simp] theorem andThen_error (clk : ℕ → ℤ) (f : α → Prog σ κ τ ε β) (e : Exc ε)
    (w : Session σ) : andThen clk f (.error e, w) = (.error e, w) := rfl

@[simp] theorem exec_ret (clk : ℕ → ℤ) (a : α) (w : Session σ) :
    (ret a : Prog σ κ τ ε α).exec clk w = (.ok a, w) := rfl

@[simp] theorem exec_throw (clk : ℕ → ℤ) (e : Exc ε) (w : Session σ) :
    (throw e : Prog σ κ τ ε α).exec clk w = (.error e, w) := rfl

@[simp] theorem exec_raise (clk : ℕ → ℤ) (e : ε) (w : Session σ) :
    (raise e : Prog σ κ τ ε α).exec clk w = (.error (.app e), w) := rfl

theorem exec_bind (clk : ℕ → ℤ) (p : Prog σ κ τ ε α) (f : α → Prog σ κ τ ε β)
    (w : Session σ) : (p.bind f).exec clk w = andThen clk f (p.exec clk w) := by
  induction p generalizing w with
  | ret a => rfl
  | throw e => rfl
  | read k ih => exact ih _ w
  | write s k ih =>
    simp only [bind, exec_write]
    split
    · exact ih _ w
    · split <;> exact ih _ _
  | commit k ih =>
    simp only [bind, exec_commit]
    split <;> exact ih _ _
  | rollback k ih => exact ih _
  | uuid k ih => exact ih _ _
  | clock k ih => exact ih _ _

theorem exec_attempt (clk : ℕ → ℤ) (p : Prog σ κ τ ε α) (w : Session σ) :
    p.attempt.exec clk w = (.ok (p.exec clk w).1, (p.exec clk w).2) := by
  induction p generalizing w with
  | ret a => rfl
  | throw e => rfl
  | read k ih => exact ih _ w
  | write s k ih =>
    simp only [attempt, exec_write]
    split
    · exact ih _ w
    · split <;> exact ih _ _
  | commit k ih =>
    simp only [attempt, exec_commit]
    split <;> exact ih _ _
  | rollback k ih => exact ih _
  | uuid k ih => exact ih _ _
  | clock k ih => exact ih _ _

theorem exec_onIntegrity_ok {clk : ℕ → ℤ} {body handler : Prog σ κ τ ε α} {w w' : Session σ}
    {a : α} (h : body.exec clk w = (.ok a, w')) :
    (onIntegrity body handler).exec clk w = (.ok a, w') := by
  rw [onIntegrity, exec_bind, exec_attempt, h]
  rfl

theorem exec_onIntegrity_rejected {clk : ℕ → ℤ} {body handler : Prog σ κ τ ε α}
    {w w' : Session σ} (h : body.exec clk w = (.error (.rejected .integrity), w')) :
    (onIntegrity body handler).exec clk w = handler.exec clk w' := by
  rw [onIntegrity, exec_bind, exec_attempt, h]
  rfl

theorem exec_onIntegrity_error {clk : ℕ → ℤ} {body handler : Prog σ κ τ ε α} {w w' : Session σ}
    {e : Exc ε} (h : body.exec clk w = (.error e, w')) (he : e ≠ .rejected .integrity) :
    (onIntegrity body handler).exec clk w = (.error e, w') := by
  rw [onIntegrity, exec_bind, exec_attempt, h, andThen_ok]
  cases e with
  | rejected r =>
    cases r with
    | integrity => exact absurd rfl he
    | data => rfl
  | _ => rfl

/-- A sequence returns normally when both parts do. -/
theorem exec_bind_ok {clk : ℕ → ℤ} {p : Prog σ κ τ ε α} {f : α → Prog σ κ τ ε β}
    {w w' : Session σ} {b : β} (h : (p.bind f).exec clk w = (.ok b, w')) :
    ∃ a w₁, p.exec clk w = (.ok a, w₁) ∧ (f a).exec clk w₁ = (.ok b, w') := by
  rw [exec_bind] at h
  rcases hp : p.exec clk w with ⟨_ | a, w₁⟩
  · simp [hp] at h
  · exact ⟨a, w₁, rfl, by simpa [hp] using h⟩

/-- A sequence that raised did so in its first part or in its second. -/
theorem exec_bind_error {clk : ℕ → ℤ} {p : Prog σ κ τ ε α} {f : α → Prog σ κ τ ε β}
    {w w' : Session σ} {e : Exc ε} (h : (p.bind f).exec clk w = (.error e, w')) :
    p.exec clk w = (.error e, w') ∨
      ∃ a w₁, p.exec clk w = (.ok a, w₁) ∧ (f a).exec clk w₁ = (.error e, w') := by
  rw [exec_bind] at h
  rcases hp : p.exec clk w with ⟨e' | a, w₁⟩
  · exact Or.inl (by simpa [hp] using h)
  · exact Or.inr ⟨a, w₁, rfl, by simpa [hp] using h⟩

/-- A sequence whose first part raises ends there. -/
theorem exec_bind_of_error {clk : ℕ → ℤ} {p : Prog σ κ τ ε α} {f : α → Prog σ κ τ ε β}
    {w w₁ : Session σ} {e : Exc ε} (h : p.exec clk w = (.error e, w₁)) :
    (p.bind f).exec clk w = (.error e, w₁) := by
  rw [exec_bind, h, andThen_error]

theorem exec_bind_of_ok {clk : ℕ → ℤ} {p : Prog σ κ τ ε α} {f : α → Prog σ κ τ ε β}
    {w w₁ : Session σ} {a : α} (h : p.exec clk w = (.ok a, w₁)) :
    (p.bind f).exec clk w = (f a).exec clk w₁ := by
  rw [exec_bind, h, andThen_ok]

/-- On a broken transaction a query raises. -/
theorem exec_select_broken (clk : ℕ → ℤ) (f : σ → α) {w : Session σ} (h : w.broken = true) :
    (select f : Prog σ κ τ ε α).exec clk w = (.error .pendingRollback, w) := by
  simp [select, exec_read, h]

theorem exec_flush_broken (clk : ℕ → ℤ) (s : Statement σ κ τ) {w : Session σ}
    (h : w.broken = true) :
    (flush s : Prog σ κ τ ε Unit).exec clk w = (.error .pendingRollback, w) := by
  simp [flush, exec_write, h]

/-- A query that returned ran on a live transaction and changed nothing. -/
theorem exec_select_ok {clk : ℕ → ℤ} {f : σ → α} {w w' : Session σ} {a : α}
    (h : (select f : Prog σ κ τ ε α).exec clk w = (.ok a, w')) :
    w.broken = false ∧ a = f w.view ∧ w' = w := by
  cases hb : w.broken with
  | true => simp [exec_select_broken clk f hb] at h
  | false =>
    rw [select, exec_read, hb] at h
    simpa [eq_comm] using h

/-- A flush that returned was accepted, and its update is on the view. -/
theorem exec_flush_ok {clk : ℕ → ℤ} {s : Statement σ κ τ} {w w' : Session σ} {u : Unit}
    (h : (flush s : Prog σ κ τ ε Unit).exec clk w = (.ok u, w')) :
    w.broken = false ∧ s.check w.view = none ∧ w' = { w with view := s.apply w.view } := by
  cases hb : w.broken with
  | true => simp [exec_flush_broken clk s hb] at h
  | false =>
    simp only [flush, exec_write, hb] at h
    cases hc : s.check w.view with
    | none => simpa [hc, eq_comm] using h
    | some r => simp [hc] at h

theorem exec_commitTx_ok {clk : ℕ → ℤ} {w w' : Session σ} {u : Unit}
    (h : (commitTx : Prog σ κ τ ε Unit).exec clk w = (.ok u, w')) :
    w.broken = false ∧ w' = { w with committed := w.view } := by
  cases hb : w.broken with
  | true => simp [commitTx, exec_commit, hb] at h
  | false => simpa [commitTx, exec_commit, hb, eq_comm] using h

@[simp] theorem exec_select (clk : ℕ → ℤ) (f : σ → α) {w : Session σ}
    (h : w.broken = false) :
    (select f : Prog σ κ τ ε α).exec clk w = (.ok (f w.view), w) := by
  simp [select, exec_read, h]

theorem exec_flush (clk : ℕ → ℤ) (s : Statement σ κ τ) {w : Session σ}
    (h : w.broken = false) :
    (flush s : Prog σ κ τ ε Unit).exec clk w =
      match s.check w.view with
      | none => (.ok (), { w with view := s.apply w.view })
      | some r => (.error (.rejected r), { w with broken := true }) := by
  simp only [flush, exec_write, h]
  cases s.check w.view <;> rfl

theorem exec_flush_done (clk : ℕ → ℤ) (s : Statement σ κ τ) {w : Session σ}
    (h : w.broken = false) (hc : s.check w.view = none) :
    (flush s : Prog σ κ τ ε Unit).exec clk w = (.ok (), { w with view := s.apply w.view }) := by
  rw [exec_flush clk s h, hc]

/-- A flush that was refused breaks the transaction. -/
theorem exec_flush_rejected (clk : ℕ → ℤ) (s : Statement σ κ τ) {w : Session σ}
    (h : w.broken = false) {r : Reject} (hc : s.check w.view = some r) :
    (flush s : Prog σ κ τ ε Unit).exec clk w =
      (.error (.rejected r), { w with broken := true }) := by
  rw [exec_flush clk s h, hc]

@[simp] theorem exec_commitTx (clk : ℕ → ℤ) {w : Session σ} (h : w.broken = false) :
    (commitTx : Prog σ κ τ ε Unit).exec clk w = (.ok (), { w with committed := w.view }) := by
  simp [commitTx, exec_commit, h]

@[simp] theorem exec_rollbackTx (clk : ℕ → ℤ) (w : Session σ) :
    (rollbackTx : Prog σ κ τ ε Unit).exec clk w =
      (.ok (), { w with view := w.committed, broken := false }) := rfl

@[simp] theorem exec_newId (clk : ℕ → ℤ) (w : Session σ) :
    (newId : Prog σ κ τ ε ℕ).exec clk w = (.ok w.nextId, { w with nextId := w.nextId + 1 }) :=
  rfl

@[simp] theorem exec_getTime (clk : ℕ → ℤ) (w : Session σ) :
    (getTime : Prog σ κ τ ε ℤ).exec clk w = (.ok (clk w.tick), { w with tick := w.tick + 1 }) :=
  rfl

@[simp] theorem exec_ofExcept_ok (clk : ℕ → ℤ) (a : α) (w : Session σ) :
    (ofExcept (.ok a) : Prog σ κ τ ε α).exec clk w = (.ok a, w) := rfl

@[simp] theorem exec_ofExcept_error (clk : ℕ → ℤ) (e : ε) (w : Session σ) :
    (ofExcept (.error e) : Prog σ κ τ ε α).exec clk w = (.error (.app e), w) := rfl

/-- Identifiers are only ever drawn upwards. -/
theorem exec_nextId_le (clk : ℕ → ℤ) (p : Prog σ κ τ ε α) (w : Session σ) :
    w.nextId ≤ (p.exec clk w).2.nextId := by
  induction p generalizing w with
  | ret a => exact Nat.le_refl _
  | throw e => exact Nat.le_refl _
  | read k ih => exact ih _ w
  | write s k ih =>
    simp only [exec_write]
    split
    · exact ih _ w
    · split
      · exact ih _ { w with view := s.apply w.view }
      · exact ih _ { w with broken := true }
  | commit k ih =>
    simp only [exec_commit]
    split
    · exact ih _ w
    · exact ih _ { w with committed := w.view }
  | rollback k ih => exact ih { w with view := w.committed, broken := false }
  | uuid k ih =>
    exact Nat.le_trans (Nat.le_succ _) (ih w.nextId { w with nextId := w.nextId + 1 })
  | clock k ih => exact ih _ { w with tick := w.tick + 1 }

/-! ## Parts of a transaction

`WritesOnly P p`: every statement of `p` satisfies `P`, and `p` neither commits nor rolls
back. Such a part can change the view only the way `P` allows. -/

/-- Every statement satisfies `P`; no commit, no rollback. -/
def WritesOnly (P : Statement σ κ τ → Prop) : Prog σ κ τ ε α → Prop
  | .ret _ => True
  | .throw _ => True
  | .read k => ∀ v, (k v).WritesOnly P
  | .write s k => P s ∧ ∀ r, (k r).WritesOnly P
  | .commit _ => False
  | .rollback _ => False
  | .uuid k => ∀ n, (k n).WritesOnly P
  | .clock k => ∀ t, (k t).WritesOnly P

variable {P P' : Statement σ κ τ → Prop}

theorem WritesOnly.mono (hP : ∀ s, P s → P' s) {p : Prog σ κ τ ε α} (h : p.WritesOnly P) :
    p.WritesOnly P' := by
  induction p with
  | ret a => trivial
  | throw e => trivial
  | read k ih => exact fun v => ih v (h v)
  | write s k ih => exact ⟨hP s h.1, fun r => ih r (h.2 r)⟩
  | commit k ih => exact h.elim
  | rollback k ih => exact h.elim
  | uuid k ih => exact fun n => ih n (h n)
  | clock k ih => exact fun t => ih t (h t)

theorem WritesOnly.bind {p : Prog σ κ τ ε α} {f : α → Prog σ κ τ ε β} (h : p.WritesOnly P)
    (hf : ∀ a, (f a).WritesOnly P) : (p.bind f).WritesOnly P := by
  induction p with
  | ret a => exact hf a
  | throw e => trivial
  | read k ih => exact fun v => ih v (h v)
  | write s k ih => exact ⟨h.1, fun r => ih r (h.2 r)⟩
  | commit k ih => exact h.elim
  | rollback k ih => exact h.elim
  | uuid k ih => exact fun n => ih n (h n)
  | clock k ih => exact fun t => ih t (h t)

theorem WritesOnly.attempt {p : Prog σ κ τ ε α} (h : p.WritesOnly P) :
    p.attempt.WritesOnly P := by
  induction p with
  | ret a => trivial
  | throw e => trivial
  | read k ih => exact fun v => ih v (h v)
  | write s k ih => exact ⟨h.1, fun r => ih r (h.2 r)⟩
  | commit k ih => exact h.elim
  | rollback k ih => exact h.elim
  | uuid k ih => exact fun n => ih n (h n)
  | clock k ih => exact fun t => ih t (h t)

theorem writesOnly_select (f : σ → α) : (select f : Prog σ κ τ ε α).WritesOnly P := by
  intro v
  cases v <;> trivial

theorem writesOnly_flush {s : Statement σ κ τ} (h : P s) :
    (flush s : Prog σ κ τ ε Unit).WritesOnly P := by
  refine ⟨h, fun r => ?_⟩
  cases r <;> trivial

theorem writesOnly_raise (e : ε) : (raise e : Prog σ κ τ ε α).WritesOnly P := trivial

theorem writesOnly_newId : (newId : Prog σ κ τ ε ℕ).WritesOnly P := fun _ => trivial

theorem writesOnly_getTime : (getTime : Prog σ κ τ ε ℤ).WritesOnly P := fun _ => trivial

theorem writesOnly_ofExcept (x : Except ε α) :
    (ofExcept x : Prog σ κ τ ε α).WritesOnly P := by
  cases x <;> trivial

/-- A part of a transaction leaves the committed store alone and moves the view along any
reflexive, transitive relation its statements respect. -/
theorem WritesOnly.exec_rel {R : σ → σ → Prop} (hrefl : ∀ s, R s s)
    (htrans : ∀ s₁ s₂ s₃, R s₁ s₂ → R s₂ s₃ → R s₁ s₃)
    (hstep : ∀ st : Statement σ κ τ, P st → ∀ s, R s (st.apply s)) (clk : ℕ → ℤ)
    {p : Prog σ κ τ ε α} (h : p.WritesOnly P) (w : Session σ) :
    (p.exec clk w).2.committed = w.committed ∧ R w.view (p.exec clk w).2.view := by
  induction p generalizing w with
  | ret a => exact ⟨rfl, hrefl _⟩
  | throw e => exact ⟨rfl, hrefl _⟩
  | read k ih => exact ih _ (h _) w
  | write s k ih =>
    simp only [exec_write]
    split
    · exact ih _ (h.2 _) w
    · split
      · have hk := ih _ (h.2 .done) { w with view := s.apply w.view }
        exact ⟨hk.1, htrans _ _ _ (hstep s h.1 w.view) hk.2⟩
      · exact ih _ (h.2 _) { w with broken := true }
  | commit k ih => exact h.elim
  | rollback k ih => exact h.elim
  | uuid k ih => exact ih _ (h _) { w with nextId := w.nextId + 1 }
  | clock k ih => exact ih _ (h _) { w with tick := w.tick + 1 }

/-- A part of a transaction does not mend it: once broken it stays broken, and nothing is sent
any more. -/
theorem WritesOnly.exec_broken (clk : ℕ → ℤ) {p : Prog σ κ τ ε α} (h : p.WritesOnly P)
    {w : Session σ} (hw : w.broken = true) :
    (p.exec clk w).2.broken = true ∧ (p.exec clk w).2.view = w.view := by
  induction p generalizing w with
  | ret a => exact ⟨hw, rfl⟩
  | throw e => exact ⟨hw, rfl⟩
  | read k ih => exact ih _ (h _) hw
  | write s k ih =>
    simp only [exec_write, hw, if_true]
    exact ih _ (h.2 _) hw
  | commit k ih => exact h.elim
  | rollback k ih => exact h.elim
  | uuid k ih => exact @ih _ (h _) { w with nextId := w.nextId + 1 } hw
  | clock k ih => exact @ih _ (h _) { w with tick := w.tick + 1 } hw

/-- A part of a transaction commits nothing. -/
theorem WritesOnly.exec_committed (clk : ℕ → ℤ) {p : Prog σ κ τ ε α} (h : p.WritesOnly P)
    (w : Session σ) : (p.exec clk w).2.committed = w.committed :=
  (h.exec_rel (R := fun _ _ => True) (fun _ => trivial) (fun _ _ _ _ _ => trivial)
    (fun _ _ _ => trivial) clk w).1

/-- However it ends. -/
theorem WritesOnly.committed_eq {clk : ℕ → ℤ} {p : Prog σ κ τ ε α} (h : p.WritesOnly P)
    {w w' : Session σ} {r : Except (Exc ε) α} (hexec : p.exec clk w = (r, w')) :
    w'.committed = w.committed := by
  have hsame := h.exec_committed clk w
  rw [hexec] at hsame
  exact hsame

/-- A part without statements leaves the transaction as it was. -/
theorem WritesOnly.exec_readOnly (clk : ℕ → ℤ) {p : Prog σ κ τ ε α}
    (h : p.WritesOnly fun _ => False) (w : Session σ) :
    (p.exec clk w).2.committed = w.committed ∧ (p.exec clk w).2.view = w.view ∧
      (p.exec clk w).2.broken = w.broken := by
  induction p generalizing w with
  | ret a => exact ⟨rfl, rfl, rfl⟩
  | throw e => exact ⟨rfl, rfl, rfl⟩
  | read k ih => exact ih _ (h _) w
  | write s k ih => exact h.1.elim
  | commit k ih => exact h.elim
  | rollback k ih => exact h.elim
  | uuid k ih => exact ih _ (h _) { w with nextId := w.nextId + 1 }
  | clock k ih => exact ih _ (h _) { w with tick := w.tick + 1 }

/-! ## Whole programs

`AllWrites P p`: every statement of `p` satisfies `P`; commits and rollbacks are free. -/

/-- Every statement satisfies `P`. -/
def AllWrites (P : Statement σ κ τ → Prop) : Prog σ κ τ ε α → Prop
  | .ret _ => True
  | .throw _ => True
  | .read k => ∀ v, (k v).AllWrites P
  | .write s k => P s ∧ ∀ r, (k r).AllWrites P
  | .commit k => ∀ b, (k b).AllWrites P
  | .rollback k => k.AllWrites P
  | .uuid k => ∀ n, (k n).AllWrites P
  | .clock k => ∀ t, (k t).AllWrites P

theorem WritesOnly.allWrites {p : Prog σ κ τ ε α} (h : p.WritesOnly P) : p.AllWrites P := by
  induction p with
  | ret a => trivial
  | throw e => trivial
  | read k ih => exact fun v => ih v (h v)
  | write s k ih => exact ⟨h.1, fun r => ih r (h.2 r)⟩
  | commit k ih => exact h.elim
  | rollback k ih => exact h.elim
  | uuid k ih => exact fun n => ih n (h n)
  | clock k ih => exact fun t => ih t (h t)

theorem AllWrites.mono (hP : ∀ s, P s → P' s) {p : Prog σ κ τ ε α} (h : p.AllWrites P) :
    p.AllWrites P' := by
  induction p with
  | ret a => trivial
  | throw e => trivial
  | read k ih => exact fun v => ih v (h v)
  | write s k ih => exact ⟨hP s h.1, fun r => ih r (h.2 r)⟩
  | commit k ih => exact fun b => ih b (h b)
  | rollback k ih => exact ih h
  | uuid k ih => exact fun n => ih n (h n)
  | clock k ih => exact fun t => ih t (h t)

theorem AllWrites.bind {p : Prog σ κ τ ε α} {f : α → Prog σ κ τ ε β} (h : p.AllWrites P)
    (hf : ∀ a, (f a).AllWrites P) : (p.bind f).AllWrites P := by
  induction p with
  | ret a => exact hf a
  | throw e => trivial
  | read k ih => exact fun v => ih v (h v)
  | write s k ih => exact ⟨h.1, fun r => ih r (h.2 r)⟩
  | commit k ih => exact fun b => ih b (h b)
  | rollback k ih => exact ih h
  | uuid k ih => exact fun n => ih n (h n)
  | clock k ih => exact fun t => ih t (h t)

theorem AllWrites.attempt {p : Prog σ κ τ ε α} (h : p.AllWrites P) : p.attempt.AllWrites P := by
  induction p with
  | ret a => trivial
  | throw e => trivial
  | read k ih => exact fun v => ih v (h v)
  | write s k ih => exact ⟨h.1, fun r => ih r (h.2 r)⟩
  | commit k ih => exact fun b => ih b (h b)
  | rollback k ih => exact ih h
  | uuid k ih => exact fun n => ih n (h n)
  | clock k ih => exact fun t => ih t (h t)

theorem allWrites_commitTx : (commitTx : Prog σ κ τ ε Unit).AllWrites P := by
  intro b
  cases b <;> trivial

/-- What follows a query is known for what the query may return. -/
theorem allWrites_select {f : σ → α} {k : α → Prog σ κ τ ε β} (h : ∀ s, (k (f s)).AllWrites P) :
    ((select f).bind k).AllWrites P := by
  intro v
  cases v with
  | none => trivial
  | some s => exact h s

/-- What every statement keeps, the program keeps of the view and of what is committed. -/
theorem AllWrites.exec_keeps {I : σ → Prop} (hstep : ∀ st : Statement σ κ τ, P st → ∀ s, I s →
    I (st.apply s)) (clk : ℕ → ℤ) {p : Prog σ κ τ ε α} (h : p.AllWrites P) {w : Session σ}
    (hcommitted : I w.committed) (hview : I w.view) :
    I (p.exec clk w).2.committed ∧ I (p.exec clk w).2.view := by
  induction p generalizing w with
  | ret a => exact ⟨hcommitted, hview⟩
  | throw e => exact ⟨hcommitted, hview⟩
  | read k ih => exact ih _ (h _) hcommitted hview
  | write s k ih =>
    simp only [exec_write]
    split
    · exact ih _ (h.2 _) hcommitted hview
    · split
      · exact @ih _ (h.2 .done) { w with view := s.apply w.view } hcommitted
          (hstep s h.1 _ hview)
      · exact @ih _ (h.2 _) { w with broken := true } hcommitted hview
  | commit k ih =>
    simp only [exec_commit]
    split
    · exact ih _ (h _) hcommitted hview
    · exact @ih _ (h _) { w with committed := w.view } hview hview
  | rollback k ih =>
    exact @ih h { w with view := w.committed, broken := false } hcommitted hcommitted
  | uuid k ih => exact @ih _ (h _) { w with nextId := w.nextId + 1 } hcommitted hview
  | clock k ih => exact @ih _ (h _) { w with tick := w.tick + 1 } hcommitted hview

/-! ## Reading parts

A part that only queries has no statement at all; on a live transaction it returns a
function of the view. -/

/-- No statement, no commit, no rollback. -/
abbrev ReadOnly (p : Prog σ κ τ ε α) : Prop := p.WritesOnly fun _ => False

theorem ReadOnly.writesOnly {p : Prog σ κ τ ε α} (h : p.ReadOnly) : p.WritesOnly P :=
  WritesOnly.mono (fun _ hs => hs.elim) h

/-- On a live transaction the part returns `f` of the view and changes nothing. -/
def Reads (p : Prog σ κ τ ε α) (f : σ → α) : Prop :=
  ∀ (clk : ℕ → ℤ) (w : Session σ), w.broken = false → p.exec clk w = (.ok (f w.view), w)

theorem reads_ret (a : α) : (ret a : Prog σ κ τ ε α).Reads fun _ => a := fun _ _ _ => rfl

theorem reads_select (f : σ → α) : (select f : Prog σ κ τ ε α).Reads f :=
  fun clk _ hw => exec_select clk f hw

theorem Reads.bind {p : Prog σ κ τ ε α} {f : σ → α} {g : α → Prog σ κ τ ε β}
    {h : α → σ → β} (hp : p.Reads f) (hg : ∀ a, (g a).Reads (h a)) :
    (p.bind g).Reads fun s => h (f s) s := by
  intro clk w hw
  rw [exec_bind_of_ok (hp clk w hw)]
  exact hg _ clk w hw

theorem Reads.attempt {p : Prog σ κ τ ε α} {f : σ → α} (hp : p.Reads f) :
    p.attempt.Reads fun s => .ok (f s) := by
  intro clk w hw
  rw [exec_attempt, hp clk w hw]

/-- A reading part that returned, returned its function of the view. -/
theorem Reads.exec_ok {p : Prog σ κ τ ε α} {f : σ → α} (hp : p.Reads f) {clk : ℕ → ℤ}
    {w w' : Session σ} {a : α} (hw : w.broken = false) (h : p.exec clk w = (.ok a, w')) :
    a = f w.view ∧ w' = w := by
  rw [hp clk w hw] at h
  simpa [eq_comm] using h

/-- On a live transaction the part returns and leaves the session as it was. -/
def Replies (p : Prog σ κ τ ε α) : Prop :=
  ∀ (clk : ℕ → ℤ) (w : Session σ), w.broken = false → ∃ a, p.exec clk w = (.ok a, w)

theorem replies_ret (a : α) : (ret a : Prog σ κ τ ε α).Replies := fun _ _ _ => ⟨a, rfl⟩

theorem replies_select (f : σ → α) : (select f : Prog σ κ τ ε α).Replies :=
  fun clk w hw => ⟨f w.view, exec_select clk f hw⟩

theorem Replies.bind {p : Prog σ κ τ ε α} {g : α → Prog σ κ τ ε β} (hp : p.Replies)
    (hg : ∀ a, (g a).Replies) : (p.bind g).Replies := by
  intro clk w hw
  obtain ⟨a, ha⟩ := hp clk w hw
  obtain ⟨b, hb⟩ := hg a clk w hw
  exact ⟨b, (exec_bind_of_ok ha).trans hb⟩

/-- At the instant `t` the program comes to `o`, whatever the session. -/
def Yields (t : ℤ) (p : Prog σ κ τ ε α) (o : Except (Exc ε) α) : Prop :=
  ∀ w : Session σ, (p.exec (fun _ => t) w).1 = o

theorem yields_ret (t : ℤ) (a : α) : (ret a : Prog σ κ τ ε α).Yields t (.ok a) := fun _ => rfl

theorem yields_throw (t : ℤ) (e : Exc ε) : (throw e : Prog σ κ τ ε α).Yields t (.error e) :=
  fun _ => rfl

theorem yields_getTime (t : ℤ) : (getTime : Prog σ κ τ ε ℤ).Yields t (.ok t) := fun _ => rfl

theorem Yields.bind {t : ℤ} {p : Prog σ κ τ ε α} {f : α → Prog σ κ τ ε β} {a : α}
    {o : Except (Exc ε) β} (hp : p.Yields t (.ok a)) (hf : (f a).Yields t o) :
    (p.bind f).Yields t o := by
  intro w
  rw [exec_bind, show p.exec (fun _ => t) w = (.ok a, _) from Prod.ext (hp w) rfl, andThen_ok]
  exact hf _

theorem Yields.bind_error {t : ℤ} {p : Prog σ κ τ ε α} {f : α → Prog σ κ τ ε β} {e : Exc ε}
    (hp : p.Yields t (.error e)) : (p.bind f).Yields t (.error e) := by
  intro w
  rw [exec_bind, show p.exec (fun _ => t) w = (.error e, _) from Prod.ext (hp w) rfl, andThen_error]

/-! ## Returned values -/

/-- Every value the program may return satisfies `P`, whatever the store answers. -/
def Returns (P : α → Prop) : Prog σ κ τ ε α → Prop
  | .ret a => P a
  | .throw _ => True
  | .read k => ∀ v, (k v).Returns P
  | .write _ k => ∀ r, (k r).Returns P
  | .commit k => ∀ b, (k b).Returns P
  | .rollback k => k.Returns P
  | .uuid k => ∀ n, (k n).Returns P
  | .clock k => ∀ t, (k t).Returns P

theorem Returns.bind {P : α → Prop} {Q : β → Prop} {p : Prog σ κ τ ε α}
    {f : α → Prog σ κ τ ε β} (h : p.Returns P) (hf : ∀ a, P a → (f a).Returns Q) :
    (p.bind f).Returns Q := by
  induction p with
  | ret a => exact hf a h
  | throw e => trivial
  | read k ih => exact fun v => ih v (h v)
  | write s k ih => exact fun r => ih r (h r)
  | commit k ih => exact fun b => ih b (h b)
  | rollback k ih => exact ih h
  | uuid k ih => exact fun n => ih n (h n)
  | clock k ih => exact fun t => ih t (h t)

theorem Returns.mono {P Q : α → Prop} {p : Prog σ κ τ ε α} (h : p.Returns P)
    (hPQ : ∀ a, P a → Q a) : p.Returns Q := by
  rw [← bind_ret p]
  exact h.bind hPQ

/-- Nothing is known of the values. -/
theorem returns_true (p : Prog σ κ τ ε α) : p.Returns fun _ => True := by
  induction p with
  | ret a => trivial
  | throw e => trivial
  | read k ih => exact ih
  | write s k ih => exact ih
  | commit k ih => exact ih
  | rollback k ih => exact ih
  | uuid k ih => exact ih
  | clock k ih => exact ih

theorem returns_bind {Q : β → Prop} {p : Prog σ κ τ ε α} {f : α → Prog σ κ τ ε β}
    (hf : ∀ a, (f a).Returns Q) : (p.bind f).Returns Q :=
  (returns_true p).bind fun a _ => hf a

/-- Past a `try`, what was returned satisfies what the body's values satisfy. -/
theorem Returns.attempt {P : α → Prop} {p : Prog σ κ τ ε α} (h : p.Returns P) :
    p.attempt.Returns fun result => ∀ a, result = .ok a → P a := by
  induction p with
  | ret a =>
    intro b hb
    cases hb
    exact h
  | throw e =>
    intro b hb
    cases hb
  | read k ih => exact fun v => ih v (h v)
  | write s k ih => exact fun r => ih r (h r)
  | commit k ih => exact fun b => ih b (h b)
  | rollback k ih => exact ih h
  | uuid k ih => exact fun n => ih n (h n)
  | clock k ih => exact fun t => ih t (h t)

/-- What a query returns is its function on some view. -/
theorem returns_select {P : α → Prop} {f : σ → α} (h : ∀ s, P (f s)) :
    (select f : Prog σ κ τ ε α).Returns P := by
  intro v
  cases v with
  | none => trivial
  | some s => exact h s

/-! ## Raised exceptions -/

/-- Every exception the program may raise satisfies `P`, where a flush is refused only for a
reason its statement checks. -/
def Raises (P : Exc ε → Prop) : Prog σ κ τ ε α → Prop
  | .ret _ => True
  | .throw e => P e
  | .read k => ∀ v, (k v).Raises P
  | .write s k =>
    (k .pendingRollback).Raises P ∧ (k .done).Raises P ∧
      ∀ x r, s.check x = some r → (k (.rejected r)).Raises P
  | .commit k => ∀ b, (k b).Raises P
  | .rollback k => k.Raises P
  | .uuid k => ∀ n, (k n).Raises P
  | .clock k => ∀ t, (k t).Raises P

theorem Raises.bind {P : Exc ε → Prop} {p : Prog σ κ τ ε α} {f : α → Prog σ κ τ ε β}
    (h : p.Raises P) (hf : ∀ a, (f a).Raises P) : (p.bind f).Raises P := by
  induction p with
  | ret a => exact hf a
  | throw e => exact h
  | read k ih => exact fun v => ih v (h v)
  | write s k ih => exact ⟨ih _ h.1, ih _ h.2.1, fun x r hr => ih _ (h.2.2 x r hr)⟩
  | commit k ih => exact fun b => ih b (h b)
  | rollback k ih => exact ih h
  | uuid k ih => exact fun n => ih n (h n)
  | clock k ih => exact fun t => ih t (h t)

theorem raises_select {P : Exc ε → Prop} (f : σ → α) (h : P .pendingRollback) :
    (select f : Prog σ κ τ ε α).Raises P := by
  intro v
  cases v with
  | none => exact h
  | some s => trivial

theorem raises_flush {P : Exc ε → Prop} {s : Statement σ κ τ} (h : P .pendingRollback)
    (hs : ∀ x r, s.check x = some r → P (.rejected r)) :
    (flush s : Prog σ κ τ ε Unit).Raises P := ⟨h, trivial, hs⟩

theorem raises_commitTx {P : Exc ε → Prop} (h : P .pendingRollback) :
    (commitTx : Prog σ κ τ ε Unit).Raises P := by
  intro b
  cases b with
  | false => exact h
  | true => trivial

/-! ## What a run may return -/

theorem Returns.exec_ok {P : α → Prop} {p : Prog σ κ τ ε α} (h : p.Returns P) {clk : ℕ → ℤ}
    {w w' : Session σ} {a : α} (hexec : p.exec clk w = (.ok a, w')) : P a := by
  induction p generalizing w with
  | ret b =>
    cases hexec
    exact h
  | throw e => cases hexec
  | read k ih => exact ih _ (h _) hexec
  | write s k ih =>
    simp only [exec_write] at hexec
    split at hexec
    · exact ih _ (h _) hexec
    · split at hexec
      · exact ih _ (h _) hexec
      · exact ih _ (h _) hexec
  | commit k ih =>
    simp only [exec_commit] at hexec
    split at hexec
    · exact ih _ (h _) hexec
    · exact ih _ (h _) hexec
  | rollback k ih => exact ih h hexec
  | uuid k ih => exact ih _ (h _) hexec
  | clock k ih => exact ih _ (h _) hexec

/-! ## One after the other

Programs that run one after the other, each in a session of its own: a program starts from what
is committed, and what it leaves uncommitted is gone. An exception ends the program, not the
sequence. -/

/-- The session a program leaves to the next one. -/
def after (clk : ℕ → ℤ) (p : Prog σ κ τ ε α) (w : Session σ) : Session σ :=
  let w' := (p.exec clk (.fresh w.committed w.nextId w.tick)).2
  .fresh w'.committed w'.nextId w'.tick

theorem after_of_exec {clk : ℕ → ℤ} {p : Prog σ κ τ ε α} {w w' : Session σ}
    {r : Except (Exc ε) α} (h : p.exec clk (.fresh w.committed w.nextId w.tick) = (r, w')) :
    p.after clk w = .fresh w'.committed w'.nextId w'.tick := by
  rw [after, h]

/-- A program without its answer leaves what it leaves. -/
theorem after_bind_ret (clk : ℕ → ℤ) (p : Prog σ κ τ ε α) (b : β) (w : Session σ) :
    ((p.bind fun _ => .ret b).after clk w) = p.after clk w := by
  rcases h : p.exec clk (.fresh w.committed w.nextId w.tick) with ⟨e | a, w'⟩
  · rw [after_of_exec (exec_bind_of_error h), after_of_exec h]
  · rw [after_of_exec (exec_bind_of_ok h), after_of_exec h]
    rfl

/-- Identifiers are drawn upwards along a sequence, too. -/
theorem after_nextId_le (clk : ℕ → ℤ) (p : Prog σ κ τ ε α) (w : Session σ) :
    w.nextId ≤ (p.after clk w).nextId :=
  exec_nextId_le clk p (.fresh w.committed w.nextId w.tick)

/-- The session a sequence of requests leaves. -/
def afterEach (clk : ℕ → ℤ) (handler : β → Prog σ κ τ ε α) : List β → Session σ → Session σ
  | [], w => w
  | b :: bs, w => afterEach clk handler bs ((handler b).after clk w)

/-- Every request of a sequence meets a condition where it runs. -/
def EachMeets (clk : ℕ → ℤ) (handler : β → Prog σ κ τ ε α) (C : β → Session σ → Prop) :
    List β → Session σ → Prop
  | [], _ => True
  | b :: bs, w => C b w ∧ EachMeets clk handler C bs ((handler b).after clk w)

/-- **Run rule**: what every request that meets the condition keeps, the sequence keeps. -/
theorem EachMeets.invariant {clk : ℕ → ℤ} {handler : β → Prog σ κ τ ε α}
    {C : β → Session σ → Prop} {I : Session σ → Prop}
    (hstep : ∀ b w, C b w → I w → I ((handler b).after clk w)) {bs : List β} {w : Session σ}
    (hbs : EachMeets clk handler C bs w) (hw : I w) : I (afterEach clk handler bs w) := by
  induction bs generalizing w with
  | nil => exact hw
  | cons b bs ih => exact ih hbs.2 (hstep b w hbs.1 hw)

/-- What a condition gives where an invariant holds, which it keeps, it gives along sequences. -/
theorem EachMeets.imp_of_invariant {clk : ℕ → ℤ} {handler : β → Prog σ κ τ ε α}
    {C D : β → Session σ → Prop} {I : Session σ → Prop} (hCD : ∀ b w, I w → C b w → D b w)
    (hkeeps : ∀ b w, I w → C b w → I ((handler b).after clk w)) {bs : List β} {w : Session σ}
    (hw : I w) (hbs : EachMeets clk handler C bs w) : EachMeets clk handler D bs w := by
  induction bs generalizing w with
  | nil => trivial
  | cons b bs ih => exact ⟨hCD b w hw hbs.1, ih (hkeeps b w hw hbs.1) hbs.2⟩

/-- Two conditions that agree where an invariant holds, which the first one keeps, agree on
sequences. -/
theorem EachMeets.iff_of_invariant {clk : ℕ → ℤ} {handler : β → Prog σ κ τ ε α}
    {C D : β → Session σ → Prop} {I : Session σ → Prop} (hCD : ∀ b w, I w → (C b w ↔ D b w))
    (hkeeps : ∀ b w, I w → C b w → I ((handler b).after clk w)) {bs : List β} {w : Session σ}
    (hw : I w) : EachMeets clk handler C bs w ↔ EachMeets clk handler D bs w := by
  induction bs generalizing w with
  | nil => exact Iff.rfl
  | cons b bs ih =>
    rw [EachMeets, EachMeets, ← hCD b w hw]
    exact and_congr_right fun hC => ih (hkeeps b w hw hC)

end Prog

end Transaction
