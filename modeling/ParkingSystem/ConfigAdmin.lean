import ParkingSystem.Store

/-!
# Administration of the Rules

The endpoints that edit, publish and disable a rule. Each reads the rule, changes the object
and commits; the ORM sends the columns whose values are different from those it read, and
nothing where none is.
-/

namespace ParkingSystem

open PyValue Table Transaction

/-! ## Requests -/

/-- `RuleBody` of an update: a field the request does not set is `none`. -/
structure RuleBody where
  name : String
  description : Option (Option String) := none
  direction : Option String := none
  priority : Option ℤ := none
  enabled : Option Bool := none
  conditionMode : Option String := none
  conditions : Option (List Dict) := none
  actions : Option (List Dict) := none
  effectiveFrom : Option (Option ℤ) := none

/-! ## What is sent -/

/-- A column that is sent only where its value changed. -/
def changedColumn {α : Type} [DecidableEq α] (old new : α) : Option α :=
  if old = new then none else some new

/-- A JSON column that is sent only where its value changed. -/
def changedJson (old new : List Dict) : Option (List Dict) :=
  if Json.pyEqItems (old.map .obj) (new.map .obj) then none else some new

/-- The changes of `update_rule`: every edit of an ACTIVE rule makes it a draft again, until it
is published. -/
def RuleBody.changes (body : RuleBody) (r : EntryExitRule) : RuleUpdate :=
  { name := changedColumn r.name body.name
    description := body.description.bind (changedColumn r.description)
    direction := body.direction.bind (changedColumn r.direction)
    priority := body.priority.bind (changedColumn r.priority)
    enabled := body.enabled.bind (changedColumn r.enabled)
    conditionMode := body.conditionMode.bind (changedColumn r.conditionMode)
    conditions := body.conditions.bind (changedJson r.conditions)
    actions := body.actions.bind (changedJson r.actions)
    effectiveFrom := body.effectiveFrom.bind (changedColumn r.effectiveFrom)
    status := if r.status = "ACTIVE" then some "DRAFT" else none }

/-- The changes of `publish_rule`. -/
def publication (r : EntryExitRule) (user : Option ℕ) (now : ℤ) : RuleUpdate :=
  { status := changedColumn r.status "ACTIVE", approvedBy := changedColumn r.approvedBy user
    approvedAt := changedColumn r.approvedAt (some now) }

/-- The changes of `disable_rule`. -/
def disabling (r : EntryExitRule) : RuleUpdate := { status := changedColumn r.status "DISABLED" }

/-- No column is sent. -/
def RuleUpdate.isEmpty (u : RuleUpdate) : Bool :=
  u.name.isNone && u.description.isNone && u.direction.isNone && u.priority.isNone &&
    u.enabled.isNone && u.conditionMode.isNone && u.conditions.isNone && u.actions.isNone &&
    u.status.isNone && u.effectiveFrom.isNone && u.approvedBy.isNone && u.approvedAt.isNone

/-- Some column is sent that says what the rule does. -/
def RuleUpdate.touchesContent (u : RuleUpdate) : Bool :=
  u.direction.isSome || u.priority.isSome || u.enabled.isSome || u.conditionMode.isSome ||
    u.conditions.isSome || u.actions.isSome

/-- What a publication that makes the rule ACTIVE leaves behind. -/
def RuleUpdate.published (u : RuleUpdate) (loaded : EntryExitRule) : List Publication :=
  if u.status = some "ACTIVE" then [{ ruleId := loaded.id, content := loaded.content }] else []

/-- UPDATE of a rule. -/
def sendRule (loaded : EntryExitRule) (u : RuleUpdate) : Stmt where
  label := .updateRule loaded u
  locks := [.ruleRow loaded.id]
  check _ :=
    if !(fitsChar? 128 u.name && fitsChar? 8 u.direction && fitsChar? 4 u.conditionMode &&
        u.priority.all fitsInt) then some .data else none
  apply s := { s with
    rules := updateWhere (fun r => r.id == loaded.id) u.on s.rules
    publications := s.publications ++ u.published loaded }

/-! ## Endpoints -/

/-- `db.get(EntryExitRule, id)`. -/
def ruleById (id : ℕ) (s : Store) : Option EntryExitRule := s.rules.find? fun r => r.id == id

/-- Send what changed. -/
def sendChanges (loaded : EntryExitRule) (u : RuleUpdate) : Handler Unit :=
  if u.isEmpty then return () else Prog.flush (sendRule loaded u)

/-- Send what changed, and commit. -/
def saveRule (loaded : EntryExitRule) (u : RuleUpdate) : Handler String := do
  sendChanges loaded u
  Prog.commitTx
  return (u.on loaded).status

/-- Look a rule up and go on with it. -/
def withRule (ruleId : ℕ) (k : EntryExitRule → Handler String) : Handler String := do
  let rule ← .select (ruleById ruleId)
  match rule with
  | none => Prog.raise .notFound
  | some r => k r

/-- `update_rule`. -/
def updateRule (ruleId : ℕ) (body : RuleBody) : Handler String :=
  withRule ruleId fun r => saveRule r (body.changes r)

/-- `publish_rule`. -/
def publishRule (ruleId : ℕ) (user : Option ℕ) : Handler String :=
  withRule ruleId fun r => do
    let now ← Prog.getTime
    saveRule r (publication r user now)

/-- `disable_rule`, with the status it leaves. -/
def disableRule (ruleId : ℕ) : Handler String :=
  withRule ruleId fun r => saveRule r (disabling r)

/-! ## What an update may do -/

theorem RuleUpdate.content_of_untouched {u : RuleUpdate} (h : u.touchesContent = false)
    (r : EntryExitRule) : (u.on r).content = r.content := by
  simp only [touchesContent, Bool.or_eq_false_iff, Option.isSome_eq_false_iff,
    Option.isNone_iff_eq_none] at h
  obtain ⟨⟨⟨⟨⟨hdirection, hpriority⟩, henabled⟩, hmode⟩, hconditions⟩, hactions⟩ := h
  simp [RuleUpdate.on, EntryExitRule.content, hdirection, hpriority, henabled, hmode, hconditions,
    hactions]

/-- What changes a rule takes it out of force: the content is not sent with the status ACTIVE,
and not without a status where the rule was read as ACTIVE. -/
structure RuleUpdate.Demotes (u : RuleUpdate) (loaded : EntryExitRule) : Prop where
  apart : u.touchesContent = true → u.status ≠ some "ACTIVE"
  demoted : u.touchesContent = true → loaded.status = "ACTIVE" → u.status ≠ none

theorem RuleBody.demotes (body : RuleBody) (r : EntryExitRule) : (body.changes r).Demotes r where
  apart _ := by
    unfold RuleBody.changes
    dsimp only
    split <;> decide
  demoted _ hactive := by simp [RuleBody.changes, hactive]

theorem publication_demotes (r : EntryExitRule) (user : Option ℕ) (now : ℤ) :
    (publication r user now).Demotes r where
  apart h := by simp [publication, RuleUpdate.touchesContent] at h
  demoted h := by simp [publication, RuleUpdate.touchesContent] at h

theorem disabling_demotes (r : EntryExitRule) : (disabling r).Demotes r where
  apart h := by simp [disabling, RuleUpdate.touchesContent] at h
  demoted h := by simp [disabling, RuleUpdate.touchesContent] at h

end ParkingSystem
