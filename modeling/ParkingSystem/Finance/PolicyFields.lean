import ParkingSystem.Settings

/-!
# Fields of the Tariff Policy

`resolve_tariff_policy` makes seven fields of the object that an administrator has stored: each
has a name and an older one, the environment's value where the object has no usable entry, and a
range that a stored value is brought into.

## What goes wrong

An hour that is 0 is taken for one that is not given: midnight can be stored, and the night
begins at 22.
-/

namespace ParkingSystem

open PyValue Transaction

/-! ## The whole policy -/

/-- What `resolve_tariff_policy` returns: the fields of the calculation, and the grace period. -/
structure FullTariffPolicy extends TariffPolicy where
  exitGraceMinutes : ℤ
  deriving DecidableEq, Repr

/-- `resolve_tariff_policy`, with all of its fields. -/
def resolveFullTariffPolicy (cfg : Config) : Handler FullTariffPolicy := do
  let rounding ← getPolicySetting "tariff_policy" ["TARIFF_ROUNDING", "rounding"] some
    (.str cfg.tariffRounding)
  let dayDefinition ← getPolicySetting "tariff_policy" ["TARIFF_DAY_DEFINITION", "day_definition"]
    some (.str cfg.tariffDayDefinition)
  let nightEnabled ← getPolicySetting "tariff_policy" ["NIGHT_TARIFF_ENABLED", "night_enabled"]
    (some ∘ toBool) cfg.nightTariffEnabled
  let nightStart ← getPolicySetting "tariff_policy" ["NIGHT_START_HOUR", "night_start_hour"]
    Json.toInt cfg.nightStartHour
  let nightEnd ← getPolicySetting "tariff_policy" ["NIGHT_END_HOUR", "night_end_hour"]
    Json.toInt cfg.nightEndHour
  let minCharge ← getPolicySetting "tariff_policy" ["MIN_CHARGE_AMOUNT", "min_charge_amount"]
    Json.toInt cfg.minChargeAmount
  let grace ← getPolicySetting "tariff_policy" ["EXIT_GRACE_MINUTES", "exit_grace_minutes"]
    Json.toInt cfg.exitGraceMinutes
  return { TariffPolicy.ofRaw rounding dayDefinition nightEnabled nightStart nightEnd minCharge with
    exitGraceMinutes := max 0 (orDefault grace 0) }

/-- The whole policy on a store. -/
def fullTariffPolicy (cfg : Config) (s : Store) : FullTariffPolicy :=
  { tariffPolicy cfg s with
    exitGraceMinutes := max 0 (orDefault (policySetting "tariff_policy"
      ["EXIT_GRACE_MINUTES", "exit_grace_minutes"] Json.toInt cfg.exitGraceMinutes s) 0) }

theorem reads_resolveFullTariffPolicy (cfg : Config) :
    (resolveFullTariffPolicy cfg).Reads (fullTariffPolicy cfg) :=
  (reads_getPolicySetting _ _ _ _).bind fun _ =>
  (reads_getPolicySetting _ _ _ _).bind fun _ =>
  (reads_getPolicySetting _ _ _ _).bind fun _ =>
  (reads_getPolicySetting _ _ _ _).bind fun _ =>
  (reads_getPolicySetting _ _ _ _).bind fun _ =>
  (reads_getPolicySetting _ _ _ _).bind fun _ =>
  (reads_getPolicySetting _ _ _ _).bind fun _ => Prog.reads_ret _

/-! ## The entry that counts -/

/-- The object of a group, where its row holds one. -/
def storedObject (group : String) (s : Store) : Option Json :=
  (s.appSettings.find? fun row => row.key == group).map AppSetting.value

/-- A name has no entry, or a null one. -/
def NoEntry (d : Dict) (name : String) : Prop := d.get name = none ∨ d.get name = some .null

/-- `j` is the entry of the first of the names that has one. -/
def FirstEntry (d : Dict) (names : List String) (j : Json) : Prop :=
  ∃ before name after, names = before ++ name :: after ∧ (∀ n ∈ before, NoEntry d n) ∧
    d.get name = some j ∧ j ≠ .null

/-- What a field is made of: its first entry, where that can be read, and the environment's value
otherwise. -/
def FieldValue {α : Type} (d : Dict) (names : List String) (cast : Json → Option α) (env v : α) :
    Prop :=
  (∃ j, FirstEntry d names j ∧ cast j = some v) ∨
    (∀ j, FirstEntry d names j → cast j = none) ∧ v = env

theorem storedSetting_iff {group : String} {names : List String} {s : Store} {d : Dict} {j : Json}
    (hrow : storedObject group s = some (.obj d)) :
    storedSetting group names s = some j ↔ FirstEntry d names j := by
  rw [storedObject] at hrow
  rw [storedSetting, hrow]
  dsimp only
  rw [List.findSome?_eq_some_iff]
  unfold FirstEntry NoEntry
  constructor
  · rintro ⟨before, name, after, rfl, hname, hbefore⟩
    refine ⟨before, name, after, rfl, fun n hn => ?_, ?_⟩
    · -- the names before it have no entry, or a null one
      have hskip := hbefore n hn
      split at hskip
      next hnull => exact Or.inr hnull
      next => exact Or.inl hskip
    · split at hname
      next => cases hname
      next hne => exact ⟨hname, fun hnull => hne (hname.trans (congrArg some hnull))⟩
  · rintro ⟨before, name, after, rfl, hbefore, hname, hne⟩
    refine ⟨before, name, after, rfl, ?_, fun n hn => ?_⟩
    · rw [hname]
      split
      next heq => exact absurd (Option.some.inj heq) hne
      next => rfl
    · rcases hbefore n hn with h | h <;> rw [h]

/-- **A setting is its first usable entry**, or what the environment says. -/
theorem fieldValue_policySetting {α : Type} {group : String} {names : List String}
    {cast : Json → Option α} {env : α} {s : Store} {d : Dict}
    (hrow : storedObject group s = some (.obj d)) :
    FieldValue d names cast env (policySetting group names cast env s) := by
  unfold policySetting settingValue
  cases hstored : storedSetting group names s with
  | none =>
    refine Or.inr ⟨fun j hj => ?_, rfl⟩
    rw [(storedSetting_iff hrow).2 hj] at hstored
    cases hstored
  | some j =>
    have hfirst := (storedSetting_iff hrow).1 hstored
    cases hcast : cast j with
    | some v => exact Or.inl ⟨j, hfirst, by rw [Option.bind_some, hcast, Option.getD_some]⟩
    | none =>
      refine Or.inr ⟨fun j' hj' => ?_, by rw [Option.bind_some, hcast, Option.getD_none]⟩
      rw [(storedSetting_iff hrow).2 hj', Option.some.injEq] at hstored
      rw [hstored, hcast]

/-! ## The range of a field -/

/-- A field of two words: the one that was given, and the first for anything else. -/
def WordOf (first second : String) (given : Json) (field : String) : Prop :=
  (given = .str first → field = first) ∧ (given = .str second → field = second) ∧
    (given ≠ .str first → given ≠ .str second → field = first)

/-- An hour: the one that was given, and the nearest for one that is none. -/
def HourOf (given field : ℤ) : Prop :=
  (1 ≤ given → given ≤ 23 → field = given) ∧ (given < 0 → field = 0) ∧ (23 < given → field = 23)

/-- An amount: the one that was given, and 0 for a negative one. -/
def AmountOf (given field : ℤ) : Prop := (0 ≤ given → field = given) ∧ (given < 0 → field = 0)

theorem wordOf_wordOr {first second : String} (hne : first ≠ second) (given : Json) :
    WordOf first second given (wordOr [first, second] first given) := by
  unfold WordOf
  cases given with
  | str s =>
    rw [wordOr]
    by_cases hfirst : s = first
    · simp [hfirst, hne]
    · by_cases hsecond : s = second
      · simp [hsecond, Ne.symm hne]
      · simp [hfirst, hsecond]
  | _ => simp [wordOr]

theorem hourOf_clamp (n default : ℤ) : HourOf n (max 0 (min 23 (orDefault n default))) := by
  unfold HourOf orDefault
  split <;> omega

theorem amountOf_clamp (n : ℤ) : AmountOf n (max 0 n) := by
  unfold AmountOf
  omega

/-- **The fields of the policy**: each is made of its first entry that is there and not null,
where that can be read, and of the environment's value otherwise, brought into the range of the
field. -/
theorem tariff_policy_fields (cfg : Config) {s : Store} {d : Dict}
    (hrow : storedObject "tariff_policy" s = some (.obj d)) :
    (resolveFullTariffPolicy cfg).Reads (fullTariffPolicy cfg) ∧
    (∃ j, FieldValue d ["TARIFF_ROUNDING", "rounding"] some (.str cfg.tariffRounding) j ∧
      WordOf "HOUR_UP" "MINUTE" j (fullTariffPolicy cfg s).rounding) ∧
    (∃ j, FieldValue d ["TARIFF_DAY_DEFINITION", "day_definition"] some
        (.str cfg.tariffDayDefinition) j ∧
      WordOf "24H" "CALENDAR" j (fullTariffPolicy cfg s).dayDefinition) ∧
    FieldValue d ["NIGHT_TARIFF_ENABLED", "night_enabled"] (some ∘ toBool) cfg.nightTariffEnabled
      (fullTariffPolicy cfg s).nightEnabled ∧
    (∃ n, FieldValue d ["NIGHT_START_HOUR", "night_start_hour"] Json.toInt cfg.nightStartHour n ∧
      HourOf n (fullTariffPolicy cfg s).nightStartHour) ∧
    (∃ n, FieldValue d ["NIGHT_END_HOUR", "night_end_hour"] Json.toInt cfg.nightEndHour n ∧
      HourOf n (fullTariffPolicy cfg s).nightEndHour) ∧
    (∃ n, FieldValue d ["MIN_CHARGE_AMOUNT", "min_charge_amount"] Json.toInt cfg.minChargeAmount n ∧
      AmountOf n (fullTariffPolicy cfg s).minChargeAmount) ∧
    (∃ n, FieldValue d ["EXIT_GRACE_MINUTES", "exit_grace_minutes"] Json.toInt
        cfg.exitGraceMinutes n ∧
      AmountOf n (fullTariffPolicy cfg s).exitGraceMinutes) := by
  refine ⟨reads_resolveFullTariffPolicy cfg, ?_, ?_, ?_, ?_, ?_, ?_, ?_⟩
  · exact ⟨_, fieldValue_policySetting hrow, wordOf_wordOr (by decide) _⟩
  · exact ⟨_, fieldValue_policySetting hrow, wordOf_wordOr (by decide) _⟩
  · exact fieldValue_policySetting hrow
  · exact ⟨_, fieldValue_policySetting hrow, hourOf_clamp _ 22⟩
  · exact ⟨_, fieldValue_policySetting hrow, hourOf_clamp _ 6⟩
  · exact ⟨_, fieldValue_policySetting hrow, amountOf_clamp _⟩
  · refine ⟨_, fieldValue_policySetting hrow, ?_⟩
    -- `grace or 0` is the grace period itself
    have hzero (n : ℤ) : orDefault n 0 = n := by
      unfold orDefault
      split <;> omega
    change AmountOf _ (max 0 (orDefault _ 0))
    rw [hzero]
    exact amountOf_clamp _

/-- A night that is stored to begin at midnight begins at 22, and one that ends then ends at 6. -/
theorem midnight_is_lost {cfg : Config} {s : Store} :
    (policySetting "tariff_policy" ["NIGHT_START_HOUR", "night_start_hour"] Json.toInt
      cfg.nightStartHour s = 0 → (fullTariffPolicy cfg s).nightStartHour = 22) ∧
    (policySetting "tariff_policy" ["NIGHT_END_HOUR", "night_end_hour"] Json.toInt
      cfg.nightEndHour s = 0 → (fullTariffPolicy cfg s).nightEndHour = 6) := by
  constructor <;> intro h <;>
    simp only [fullTariffPolicy, tariffPolicy, TariffPolicy.ofRaw, h] <;> rfl

/-- A store whose night begins at an hour that is none. -/
def lateNightStore : Store :=
  { appSettings := [{ key := "tariff_policy", value := .obj [("NIGHT_START_HOUR", .int 30)] }] }

theorem tariff_policy_fields_late : ∃ n, FieldValue [("NIGHT_START_HOUR", .int 30)]
    ["NIGHT_START_HOUR", "night_start_hour"] Json.toInt 22 n ∧
      HourOf n (fullTariffPolicy {} lateNightStore).nightStartHour :=
  (tariff_policy_fields {} (s := lateNightStore) rfl).2.2.2.2.1

/-- An hour that is out of range is not replaced by the environment's, nor by the default. -/
theorem hour_out_of_range : ¬ ∀ (cfg : Config) (s : Store) (d : Dict),
    storedObject "tariff_policy" s = some (.obj d) → ∀ j n,
      FirstEntry d ["NIGHT_START_HOUR", "night_start_hour"] j → j.toInt = some n →
        ¬ (0 ≤ n ∧ n ≤ 23) →
          (fullTariffPolicy cfg s).nightStartHour = cfg.nightStartHour ∨
            (fullTariffPolicy cfg s).nightStartHour = 22 := by
  intro hall
  have hlate := hall {} lateNightStore _ rfl (.int 30) 30
    ⟨[], _, _, rfl, List.forall_mem_nil _, rfl, by decide⟩ rfl (by decide)
  revert hlate
  decide

end ParkingSystem
