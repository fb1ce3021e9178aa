import ParkingSystem.Store

/-!
# Settings

Two sources of policy: the process environment (`Config`) and the `app_settings` table,
which an administrator changes at run time and which wins where it holds a usable value.

`getPolicySetting` never raises: a failed query, a missing row, a missing name, a null and a
value its cast refuses all fall back to the environment.
-/

namespace ParkingSystem

open PyText PyValue Transaction

/-! ## The environment -/

/-- `repr` of a whole float. -/
def wholeFloatText (q : ℚ) : String := toString q.floor ++ ".0"

/-- `repr` of an empty list and of an empty object. -/
def emptyText : Json → String
  | .arr _ => "[]"
  | _ => "\x7b\x7d"

/-- The settings the modelled code reads. `tehran` is the local time of an instant, from the
time zone database: microseconds on the wall clock. `floatText` is `repr` of a float, and
`reprText` that of a list or an object. -/
structure Config where
  exitUnpaidPolicy : String := "WARN"
  yardCapacityTotal : Option ℤ := none
  tariffRounding : String := "HOUR_UP"
  tariffDayDefinition : String := "24H"
  nightTariffEnabled : Bool := false
  nightStartHour : ℤ := 22
  nightEndHour : ℤ := 6
  minChargeAmount : ℤ := 0
  exitGraceMinutes : ℤ := 20
  plateLetterMapping : String := "MANY_TO_ONE"
  selfApprovalPolicy : String := "WARN"
  voidedReportMode : String := "SEPARATE"
  tariffRequireApproval : Bool := true
  envelopeMaxAngleDeg : ℚ := 35
  envelopeMinLux : ℚ := 20
  envelopeMaxSpeedKmh : ℚ := 20
  plateReviewLowConf : ℚ := 7 / 10
  cameraMinConf : ℚ := 11 / 20
  cameraDedupeTtl : ℚ := 60
  vehicleSyncMaxRows : ℕ := 5000
  cameraPollInterval : ℚ := 10
  tehran : ℤ → ℤ := fun t => t + 12600000000
  floatText : ℚ → String := wholeFloatText
  reprText : Json → String := emptyText

/-! ## The table -/

/-- The first name that is present and not null in the group's object. -/
def storedSetting (group : String) (names : List String) (s : Store) : Option Json :=
  match (s.appSettings.find? fun row => row.key == group).map AppSetting.value with
  | some (.obj d) => names.findSome? fun name =>
      match Dict.get d name with
      | some .null => none
      | found => found
  | _ => none

/-- The value of a policy, given what the table holds. -/
def settingValue {α : Type} (cast : Json → Option α) (fallback : α) (stored : Option Json) : α :=
  (stored.bind cast).getD fallback

/-- The value of a policy on a store. -/
def policySetting {α : Type} (group : String) (names : List String) (cast : Json → Option α)
    (fallback : α) (s : Store) : α :=
  settingValue cast fallback (storedSetting group names s)

/-- `get_policy_setting`; `fallback` is the environment's value, or the default where the
environment has none. -/
def getPolicySetting {α : Type} (group : String) (names : List String)
    (cast : Json → Option α) (fallback : α) : Handler α := do
  let row ← (Prog.select (storedSetting group names)).attempt
  return match row with
    | .ok stored => settingValue cast fallback stored
    | .error _ => fallback

theorem reads_getPolicySetting {α : Type} (group : String) (names : List String)
    (cast : Json → Option α) (fallback : α) :
    (getPolicySetting group names cast fallback).Reads
      (policySetting group names cast fallback) :=
  (Prog.reads_select _).attempt.bind fun _ => Prog.reads_ret _

theorem readOnly_getPolicySetting {α : Type} (group : String) (names : List String)
    (cast : Json → Option α) (fallback : α) :
    (getPolicySetting group names cast fallback).ReadOnly :=
  (Prog.writesOnly_select _).attempt.bind fun _ => trivial

/-! ## Resolved policies -/

/-- The text of a policy, upper-cased, when it is one of the known words. `str(value)` of
anything but a string is none of them. -/
def policyWord (words : List String) (default : String) : Json → String
  | .str s =>
    let word := upperString (if s = "" then default else s)
    if words.contains word then word else default
  | _ => default

/-- `resolve_exit_policy`: ALLOW, WARN or DENY. -/
def resolveExitPolicy (cfg : Config) : Handler String := do
  let policy ← getPolicySetting "gate_policy" ["EXIT_UNPAID_POLICY"] some
    (.str cfg.exitUnpaidPolicy)
  return policyWord ["ALLOW", "WARN", "DENY"] "WARN" policy

/-- The exit policy on a store. -/
def exitPolicy (cfg : Config) (s : Store) : String :=
  policyWord ["ALLOW", "WARN", "DENY"] "WARN"
    (policySetting "gate_policy" ["EXIT_UNPAID_POLICY"] some (.str cfg.exitUnpaidPolicy) s)

theorem reads_resolveExitPolicy (cfg : Config) :
    (resolveExitPolicy cfg).Reads (exitPolicy cfg) :=
  (reads_getPolicySetting _ _ _ _).bind fun _ => Prog.reads_ret _

theorem readOnly_resolveExitPolicy (cfg : Config) : (resolveExitPolicy cfg).ReadOnly :=
  (readOnly_getPolicySetting _ _ _ _).bind fun _ => trivial

/-- `resolve_self_approval_policy`: WARN or BLOCK. -/
def resolveSelfApprovalPolicy (cfg : Config) : Handler String := do
  let policy ← getPolicySetting "finance_policy" ["SELF_APPROVAL_POLICY"] some
    (.str cfg.selfApprovalPolicy)
  return policyWord ["WARN", "BLOCK"] "WARN" policy

/-- The self-approval policy on a store. -/
def selfApprovalPolicyOn (cfg : Config) (s : Store) : String :=
  policyWord ["WARN", "BLOCK"] "WARN"
    (policySetting "finance_policy" ["SELF_APPROVAL_POLICY"] some (.str cfg.selfApprovalPolicy) s)

theorem reads_resolveSelfApprovalPolicy (cfg : Config) :
    (resolveSelfApprovalPolicy cfg).Reads (selfApprovalPolicyOn cfg) :=
  (reads_getPolicySetting _ _ _ _).bind fun _ => Prog.reads_ret _

theorem readOnly_resolveSelfApprovalPolicy (cfg : Config) :
    (resolveSelfApprovalPolicy cfg).ReadOnly :=
  (readOnly_getPolicySetting _ _ _ _).bind fun _ => trivial

/-- `resolve_voided_report_mode`: SEPARATE or EXCLUDE. -/
def resolveVoidedReportMode (cfg : Config) : Handler String := do
  let mode ← getPolicySetting "report_policy" ["VOIDED_REPORT_MODE"] some
    (.str cfg.voidedReportMode)
  return policyWord ["SEPARATE", "EXCLUDE"] "SEPARATE" mode

/-- The mode of the reports on a store. -/
def voidedReportMode (cfg : Config) (s : Store) : String :=
  policyWord ["SEPARATE", "EXCLUDE"] "SEPARATE"
    (policySetting "report_policy" ["VOIDED_REPORT_MODE"] some (.str cfg.voidedReportMode) s)

theorem reads_resolveVoidedReportMode (cfg : Config) :
    (resolveVoidedReportMode cfg).Reads (voidedReportMode cfg) :=
  (reads_getPolicySetting _ _ _ _).bind fun _ => Prog.reads_ret _

/-- `_to_bool`. None of the words has a letter outside ASCII in lower case only. -/
def toBool : Json → Bool
  | .str s =>
    ["1", "true", "yes", "on", "بله"].contains
      (String.ofList ((strip s.toList).map Char.toLower))
  | j => j.truthy

/-- The fields `calculate_amounts` is called with. -/
structure TariffPolicy where
  rounding : String
  dayDefinition : String
  nightEnabled : Bool
  nightStartHour : ℤ
  nightEndHour : ℤ
  minChargeAmount : ℤ
  deriving DecidableEq, Repr

/-- A setting that must be one of some words, as it stands. -/
def wordOr (words : List String) (default : String) : Json → String
  | .str s => if words.contains s then s else default
  | _ => default

/-- `x or default` for a number. -/
def orDefault (n default : ℤ) : ℤ := if n = 0 then default else n

/-- The policy made of the raw settings. -/
def TariffPolicy.ofRaw (rounding dayDefinition : Json) (nightEnabled : Bool)
    (nightStart nightEnd minCharge : ℤ) : TariffPolicy :=
  { rounding := wordOr ["HOUR_UP", "MINUTE"] "HOUR_UP" rounding
    dayDefinition := wordOr ["24H", "CALENDAR"] "24H" dayDefinition
    nightEnabled
    nightStartHour := max 0 (min 23 (orDefault nightStart 22))
    nightEndHour := max 0 (min 23 (orDefault nightEnd 6))
    minChargeAmount := max 0 minCharge }

/-- `resolve_tariff_policy`; the grace period is read on its own where it is used. -/
def resolveTariffPolicy (cfg : Config) : Handler TariffPolicy := do
  let rounding ← getPolicySetting "tariff_policy" ["TARIFF_ROUNDING", "rounding"] some
    (.str cfg.tariffRounding)
  let dayDefinition ← getPolicySetting "tariff_policy" ["TARIFF_DAY_DEFINITION", "day_definition"]
    some (.str cfg.tariffDayDefinition)
  let nightEnabled ← getPolicySetting "tariff_policy" ["NIGHT_TARIFF_ENABLED", "night_enabled"]
    (some ∘ toBool) cfg.nightTariffEnabled
  let nightStart ← getPolicySetting "tariff_policy" ["NIGHT_START_HOUR", "night_start_hour"]
    Json.toInt cfg.nightStartHour
  let nightEnd ← getPolicySetting "tariff_policy" ["NIGHT_END_HOUR", "night_end_hour"]
    Json.toInt cfg.nightEndHour
  let minCharge ← getPolicySetting "tariff_policy" ["MIN_CHARGE_AMOUNT", "min_charge_amount"]
    Json.toInt cfg.minChargeAmount
  let _grace ← getPolicySetting "tariff_policy" ["EXIT_GRACE_MINUTES", "exit_grace_minutes"]
    Json.toInt cfg.exitGraceMinutes
  return TariffPolicy.ofRaw rounding dayDefinition nightEnabled nightStart nightEnd minCharge

/-- The tariff policy on a store. -/
def tariffPolicy (cfg : Config) (s : Store) : TariffPolicy :=
  TariffPolicy.ofRaw
    (policySetting "tariff_policy" ["TARIFF_ROUNDING", "rounding"] some
      (.str cfg.tariffRounding) s)
    (policySetting "tariff_policy" ["TARIFF_DAY_DEFINITION", "day_definition"] some
      (.str cfg.tariffDayDefinition) s)
    (policySetting "tariff_policy" ["NIGHT_TARIFF_ENABLED", "night_enabled"] (some ∘ toBool)
      cfg.nightTariffEnabled s)
    (policySetting "tariff_policy" ["NIGHT_START_HOUR", "night_start_hour"] Json.toInt
      cfg.nightStartHour s)
    (policySetting "tariff_policy" ["NIGHT_END_HOUR", "night_end_hour"] Json.toInt
      cfg.nightEndHour s)
    (policySetting "tariff_policy" ["MIN_CHARGE_AMOUNT", "min_charge_amount"] Json.toInt
      cfg.minChargeAmount s)

theorem reads_resolveTariffPolicy (cfg : Config) :
    (resolveTariffPolicy cfg).Reads (tariffPolicy cfg) :=
  (reads_getPolicySetting _ _ _ _).bind fun _ =>
  (reads_getPolicySetting _ _ _ _).bind fun _ =>
  (reads_getPolicySetting _ _ _ _).bind fun _ =>
  (reads_getPolicySetting _ _ _ _).bind fun _ =>
  (reads_getPolicySetting _ _ _ _).bind fun _ =>
  (reads_getPolicySetting _ _ _ _).bind fun _ =>
  (reads_getPolicySetting _ _ _ _).bind fun _ => Prog.reads_ret _

theorem readOnly_resolveTariffPolicy (cfg : Config) : (resolveTariffPolicy cfg).ReadOnly :=
  (readOnly_getPolicySetting _ _ _ _).bind fun _ =>
  (readOnly_getPolicySetting _ _ _ _).bind fun _ =>
  (readOnly_getPolicySetting _ _ _ _).bind fun _ =>
  (readOnly_getPolicySetting _ _ _ _).bind fun _ =>
  (readOnly_getPolicySetting _ _ _ _).bind fun _ =>
  (readOnly_getPolicySetting _ _ _ _).bind fun _ =>
  (readOnly_getPolicySetting _ _ _ _).bind fun _ => trivial

/-- The grace period for prepaid exits, in minutes. -/
def exitGrace (cfg : Config) : Handler ℤ :=
  getPolicySetting "tariff_policy" ["EXIT_GRACE_MINUTES", "exit_grace_minutes"] Json.toInt
    cfg.exitGraceMinutes

theorem readOnly_exitGrace (cfg : Config) : (exitGrace cfg).ReadOnly :=
  readOnly_getPolicySetting _ _ _ _

end ParkingSystem
