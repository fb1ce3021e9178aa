import ParkingSystem.Library.Transaction
import ParkingSystem.Library.Interleaving
import ParkingSystem.Library.Scheduler
import ParkingSystem.Library.Waterfall
import ParkingSystem.Library.PyText
import ParkingSystem.Library.PyValue
import ParkingSystem.Library.Table
import ParkingSystem.Plate
import ParkingSystem.Store
import ParkingSystem.Settings
import ParkingSystem.Vehicles
import ParkingSystem.Capacity
import ParkingSystem.Envelope
import ParkingSystem.RulesEngine
import ParkingSystem.Finance.Tariff
import ParkingSystem.Finance.Allocation
import ParkingSystem.Finance.Closing
import ParkingSystem.Finance.Payments
import ParkingSystem.Violations
import ParkingSystem.Finance.Ledger
import ParkingSystem.Finance.Posting
import ParkingSystem.Finance.KeepsBooks
import ParkingSystem.Finance.Sequential
import ParkingSystem.Finance.PaymentScope
import ParkingSystem.Gate.Decision
import ParkingSystem.Gate.Process
import ParkingSystem.Gate.Statements
import ParkingSystem.Gate.KeepsBooks
import ParkingSystem.Gate.ConcurrentLedger
import ParkingSystem.Gate.Audit
import ParkingSystem.Gate.Sync
import ParkingSystem.Gate.AuditRun
import ParkingSystem.Gate.Snapshot
import ParkingSystem.Agent.Decision
import ParkingSystem.Agent.Queue
import ParkingSystem.Agent.EntryBudget
import ParkingSystem.Agent.Delivery
import ParkingSystem.Gate.Refusal
import ParkingSystem.Gate.Admission
import ParkingSystem.Camera.Emit
import ParkingSystem.Camera.Leader
import ParkingSystem.Camera.Dedupe
import ParkingSystem.Camera.Mask
import ParkingSystem.Camera.ConfigStore
import ParkingSystem.Gate.Bookkeeping
import ParkingSystem.Gate.Presence
import ParkingSystem.Gate.Answer
import ParkingSystem.Gate.LateUpload
import ParkingSystem.Agent.Permissive
import ParkingSystem.Parking
import ParkingSystem.Library.PyDict
import ParkingSystem.Library.Ranking
import ParkingSystem.ParkingMap
import ParkingSystem.Assignments
import ParkingSystem.Gate.Spaces
import ParkingSystem.Library.Potential
import ParkingSystem.Gate.FullYard
import ParkingSystem.Gate.RuleIsolation
import ParkingSystem.Gate.RuleLimits
import ParkingSystem.Gate.RuleDebt
import ParkingSystem.Gate.RuleCapacity
import ParkingSystem.Gate.UnpaidExit
import ParkingSystem.Gate.PrepaidSettlement
import ParkingSystem.ConfigAdmin
import ParkingSystem.RulePublication
import ParkingSystem.Finance.TariffAdmin
import ParkingSystem.Finance.OnePrice
import ParkingSystem.Finance.Night
import ParkingSystem.Finance.NightSteps
import ParkingSystem.Finance.LongerStay
import ParkingSystem.Finance.DailyCap
import ParkingSystem.Agent.Plate
import ParkingSystem.Library.PyLines
import ParkingSystem.Agent.EnvFile
import ParkingSystem.Finance.ActiveTariff
import ParkingSystem.Library.Hoare
import ParkingSystem.Registry.Sheet
import ParkingSystem.Registry.SheetColumns
import ParkingSystem.Library.Calendar
import ParkingSystem.Registry.Dates
import ParkingSystem.Registry.Admin
import ParkingSystem.Registry.Sync
import ParkingSystem.Registry.RowEffect
import ParkingSystem.Registry.SyncAccounting
import ParkingSystem.Registry.Linked
import ParkingSystem.Registry.Migration
import ParkingSystem.Registry.PlateLetters
import ParkingSystem.PlateForms
import ParkingSystem.PlateMappings
import ParkingSystem.PlateFixpoint
import ParkingSystem.PlateOcr.Text
import ParkingSystem.PlateOcr.System
import ParkingSystem.PlateOcr.Repair
import ParkingSystem.PlateOcr.Assemble
import ParkingSystem.PlateOcr.Boxes
import ParkingSystem.PlateOcr.Candidates
import ParkingSystem.PlateOcr.BestReading
import ParkingSystem.Library.JsonSearch
import ParkingSystem.Gate.Anpr
import ParkingSystem.Frontend.Jalali
import ParkingSystem.Library.Words
import ParkingSystem.Frontend.PlateInput
import ParkingSystem.Finance.PolicyFields
import ParkingSystem.Registry.PlateLookup
import ParkingSystem.Violations.Issue
import ParkingSystem.Violations.StateMachine
import ParkingSystem.Violations.Refunds
import ParkingSystem.Violations.Offline
import ParkingSystem.Violations.OfflineDelivery
import ParkingSystem.Reports
import ParkingSystem.FinancialReports
import ParkingSystem.Gate.PlateReview
import ParkingSystem.Identity.Accounts
import ParkingSystem.Identity.Lockout
import ParkingSystem.Identity.Rotation
import ParkingSystem.Identity.Revocation
import ParkingSystem.Identity.Staff
import ParkingSystem.Identity.Administrators
import ParkingSystem.Registry.SheetRules
import ParkingSystem.Registry.Conflicts
import ParkingSystem.Registry.Requests
import ParkingSystem.Registry.ConflictQueue
import ParkingSystem.Registry.VehiclePlates
import ParkingSystem.Notifications
import ParkingSystem.Registry.Deletions
import ParkingSystem.CadMap.Spot
import ParkingSystem.CadMap.Import
import ParkingSystem.Library.Greedy
import ParkingSystem.CadMap.Refresh
import ParkingSystem.Simulator.Inside
import ParkingSystem.Gate.PaidStays
import ParkingSystem.Identity.Issued
import ParkingSystem.Frontend.PageSession
import ParkingSystem.Frontend.PageTraffic
import ParkingSystem.Realtime
import ParkingSystem.Record.Runs
import ParkingSystem.Frontend.LiveEvents
import ParkingSystem.SettingsJournal
import ParkingSystem.Camera.Poller
import ParkingSystem.Agent.ConfigPage
