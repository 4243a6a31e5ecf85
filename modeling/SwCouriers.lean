import SwCouriers.RefundRetries
import SwCouriers.AllocationReplacement
import SwCouriers.AllocationOwners
import SwCouriers.Lib.Checked
import SwCouriers.Lib.Runs
import SwCouriers.Lib.ReadCommitted
import SwCouriers.Lib.TransactionLogic
import SwCouriers.Lib.LooseWrites
import SwCouriers.Lib.Commands
import SwCouriers.Lib.Table
import SwCouriers.Lib.ActiveSlots
import SwCouriers.Lib.Decimal
import SwCouriers.Lib.DecimalText
import SwCouriers.Lib.Calendar
import SwCouriers.Common
import SwCouriers.Repository
import SwCouriers.BillingModel
import SwCouriers.Payments
import SwCouriers.AllocationWrites
import SwCouriers.AllocationLedger
import SwCouriers.Invoices
import SwCouriers.CreditNotes
import SwCouriers.Refunds
import SwCouriers.BillingEffects
import SwCouriers.BillingInvariant
import SwCouriers.ClosedInvoices
import SwCouriers.RefundConservation
import SwCouriers.StatementLedger
import SwCouriers.StatementAgreement
import SwCouriers.StatementPeriods
import SwCouriers.StatementScheduling
import SwCouriers.StatementTiling
import SwCouriers.Pricing
import SwCouriers.PricingAgreement
import SwCouriers.OrderModel
import SwCouriers.OrderService
import SwCouriers.OrderEffects
import SwCouriers.OrderRepricing
import SwCouriers.OrderInvoices
import SwCouriers.OrderReturns
import SwCouriers.ReturnLatch
import SwCouriers.CreditAccounts
import SwCouriers.CreditLedger
import SwCouriers.SettlementTxns
import SwCouriers.SettlementSafety
import SwCouriers.SettlementSchedules
import SwCouriers.ResolutionAgreement
import SwCouriers.OrderSoundness
import SwCouriers.EditHistory
import SwCouriers.TierDiscounts
import SwCouriers.StopExecution
import SwCouriers.StopEffects
import SwCouriers.ReturnOutcomes
import SwCouriers.CompletedStops
import SwCouriers.PickupPaths
import SwCouriers.CrewExclusivity
import SwCouriers.DriverShifts
import SwCouriers.ShiftCalendar
import SwCouriers.Lib.Double
import SwCouriers.Lib.Windows
import SwCouriers.Lib.Requests
import SwCouriers.Auth
import SwCouriers.AuthEffects
import SwCouriers.RouteGeometry
import SwCouriers.TraveledLegs
import SwCouriers.PlannedRouteCache
import SwCouriers.AccountLockout
import SwCouriers.AuthRuns
import SwCouriers.SessionCredentials
import SwCouriers.SessionIsolation
import SwCouriers.Permissions
import SwCouriers.PermissionCache
import SwCouriers.AuthTxns
import SwCouriers.AuthTxnEffects
import SwCouriers.AuthTxnWrites
import SwCouriers.SingleUse
import SwCouriers.RevokedSessions
import SwCouriers.PasswordReset
import SwCouriers.ResetCodes
import SwCouriers.StatementProgress
import SwCouriers.OneOffSchedules
import SwCouriers.CreditSettings
import SwCouriers.ScheduledSettings
import SwCouriers.CreditStatus
import SwCouriers.Lib.TransactionResults
import SwCouriers.CreditStatusHistory
import SwCouriers.Lib.TransactionParts
import SwCouriers.CreditApplications
import SwCouriers.CreditReviews
import SwCouriers.DraftIsolation
import SwCouriers.ReviewOrder
import SwCouriers.CreditDecisions
import SwCouriers.SuspensionRules
import SwCouriers.RuleOverlay
import SwCouriers.ActiveCustomisations
import SwCouriers.StatusAutomationRules
import SwCouriers.SuspensionRuns
import SwCouriers.StatementAging
import SwCouriers.VolumeTiers
import SwCouriers.PriceArithmetic
import SwCouriers.PriceMonotone
import SwCouriers.StatusResolution
import SwCouriers.VoidedPayments
import SwCouriers.Lib.Marked
import SwCouriers.PickupAddresses
import SwCouriers.PickupDefaults
import SwCouriers.AttemptSchedules
import SwCouriers.DeliveryAttempts
import SwCouriers.AutomationRuns
import SwCouriers.StatusAutomation
import SwCouriers.EntityLock
import SwCouriers.TransitionJobs
import SwCouriers.SuspensionMetrics
import SwCouriers.Webhooks
import SwCouriers.DisputeDeliveries
import SwCouriers.DisputeConvergence
import SwCouriers.Lib.Histories
import SwCouriers.Lib.Searches
import SwCouriers.NextRuns
import SwCouriers.SuspensionJob
import SwCouriers.Lib.Segments
import SwCouriers.RuleFormula
import SwCouriers.Lib.Spans
import SwCouriers.WorkSchedules
import SwCouriers.WeeklySync
import SwCouriers.Lib.Numbering
import SwCouriers.PodPhotos
import SwCouriers.Lib.Batches
import SwCouriers.Telematics
import SwCouriers.StatusCorrespondence
import SwCouriers.AllocationCandidates
import SwCouriers.Lib.Paging
import SwCouriers.PaidInvoices
import SwCouriers.Lib.Preferences
import SwCouriers.ServiceTiers
import SwCouriers.TierResolution
import SwCouriers.StatusTimelines
import SwCouriers.PresetPeriods
import SwCouriers.PresetPeriods
import SwCouriers.Downsampling
import SwCouriers.LegLines
import SwCouriers.Lib.Samples
import SwCouriers.Downsampling
import SwCouriers.LegLines
import SwCouriers.Lib.Padding
import SwCouriers.DocumentNumbers
import SwCouriers.CreditAlerts
import SwCouriers.AlertRuns
import SwCouriers.Lib.Buckets
import SwCouriers.Lib.IsoWeeks
import SwCouriers.CreditTrends
import SwCouriers.TrendPeriods
import SwCouriers.Lib.AttemptLimits
import SwCouriers.StepUp
import SwCouriers.StepUpRuns
import SwCouriers.DocAccess
import SwCouriers.DocumentShares
import SwCouriers.ShareAccess
import SwCouriers.ShareTraces
import SwCouriers.Invites
import SwCouriers.InviteTraces
import SwCouriers.InviteLimits
import SwCouriers.SavedCardRuns
