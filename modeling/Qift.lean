import Qift.Lib.Table
import Qift.Lib.Interleaving
import Qift.Lib.Transaction
import Qift.Lib.Frame
import Qift.Lib.Waterfall
import Qift.Lib.Escrow
import Qift.Lib.Proration
import Qift.Lib.Sorting
import Qift.Lib.Ranks
import Qift.Lib.Reading
import Qift.Lib.Delegate
import Qift.Lib.Toll
import Qift.Lib.Proviso
import Qift.Lib.Serial
import Qift.Lib.Agreement
import Qift.Lib.Row
import Qift.Lib.Strip
import Qift.Lib.Collapse
import Qift.Lib.Settling
import Qift.Lib.Tally
import Qift.Lib.Zoom
import Qift.Lib.Bulk
import Qift.Runtime
import Qift.Fees.Money
import Qift.Settlement.States
import Qift.Fees.TaxEngine
import Qift.Fees.VatArithmetic
import Qift.Settlement.Calculator
import Qift.Settlement.Statement
import Qift.Settlement.ExecutionBinding
import Qift.Database
import Qift.Site
import Qift.Financial.Ledger
import Qift.Settlement.Engine
import Qift.Settlement.Planning
import Qift.Settlement.Assembly
import Qift.Settlement.Closing
import Qift.Settlement.Eligibility
import Qift.Settlement.Receipts
import Qift.Settlement.CreditNote
import Qift.Settlement.ApprovalPolicy
import Qift.Settlement.Refunds
import Qift.Settlement.RefundRequests
import Qift.Settlement.Execution
import Qift.References.Reference
import Qift.Treasury.Snapshot
import Qift.Treasury.InternalTransfer
import Qift.Treasury.Reconciliation
import Qift.Treasury.Balance
import Qift.System
import Qift.Requests
import Qift.Books
import Qift.Later
import Qift.Postings
import Qift.Recoveries
import Qift.Dues
import Qift.Caps
import Qift.Custody
import Qift.Documents
import Qift.Archive
import Qift.Collections
import Qift.Takings
import Qift.Derivation
import Qift.Guarantee
import Qift.Guarantee.Environment
import Qift.Guarantee.Transfers
import Qift.Guarantee.Engine
import Qift.Guarantee.Money
import Qift.Guarantee.Refunds
import Qift.Guarantee.Requests
import Qift.Guarantee.Execution
import Qift.Guarantee.Program
import Qift.Guarantee.Archive
import Qift.Runs.Invoices
import Qift.Runs.Batches
import Qift.Runs.Receivables
import Qift.Runs.Treasury
import Qift.Runs.Transfers
import Qift.Runs.Statements
import Qift.Runs.Approvals
import Qift.Runs.Requests
import Qift.Runs.Refunds
import Qift.Runs.Revenue
import Qift.Runs.Executions
import Qift.Runs.CreditNotes
import Qift.Runs.Audits
import Qift.Runs.Clawbacks
import Qift.Portal.Phone
import Qift.Portal.State
import Qift.Portal.Otp
import Qift.Portal.BetaAccess
import Qift.Portal.Auth
import Qift.Portal.Claims
import Qift.Portal.Accounts
import Qift.Portal.Invitations
import Qift.Portal.SingleUse
import Qift.Portal.Guesses
import Qift.Canonical
import Qift.Treasury.Order
import Qift.Shop.State
import Qift.Shop.Gifts
import Qift.Shop.Payments
import Qift.Shop.Counter
import Qift.Shop.SelfHeal
import Qift.Shop.Charges
import Qift.Shop.Idempotency
import Qift.Corporate.Invoice
import Qift.Runs.Series
import Qift.Market.State
import Qift.Market.Coverage
import Qift.Market.Checkout
import Qift.Market.Payee
import Qift.Market.Zones
import Qift.Market.Folding
import Qift.Market.Delivery
import Qift.Gifting.State
import Qift.Gifting.Visibility
import Qift.Gifting.Service
import Qift.Gifting.Posts
import Qift.Gifting.Fulfillment
import Qift.Gifting.Journey
import Qift.Gifting.Twins
import Qift.Gifting.Parallel
import Qift.Gifting.Timeline
import Qift.Gifting.Secrecy
import Qift.Gifting.Anonymity
import Qift.Onboarding.State
import Qift.Onboarding.Service
import Qift.Onboarding.Effects
import Qift.Onboarding.Approval
import Qift.Onboarding.VatFacts
import Qift.Social.Exclusion
import Qift.Addresses.Defaults
import Qift.Addresses.Wakeups
import Qift.Gifting.Writes
import Qift.Gifting.Side
import Qift.Gifting.Adverts
import Qift.Tallies.Service
import Qift.Tallies.Effects
import Qift.Tallies.Counting
import Qift.Tallies.Balance
import Qift.Tallies.Agreement
import Qift.Organizations.Service
import Qift.Organizations.Review
import Qift.Campaigns.Roster
import Qift.Campaigns.Csv
import Qift.Campaigns.Lifecycle
import Qift.Campaigns.Lifespan
import Qift.Campaigns.Lines
import Qift.Campaigns.Headers
import Qift.Campaigns.State
import Qift.Campaigns.Service
import Qift.Campaigns.Dispatch
import Qift.Campaigns.Claiming
import Qift.Campaigns.Reports
import Qift.Campaigns.Program
import Qift.Campaigns.Effects
import Qift.Campaigns.Paths
import Qift.Campaigns.Retention
import Qift.Campaigns.Funnel
import Qift.Campaigns.Discretion
import Qift.Notifications.State
import Qift.Notifications.Orchestrator
import Qift.Notifications.Budget
import Qift.Notifications.Digest
import Qift.Notifications.Summaries
import Qift.Lib.Gregorian
import Qift.Occasions.Dates
import Qift.Occasions.Recurrence
import Qift.Occasions.Service
import Qift.Occasions.Resolvable
import Qift.Occasions.Least
import Qift.Occasions.Feed
import Qift.Occasions.Cycle
import Qift.Reminders.Worker
import Qift.Reminders.Effects
import Qift.Reminders.Once
import Qift.Reminders.Day
import Qift.Portal.Spellings
import Qift.Portal.PhoneSearch
import Qift.Lib.Notes
import Qift.Lib.Part
import Qift.Corporate.LegalReference
import Qift.Products.Gallery
import Qift.Products.InStep
import Qift.Lib.Windows
import Qift.RateLimiter
import Qift.IpRateLimit
import Qift.Redaction
