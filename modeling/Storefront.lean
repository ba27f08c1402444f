import Storefront.Core.Values
import Storefront.Core.Money
import Storefront.Core.Exn
import Storefront.Text.Strings
import Storefront.Text.Substitution
import Storefront.Core.CamelCase
import Storefront.Models.Statuses
import Storefront.Relational.Table
import Storefront.Models.Rows
import Storefront.Transition.Outcome
import Storefront.Models.Database
import Storefront.Models.Fields
import Storefront.Relational.Parts
import Storefront.Relational.RowSecurity
import Storefront.Relational.Components
import Storefront.Transition.Machine
import Storefront.Transition.Alike
import Storefront.Transition.History
import Storefront.Transition.Dispenser
import Storefront.Text.Uuid
import Storefront.Coupons.Coupon
import Storefront.Catalog.Products
import Storefront.Coupons.Admin
import Storefront.Carts.Totals
import Storefront.Carts.Service
import Storefront.Coupons.Discounts
import Storefront.Coupons.Codes
import Storefront.Carts.Closed
import Storefront.Carts.Contents
import Storefront.Carts.Preview
import Storefront.Carts.Prices
import Storefront.Carts.Codes
import Storefront.Carts.Monotone
import Storefront.Ledger.Holds
import Storefront.Locking.Programs
import Storefront.Locking.Sessions
import Storefront.Locking.Accounts
import Storefront.Locking.Deadlock
import Storefront.Tenants.Tenant
import Storefront.Tenants.Resolver
import Storefront.Orders.Inventory
import Storefront.Payments.Gateways
import Storefront.Payments.Service
import Storefront.Orders.Checkout
import Storefront.Customers.Accounts
import Storefront.Customers.DefaultMethods
import Storefront.Orders.Reservations
import Storefront.Orders.Phases
import Storefront.Orders.Saga
import Storefront.Orders.StockLedger
import Storefront.Orders.Compensation
import Storefront.Orders.CouponUse
import Storefront.Orders.CouponRace
import Storefront.Orders.ReleaseRace
import Storefront.Orders.ReserveRace
import Storefront.Orders.Snapshot
import Storefront.Orders.ProductLocks
import Storefront.Orders.CouponLocks
import Storefront.Orders.SweepLocks
import Storefront.Orders.InvoiceTask
import Storefront.Orders.InvoiceNumbers
import Storefront.Payments.Tasks
import Storefront.Payments.Webhook
import Storefront.Payments.Stripe
import Storefront.Queueing.Rounds
import Storefront.Isolation.Split
import Storefront.Isolation.Beside
import Storefront.Isolation.CartRequests
import Storefront.Isolation.Blocks
import Storefront.Isolation.Checkouts
import Storefront.System.Machine
import Storefront.System.Effects
import Storefront.System.Ownership
import Storefront.System.Owners
import Storefront.System.Changes
import Storefront.System.Invoices
import Storefront.System.PaymentLife
import Storefront.System.OrderLife
import Storefront.System.PaidOrders
import Storefront.System.CancelledOrders
import Storefront.System.CartLife
import Storefront.System.Offers
import Storefront.System.Shopping
import Storefront.System.CartContents
import Storefront.System.CartCoupons
import Storefront.System.PendingOrders
import Storefront.System.PaidStock
import Storefront.System.Idempotency
import Storefront.System.Returns
import Storefront.System.Lines
import Storefront.System.CartVersions
import Storefront.System.Deliveries
import Storefront.System.CartReturns
import Storefront.System.CouponCurrency
import Storefront.System.HeldCarts
import Storefront.System.StockFlow
import Storefront.System.NeutralCancel
import Storefront.System.OneSnapshot
import Storefront.System.OwnOrders
import Storefront.System.PurchaseOrders
import Storefront.System.ReconciledOrders
import Storefront.System.Requests
import Storefront.System.StripeEvents
import Storefront.System.Sweeps
import Storefront.System.CouponPages
import Storefront.System.CouponLimits
import Storefront.System.CouponCodes
import Storefront.System.Discounts
import Storefront.System.Previews
import Storefront.System.IdleCarts
import Storefront.System.PurchaseCredit
import Storefront.System.PaymentKeys
import Storefront.System.ExpirySweep
import Storefront.System.SweepSummary
import Storefront.System.Isolation
import Storefront.System.CartHolds
import Storefront.System.Crashes
import Storefront.System.Orphans
import Storefront.System.Placements
import Storefront.System.OrderNumbers
import Storefront.System.InvoiceJobs
import Storefront.System.InvoiceFlow
import Storefront.Tenancy.Records
import Storefront.Tenancy.Kinds
import Storefront.Tenancy.Programs
import Storefront.Tenancy.Layers
import Storefront.Tenancy.Worker
import Storefront.Tenancy.Confinement
import Storefront.Tenancy.Admission
import Storefront.Tenancy.CrossTenant
import Storefront.Iam.Accounts
import Storefront.Iam.Sessions
import Storefront.Iam.Provisioning
