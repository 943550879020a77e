import OmniSwitch.Ledger.Clawbacks
import OmniSwitch.Concurrency.Reversals
import OmniSwitch.Concurrency.Cancelling
import OmniSwitch.Concurrency.ExecutesOnce
import OmniSwitch.Routing.Selection
import OmniSwitch.RefundOutcomes
import OmniSwitch.DisputeCoverage
import OmniSwitch.UnpaidPayments
import OmniSwitch.Payouts.Transfers
import OmniSwitch.Payouts.Visibility
import OmniSwitch.Delegations.MonthlyCap
import OmniSwitch.Subscriptions.Cancellation
import OmniSwitch.Delegations.Revocation
import OmniSwitch.Concurrency.Reserves
import OmniSwitch.Breaker.Recovery
import OmniSwitch.Breaker.Probes
import OmniSwitch.Bnpl.Returned
import OmniSwitch.Merchant.Security
import OmniSwitch.Merchant.FlagOrigins
import OmniSwitch.Merchant.BackupCodes
import OmniSwitch.Merchant.FeeTiers
import OmniSwitch.Sanctions.SdnList
import OmniSwitch.Auth.AgentTokens
import OmniSwitch.Auth.AdyenWebhookGuard
import OmniSwitch.Retention.ClosedPeriods
import OmniSwitch.Retention.Figures
import OmniSwitch.Retention.Holds
import OmniSwitch.Subscriptions.Proration
import OmniSwitch.Services.ReserveTopUp
import OmniSwitch.Payouts.SweepLock
import OmniSwitch.SavedPayments
import OmniSwitch.DeclineCodes
import OmniSwitch.Subscriptions.Periods
import OmniSwitch.Semaphore
import OmniSwitch.ManualCapture
