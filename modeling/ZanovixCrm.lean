import ZanovixCrm.Guarantees.Journal
import ZanovixCrm.Guarantees.LeadConversion
import ZanovixCrm.Guarantees.DefaultProfile
import ZanovixCrm.Guarantees.WriteAuthority
import ZanovixCrm.Guarantees.Races
import ZanovixCrm.Guarantees.Tenancy
import ZanovixCrm.Guarantees.Portal
import ZanovixCrm.Guarantees.Isolation
import ZanovixCrm.Guarantees.Revocation
import ZanovixCrm.Guarantees.Intake
import ZanovixCrm.Guarantees.Polling
import ZanovixCrm.Guarantees.Chat
import ZanovixCrm.Guarantees.Deduplication
import ZanovixCrm.Guarantees.PipelineView
import ZanovixCrm.Guarantees.TaxIdentifiers
import ZanovixCrm.Guarantees.FiscalIdentity
import ZanovixCrm.Guarantees.Conversion
import ZanovixCrm.Guarantees.Rejections
import ZanovixCrm.Guarantees.Storability
import ZanovixCrm.Guarantees.IntegrityErrors
import ZanovixCrm.Guarantees.SchemaAgreement
import ZanovixCrm.Guarantees.Reversibility
import ZanovixCrm.Guarantees.WireFormat
import ZanovixCrm.Guarantees.TypingErrors
import ZanovixCrm.Guarantees.Snapshots
import ZanovixCrm.Guarantees.RetryAfter
import ZanovixCrm.Guarantees.Pagination
import ZanovixCrm.Guarantees.PageParameters
import ZanovixCrm.Guarantees.ClientSearch
import ZanovixCrm.Guarantees.MilestoneNumbers
import ZanovixCrm.Guarantees.Dashboard
import ZanovixCrm.Guarantees.MessageDelivery
import ZanovixCrm.Guarantees.Filters
import ZanovixCrm.Guarantees.Versions
import ZanovixCrm.Guarantees.ReadBack
import ZanovixCrm.Guarantees.TransitionDialog
import ZanovixCrm.Guarantees.Retries
import ZanovixCrm.Guarantees.Seeding
