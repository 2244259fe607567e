import Btcr2Aggregation.Library.InsertionMap
import Btcr2Aggregation.Library.Machine
import Btcr2Aggregation.Service.FundingClocks
import Btcr2Aggregation.Service.KillSwitch
import Btcr2Aggregation.Service.Conservation
import Btcr2Aggregation.Service.RunnerLibrary
import Btcr2Aggregation.Service.AdvertSlotLaw
import Btcr2Aggregation.Service.AcceptanceCheck
import Btcr2Aggregation.Service.BroadcastRuns
import Btcr2Aggregation.Service.CompletionLog
import Btcr2Aggregation.Service.CompletionRecords
import Btcr2Aggregation.Service.PublicFunding
import Btcr2Aggregation.Service.TestPeerSeats
import Btcr2Aggregation.Service.Dismissal
import Btcr2Aggregation.Service.CanceledFates
import Btcr2Aggregation.Service.SettingsRuns
import Btcr2Aggregation.Service.DefaultDrafts
import Btcr2Aggregation.Service.WindowRules
import Btcr2Aggregation.Service.LiveSpend
import Btcr2Aggregation.Service.PersistedCohorts
import Btcr2Aggregation.Service.LapseCauses
import Btcr2Aggregation.Service.MemberRuns
import Btcr2Aggregation.Service.LoginThrottle
import Btcr2Aggregation.Participant.UpdateProvider
import Btcr2Aggregation.Web.RoundIsolation
import Btcr2Aggregation.Web.RegistrationIsolation
import Btcr2Aggregation.Web.Membership
import Btcr2Aggregation.Web.TermsGate
import Btcr2Aggregation.Web.ConsoleIsolation
import Btcr2Aggregation.Web.ConsoleOrder
import Btcr2Aggregation.Web.ResolveRounds
import Btcr2Aggregation.Web.SignedPsbt
import Btcr2Aggregation.Web.EndpointRuns
import Btcr2Aggregation.Web.Journey
import Btcr2Aggregation.Service.Roster
import Btcr2Aggregation.Service.AcceptanceRestarts
import Btcr2Aggregation.Service.PinRuns
import Btcr2Aggregation.Service.SettingsBody
import Btcr2Aggregation.Service.ResolveWrites
import Btcr2Aggregation.Service.OperatorGate
import Btcr2Aggregation.Service.GenesisCapture
import Btcr2Aggregation.Service.AnchorReads
import Btcr2Aggregation.Service.StaticSite
import Btcr2Aggregation.Web.ConsoleRows
import Btcr2Aggregation.Web.Lifecycle
import Btcr2Aggregation.Service.ArtifactRoutes
import Btcr2Aggregation.Web.OperatorClient
import Btcr2Aggregation.Service.DraftPrivacy
