import Enrolment.Http.Panic
import Enrolment.Json.Access
import Enrolment.Json.Pointer
import Enrolment.Limiter.Sweeper
import Enrolment.Main
import Enrolment.Proofs.Activation.Bookkeeping
import Enrolment.Proofs.Activation.Contacts
import Enrolment.Proofs.Activation.Interrupted
import Enrolment.Proofs.Activation.LinkPath
import Enrolment.Proofs.Activation.Outcomes
import Enrolment.Proofs.Activation.Provenance
import Enrolment.Proofs.Activation.Sponsors
import Enrolment.Proofs.Cipher.Exactness
import Enrolment.Proofs.Claims.WireFormat
import Enrolment.Proofs.Http.Failures
import Enrolment.Proofs.Http.Impostors
import Enrolment.Proofs.Http.Keys
import Enrolment.Proofs.Http.Labels
import Enrolment.Proofs.Http.ListServed
import Enrolment.Proofs.Limiter.Forgetting
import Enrolment.Proofs.Limiter.Greedy
import Enrolment.Proofs.Limiter.Isolation
import Enrolment.Proofs.Limiter.Schedule
import Enrolment.Proofs.Limiter.Spending
import Enrolment.Proofs.Limiter.Tracking
import Enrolment.Proofs.Participant.Export
import Enrolment.Proofs.Server.Shutdown
import Enrolment.Proofs.Settings.Overrides
import Enrolment.Proofs.Store.Binding
import Enrolment.Proofs.Token.Armour
import Enrolment.Proofs.Token.SharedSecrets
import Enrolment.Proofs.Token.Uniqueness
import Enrolment.Proofs.Token.Windows
import Enrolment.Server.Running
import Enrolment.Settings.Writing
import Enrolment.Proofs.Server.Front
import Enrolment.Proofs.Server.Turns
