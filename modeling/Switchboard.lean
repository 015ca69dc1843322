import Switchboard.Main
import Switchboard.Proofs.Answering
import Switchboard.Proofs.Completion
import Switchboard.Proofs.Injection.Providers
import Switchboard.Proofs.Precedence
import Switchboard.Proofs.Predicate.Composition
import Switchboard.Proofs.Predicate.Parsing
import Switchboard.Proofs.Redeployment
import Switchboard.Proofs.Reordering
import Switchboard.Proofs.Shadowing
import Switchboard.Proofs.Shutdown
import Switchboard.Proofs.Startup
import Switchboard.Proofs.Template.Breadth
import Switchboard.Proofs.Template.Rendering
import Switchboard.Proofs.Traffic
import Switchboard.Proofs.Upkeep
import Switchboard.Proofs.Validation
import Switchboard.Proofs.Query
import Switchboard.Proofs.Registration.Acceptance
import Switchboard.Proofs.Template.Language
import Switchboard.Proofs.Predicate.Cursor
import Switchboard.Proofs.Predicate.Safety
import Switchboard.Proofs.Overwriting
import Switchboard.Proofs.Predicate.Prefix
import Switchboard.Proofs.Reporting
