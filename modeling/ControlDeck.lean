import ControlDeck.Command.Decoders
import ControlDeck.Main
import ControlDeck.Proofs.Execution
import ControlDeck.Proofs.Steps
import ControlDeck.Proofs.Releases
import ControlDeck.Proofs.Journal
import ControlDeck.Proofs.Shutdown
import ControlDeck.Proofs.Rounds
import ControlDeck.Proofs.Deadlines
import ControlDeck.Proofs.Turns
import ControlDeck.Proofs.Accounts
import ControlDeck.Proofs.Draining
import ControlDeck.Proofs.Cells
import ControlDeck.Proofs.Moments
import ControlDeck.Proofs.Independence
import ControlDeck.Proofs.Trains
import ControlDeck.Proofs.Caching
import ControlDeck.Proofs.Sequence
import ControlDeck.Proofs.Requests
import ControlDeck.Proofs.Scanning
import ControlDeck.Proofs.Spelling
import ControlDeck.Proofs.Occurrences
import ControlDeck.Proofs.Precedence
import ControlDeck.Proofs.Replaying
import ControlDeck.Proofs.Confinement
import ControlDeck.Proofs.Isolation
import ControlDeck.Proofs.Sessions
import ControlDeck.Proofs.Wakeups
import ControlDeck.Proofs.Contacts
import ControlDeck.Proofs.Touches
import ControlDeck.Proofs.Holdings
import ControlDeck.Proofs.Losses
import ControlDeck.Proofs.Leftovers
import ControlDeck.Proofs.Recasing
import ControlDeck.Proofs.Spacing
import ControlDeck.Proofs.Words
import ControlDeck.Proofs.Integers
import ControlDeck.Proofs.Lines
import ControlDeck.Proofs.Lifetimes
import ControlDeck.Proofs.Inputs
import ControlDeck.Proofs.Overrides
