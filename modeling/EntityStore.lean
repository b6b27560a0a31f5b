import EntityStore.Main
import EntityStore.Proofs.Admission
import EntityStore.Proofs.Ledger
import EntityStore.Proofs.RoundTrip
import EntityStore.Proofs.Recall
import EntityStore.Proofs.Realized
import EntityStore.Proofs.Sessions
import EntityStore.Proofs.Transparency
import EntityStore.Proofs.Recovery
import EntityStore.Proofs.Racing
import EntityStore.Proofs.Indexing
import EntityStore.Proofs.Encryption
import EntityStore.Proofs.Isolation
import EntityStore.Proofs.Remembering
import EntityStore.Proofs.Restarts
import EntityStore.Proofs.Checking
import EntityStore.Proofs.Changing
import EntityStore.Proofs.Rereading
import EntityStore.Proofs.Refining
import EntityStore.Proofs.Escaping
import EntityStore.Proofs.Reordering
import EntityStore.Proofs.Printing
import EntityStore.Proofs.Documented
import EntityStore.Proofs.Loading
import EntityStore.Proofs.Room
import EntityStore.Proofs.Timeouts
import EntityStore.Proofs.Verdicts
import EntityStore.Proofs.Secrecy
import EntityStore.Proofs.Arguments
import EntityStore.Proofs.Naming
import EntityStore.Proofs.GeneratedNames
import EntityStore.Proofs.MailAddresses
import EntityStore.Proofs.KeyMessages
import EntityStore.Proofs.Widths
import EntityStore.Proofs.Telling
import EntityStore.Proofs.Dumping
