import Rendezvous.Main
import Rendezvous.Packet.Reading
import Rendezvous.Proofs.Session.Members
import Rendezvous.Proofs.Session.Cancellations
import Rendezvous.Proofs.Registry.Run
import Rendezvous.Proofs.Session.Mesh
import Rendezvous.Proofs.Server.Isolation
import Rendezvous.Proofs.Server.Retries
import Rendezvous.Proofs.Session.Redelivery
import Rendezvous.Proofs.Session.Matching
import Rendezvous.Proofs.Session.Settled
import Rendezvous.Proofs.Registry.Race
import Rendezvous.Proofs.Server.Expiry
import Rendezvous.Proofs.Server.Lifetime
import Rendezvous.Proofs.Registry.Links
import Rendezvous.Proofs.Server.Failures
import Rendezvous.Proofs.Server.Requests
import Rendezvous.Proofs.Server.Schedule
import Rendezvous.Proofs.Server.Traffic
import Rendezvous.Proofs.Session.Delivery
import Rendezvous.Proofs.Packet.Init
import Rendezvous.Proofs.Packet.Header
import Rendezvous.Proofs.Packet.Report
import Rendezvous.Proofs.Session.Truncation
import Rendezvous.Proofs.Server.Truncation
import Rendezvous.Proofs.Server.Replies
import Rendezvous.Proofs.Server.Reflection
import Rendezvous.Proofs.Session.Probes
import Rendezvous.Proofs.Session.Frame
import Rendezvous.Proofs.Server.Counters
import Rendezvous.Proofs.Packet.Reading
import Rendezvous.Proofs.Packet.Grammar
import Rendezvous.Proofs.Session.Duplicates
import Rendezvous.Proofs.Session.Reminders
import Rendezvous.Proofs.Text.Replacement
import Rendezvous.Proofs.Text.NulTerminated
import Rendezvous.Proofs.Packet.Layout
import Rendezvous.Proofs.Packet.Connect
