import ServiceDiscovery.Logging.Template
import ServiceDiscovery.Main
import ServiceDiscovery.Proofs.Admitting
import ServiceDiscovery.Proofs.Advertisement
import ServiceDiscovery.Proofs.Announcer
import ServiceDiscovery.Proofs.Announcing
import ServiceDiscovery.Proofs.Attribution
import ServiceDiscovery.Proofs.Closing
import ServiceDiscovery.Proofs.ClosingFaults
import ServiceDiscovery.Proofs.Converging
import ServiceDiscovery.Proofs.Cycling
import ServiceDiscovery.Proofs.Deadline
import ServiceDiscovery.Proofs.Declining
import ServiceDiscovery.Proofs.Discoverers
import ServiceDiscovery.Proofs.Dispatching
import ServiceDiscovery.Proofs.Endpoints
import ServiceDiscovery.Proofs.ExitStatus
import ServiceDiscovery.Proofs.FailedAnnouncements
import ServiceDiscovery.Proofs.InRange
import ServiceDiscovery.Proofs.Leaving
import ServiceDiscovery.Proofs.Locations
import ServiceDiscovery.Proofs.Normalizing
import ServiceDiscovery.Proofs.Numbering
import ServiceDiscovery.Proofs.Operating
import ServiceDiscovery.Proofs.Overriding
import ServiceDiscovery.Proofs.OwnName
import ServiceDiscovery.Proofs.Peer
import ServiceDiscovery.Proofs.Phases
import ServiceDiscovery.Proofs.Precedence
import ServiceDiscovery.Proofs.Presence
import ServiceDiscovery.Proofs.Pumping
import ServiceDiscovery.Proofs.Raising
import ServiceDiscovery.Proofs.Rejecting
import ServiceDiscovery.Proofs.RemoteRecords
import ServiceDiscovery.Proofs.Rendezvous
import ServiceDiscovery.Proofs.Resolvable
import ServiceDiscovery.Proofs.Resolving
import ServiceDiscovery.Proofs.Runs
import ServiceDiscovery.Proofs.Scheduling
import ServiceDiscovery.Proofs.Searching
import ServiceDiscovery.Proofs.Selecting
import ServiceDiscovery.Proofs.ServiceTypes
import ServiceDiscovery.Proofs.Site
import ServiceDiscovery.Proofs.StartFailures
import ServiceDiscovery.Proofs.Subtypes
import ServiceDiscovery.Proofs.Tracking
import ServiceDiscovery.Proofs.Traffic
import ServiceDiscovery.Proofs.Transcript
import ServiceDiscovery.Proofs.Transports
import ServiceDiscovery.Proofs.Trimming
import ServiceDiscovery.Proofs.TxtCapacity
import ServiceDiscovery.Proofs.TxtGrammar
import ServiceDiscovery.Proofs.TxtRecord
import ServiceDiscovery.Proofs.Withdrawing
import ServiceDiscovery.Settings.Written
import ServiceDiscovery.Simulation.Endpoints
import ServiceDiscovery.Simulation.Journal
import ServiceDiscovery.Simulation.Listing
import ServiceDiscovery.Simulation.Rehearsal
import ServiceDiscovery.Simulation.Setup
import ServiceDiscovery.Simulation.Watching
