import Uplink.Live.Session
import Uplink.Remote.Rehearsal
import Uplink.Proofs.Modem.Completion
import Uplink.Proofs.Service.Convergence
import Uplink.Proofs.Sim.PendingPuk
import Uplink.Proofs.Tracker.Publication
import Uplink.Proofs.Modem.Totals
import Uplink.Proofs.Service.Enumeration
import Uplink.Proofs.Sim.Overtaking
import Uplink.Proofs.Live.Subscriptions
import Uplink.Proofs.Service.Issue
import Uplink.Proofs.Modem.Course
import Uplink.Proofs.Modem.Attachment
import Uplink.Proofs.Modem.Agreement
import Uplink.Proofs.Tracker.Calls
import Uplink.Proofs.Service.Transition
import Uplink.Proofs.Tracker.Continuation
import Uplink.Proofs.Service.Passphrase
import Uplink.Proofs.Service.Provider
import Uplink.Proofs.Service.LastActive
import Uplink.Proofs.Modem.Unlocking
import Uplink.Proofs.Sim.Secrecy
import Uplink.Proofs.Tracker.Replies
import Uplink.Proofs.Modem.Locality
import Uplink.Proofs.Service.Locality
import Uplink.Proofs.Tracker.Absence
import Uplink.Proofs.Tracker.Independence
import Uplink.Proofs.Service.Difference
import Uplink.Proofs.Service.Replay
import Uplink.Proofs.Service.Configuration
import Uplink.Proofs.Live.Arrivals
import Uplink.Proofs.Tracker.Refusal
import Uplink.Proofs.Tracker.Unblocking
import Uplink.Proofs.Modem.Retention
import Uplink.Proofs.Tracker.Listing
import Uplink.Proofs.Tracker.Layers
import Uplink.Proofs.Cellular.Settings
import Uplink.Proofs.Cellular.SettingUp
import Uplink.Proofs.Live.Monitoring
