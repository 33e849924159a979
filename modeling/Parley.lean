import Parley.Chat.Client
import Parley.Chat.Room
import Parley.Console.Client
import Parley.Console.Server
import Parley.Endpoint
import Parley.Envelope.Codec
import Parley.Fault
import Parley.Hall.Basic
import Parley.Link.Basic
import Parley.Main
import Parley.Script
import Parley.Service
import Parley.Settings.Client
import Parley.Settings.Server
import Parley.Proofs.Move
import Parley.Proofs.Course
import Parley.Proofs.Ledger
import Parley.Proofs.Accounted
import Parley.Proofs.LifeCycle
import Parley.Proofs.Listening
import Parley.Proofs.Outgoing
import Parley.Proofs.Grammar
import Parley.Proofs.RoundTrip
import Parley.Proofs.Malformed
import Parley.Proofs.Traversal
import Parley.Proofs.Departure
import Parley.Proofs.Vigil
import Parley.Proofs.Canonical
import Parley.Proofs.Writing
import Parley.Proofs.Silence
import Parley.Proofs.Room
import Parley.Proofs.Closing
import Parley.Proofs.Dispatch
import Parley.Proofs.Waits
import Parley.Proofs.Reply
import Parley.Proofs.Batching
import Parley.Proofs.Fidelity
import Parley.Proofs.Utterance
import Parley.Proofs.Welcome
import Parley.Proofs.Hearsay
import Parley.Proofs.Attendance
import Parley.Proofs.Pursuit
import Parley.Proofs.Conduct
import Parley.Proofs.Ghosts
import Parley.Proofs.Crew
import Parley.Proofs.Roster
import Parley.Proofs.Outline
import Parley.Proofs.Settling
import Parley.Proofs.Issuing
import Parley.Proofs.Failing
import Parley.Proofs.Mirroring
import Parley.Proofs.Lettering
import Parley.Proofs.Legible
import Parley.Proofs.Offering
import Parley.Proofs.Fitting
import Parley.Proofs.Bounds
import Parley.Proofs.Sizes
