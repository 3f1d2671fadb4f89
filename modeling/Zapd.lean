import Zapd.Base.Transition
import Zapd.Base.Ledger
import Zapd.Base.View
import Zapd.Base.Text
import Zapd.Base.Utf8
import Zapd.Base.Reader
import Zapd.Base.Grammar
import Zapd.Base.Symbolic
import Zapd.Base.Files
import Zapd.Base.Permits
import Zapd.Base.Counted
import Zapd.Base.Sorted
import Zapd.Id
import Zapd.IdLaws
import Zapd.Codec.Frame
import Zapd.Codec.FrameLaws
import Zapd.Codec.Envelope
import Zapd.Codec.Ending
import Zapd.Codec.Stream
import Zapd.Codec.Control
import Zapd.Codec.ControlLaws
import Zapd.Codec.Grammar
import Zapd.Router.Capacity
import Zapd.Router.Model
import Zapd.Router.Steps
import Zapd.Router.Invariant
import Zapd.Router.Registry
import Zapd.Router.Progress
import Zapd.Router.Rejoin
import Zapd.Router.Welcome
import Zapd.Router.Routing
import Zapd.Router.Answers
import Zapd.Router.Effects
import Zapd.Router.Eviction
import Zapd.Router.Forwarding
import Zapd.Router.Listing
import Zapd.Router.Presence
import Zapd.Door.Model
import Zapd.Door.Steps
import Zapd.Door.Relay
import Zapd.Door.System
import Zapd.Door.Authority
import Zapd.Node.Model
import Zapd.Node.Steps
import Zapd.Node.Invariant
import Zapd.Node.Carried
import Zapd.Node.Inputs
import Zapd.Node.Correlation
import Zapd.Node.Network
import Zapd.Node.Authenticity
import Zapd.Elect.Model
import Zapd.Elect.Safety
import Zapd.Elect.Progress
import Zapd.Elect.Windows
import Zapd.Elect.WindowsSafety
import Zapd.Pair.Code
import Zapd.Pair.CodeLaws
import Zapd.Pair.Spelling
import Zapd.Pair.Handshake
import Zapd.Pair.Agreement
import Zapd.Pair.File
import Zapd.Pair.Publish
import Zapd.Pair.Minted
import Zapd.Pair.Reset
import Zapd.Pair.Revocation
import Zapd.Door.Front
import Zapd.Door.Admission
import Zapd.Node.Registration
import Zapd.Node.Ls
import Zapd.Node.Snapshot
import Zapd.Node.Parting
import Zapd.Node.Rejoin
import Zapd.Node.Return
import Zapd.Node.Cluster
import Zapd.Node.Takeover
