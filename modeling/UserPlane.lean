import UserPlane.Address.Ip
import UserPlane.Address.Network
import UserPlane.Address.Reading
import UserPlane.Address.Socket
import UserPlane.Address.Text
import UserPlane.Association
import UserPlane.BitField
import UserPlane.Config
import UserPlane.Config.Reading
import UserPlane.Element.Cause
import UserPlane.Element.FTeid
import UserPlane.Element.Interface
import UserPlane.Element.NodeFacts
import UserPlane.Element.NodeId
import UserPlane.Element.OuterHeader
import UserPlane.Element.RuleId
import UserPlane.Element.SdfFilter
import UserPlane.Element.Treatment
import UserPlane.Element.UeIpAddress
import UserPlane.Flow
import UserPlane.Message
import UserPlane.Message.Header
import UserPlane.Message.Node
import UserPlane.Message.Session
import UserPlane.Message.Walk
import UserPlane.Metrics
import UserPlane.Node
import UserPlane.Node.Associations
import UserPlane.Node.Dispatch
import UserPlane.Node.Liveness
import UserPlane.Node.Reply
import UserPlane.Node.Running
import UserPlane.Node.Sessions
import UserPlane.Octets
import UserPlane.Plane
import UserPlane.Plane.SlotTracker
import UserPlane.Plane.Slots
import UserPlane.Pool
import UserPlane.Pool.Cursor
import UserPlane.Proofs.Address.Grammar
import UserPlane.Proofs.Address.Network
import UserPlane.Proofs.Address.Text
import UserPlane.Proofs.Element.NodeNames
import UserPlane.Proofs.Element.Rereading
import UserPlane.Proofs.Element.RoundTrip
import UserPlane.Proofs.Flow
import UserPlane.Proofs.Flow.Ports
import UserPlane.Proofs.Message.Fields
import UserPlane.Proofs.Message.Framing
import UserPlane.Proofs.Message.HeaderOctets
import UserPlane.Proofs.Message.Rereading
import UserPlane.Proofs.Message.RoundTrip
import UserPlane.Proofs.Message.Sizes
import UserPlane.Proofs.Node.Acceptance
import UserPlane.Proofs.Node.Addressing
import UserPlane.Proofs.Node.Admission
import UserPlane.Proofs.Node.Calls
import UserPlane.Proofs.Node.Chains
import UserPlane.Proofs.Node.Counting
import UserPlane.Proofs.Node.Disclosure
import UserPlane.Proofs.Node.Endings
import UserPlane.Proofs.Node.Freshness
import UserPlane.Proofs.Node.Heartbeats
import UserPlane.Proofs.Node.Holdings
import UserPlane.Proofs.Node.Identities
import UserPlane.Proofs.Node.Interference
import UserPlane.Proofs.Node.Ledger
import UserPlane.Proofs.Node.Merging
import UserPlane.Proofs.Node.Numbering
import UserPlane.Proofs.Node.Outgrowing
import UserPlane.Proofs.Node.Readable
import UserPlane.Proofs.Node.Referring
import UserPlane.Proofs.Node.Rejections
import UserPlane.Proofs.Node.Replies
import UserPlane.Proofs.Node.Run
import UserPlane.Proofs.Node.SlotOwnership
import UserPlane.Proofs.Node.Tenure
import UserPlane.Proofs.Plane.Calls
import UserPlane.Proofs.Plane.FreeSet
import UserPlane.Proofs.Plane.SlotTracker
import UserPlane.Proofs.Plane.Slots
import UserPlane.Proofs.Pool
import UserPlane.Proofs.Pool.Conservation
import UserPlane.Proofs.Pool.FreeLists
import UserPlane.Proofs.Pool.Grants
import UserPlane.Proofs.Pool.Returns
import UserPlane.Proofs.Rule.Rereading
import UserPlane.Proofs.Rule.RoundTrip
import UserPlane.Proofs.Session.Admission
import UserPlane.Proofs.Session.Atomicity
import UserPlane.Proofs.Session.Clearing
import UserPlane.Proofs.Session.Confinement
import UserPlane.Proofs.Session.Disclosure
import UserPlane.Proofs.Session.Dismantling
import UserPlane.Proofs.Session.Footprint
import UserPlane.Proofs.Session.Life
import UserPlane.Proofs.Session.Merging
import UserPlane.Proofs.Session.Provenance
import UserPlane.Proofs.Session.References
import UserPlane.Proofs.Session.Reordering
import UserPlane.Proofs.Session.Repetition
import UserPlane.Proofs.Session.Reports
import UserPlane.Proofs.Session.Rules
import UserPlane.Proofs.Session.Search
import UserPlane.Proofs.Session.Stock
import UserPlane.Proofs.Session.Succession
import UserPlane.Proofs.Session.Supply
import UserPlane.Proofs.Session.Work
import UserPlane.Proofs.Table
import UserPlane.Proofs.Wire.Fields
import UserPlane.Proofs.Wire.Rereading
import UserPlane.Proofs.Wire.RoundTrip
import UserPlane.Proofs.Wire.Sizes
import UserPlane.Proofs.Wire.Visiting
import UserPlane.Rule.Detection
import UserPlane.Rule.Forwarding
import UserPlane.Rule.Quality
import UserPlane.Session
import UserPlane.Session.Release
import UserPlane.Session.Rules
import UserPlane.Session.Treatment
import UserPlane.Table
import UserPlane.Text.Hex
import UserPlane.Text.Numeral
import UserPlane.Text.Printable
import UserPlane.Text.Quoted
import UserPlane.Text.Utf8
import UserPlane.Text.Words
import UserPlane.Wire.Body
import UserPlane.Wire.Coded
import UserPlane.Wire.Element
import UserPlane.Wire.Fault
import UserPlane.Wire.Reader
import UserPlane.Wire.Shape
import UserPlane.Yaml.Node
import UserPlane.Yaml.Place
import UserPlane.Yaml.Scalar
import UserPlane.Yaml.Tag
import UserPlane.Yaml.Token
import UserPlane.Proofs.Rule.Lengths
