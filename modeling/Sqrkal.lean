import Sqrkal.Discovery.Actions
import Sqrkal.Discovery.Alarms
import Sqrkal.Discovery.Branches
import Sqrkal.Discovery.CallFlags
import Sqrkal.Discovery.CallIsolation
import Sqrkal.Discovery.CallLaw
import Sqrkal.Discovery.CallStart
import Sqrkal.Discovery.Checked
import Sqrkal.Discovery.Consistency
import Sqrkal.Discovery.Datagram
import Sqrkal.Discovery.Delivery
import Sqrkal.Discovery.Description
import Sqrkal.Discovery.Dummies
import Sqrkal.Discovery.Duplex
import Sqrkal.Discovery.Effects
import Sqrkal.Discovery.FilterCensus
import Sqrkal.Discovery.FragmentIds
import Sqrkal.Discovery.Fragments
import Sqrkal.Discovery.Frame
import Sqrkal.Discovery.FullBandwidth
import Sqrkal.Discovery.HeaderTemplate
import Sqrkal.Discovery.InternetChecksum
import Sqrkal.Discovery.Ledger
import Sqrkal.Discovery.Marking
import Sqrkal.Discovery.Media
import Sqrkal.Discovery.MediaRules
import Sqrkal.Discovery.Negotiation
import Sqrkal.Discovery.Oversize
import Sqrkal.Discovery.PassThrough
import Sqrkal.Discovery.PortLookup
import Sqrkal.Discovery.Process
import Sqrkal.Discovery.Quiet
import Sqrkal.Discovery.Relay
import Sqrkal.Discovery.Run
import Sqrkal.Discovery.SequenceNumbers
import Sqrkal.Discovery.Sip
import Sqrkal.Discovery.SipPort
import Sqrkal.Discovery.SizeLog
import Sqrkal.Discovery.Slices
import Sqrkal.Discovery.State
import Sqrkal.Discovery.Turns
import Sqrkal.Foundation.Alarm
import Sqrkal.Foundation.Behavior
import Sqrkal.Foundation.Blocks
import Sqrkal.Foundation.Checksum
import Sqrkal.Foundation.Columns
import Sqrkal.Foundation.Memory
import Sqrkal.Foundation.Program
import Sqrkal.Foundation.Search
import Sqrkal.Foundation.Serial
import Sqrkal.Foundation.Text
import Sqrkal.Foundation.Word
import Sqrkal.Handshake.Answering
import Sqrkal.Handshake.Calls
import Sqrkal.Handshake.Completion
import Sqrkal.Handshake.Endpoint
import Sqrkal.Handshake.FlagMeaning
import Sqrkal.Handshake.KeyAgreement
import Sqrkal.Handshake.Moves
import Sqrkal.Handshake.Network
import Sqrkal.Handshake.Options
import Sqrkal.Handshake.Parameters
import Sqrkal.Handshake.Protocol
import Sqrkal.Handshake.Received
import Sqrkal.Handshake.Signals
import Sqrkal.Handshake.SizeNegotiation
import Sqrkal.Handshake.Storm
import Sqrkal.Handshake.Teardown
import Sqrkal.Handshake.Wire
import Sqrkal.Library.Ascent
import Sqrkal.Library.Burst
import Sqrkal.Library.CacheCalls
import Sqrkal.Library.CacheInvariants
import Sqrkal.Library.DummyCache
import Sqrkal.Library.Effects
import Sqrkal.Library.InMemory
import Sqrkal.Library.Interruption
import Sqrkal.Library.Md5
import Sqrkal.Library.PadLimits
import Sqrkal.Library.Padding
import Sqrkal.Library.PaddingSteps
import Sqrkal.Library.Recognition
import Sqrkal.Library.Refinement
import Sqrkal.Library.Signaling
import Sqrkal.Library.SizedDummies
import Sqrkal.Library.State
import Sqrkal.Library.TimerRuns
import Sqrkal.Library.Unanswered
import Sqrkal.Message.Codec
import Sqrkal.Message.ContributingSources
import Sqrkal.Message.Conversion
import Sqrkal.Message.DecoderBounds
import Sqrkal.Message.Encoded
import Sqrkal.Message.Framing
import Sqrkal.Message.Layout
import Sqrkal.Message.RoundTrip
import Sqrkal.Message.Transparency
import Sqrkal.Message.Unpadded
