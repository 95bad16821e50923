import TraceAdapter.Debugger.Scripted
import TraceAdapter.Recording.Replay
import TraceAdapter.Session.Expression
import TraceAdapter.Session.View
import TraceAdapter.Trace.Json
import TraceAdapter.Protocol.Arguments
import TraceAdapter.Protocol.LaunchArguments
import TraceAdapter.Protocol.Message
import TraceAdapter.Json.Reading
import TraceAdapter.Deploy.CommandLine
import TraceAdapter.Launch.Basic
import TraceAdapter.Adapter.Handling
import TraceAdapter.Adapter.Conversation
import TraceAdapter.Deploy.Tool
import TraceAdapter.Toml.Reading
import TraceAdapter.Settings.Basic
import TraceAdapter.Diagnostics.Channel
import TraceAdapter.Program.Running
import TraceAdapter.Main
import TraceAdapter.Proofs.Breakpoint.Coherence
import TraceAdapter.Proofs.Session.Registration
import TraceAdapter.Proofs.Adapter.Reached
import TraceAdapter.Proofs.Adapter.CanonicalBreakpoints
import TraceAdapter.Proofs.Adapter.SessionInvariant
import TraceAdapter.Proofs.Recording.Lines
import TraceAdapter.Proofs.Recording.Places
import TraceAdapter.Proofs.Recording.Stopping
import TraceAdapter.Proofs.Adapter.Resuming
import TraceAdapter.Proofs.Adapter.Transcript
import TraceAdapter.Proofs.Text.Utf8
import TraceAdapter.Proofs.Text.Numerals
import TraceAdapter.Proofs.Protocol.Reading
import TraceAdapter.Proofs.Protocol.RoundTrip
import TraceAdapter.Proofs.Adapter.Truncation
import TraceAdapter.Proofs.Launch.Searching
import TraceAdapter.Proofs.Launch.Determinism
import TraceAdapter.Proofs.Adapter.Launching
import TraceAdapter.Proofs.Adapter.Observing
import TraceAdapter.Proofs.Adapter.Relaunching
import TraceAdapter.Proofs.Session.Hits
import TraceAdapter.Proofs.Adapter.Navigating
import TraceAdapter.Proofs.Adapter.Stepping
import TraceAdapter.Proofs.Adapter.Records
import TraceAdapter.Proofs.Session.Nesting
import TraceAdapter.Proofs.Adapter.LineStepping
import TraceAdapter.Proofs.Launch.Asking
import TraceAdapter.Proofs.Adapter.Asking
import TraceAdapter.Proofs.Json.Stability
import TraceAdapter.Proofs.Json.Records
import TraceAdapter.Proofs.Trace.WireTypes
import TraceAdapter.Proofs.Protocol.Messages
import TraceAdapter.Proofs.Protocol.WireTypes
import TraceAdapter.Proofs.Adapter.Rereading
import TraceAdapter.Proofs.Text.Utf8Reading
import TraceAdapter.Proofs.Text.Trimming
import TraceAdapter.Proofs.Protocol.Grammar
import TraceAdapter.Proofs.Protocol.Accepting
import TraceAdapter.Proofs.Recording.Reversing
import TraceAdapter.Proofs.Recording.Matching
import TraceAdapter.Proofs.Evm.TypeNames
import TraceAdapter.Proofs.Evm.Integers
import TraceAdapter.Proofs.Evm.Memory
import TraceAdapter.Proofs.Evm.Agreement
import TraceAdapter.Proofs.Adapter.ShownPlace
import TraceAdapter.Proofs.Text.Hexadecimal
import TraceAdapter.Proofs.Evm.WordTexts
import TraceAdapter.Proofs.Session.Slots
import TraceAdapter.Proofs.Evm.Checksums
import TraceAdapter.Proofs.Evm.KeptBits
import TraceAdapter.Proofs.Text.SignedNumerals
import TraceAdapter.Proofs.Session.StackEntries
import TraceAdapter.Proofs.Text.UnsignedNumerals
import TraceAdapter.Proofs.Protocol.LenientNumbers
import TraceAdapter.Proofs.Json.Comparing
import TraceAdapter.Proofs.Protocol.LaunchFields
import TraceAdapter.Proofs.Deploy.ReadingBack
import TraceAdapter.Proofs.Json.Integers
import TraceAdapter.Proofs.Protocol.EmptyOptions
import TraceAdapter.Proofs.Adapter.EmptyOptions
import TraceAdapter.Proofs.Protocol.ForkOptions
import TraceAdapter.Proofs.Adapter.ForkNumbers
import TraceAdapter.Proofs.Adapter.FirstStop
import TraceAdapter.Proofs.History
import TraceAdapter.Proofs.Breakpoint.Histories
import TraceAdapter.Proofs.Recording.Replaying
import TraceAdapter.Proofs.Recording.Positions
import TraceAdapter.Proofs.Session.StorageScope
import TraceAdapter.Proofs.Diagnostics.Division
import TraceAdapter.Proofs.Diagnostics.Delivery
