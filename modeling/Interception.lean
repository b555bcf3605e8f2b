import Interception.Conversion.Coercion
import Interception.Conversion.ToHost
import Interception.Conversion.ToNative
import Interception.Event
import Interception.Failure
import Interception.Host.Value
import Interception.Inspection
import Interception.Invocation
import Interception.Kind
import Interception.Log.File
import Interception.Log.Filter
import Interception.Log.Output
import Interception.Log.Settings
import Interception.Log.Trace
import Interception.Marshaler
import Interception.Native.Acceptance
import Interception.Native.Call
import Interception.Native.Object
import Interception.Native.Ty
import Interception.Native.Value
import Interception.Number.Binary
import Interception.Number.Decimal
import Interception.Number.Integer
import Interception.Number.Shortest
import Interception.Overrides
import Interception.Proxy
import Interception.Session.Desk
import Interception.Session.Programs
import Interception.Session.Run
import Interception.Session.Script
import Interception.Settings.Basic
import Interception.Settings.Document
import Interception.Settings.Environment
import Interception.Settings.File
import Interception.Settings.Problem
import Interception.Settings.Spelling
import Interception.Text.Alphanumeric
import Interception.Text.Blank
import Interception.Text.ByteOrder
import Interception.Text.CaseIgnorable
import Interception.Text.Cased
import Interception.Text.Constant
import Interception.Text.Lower
import Interception.Text.LowerCase
import Interception.Text.Parts
import Interception.Text.Pattern
import Interception.Text.Pattern.Automaton
import Interception.Text.Pattern.Basic
import Interception.Text.Pattern.CharSet
import Interception.Text.Pattern.Expression
import Interception.Text.Pattern.Meaning
import Interception.Text.Pattern.Reading
import Interception.Text.Quoted
import Interception.Text.Reader
import Interception.Text.Unprinted
import Interception.Toml.Document
import Interception.Toml.Lexeme
import Interception.Toml.Library
import Interception.Toml.Standard
import Interception.Toml.Table
import Interception.Toml.Value
import Interception.World.Basic
import Interception.World.Program
import Interception.World.Registry
import Interception.World.Run
import Interception.Proofs.Number.Exact
import Interception.Proofs.Conversion.Numbers
import Interception.Proofs.Conversion.RoundTrip
import Interception.Proofs.Invocation.Protocol
import Interception.Proofs.World.History
import Interception.Proofs.World.Invoke
import Interception.Proofs.Invocation.Closed
import Interception.Proofs.World.Activation
import Interception.Proofs.World.Steps
import Interception.Proofs.World.Induction
import Interception.Proofs.World.Nested
import Interception.Proofs.World.Frame
import Interception.Proofs.Conversion.Outcomes
import Interception.Proofs.World.Failures
import Interception.Proofs.World.ReturnedArgument
import Interception.Proofs.Conversion.Acceptance
import Interception.Proofs.World.Operations
import Interception.Proofs.World.Connected
import Interception.Proofs.World.Registry
import Interception.Proofs.World.Callbacks
import Interception.Proofs.World.Result
import Interception.Proofs.World.FinalMethods
import Interception.Proofs.World.Traces
import Interception.Proofs.World.InvocationTrace
import Interception.Proofs.Number.IntegerPart
import Interception.Proofs.Number.Interchange
import Interception.Proofs.Number.Midpoints
import Interception.Proofs.Number.Rounding
import Interception.Proofs.Number.TwiceRounded
import Interception.Proofs.Conversion.Integral
import Interception.Proofs.Conversion.NormalForm
import Interception.Proofs.World.Accounting
import Interception.Proofs.World.Bindings
import Interception.Proofs.World.WriteOnce
import Interception.Proofs.Conversion.FloatingPoint
import Interception.Proofs.Conversion.HostNumbers
import Interception.Proofs.Conversion.Retraction
import Interception.Proofs.Conversion.Walk
import Interception.Proofs.World.CoercionTrace
import Interception.Proofs.Conversion.Positions
import Interception.Proofs.Conversion.Arguments
import Interception.Proofs.Conversion.Foreign
import Interception.Proofs.Invocation.Dispatch
import Interception.Proofs.Overrides.Mapping
import Interception.Proofs.Overrides.Construction
import Interception.Proofs.Equality.Values
import Interception.Proofs.Equality.Congruence
import Interception.Proofs.Conversion.TypeNames
import Interception.Proofs.Text.Spelling
import Interception.Proofs.Settings.Document
import Interception.Proofs.Settings.Environment
