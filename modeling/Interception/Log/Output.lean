import Interception.Log.File
import Interception.Log.Filter
import Interception.Log.Settings
import Interception.Log.Trace

/-!
# Log output

What becomes of a trace in the log. An event is logged with the innermost of its
spans, if it passes the filter. The filter shows all spans or none; entering and
closing them is logged where that is asked for. A logger is installed once, and keeps
its first settings.
-/

set_option autoImplicit false

namespace Interception

structure LogRecord where
  level : Level
  fields : List (String × FieldValue)
  span : Option String
  deriving DecidableEq, Repr

structure LogOutput where
  settings : LogSettings
  filter : LogFilter
  deriving DecidableEq, Repr

namespace LogOutput

def ofSettings (settings : LogSettings) (environment : Variables) : LogOutput where
  settings := settings
  filter := LogFilter.ofEnvironment environment settings.level

/-- The file that is written; the standard error stream is where there is none. -/
def file? (output : LogOutput) : Option LogFile :=
  output.settings.path.map LogFile.ofPath

def shownSpan (output : LogOutput) (spans : List String) : Option String :=
  if output.filter.showsSpans then spans.getLast? else none

def spanRecord? (output : LogOutput) (change : String) (spans : List String) :
    Option LogRecord :=
  if output.settings.showSpans && output.filter.showsSpans then
    some ⟨spanLevel, [("message", .text change)], output.shownSpan spans⟩
  else none

def record? (output : LogOutput) : TraceEntry → Option LogRecord
  | .event spans event =>
      if output.filter.passes spans event then
        some ⟨event.level, event.fields, output.shownSpan spans⟩
      else none
  | .entered spans => output.spanRecord? "enter" spans
  | .closed spans => output.spanRecord? "close" spans

def records (output : LogOutput) (trace : List TraceEntry) : List LogRecord :=
  trace.filterMap output.record?

end LogOutput

structure Logger where
  output : Option LogOutput := none
  deriving DecidableEq, Repr

namespace Logger

def isInstalled (logger : Logger) : Bool :=
  logger.output.isSome

def install (output : LogOutput) (logger : Logger) : Logger :=
  ⟨logger.output.or (some output)⟩

end Logger

end Interception
