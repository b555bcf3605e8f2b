import Interception.Event

/-!
# Traces

The events of a run in the order in which they happened, each below the calls
that were being intercepted at that moment. A call is a span, named by its
method; spans are properly nested.

All spans have one name, one level and one field, which is the method, and belong to
one area of the library.
-/

set_option autoImplicit false

namespace Interception

def spanName : String := "intercept"

def spanField : String := "method"

def spanArea : String := "proxy_bridge::interop::bridge"

def spanLevel : Level := .debug

/-- One line of a trace. `spans` are the methods of the open spans, outermost
first; the span that is entered or closed is the last of them. -/
inductive TraceEntry where
  | event (spans : List String) (event : Event)
  | entered (spans : List String)
  | closed (spans : List String)
  deriving Repr

def TraceEntry.event? : TraceEntry → Option (List String × Event)
  | .event spans content => some (spans, content)
  | .entered _ => none
  | .closed _ => none

structure Trace where
  /-- Methods of the open spans, outermost first. -/
  spans : List String := []
  latest : List TraceEntry := []

namespace Trace

def empty : Trace := {}

instance : Inhabited Trace := ⟨empty⟩

/-- The lines in the order in which they came about. -/
def entries (trace : Trace) : List TraceEntry :=
  trace.latest.reverse

def report (event : Event) (trace : Trace) : Trace :=
  { trace with latest := .event trace.spans event :: trace.latest }

def enter (method : String) (trace : Trace) : Trace :=
  let spans := trace.spans ++ [method]
  ⟨spans, .entered spans :: trace.latest⟩

def close (trace : Trace) : Trace :=
  ⟨trace.spans.dropLast, .closed trace.spans :: trace.latest⟩

@[simp] theorem entries_report (event : Event) (trace : Trace) :
    (trace.report event).entries = trace.entries ++ [.event trace.spans event] := by
  simp [entries, report]

@[simp] theorem entries_enter (method : String) (trace : Trace) :
    (trace.enter method).entries = trace.entries ++ [.entered (trace.spans ++ [method])] := by
  simp [entries, enter]

@[simp] theorem entries_close (trace : Trace) :
    trace.close.entries = trace.entries ++ [.closed trace.spans] := by
  simp [entries, close]

def events (trace : Trace) : List (List String × Event) :=
  trace.entries.filterMap TraceEntry.event?

end Trace

class Reporting (m : Type → Type) where
  report : Event → m Unit
  enter : String → m Unit
  close : m Unit

end Interception
