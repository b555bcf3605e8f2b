import Interception.World.Program

/-!
# Scripts

A small language of steps, for driving a world from outside and from inside
callbacks. Maps, proxies and handlers are kept in named slots; native instances
are declared under names. A callback body is a script too, and may run any step.

`ρ` is the type of what a step shows that only computes.
-/

set_option autoImplicit false

namespace Interception.Session

/-- Native instances in the order in which they were declared. A name that is
declared again stands for the later instance. -/
structure Directory where
  declared : List (String × Native.Object) := []

namespace Directory

def find? (directory : Directory) (name : String) : Option Native.Object :=
  directory.declared.reverse.lookup name

def nameOf? (directory : Directory) (reference : Native.Object) : Option String :=
  (directory.declared.find? (·.2.identical reference)).map (·.1)

def add (directory : Directory) (name : String) (reference : Native.Object) : Directory :=
  ⟨directory.declared ++ [(name, reference)]⟩

/-- An identity that no declared instance has. -/
def freshId (directory : Directory) : Nat :=
  directory.declared.foldl (fun bound entry => max bound (entry.2.instanceId + 1)) 0

end Directory

/-- The marshalers that a script can choose. All but `standard` are observed: they
leave a record of each of their steps. -/
inductive MarshalerChoice where
  | standard
  | observed
  /-- Upper-cases the ASCII letters of a text that a callback gives. -/
  | uppercasing
  | lenient
  deriving DecidableEq, Repr

inductive Answer (ρ : Type) where
  | nothing
  | failed (failure : Failure)
  | registered (handle : Host.Handle)
  | done (changed : Bool)
  | found (present : Bool)
  | callbacks (count : Nat)
  | host (value : Host.Value)
  | native (value : Native.Value)
  | overrides (overrides : OverrideMap)
  | replaced (previous : Option Override) (overrides : OverrideMap)
  | entry (override : Option Override)
  | mapping (overrides : OverrideMap)
  | equal (same : Bool)
  | valid
  | assigned
  | proxy (proxy : Proxy)
  | handler (settings : Settings) (proxy : Option Proxy)
  | inspection (text : String)
  | instance (reference : Native.Object)
  | identical (same : Bool)
  | computed (shown : ρ)
  | unreadable (cause : String)

mutual

inductive Step (ρ : Type) where
  /-- A step that mentions instances by name. Names are looked up when it runs. -/
  | located (step : Directory → Step ρ)
  | after (first second : Step ρ)
  /-- Only computes. -/
  | answer (answer : Answer ρ)
  | declare (name className : String) (payload : Native.Payload)
  | declareAgain (source name : String)
  | compareInstances (left right : String)
  | describeInstance (name : String)
  | register (body : Body ρ)
  | unregister (handle : Host.Handle)
  | contains (handle : Host.Handle)
  | countCallbacks
  | call (handle : Host.Handle) (context : Host.ObjectId) (arguments : List Host.Value)
  | collect (map : String) (pairs : List (String × Override))
  | insert (map method : String) (override : Override)
  | extend (map method : String) (override : Override)
  | lookUp (map method : String)
  | describeMap (map : String)
  | compareMaps (left right : String)
  | validate (map : String) (policy : FinalPolicy) (methods : List String)
  | newProxy (proxy className : String) (hostObject : Host.ObjectId) (map : Option String)
  | setOverrides (proxy map : String)
  | describeProxy (proxy : String)
  | newHandler (handler : String) (proxy : Option String) (settings : Settings)
      (marshaler : MarshalerChoice)
  | bind (handler proxy : String)
  | describeHandler (handler : String)
  | inspectHandler (handler : String)
  | invoke (handler : String) (call : Native.Call)
  | coerce (value : Native.Value) (target : Native.Ty)

inductive Body (ρ : Type) where
  /-- A body that mentions instances by name. Names are looked up when it runs. -/
  | located (body : Directory → Body ρ)
  | give (value : Host.Value)
  | fail (text : String)
  | echo
  /-- Gives one argument, undefined where there is none. -/
  | argument (index : Nat)
  | argumentCount
  | context
  | contextNumber
  | argumentKinds
  | register (body : Body ρ)
  | unregisterSelf
  | call (handle : Host.Handle)
  /-- Runs two bodies, the second unless the first fails, and gives what it gives. -/
  | both (first second : Body ρ)
  | step (step : Step ρ)

end

instance {ρ : Type} : Inhabited (Step ρ) := ⟨.answer .nothing⟩

instance {ρ : Type} : Inhabited (Body ρ) := ⟨.echo⟩

end Interception.Session
