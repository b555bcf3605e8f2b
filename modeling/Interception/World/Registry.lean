import Interception.World.Program

/-!
# Callback registry

The callbacks that are live in an environment, and the handle that the next one
gets. Handles are counted up and wrap at the end of their range.
-/

set_option autoImplicit false

namespace Interception

structure Registry (σ : Type) where
  live : List (Host.Handle × Callback σ) := []
  next : UInt64 := 1

namespace Registry

variable {σ : Type}

def find? (registry : Registry σ) (handle : Host.Handle) : Option (Callback σ) :=
  registry.live.lookup handle

def contains (registry : Registry σ) (handle : Host.Handle) : Bool :=
  registry.live.any (·.1 == handle)

def size (registry : Registry σ) : Nat :=
  registry.live.length

def without (handle : Host.Handle) (live : List (Host.Handle × Callback σ)) :
    List (Host.Handle × Callback σ) :=
  live.filter (·.1 != handle)

def nextHandle (registry : Registry σ) : Host.Handle :=
  ⟨registry.next⟩

def register (registry : Registry σ) (body : Callback σ) : Registry σ where
  live := (registry.nextHandle, body) :: without registry.nextHandle registry.live
  next := registry.next + 1

def unregister (registry : Registry σ) (handle : Host.Handle) : Registry σ :=
  { registry with live := without handle registry.live }

end Registry

end Interception
