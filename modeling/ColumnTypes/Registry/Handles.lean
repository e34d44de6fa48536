import ColumnTypes.Registry.Basic

/-!
# Shared registries

Registries are used through named handles. Several handles may share one registry, and what is done
through one of them shows through all. A handle that is made anew leaves the registry it had to the
handles that share it.
-/

namespace ColumnTypes

/-- Named handles on registries. -/
structure Handles where
  /-- Each handle with the position of its registry, the latest first. -/
  positions : List (String × Nat)
  registries : List Registry

namespace Handles

def empty : Handles := ⟨[], []⟩

def position? (all : Handles) (handle : String) : Option Nat :=
  all.positions.lookup handle

def find? (all : Handles) (handle : String) : Option Registry :=
  (all.position? handle).bind (all.registries[·]?)

/-- The handle on a new registry without types. -/
def create (all : Handles) (handle : String) : Handles :=
  ⟨(handle, all.registries.length) :: all.positions, all.registries ++ [.empty]⟩

/-- Another handle on the registry of a handle. -/
def share (all : Handles) (handle other : String) : Option Handles :=
  (all.position? handle).map fun position =>
    { all with positions := (other, position) :: all.positions }

def answer (all : Handles) (handle : String) (request : Registry.Request) :
    Option (Registry.Reply × Handles) := do
  let position ← all.position? handle
  let registry ← all.registries[position]?
  let (reply, next) := registry.answer request
  return (reply, { all with registries := all.registries.set position next })

def run (all : Handles) :
    List (String × Registry.Request) → Option (List Registry.Reply × Handles)
  | [] => some ([], all)
  | (handle, request) :: rest => do
    let (reply, next) ← all.answer handle request
    let (replies, last) ← next.run rest
    return (reply :: replies, last)

end Handles

end ColumnTypes
