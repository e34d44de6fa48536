import ColumnTypes.ColumnType.Basic

/-!
# Registries of user types

A registry holds user types in the order of their registration, each under the text of its name. As
malformed bytes are shown as U+FFFD, types with different names may compete for one place.

Adding a type whose place is taken puts it there; removing one moves the others up. A `Request` is
one use of a registry, and `Registry.run` answers a sequence of them.
-/

namespace ColumnTypes

/-- User types in the order of their registration, no two under the same text. -/
structure Registry where
  types : List UserType
  distinct : (types.map UserType.nameText).Nodup

namespace Registry

def empty : Registry := ⟨[], by simp⟩

def names (registry : Registry) : List String :=
  registry.types.map UserType.nameText

def size (registry : Registry) : Nat :=
  registry.types.length

def isEmpty (registry : Registry) : Bool :=
  registry.types.isEmpty

def find? (registry : Registry) (name : String) : Option UserType :=
  registry.types.find? (·.nameText = name)

/-- The type in the place of the one that is registered under the same text. -/
def replace (types : List UserType) (type : UserType) : List UserType :=
  types.map fun other => if other.nameText = type.nameText then type else other

theorem nameText_replace (types : List UserType) (type : UserType) :
    (replace types type).map UserType.nameText = types.map UserType.nameText := by
  simp only [replace, List.map_map]
  apply List.map_congr_left
  intro other _
  by_cases same : other.nameText = type.nameText <;> simp [same]

/-- The registry with one more type, which takes the place of one under the same text. -/
def insert (registry : Registry) (type : UserType) : Registry :=
  if taken : type.nameText ∈ registry.types.map UserType.nameText then
    ⟨replace registry.types type, by rw [nameText_replace]; exact registry.distinct⟩
  else
    ⟨registry.types ++ [type], by
      simp only [List.map_append, List.map_cons, List.map_nil]
      refine List.nodup_append.mpr ⟨registry.distinct, by simp, ?_⟩
      rintro a ha b hb rfl
      exact taken (List.mem_singleton.mp hb ▸ ha)⟩

def erase (registry : Registry) (name : String) : Registry :=
  ⟨registry.types.filter (·.nameText ≠ name),
    registry.distinct.sublist (List.filter_sublist.map _)⟩

def lookup (registry : Registry) (name : Identifier) : Option Descriptor :=
  (registry.find? name.text).map .user

inductive Request where
  | add (type : UserType)
  | remove (name : Identifier)
  | get (name : Identifier)
  /-- Look a user-defined type up. -/
  | userDefined (name : Identifier)

inductive Reply where
  /-- The descriptor that was replaced, removed or found. -/
  | descriptor (found : Option Descriptor)
  | userDefined (result : Except UserDefined.LookupFault UserDefined)

def answer (registry : Registry) : Request → Reply × Registry
  | .add type =>
    (.descriptor ((registry.find? type.nameText).map .user), registry.insert type)
  | .remove name => (.descriptor (registry.lookup name), registry.erase name.text)
  | .get name => (.descriptor (registry.lookup name), registry)
  | .userDefined name => (.userDefined (UserDefined.lookup registry.lookup name), registry)

def run (registry : Registry) : List Request → List Reply × Registry
  | [] => ([], registry)
  | request :: rest =>
    let (reply, next) := registry.answer request
    let (replies, last) := next.run rest
    (reply :: replies, last)

end Registry

end ColumnTypes
