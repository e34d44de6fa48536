import ColumnTypes.ColumnType.Collection

/-!
# Column types with their descriptors beside them

The shape of a collection follows from its descriptor, and the descriptor of a user-defined type
from its composite. A described type keeps them all the same: a collection is a shape beside a
descriptor, a user-defined type a composite beside a descriptor, and nothing in the types makes the
two copies agree. Where copies are put together their agreement may be tested, and then a `Mismatch`
ends the work; untested, they are kept as they come.

Each question reads one of the copies. The shape is the one that is kept; parts, and with them the
text, are read off the descriptor. A collection whose descriptor is none would have no text of its
own, and the spelling of the descriptor would have to do.
-/

namespace ColumnTypes

/-- Two copies that do not agree. -/
inductive Mismatch where
  | shape (kind : CollectionKind) (descriptor : Descriptor)
  | composite (type : UserType) (descriptor : Descriptor)

/-- What is done where copies may be tested: it comes to a value or a fault unless they differ. -/
abbrev Attempt (ε : Type) := ExceptT ε (Except Mismatch)

/-- A list, set or map by its shape and its descriptor. -/
structure DescribedCollection where
  kind : CollectionKind
  descriptor : Descriptor

def DescribedCollection.ofCopies (tested : Bool) (kind : CollectionKind) (descriptor : Descriptor) :
    Except Mismatch DescribedCollection :=
  if tested ∧ descriptor.collectionKind? ≠ some kind then .error (.shape kind descriptor)
  else .ok ⟨kind, descriptor⟩

theorem DescribedCollection.eq_of_ofCopies {tested : Bool} {kind : CollectionKind}
    {descriptor : Descriptor} {type : DescribedCollection}
    (made : ofCopies tested kind descriptor = .ok type) : type = ⟨kind, descriptor⟩ := by
  rw [ofCopies] at made
  split at made
  · cases made
  · exact (Except.ok.inj made).symm

structure DescribedUserType where
  name : Identifier
  userType : UserType
  descriptor : Descriptor

namespace DescribedUserType

def ofCopies (tested : Bool) (name : Identifier) (type : UserType) (descriptor : Descriptor) :
    Except Mismatch DescribedUserType :=
  if tested ∧ descriptor.userType? ≠ some type then .error (.composite type descriptor)
  else .ok ⟨name, type, descriptor⟩

theorem eq_of_ofCopies {tested : Bool} {name : Identifier} {composite : UserType}
    {descriptor : Descriptor} {type : DescribedUserType}
    (made : ofCopies tested name composite descriptor = .ok type) :
    type = ⟨name, composite, descriptor⟩ := by
  rw [ofCopies] at made
  split at made
  · cases made
  · exact (Except.ok.inj made).symm

def known (tested : Bool) (name : Identifier) (type : UserType) :
    Except Mismatch DescribedUserType :=
  ofCopies tested name type (.user type)

def lookup (tested : Bool) (registered : Identifier → Option Descriptor) (name : Identifier) :
    Attempt UserDefined.LookupFault DescribedUserType :=
  match registered name with
  | none => throw (.unknown name)
  | some descriptor =>
    match descriptor with
    | .user type => ofCopies tested name type descriptor
    | _ => throw (.notUserType name)

end DescribedUserType

/-- A column type with the copies that it keeps. -/
inductive DescribedType where
  | native (type : Native)
  | custom (type : Custom)
  | collection (type : DescribedCollection)
  | userDefined (type : DescribedUserType)

namespace DescribedType

def descriptor : DescribedType → Descriptor
  | native type => type.descriptor
  | custom type => type.descriptor
  | collection type => type.descriptor
  | userDefined type => type.descriptor

@[simp] theorem descriptor_collection (type : DescribedCollection) :
    (collection type).descriptor = type.descriptor := rfl

def isCollection : DescribedType → Bool
  | collection _ => true
  | _ => false

def isCounter : DescribedType → Bool
  | native type => type.isCounter
  | _ => false

def ofDescriptor (tested : Bool) (descriptor : Descriptor) : Except Mismatch DescribedType :=
  match Native.ofDescriptor? descriptor with
  | some type => .ok (native type)
  | none =>
    match descriptor.collectionKind? with
    | some kind => return collection (← DescribedCollection.ofCopies tested kind descriptor)
    | none =>
      match descriptor with
      | .reversed base => ofDescriptor tested base
      | .user type =>
        return userDefined
          (← DescribedUserType.ofCopies tested (.ofBytes type.name) type descriptor)
      | _ => .ok (custom ⟨descriptor⟩)

/-- What is shown of a descriptor is stored as a part of it, or as all of it. -/
theorem sizeOf_descriptor_le {tested : Bool} {descriptor : Descriptor} {view : DescribedType}
    (shown : ofDescriptor tested descriptor = .ok view) :
    sizeOf view.descriptor ≤ sizeOf descriptor := by
  -- Only a reversal is passed through; in all other cases the descriptor itself is stored.
  fun_induction ofDescriptor tested descriptor with
  | case1 descriptor type known =>
    cases shown
    exact Nat.le_of_eq (congrArg sizeOf (Native.descriptor_of_ofDescriptor? known))
  | case2 descriptor unknown kind shape =>
    cases made : DescribedCollection.ofCopies tested kind descriptor with
    | error copies =>
      rw [made] at shown
      cases shown
    | ok type =>
      rw [made] at shown
      cases shown
      have copy := congrArg DescribedCollection.descriptor (DescribedCollection.eq_of_ofCopies made)
      exact Nat.le_of_eq (congrArg sizeOf copy)
  | case3 base unknown shape ih =>
    have inside := ih shown
    rw [Descriptor.reversed.sizeOf_spec]
    omega
  | case4 type unknown shape =>
    cases made : DescribedUserType.ofCopies tested (.ofBytes type.name) type (.user type) with
    | error copies =>
      rw [made] at shown
      cases shown
    | ok described =>
      rw [made] at shown
      cases shown
      have copy := congrArg DescribedUserType.descriptor (DescribedUserType.eq_of_ofCopies made)
      exact Nat.le_of_eq (congrArg sizeOf copy)
  | case5 =>
    cases shown
    exact Nat.le_refl _

end DescribedType

namespace DescribedCollection

/-- The collection of this shape with that descriptor, if none of the components is a collection or
the counter. -/
def make (tested : Bool) (kind : CollectionKind) (components : List DescribedType)
    (descriptor : Descriptor) : Attempt Collection.ComponentFault DescribedCollection :=
  if components.any DescribedType.isCollection then throw (.nested kind)
  else if components.any DescribedType.isCounter then throw .counter
  else ofCopies tested kind descriptor

def listOf (tested : Bool) (elements : DescribedType) :
    Attempt Collection.ComponentFault DescribedCollection :=
  make tested .list [elements] (.list elements.descriptor)

def setOf (tested : Bool) (elements : DescribedType) :
    Attempt Collection.ComponentFault DescribedCollection :=
  make tested .set [elements] (.set elements.descriptor)

def mapOf (tested : Bool) (keys values : DescribedType) :
    Attempt Collection.ComponentFault DescribedCollection :=
  make tested .map [keys, values] (.map keys.descriptor values.descriptor)

end DescribedCollection

/-- What a collection may have. -/
inductive Part where
  | elements
  | keys
  | values

/-- The type of a part of the type, if it is a collection that has the part. -/
def ColumnType.part? : Part → ColumnType → Option ColumnType
  | .elements, collection type => type.elements?
  | .keys, collection type => type.keys?
  | .values, collection type => type.values?
  | _, _ => none

def Descriptor.part? : Part → Descriptor → Option Descriptor
  | .elements, .list elements | .elements, .set elements => some elements
  | .keys, .map keys _ => some keys
  | .values, .map _ values => some values
  | _, _ => none

namespace DescribedType

def part? (tested : Bool) (part : Part) : DescribedType → Except Mismatch (Option DescribedType)
  | collection type =>
    match type.descriptor.part? part with
    | some found => return some (← ofDescriptor tested found)
    | none => .ok none
  | _ => .ok none

/-- The type that shows a descriptor, with a bound for what it is stored as. -/
def shown (tested : Bool) (descriptor : Descriptor) :
    Except Mismatch { view : DescribedType // sizeOf view.descriptor ≤ sizeOf descriptor } :=
  match found : ofDescriptor tested descriptor with
  | .ok view => .ok ⟨view, sizeOf_descriptor_le found⟩
  | .error copies => .error copies

/-- The text of a type, where `other` writes a collection whose descriptor is none. -/
def write (tested : Bool) (other : Descriptor → String) : DescribedType → Except Mismatch String
  | native type => .ok type.keyword
  | custom type => .ok type.display
  | userDefined type => .ok type.name.display
  | collection ⟨_, .list elements⟩ => do
    let ⟨view, _⟩ ← shown tested elements
    return "list<" ++ (← view.write tested other) ++ ">"
  | collection ⟨_, .set elements⟩ => do
    let ⟨view, _⟩ ← shown tested elements
    return "set<" ++ (← view.write tested other) ++ ">"
  | collection ⟨_, .map keys values⟩ => do
    let ⟨key, _⟩ ← shown tested keys
    let ⟨value, _⟩ ← shown tested values
    return "map<" ++ (← key.write tested other) ++ ", " ++ (← value.write tested other) ++ ">"
  | collection ⟨_, descriptor⟩ => .ok (other descriptor)
termination_by type => sizeOf type.descriptor
decreasing_by
  all_goals simp only [descriptor_collection, Descriptor.list.sizeOf_spec,
    Descriptor.set.sizeOf_spec, Descriptor.map.sizeOf_spec]
  all_goals omega

def display (tested : Bool) (type : DescribedType) : Except Mismatch String :=
  type.write tested Descriptor.display

end DescribedType

end ColumnTypes
