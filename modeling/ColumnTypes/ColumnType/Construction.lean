import ColumnTypes.ColumnType.Described

/-!
# Ways to make column types

A column type is native, or custom over a class path's reading of a text or over any descriptor, or
a collection of column types, or user-defined, known or looked up among what is registered, or the
view of a descriptor, or it is taken out of a collection. A `Construction` puts such steps together.
It is followed step by step, and the first step that makes no type ends it (`Refusal`).

`Construction.value` follows it with column types, and `Construction.described` with types that keep
their descriptors beside them.
-/

namespace ColumnTypes

/-- A way to make a column type. -/
inductive Construction where
  | native (type : Native)
  /-- The custom type that a text spells. -/
  | custom (path : ClassPath) (text : String)
  | customOver (descriptor : Descriptor)
  | list (elements : Construction)
  | set (elements : Construction)
  | map (keys values : Construction)
  /-- The user-defined type over a composite at hand. -/
  | known (name : Identifier) (type : UserType)
  /-- The user type registered under a name. -/
  | lookup (registered : Identifier → Option Descriptor) (name : Identifier)
  /-- The type that shows a descriptor. -/
  | view (descriptor : Descriptor)
  /-- The type of a part of a collection. -/
  | part (which : Part) (whole : Construction)

inductive Refusal where
  | spelling (error : TypeError)
  | component (fault : Collection.ComponentFault)
  | name (fault : UserDefined.LookupFault)
  /-- The type has no such part. -/
  | noPart (which : Part)

namespace Construction

def value : Construction → Except Refusal ColumnType
  | native type => return .native type
  | custom path text => return .custom (← (Custom.ofTypeName path text).mapError .spelling)
  | customOver descriptor => return .custom ⟨descriptor⟩
  | list elements => do
    let elements ← elements.value
    return .collection (← (Collection.listOf elements).mapError .component)
  | set elements => do
    let elements ← elements.value
    return .collection (← (Collection.setOf elements).mapError .component)
  | map keys values => do
    let keys ← keys.value
    let values ← values.value
    return .collection (← (Collection.mapOf keys values).mapError .component)
  | known name type => return .userDefined ⟨name, type⟩
  | lookup registered name =>
    return .userDefined (← (UserDefined.lookup registered name).mapError .name)
  | view descriptor => return .ofDescriptor descriptor
  | part which whole => do
    match (← whole.value).part? which with
    | some type => return type
    | none => throw (.noPart which)

/-- The described type that is made. -/
def described (tested : Bool) : Construction → Attempt Refusal DescribedType
  | native type => return .native type
  | custom path text =>
    return .custom (← ExceptT.mk (.ok ((Custom.ofTypeName path text).mapError .spelling)))
  | customOver descriptor => return .custom ⟨descriptor⟩
  | list elements => do
    let elements ← elements.described tested
    return .collection (← (DescribedCollection.listOf tested elements).adapt .component)
  | set elements => do
    let elements ← elements.described tested
    return .collection (← (DescribedCollection.setOf tested elements).adapt .component)
  | map keys values => do
    let keys ← keys.described tested
    let values ← values.described tested
    return .collection (← (DescribedCollection.mapOf tested keys values).adapt .component)
  | known name type => return .userDefined (← DescribedUserType.known tested name type)
  | lookup registered name =>
    return .userDefined (← (DescribedUserType.lookup tested registered name).adapt .name)
  | view descriptor => DescribedType.ofDescriptor tested descriptor
  | part which whole => do
    match ← (← whole.described tested).part? tested which with
    | some type => return type
    | none => throw (.noPart which)

end Construction

end ColumnTypes
