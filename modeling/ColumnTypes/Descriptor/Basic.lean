import ColumnTypes.ClassName
import ColumnTypes.Text.Utf8

/-!
# Storage type descriptors

A descriptor says how the values of a column are stored and compared. It is a scalar, a class from
outside, one of the parametric types over other descriptors, or a user type: a composite with a
keyspace, a name and named fields, whose names are bytes.

Equality is that of the structure: `Descriptor.same` decides it, and the instance of `DecidableEq`
rests on `Descriptor.same_iff`. No bound on nesting is built into the type.
-/

namespace ColumnTypes

mutual

/-- A storage type. -/
inductive Descriptor where
  | scalar (type : Scalar)
  /-- A class from outside the library. -/
  | external (name : ClassName)
  /-- The base type in the opposite order. -/
  | reversed (base : Descriptor)
  | list (elements : Descriptor)
  | set (elements : Descriptor)
  | map (keys values : Descriptor)
  | user (type : UserType)

/-- A composite type of named fields. -/
structure UserType where
  keyspace : String
  name : Bytes
  fields : List (Bytes × Descriptor)

end

mutual

/-- Both descriptors have the same structure. -/
def Descriptor.same : Descriptor → Descriptor → Bool
  | .scalar a, .scalar b => a = b
  | .external a, .external b => a = b
  | .reversed a, .reversed b | .list a, .list b | .set a, .set b => a.same b
  | .map k v, .map k' v' => k.same k' && v.same v'
  | .user ⟨keyspace, name, fields⟩, .user ⟨keyspace', name', fields'⟩ =>
    keyspace = keyspace' && name = name' && sameFields fields fields'
  | _, _ => false

def sameFields : List (Bytes × Descriptor) → List (Bytes × Descriptor) → Bool
  | [], [] => true
  | (name, type) :: rest, (name', type') :: rest' =>
    name = name' && type.same type' && sameFields rest rest'
  | _, _ => false

end

mutual

theorem Descriptor.same_iff (a b : Descriptor) : a.same b = true ↔ a = b := by
  match a with
  | .scalar _ => cases b <;> simp [Descriptor.same]
  | .external _ => cases b <;> simp [Descriptor.same]
  | .reversed d => cases b <;> simp [Descriptor.same, d.same_iff]
  | .list d => cases b <;> simp [Descriptor.same, d.same_iff]
  | .set d => cases b <;> simp [Descriptor.same, d.same_iff]
  | .map k v => cases b <;> simp [Descriptor.same, k.same_iff, v.same_iff]
  | .user ⟨_, _, fields⟩ =>
    cases b with
    | user type => cases type; simp [Descriptor.same, sameFields_iff fields, and_assoc]
    | _ => simp [Descriptor.same]

theorem sameFields_iff (a b : List (Bytes × Descriptor)) : sameFields a b = true ↔ a = b := by
  match a, b with
  | [], [] => simp [sameFields]
  | [], _ :: _ => simp [sameFields]
  | _ :: _, [] => simp [sameFields]
  | (_, type) :: rest, (_, type') :: rest' =>
    simp [sameFields, type.same_iff type', sameFields_iff rest rest', and_assoc]

end

instance : DecidableEq Descriptor := fun a b =>
  decidable_of_iff (a.same b = true) (a.same_iff b)

inductive CollectionKind where
  | list
  | set
  | map
  deriving DecidableEq, Repr

namespace CollectionKind

def all : List CollectionKind := [list, set, map]

def keyword : CollectionKind → String
  | list => "list"
  | set => "set"
  | map => "map"

end CollectionKind

namespace UserType

def new (keyspace : String) (name : Bytes) : UserType :=
  ⟨keyspace, name, []⟩

def withField (type : UserType) (name : Bytes) (field : Descriptor) : UserType :=
  { type with fields := type.fields ++ [(name, field)] }

/-- The name as text, where malformed bytes are shown as U+FFFD. -/
def nameText (type : UserType) : String :=
  Utf8.decodeLossy type.name

/-- The type of the field at an index from 0. -/
def fieldType? (type : UserType) (index : Nat) : Option Descriptor :=
  type.fields[index]?.map (·.2)

def size (type : UserType) : Nat :=
  type.fields.length

def isEmpty (type : UserType) : Bool :=
  type.fields.isEmpty

theorem user_inj {a b : UserType} : Descriptor.user a = Descriptor.user b ↔ a = b :=
  ⟨fun h => Descriptor.user.inj h, fun h => h ▸ rfl⟩

instance : DecidableEq UserType := fun _ _ => decidable_of_iff _ user_inj

end UserType

namespace Descriptor

/-- The class name without package and parameters. -/
def simpleName : Descriptor → String
  | scalar type => type.simpleName
  | external name => name.simpleName
  | reversed _ => BuiltIn.reversed.simpleName
  | list _ => BuiltIn.list.simpleName
  | set _ => BuiltIn.set.simpleName
  | map _ _ => BuiltIn.map.simpleName
  | user _ => BuiltIn.user.simpleName

/-- The descriptor is the counter, not reversed. -/
def isCounter (d : Descriptor) : Bool :=
  d = scalar .counterColumn

/-- The shape of a list, set or map that is not reversed. -/
def collectionKind? : Descriptor → Option CollectionKind
  | list _ => some .list
  | set _ => some .set
  | map _ _ => some .map
  | _ => none

/-- The descriptor is a list, set or map, not reversed. -/
def isCollection (d : Descriptor) : Bool :=
  d.collectionKind?.isSome

def userType? : Descriptor → Option UserType
  | user type => some type
  | _ => none

/-- The class of that name, unless a built-in class has it. -/
def ofClassName (name : String) : Except ClassName.Fault Descriptor :=
  (ClassName.ofString name).map external

end Descriptor

end ColumnTypes
