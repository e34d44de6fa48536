import ColumnTypes.Identifier
import ColumnTypes.Native
import ColumnTypes.ClassPath

/-!
# Column types

A column type is what a schema statement declares: a native type, a custom type over any descriptor,
a collection, or a user-defined type. Every one is stored as a descriptor (`ColumnType.descriptor`),
and every descriptor has a column type as its view (`ColumnType.ofDescriptor`). The view passes
through outer reversals, and several column types may share a descriptor, so the two are not
inverse to each other.

A collection keeps the descriptors of its components; its components are the views of those. Views
are not validated: the rules for components bind only those who make a collection from column types
(`Collection.listOf`, `Collection.setOf` and `Collection.mapOf`).

`ColumnType.Equiv` is equality up to the names of user-defined types.
-/

namespace ColumnTypes

/-- A column type named by a class. -/
structure Custom where
  descriptor : Descriptor
  deriving DecidableEq

namespace Custom

def ofTypeName (path : ClassPath) (text : String) : Except TypeError Custom :=
  (path.parse text).map Custom.mk

/-- The canonical spelling in quotes. -/
def display (custom : Custom) : String :=
  "'" ++ custom.descriptor.display ++ "'"

end Custom

/-- A list, set or map over stored components. -/
inductive Collection where
  | list (elements : Descriptor)
  | set (elements : Descriptor)
  | map (keys values : Descriptor)
  deriving DecidableEq

namespace Collection

def kind : Collection → CollectionKind
  | list _ => .list
  | set _ => .set
  | map _ _ => .map

def descriptor : Collection → Descriptor
  | list elements => .list elements
  | set elements => .set elements
  | map keys values => .map keys values

end Collection

/-- A composite under the name that a statement gives it. -/
structure UserDefined where
  name : Identifier
  userType : UserType

namespace UserDefined

def descriptor (type : UserDefined) : Descriptor :=
  .user type.userType

inductive LookupFault where
  /-- Nothing is registered under the name. -/
  | unknown (name : Identifier)
  /-- What is registered under the name is no user type. -/
  | notUserType (name : Identifier)
  deriving DecidableEq, Repr

def LookupFault.toError : LookupFault → TypeError
  | unknown name => .invalidRequest .unknownUserType ("Unknown type " ++ name.display)
  | notUserType name => .invalidRequest .notUserType (name.display ++ " is not a user type")

def lookup (registered : Identifier → Option Descriptor) (name : Identifier) :
    Except LookupFault UserDefined :=
  match registered name with
  | none => .error (.unknown name)
  | some (.user type) => .ok ⟨name, type⟩
  | some _ => .error (.notUserType name)

end UserDefined

inductive ColumnType where
  | native (type : Native)
  | custom (type : Custom)
  | collection (type : Collection)
  | userDefined (type : UserDefined)

namespace ColumnType

def descriptor : ColumnType → Descriptor
  | native type => type.descriptor
  | custom type => type.descriptor
  | collection type => type.descriptor
  | userDefined type => type.descriptor

/-- The column type that shows a descriptor. -/
def ofDescriptor : Descriptor → ColumnType
  | .scalar type =>
    match Native.ofScalar? type with
    | some type => native type
    | none => custom ⟨.scalar type⟩
  | .external name => custom ⟨.external name⟩
  | .reversed base => ofDescriptor base
  | .list elements => collection (.list elements)
  | .set elements => collection (.set elements)
  | .map keys values => collection (.map keys values)
  | .user type => userDefined ⟨.ofBytes type.name, type⟩

/-- The type is a list, set or map. A custom type over one is not. -/
def isCollection : ColumnType → Bool
  | collection _ => true
  | _ => false

/-- The type is the native counter. A custom type over the counter is not. -/
def isCounter : ColumnType → Bool
  | native type => type.isCounter
  | _ => false

def isUserType : ColumnType → Bool
  | userDefined _ => true
  | _ => false

/-- The types are equal but for the names that user-defined types go by. -/
def Equiv : ColumnType → ColumnType → Prop
  | native a, native b => a = b
  | custom a, custom b => a = b
  | collection a, collection b => a = b
  | userDefined a, userDefined b => a.userType = b.userType
  | _, _ => False

instance : DecidableRel Equiv := fun a b => by
  cases a <;> cases b <;> unfold Equiv <;> infer_instance

end ColumnType

/-- The text of the view of a descriptor. -/
def Descriptor.columnText : Descriptor → String
  | .scalar type =>
    match Native.ofScalar? type with
    | some type => type.keyword
    | none => Custom.display ⟨.scalar type⟩
  | .external name => Custom.display ⟨.external name⟩
  | .reversed base => base.columnText
  | .list elements => "list<" ++ elements.columnText ++ ">"
  | .set elements => "set<" ++ elements.columnText ++ ">"
  | .map keys values => "map<" ++ keys.columnText ++ ", " ++ values.columnText ++ ">"
  | .user type => Identifier.display (.ofBytes type.name)

namespace Collection

/-- The keyword of the shape with the texts of the components in angle brackets. -/
def display (collection : Collection) : String :=
  collection.descriptor.columnText

def elements? : Collection → Option ColumnType
  | list elements | set elements => some (.ofDescriptor elements)
  | map _ _ => none

def keys? : Collection → Option ColumnType
  | map keys _ => some (.ofDescriptor keys)
  | _ => none

def values? : Collection → Option ColumnType
  | map _ values => some (.ofDescriptor values)
  | _ => none

end Collection

namespace ColumnType

def display : ColumnType → String
  | native type => type.keyword
  | custom type => type.display
  | collection type => type.display
  | userDefined type => type.name.display

instance : ToString ColumnType := ⟨display⟩

/-- The text of a view does not depend on how the view is reached. -/
theorem display_ofDescriptor (d : Descriptor) : (ofDescriptor d).display = d.columnText := by
  induction d using ofDescriptor.induct with
  | case1 type native h => simp [ofDescriptor, display, Descriptor.columnText, h]
  | case2 type h => simp [ofDescriptor, display, Descriptor.columnText, h]
  | case4 base ih => simpa [ofDescriptor, Descriptor.columnText] using ih
  | _ => simp [ofDescriptor, display, Descriptor.columnText, Collection.display,
      Collection.descriptor]

end ColumnType

end ColumnTypes
