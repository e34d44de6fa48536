import ColumnTypes.Descriptor.Basic
import ColumnTypes.Json

/-!
# Native column types

The column types that a keyword names. Each is stored as a scalar; two of them, `text` and
`varchar`, as the same one, which reads back as `text`. Three scalars have no keyword.
-/

namespace ColumnTypes

/-- A column type named by a keyword. -/
inductive Native where
  | ascii | bigint | blob | boolean | counter | decimal | double | float | inet | int | text
  | timestamp | uuid | varchar | varint | timeuuid
  deriving DecidableEq, Repr

namespace Native

def all : List Native :=
  [ascii, bigint, blob, boolean, counter, decimal, double, float, inet, int, text, timestamp, uuid,
    varchar, varint, timeuuid]

def keyword : Native → String
  | ascii => "ascii"
  | bigint => "bigint"
  | blob => "blob"
  | boolean => "boolean"
  | counter => "counter"
  | decimal => "decimal"
  | double => "double"
  | float => "float"
  | inet => "inet"
  | int => "int"
  | text => "text"
  | timestamp => "timestamp"
  | uuid => "uuid"
  | varchar => "varchar"
  | varint => "varint"
  | timeuuid => "timeuuid"

def scalar : Native → Scalar
  | ascii => .ascii
  | bigint => .long
  | blob => .bytes
  | boolean => .boolean
  | counter => .counterColumn
  | decimal => .decimal
  | double => .double
  | float => .float
  | inet => .inetAddress
  | int => .int32
  | text | varchar => .utf8
  | timestamp => .timestamp
  | uuid => .uuid
  | varint => .integer
  | timeuuid => .timeUuid

def descriptor (native : Native) : Descriptor :=
  .scalar native.scalar

def isCounter (native : Native) : Bool :=
  native = counter

/-- The first native type that is stored so. -/
def ofScalar? (type : Scalar) : Option Native :=
  all.find? (·.scalar = type)

def ofDescriptor? : Descriptor → Option Native
  | .scalar type => ofScalar? type
  | _ => none

theorem descriptor_of_ofDescriptor? {type : Native} {d : Descriptor}
    (known : ofDescriptor? d = some type) : type.descriptor = d := by
  cases d with
  | scalar stored =>
    have same : type.scalar = stored := by simpa using List.find?_some known
    exact congrArg Descriptor.scalar same
  | _ => cases known

/-- The native type of a keyword, where the case of ASCII letters does not matter. -/
def ofKeyword? (keyword : String) : Option Native :=
  let letters := keyword.toList.map Char.toLower
  all.find? (·.keyword.toList = letters)

def toJson (native : Native) : Json :=
  .string native.keyword

/-- The native type of a keyword in lowercase, which stands alone or is the only member of an object
whose value is null. -/
def ofJson? : Json → Option Native
  | .string word | .object [(word, .null)] => all.find? (·.keyword = word)
  | _ => none

end Native

end ColumnTypes
