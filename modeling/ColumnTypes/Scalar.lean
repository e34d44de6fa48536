/-!
# Scalar storage types

The built-in storage types that take no parameters, each with its simple class name.
-/

namespace ColumnTypes

/-- A storage type without parameters. -/
inductive Scalar where
  | ascii | long | bytes | boolean | counterColumn | decimal | double | float | inetAddress
  | int32 | utf8 | timestamp | uuid | integer | timeUuid | lexicalUuid | date | empty
  deriving DecidableEq, Repr

namespace Scalar

def all : List Scalar :=
  [ascii, long, bytes, boolean, counterColumn, decimal, double, float, inetAddress, int32, utf8,
    timestamp, uuid, integer, timeUuid, lexicalUuid, date, empty]

def simpleName : Scalar → String
  | ascii => "AsciiType"
  | long => "LongType"
  | bytes => "BytesType"
  | boolean => "BooleanType"
  | counterColumn => "CounterColumnType"
  | decimal => "DecimalType"
  | double => "DoubleType"
  | float => "FloatType"
  | inetAddress => "InetAddressType"
  | int32 => "Int32Type"
  | utf8 => "UTF8Type"
  | timestamp => "TimestampType"
  | uuid => "UUIDType"
  | integer => "IntegerType"
  | timeUuid => "TimeUUIDType"
  | lexicalUuid => "LexicalUUIDType"
  | date => "DateType"
  | empty => "EmptyType"

/-- The scalar of exactly that simple class name. -/
def ofSimpleName? (name : String) : Option Scalar :=
  all.find? (·.simpleName = name)

end Scalar

end ColumnTypes
