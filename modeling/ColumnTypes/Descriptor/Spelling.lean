import ColumnTypes.Descriptor.Basic
import ColumnTypes.Spelling.Term
import ColumnTypes.Text.Hex

/-!
# Spelling of descriptors

Every descriptor has one canonical spelling: full class names, no gaps, and the names of user types
as lowercase hexadecimal digits, so that any bytes can be spelled. It is written in two steps,
through the term of the descriptor.
-/

namespace ColumnTypes

/-- A name as an argument: its digits, or an empty argument for the empty name. -/
def Argument.hexName (name : Bytes) : Argument :=
  if name = [] then .empty else .type (.bare (String.ofList (Hex.encode name)))

def BuiltIn.applied (builtIn : BuiltIn) (arguments : List Argument) : Term :=
  .applied builtIn.className arguments

mutual

/-- The term of the canonical spelling. -/
def Descriptor.term : Descriptor → Term
  | .scalar type => .bare (BuiltIn.scalar type).className
  | .external name => .bare name.text
  | .reversed base => BuiltIn.reversed.applied [.type base.term]
  | .list elements => BuiltIn.list.applied [.type elements.term]
  | .set elements => BuiltIn.set.applied [.type elements.term]
  | .map keys values => BuiltIn.map.applied [.type keys.term, .type values.term]
  | .user ⟨keyspace, name, fields⟩ =>
    BuiltIn.user.applied
      (.hexName (Utf8.encode keyspace) :: .hexName name :: fieldArguments fields)

/-- Each field as an argument, labelled by the digits of its name. -/
def fieldArguments : List (Bytes × Descriptor) → List Argument
  | [] => []
  | (name, type) :: rest =>
    .field (String.ofList (Hex.encode name)) type.term :: fieldArguments rest

end

namespace Descriptor

def spelling (d : Descriptor) : List Char :=
  Token.write d.term.tokens

def display (d : Descriptor) : String :=
  String.ofList d.spelling

instance : ToString Descriptor := ⟨display⟩

end Descriptor

end ColumnTypes
