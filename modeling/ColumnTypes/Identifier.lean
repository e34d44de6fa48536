import ColumnTypes.Text.Lowercase
import ColumnTypes.Text.Utf8

/-!
# Identifiers

An identifier is a name in a schema statement. Without quotes it is folded to lowercase, in quotes
it keeps its case, and a stored name is taken as it is. Two identifiers are equal when their texts
are, however they were written; their order is that of the code points.
-/

namespace ColumnTypes

/-- A name in a schema statement. -/
structure Identifier where
  text : String
  deriving DecidableEq, Repr

namespace Identifier

def unquoted (text : String) : Identifier :=
  ⟨Text.lowercase text⟩

def quoted (text : String) : Identifier :=
  ⟨text⟩

def ofBytes (name : Bytes) : Identifier :=
  ⟨Utf8.decodeLossy name⟩

/-- The text, without quotes. -/
def display (name : Identifier) : String :=
  name.text

/-- The first differing code point decides; a text precedes its extensions. -/
def le (a b : Identifier) : Bool :=
  ¬ b.text < a.text

end Identifier

end ColumnTypes
