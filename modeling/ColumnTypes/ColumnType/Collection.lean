import ColumnTypes.ColumnType.Basic

/-!
# Making collections

A collection is made from column types as components. A component must not be a collection or the
counter. The first rule is tested on every component before the second is tested on any; both look
at the column type and not at what it is stored as, so a custom type over a collection passes.
-/

namespace ColumnTypes

namespace Collection

/-- Why a type cannot be a component. -/
inductive ComponentFault where
  /-- A component is a collection; the shape is that of the outer one. -/
  | nested (kind : CollectionKind)
  /-- A component is the counter. -/
  | counter
  deriving DecidableEq, Repr

def ComponentFault.toError : ComponentFault → TypeError
  | nested kind =>
    .invalidType .nestedCollection (kind.keyword ++ " type cannot contain another collection")
  | counter =>
    .invalidType .counterInCollection "counters are not allowed inside a collection"

/-- Test the components of a collection of that shape. -/
def checkComponents (kind : CollectionKind) (components : List ColumnType) :
    Except ComponentFault Unit :=
  if components.any ColumnType.isCollection then .error (.nested kind)
  else if components.any ColumnType.isCounter then .error .counter
  else .ok ()

def listOf (elements : ColumnType) : Except ComponentFault Collection := do
  checkComponents .list [elements]
  return list elements.descriptor

def setOf (elements : ColumnType) : Except ComponentFault Collection := do
  checkComponents .set [elements]
  return set elements.descriptor

def mapOf (keys values : ColumnType) : Except ComponentFault Collection := do
  checkComponents .map [keys, values]
  return map keys.descriptor values.descriptor

end Collection

end ColumnTypes
