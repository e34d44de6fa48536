/-!
# JSON values

The values that the JSON forms of the library are made of. Members of an object keep their order,
and a name may stand more than once; `valuesOf` reads all members of a name. Text is not read or
written here.
-/

namespace ColumnTypes

inductive Json where
  | null
  | bool (value : Bool)
  /-- A number written without fraction and exponent. -/
  | integer (value : Int)
  /-- Any other number: `mantissa` divided by ten to the power of `places`. -/
  | decimal (mantissa : Int) (places : Nat)
  | string (value : String)
  | array (items : List Json)
  | object (members : List (String × Json))

/-- The values of the members of that name. -/
def Json.valuesOf (name : String) (members : List (String × Json)) : List Json :=
  (members.filter (·.1 = name)).map (·.2)

end ColumnTypes
