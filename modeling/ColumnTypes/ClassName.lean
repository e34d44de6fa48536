import ColumnTypes.Scalar
import ColumnTypes.TypeError

/-!
# Class names

Storage types are named by classes. A name without a dot belongs to `marshalPackage`, and `qualify`
puts it there. The classes of `BuiltIn` have a meaning of their own; a `ClassName` is the qualified
name of any other class.

`ClassName.Valid` states what such a name is, and `ClassName.ofString` makes one from a name or
says why it cannot.
-/

namespace ColumnTypes

def marshalPackage : String := "org.apache.cassandra.db.marshal"

/-- The characters of class names and of hexadecimal names. -/
def isNameChar (c : Char) : Bool :=
  c.isAlphanum || c = '-' || c = '+' || c = '.' || c = '_' || c = '&'

def inMarshalPackage (simpleName : String) : String :=
  marshalPackage ++ "." ++ simpleName

/-- The full name of a class. A name with a dot in it is full already. -/
def qualify (name : String) : String :=
  if '.' ∈ name.toList then name else inMarshalPackage name

/-- A class that every class path can load. -/
inductive BuiltIn where
  | scalar (type : Scalar)
  | reversed
  | list
  | set
  | map
  | user
  deriving DecidableEq, Repr

namespace BuiltIn

def all : List BuiltIn :=
  Scalar.all.map scalar ++ [reversed, list, set, map, user]

def simpleName : BuiltIn → String
  | scalar type => type.simpleName
  | reversed => "ReversedType"
  | list => "ListType"
  | set => "SetType"
  | map => "MapType"
  | user => "UserType"

def className (builtIn : BuiltIn) : String :=
  inMarshalPackage builtIn.simpleName

def ofClassName? (name : String) : Option BuiltIn :=
  all.find? (·.className = name)

end BuiltIn

/-- A full name, in name characters, of a class that is not built in. -/
def ClassName.Valid (text : String) : Prop :=
  (∀ c ∈ text.toList, isNameChar c) ∧ '.' ∈ text.toList ∧ BuiltIn.ofClassName? text = none

instance (text : String) : Decidable (ClassName.Valid text) :=
  inferInstanceAs (Decidable (_ ∧ _ ∧ _))

/-- The full name of a class from outside the library. -/
structure ClassName where
  text : String
  valid : ClassName.Valid text
  deriving DecidableEq

namespace ClassName

inductive Fault where
  /-- There is no name. -/
  | empty
  /-- A character that is no name character, the first of them. -/
  | illegalCharacter (char : Char)
  /-- The class is built in; its full name is given. -/
  | builtIn (name : String)
  deriving DecidableEq, Repr

def Fault.toError (name : String) : Fault → TypeError
  | empty => .malformed .illegalCharacter "empty class name" name
  | illegalCharacter char =>
    .malformed .illegalCharacter s!"illegal character '{char}' in class name" name
  | builtIn name =>
    .configuration .shadowsBuiltIn s!"'{name}' names a built-in marshalling class" none

theorem isNameChar_qualify {name : String} (h : ∀ c ∈ name.toList, isNameChar c) :
    ∀ c ∈ (qualify name).toList, isNameChar c := by
  have inPackage : (marshalPackage ++ ".").toList.all isNameChar := by decide +kernel
  unfold qualify inMarshalPackage
  split
  · exact h
  · intro c hc
    rw [String.toList_append, List.mem_append] at hc
    exact hc.elim (List.all_eq_true.mp inPackage c) (h c)

theorem dot_mem_qualify (name : String) : '.' ∈ (qualify name).toList := by
  unfold qualify
  split
  · assumption
  · simp [inMarshalPackage]

/-- The class of a name, which may lack its package. -/
def ofString (name : String) : Except Fault ClassName :=
  if name = "" then .error .empty
  else
    match legal : name.toList.find? (!isNameChar ·) with
    | some char => .error (.illegalCharacter char)
    | none =>
      if external : BuiltIn.ofClassName? (qualify name) = none then
        have nameChars : ∀ c ∈ name.toList, isNameChar c := by simpa using legal
        .ok ⟨qualify name, isNameChar_qualify nameChars, dot_mem_qualify name, external⟩
      else .error (.builtIn (qualify name))

/-- What follows the last dot. -/
def simpleName (name : ClassName) : String :=
  String.ofList (name.text.toList.reverse.takeWhile (· ≠ '.')).reverse

end ClassName

end ColumnTypes
