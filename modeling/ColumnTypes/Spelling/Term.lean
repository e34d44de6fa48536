import ColumnTypes.Spelling.Token

/-!
# Terms

A term is the structure of a type spelling before its names mean anything: a name, alone or applied
to a list of arguments. An argument is a term, a field (a name, which may be empty, with a term for
its type) or empty.

`Term.tokens` writes a term. A list that holds a single empty argument is written like the list that
holds none; `Term.WellFormed` rules it out, so that tokens and terms determine each other.
-/

namespace ColumnTypes

mutual

/-- The structure of a type spelling. -/
inductive Term where
  /-- A name without a parameter list. -/
  | bare (name : String)
  /-- A name with a parameter list, which may be empty. -/
  | applied (name : String) (arguments : List Argument)

/-- What stands between two separators of a parameter list. -/
inductive Argument where
  | type (term : Term)
  /-- A named field. The name may be empty. -/
  | field (label : String) (type : Term)
  | empty

end

/-- The deepest nesting of parameter lists around an argument that is not empty. -/
def maxNesting : Nat := 64

mutual

def Term.tokens : Term → List Token
  | .bare name => [.name name]
  | .applied name arguments => .name name :: .opening :: (listTokens arguments ++ [.closing])

def Argument.tokens : Argument → List Token
  | .type term => term.tokens
  | .field label type => (if label = "" then [] else [.name label]) ++ .colon :: type.tokens
  | .empty => []

def listTokens : List Argument → List Token
  | [] => []
  | argument :: rest => argument.tokens ++ moreTokens rest

/-- The tokens of the arguments after the first, each behind a comma. -/
def moreTokens : List Argument → List Token
  | [] => []
  | argument :: rest => .comma :: (argument.tokens ++ moreTokens rest)

end

/-- A text that is read as one name. -/
def IsName (text : String) : Prop :=
  text ≠ "" ∧ ∀ c ∈ text.toList, isNameChar c

instance (text : String) : Decidable (IsName text) :=
  inferInstanceAs (Decidable (_ ∧ _))

mutual

/-- Every name is one, and no parameter list holds a single empty argument. -/
def Term.WellFormed : Term → Prop
  | .bare name => IsName name
  | .applied name arguments =>
    IsName name ∧ (∀ only, arguments = [only] → only ≠ .empty) ∧ AllWellFormed arguments

/-- The term of the argument, if any, is well formed, and a label is empty or a name. -/
def Argument.WellFormed : Argument → Prop
  | .type term => term.WellFormed
  | .field label type => (label = "" ∨ IsName label) ∧ type.WellFormed
  | .empty => True

def AllWellFormed : List Argument → Prop
  | [] => True
  | argument :: rest => argument.WellFormed ∧ AllWellFormed rest

end

mutual

/-- The number of parameter lists around the innermost argument that is not empty. -/
def Term.depth : Term → Nat
  | .bare _ => 0
  | .applied _ arguments => listDepth arguments

/-- The number of parameter lists around the innermost argument that is not empty, where the
arguments of this list count their own list. -/
def listDepth : List Argument → Nat
  | [] => 0
  | .type term :: rest | .field _ term :: rest => max (term.depth + 1) (listDepth rest)
  | .empty :: rest => listDepth rest

end

end ColumnTypes
