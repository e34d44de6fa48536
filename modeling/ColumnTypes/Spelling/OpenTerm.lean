import ColumnTypes.Spelling.Term

/-!
# Reading terms

Tokens are read from left to right, one at a time, by a machine whose state is an `OpenTerm`: the
parameter lists that are open, innermost first, and the place in the innermost one. Each step takes
one token, so reading is structural on the tokens and stops at the first token that fits nowhere,
or as soon as the term is complete. The tokens behind a complete term are left to the caller.

An argument that is not empty may stand in at most `limit` open lists. The limit is tested before
the token that begins the argument is looked at, so beyond it every token but a separator is too
deep, whatever else may be wrong with it.
-/

namespace ColumnTypes

/-- Why a text is the spelling of no term. -/
inductive SpellingFault where
  /-- A name has to stand where something else, or nothing, stands. -/
  | nameExpected
  /-- A parameter list neither goes on nor ends. -/
  | listNotClosed
  /-- An argument stands in too many parameter lists. -/
  | tooDeep (limit : Nat)
  /-- A closing parenthesis follows the complete term. -/
  | unmatchedClosing
  /-- Another character that is no name character follows the complete term. -/
  | illegalCharacter (char : Char)
  /-- More text, which is given, follows the complete term. -/
  | trailing (text : String)
  deriving DecidableEq, Repr

def Argument.labelled : Option String → Term → Argument
  | none, term => .type term
  | some label, term => .field label term

/-- A parameter list that has not been closed. -/
structure OpenList where
  /-- The label of the field whose type this list belongs to. -/
  label : Option String
  /-- The name before the list. -/
  name : String
  /-- The complete arguments, last first. -/
  arguments : List Argument

inductive Place where
  /-- Right behind the opening parenthesis. -/
  | first
  /-- Right behind a comma. -/
  | next
  /-- Right behind the colon of a field. -/
  | fieldType (label : String)
  /-- Right behind a name, which is the type of a field if there is a label. -/
  | named (label : Option String) (name : String)
  /-- Right behind an argument that nothing can extend. -/
  | complete (argument : Argument)

/-- A term of which only a first part has been read. -/
structure OpenTerm where
  /-- The open lists around the innermost one, nearest first. -/
  outer : List OpenList
  inner : OpenList
  place : Place

inductive Reading where
  | more (state : OpenTerm)
  | done (term : Term)

namespace OpenTerm

def depth (state : OpenTerm) : Nat :=
  state.outer.length + 1

/-- Close the innermost list, which holds these arguments, last first. -/
def close (state : OpenTerm) (arguments : List Argument) : Reading :=
  let term := Term.applied state.inner.name arguments.reverse
  match state.outer with
  | [] => .done term
  | inner :: outer => .more ⟨outer, inner, .complete (.labelled state.inner.label term)⟩

/-- Behind an argument, the list goes on or ends. -/
def finish (state : OpenTerm) (argument : Argument) : Token → Except SpellingFault Reading
  | .comma =>
    let arguments := argument :: state.inner.arguments
    .ok (.more { state with inner := { state.inner with arguments := arguments }, place := .next })
  | .closing => .ok (state.close (argument :: state.inner.arguments))
  | _ => .error .listNotClosed

/-- An argument begins with a name or a colon; before a separator it is empty. -/
def begin (limit : Nat) (state : OpenTerm) (token : Token) : Except SpellingFault Reading :=
  if token = .comma ∨ token = .closing then state.finish .empty token
  else if limit < state.depth then .error (.tooDeep limit)
  else
    match token with
    | .name name => .ok (.more { state with place := .named none name })
    | .colon => .ok (.more { state with place := .fieldType "" })
    | _ => .error .nameExpected

def step (limit : Nat) (state : OpenTerm) (token : Token) : Except SpellingFault Reading :=
  match state.place, token with
  | .first, .closing => .ok (state.close [])
  | .first, token | .next, token => state.begin limit token
  | .fieldType label, .name name => .ok (.more { state with place := .named (some label) name })
  | .fieldType _, _ => .error .nameExpected
  | .named label name, .opening =>
    .ok (.more ⟨state.inner :: state.outer, ⟨label, name, []⟩, .first⟩)
  | .named none name, .colon => .ok (.more { state with place := .fieldType name })
  | .named label name, token => state.finish (.labelled label (.bare name)) token
  | .complete argument, token => state.finish argument token

/-- What is missing where the tokens end. -/
def atEnd (state : OpenTerm) : SpellingFault :=
  match state.place with
  | .fieldType _ => .nameExpected
  | _ => .listNotClosed

/-- Read tokens until the term is complete, and return the tokens behind it. -/
def run (limit : Nat) (state : OpenTerm) : List Token → Except SpellingFault (Term × List Token)
  | [] => .error state.atEnd
  | token :: rest =>
    match state.step limit token with
    | .error fault => .error fault
    | .ok (.more next) => run limit next rest
    | .ok (.done term) => .ok (term, rest)

end OpenTerm

/-- Read the term that the tokens begin with, and return the tokens behind it. -/
def Term.ofTokens (limit : Nat) : List Token → Except SpellingFault (Term × List Token)
  | .name name :: .opening :: rest => OpenTerm.run limit ⟨[], ⟨none, name, []⟩, .first⟩ rest
  | .name name :: rest => .ok (.bare name, rest)
  | _ => .error .nameExpected

end ColumnTypes
