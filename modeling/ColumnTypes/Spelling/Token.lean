import ColumnTypes.ClassName
import ColumnTypes.Text.Blank

/-!
# Tokens

The spelling of a type is read as tokens: names, which are the longest runs of name characters, and
single characters of any other sort. Gaps separate tokens and belong to none.

`Lexeme.scan` also keeps the text that each token starts, for the messages that quote it. What a
spelling means depends on its tokens alone.
-/

namespace ColumnTypes

inductive Token where
  | name (text : String)
  /-- The parenthesis that opens a parameter list. -/
  | opening
  /-- The parenthesis that closes a parameter list. -/
  | closing
  | comma
  | colon
  /-- A character that no spelling contains. -/
  | stray (char : Char)
  deriving DecidableEq, Repr

namespace Token

/-- The token of a character that is neither a gap nor part of a name. -/
def ofChar (c : Char) : Token :=
  if c = '(' then opening
  else if c = ')' then closing
  else if c = ',' then comma
  else if c = ':' then colon
  else stray c

def text : Token → List Char
  | name text => text.toList
  | opening => ['(']
  | closing => [')']
  | comma => [',']
  | colon => [':']
  | stray c => [c]

/-- A character that is a blank of Unicode and no gap. -/
def isBlank : Token → Bool
  | stray c => Text.isBlank c
  | _ => false

end Token

/-- A token and the text from its first character to the end. -/
structure Lexeme where
  token : Token
  source : List Char
  deriving DecidableEq, Repr

namespace Lexeme

/-- A name character goes in front of a name that starts right behind it; in front of anything else
it is a name of its own. -/
def pushName (c : Char) (rest : List Char) (tail : List Lexeme) : List Lexeme :=
  match rest.head?.any isNameChar, tail with
  | true, ⟨.name text, _⟩ :: tail => ⟨.name (String.singleton c ++ text), c :: rest⟩ :: tail
  | _, tail => ⟨.name (String.singleton c), c :: rest⟩ :: tail

def scan : List Char → List Lexeme
  | [] => []
  | c :: rest =>
    if Text.isGap c then scan rest
    else if isNameChar c then pushName c rest (scan rest)
    else ⟨Token.ofChar c, c :: rest⟩ :: scan rest

end Lexeme

def Token.scan (text : List Char) : List Token :=
  (Lexeme.scan text).map (·.token)

def Token.write (tokens : List Token) : List Char :=
  tokens.flatMap Token.text

end ColumnTypes
