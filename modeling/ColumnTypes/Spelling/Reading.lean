import ColumnTypes.Spelling.OpenTerm

/-!
# Reading spellings

A spelling is the tokens of one term, with blanks of Unicode allowed before and behind it. Whatever
else follows the term is a fault, which is told apart by its first token.
-/

namespace ColumnTypes

namespace SpellingFault

def code : SpellingFault → ErrorCode
  | nameExpected | illegalCharacter _ => .illegalCharacter
  | listNotClosed | unmatchedClosing => .unbalancedParameters
  | tooDeep _ => .nestingTooDeep
  | trailing _ => .trailingInput

def message : SpellingFault → String
  | nameExpected => "expected a type name"
  | listNotClosed => "expected ',' or ')' in type parameters"
  | tooDeep limit => s!"type parameters nest deeper than {limit} levels"
  | unmatchedClosing => "unexpected ')'"
  | illegalCharacter char => s!"illegal character '{char}'"
  | trailing text => s!"unexpected '{text}' after type"

def toError (text : String) (fault : SpellingFault) : TypeError :=
  .malformed fault.code fault.message text

end SpellingFault

/-- The text from the token on that has `count` tokens from it to the end. -/
def textOfLast (count : Nat) (lexemes : List Lexeme) : String :=
  match lexemes.drop (lexemes.length - count) with
  | lexeme :: _ => String.ofList lexeme.source
  | [] => ""

/-- The fault of the tokens that follow a complete term, where they are one. -/
def trailingFault? (lexemes : List Lexeme) : List Token → Option SpellingFault
  | [] => none
  | .closing :: _ => some .unmatchedClosing
  | .opening :: _ => some (.illegalCharacter '(')
  | .comma :: _ => some (.illegalCharacter ',')
  | .colon :: _ => some (.illegalCharacter ':')
  | .stray c :: _ => some (.illegalCharacter c)
  | .name text :: rest =>
    some (.trailing (textOfLast (Token.name text :: rest).length lexemes))

def Term.ofText (text : List Char) : Except SpellingFault Term :=
  match Term.ofTokens maxNesting ((Token.scan text).dropWhile Token.isBlank) with
  | .error fault => .error fault
  | .ok (term, rest) =>
    match trailingFault? (Lexeme.scan text) (rest.dropWhile Token.isBlank) with
    | some fault => .error fault
    | none => .ok term

end ColumnTypes
