import ColumnTypes.Text.CaseTable

/-!
# Lowercasing

Lowercasing maps a text character by character, with two exceptions. The capital I with a dot above
becomes two characters. The capital sigma becomes the final sigma at the end of a word, and the
plain one elsewhere: the end of a word is a place with a letter before it and none after it, where
characters that case ignores are skipped on both sides.
-/

namespace ColumnTypes.Text

/-- The lowercase of a character outside the two exceptions. -/
def simpleLower (c : Char) : Char :=
  match caseRuns.find? (·.covers c.toNat) with
  | some run => Char.ofNat (run.lower + (c.toNat - run.first))
  | none => c

/-- The nearest character that case does not ignore is a letter. -/
def startsCased (text : List Char) : Bool :=
  match text.dropWhile isCaseIgnorable with
  | c :: _ => isCased c
  | [] => false

/-- The end of a word, between what stands before it, nearest first, and what follows. -/
def endsWord (before after : List Char) : Bool :=
  startsCased before && !startsCased after

def lowerAt (before : List Char) (c : Char) (after : List Char) : List Char :=
  if c = 'Σ' then [if endsWord before after then 'ς' else 'σ']
  else if c = 'İ' then ['i', '\u0307']
  else [simpleLower c]

/-- The lowercase of a text that follows `before`, which is given nearest first. -/
def lowerFrom (before : List Char) : List Char → List Char
  | [] => []
  | c :: after => lowerAt before c after ++ lowerFrom (c :: before) after

def lowercase (text : String) : String :=
  String.ofList (lowerFrom [] text.toList)

end ColumnTypes.Text
