import ColumnTypes.Spelling.Reading

/-!
# Reading spellings without tokens

A spelling can be read straight from its characters, by readers that call each other as the rules
of the grammar do. A reader takes what it reads from the front of a text and returns it with the
text behind it. Gaps are skipped behind a name, behind an opening parenthesis, around an argument
and around the type of a field, and nowhere else; the blanks at the ends of a spelling are dropped
before its term is read and after.

What is left of a text is always a last part of it (`Front.suffix`). So a series of arguments gets
shorter with each comma, and the text behind a complete term can be quoted as it stands.
-/

namespace ColumnTypes.Direct

/-- What was read from the front of a text, with what stands behind it. -/
structure Front (α : Type) (text : List Char) where
  value : α
  rest : List Char
  suffix : rest <:+ text

abbrev Reader (α : Type) :=
  (text : List Char) → Except SpellingFault (Front α text)

namespace Front

variable {α β : Type} {text later : List Char}

def start (text : List Char) : Front Unit text :=
  ⟨(), text, List.suffix_rfl⟩

def map (f : α → β) (front : Front α text) : Front β text :=
  ⟨f front.value, front.rest, front.suffix⟩

/-- The front of a last part of a text, seen from the whole of it. -/
def within (front : Front α later) (suffix : later <:+ text) : Front α text :=
  ⟨front.value, front.rest, front.suffix.trans suffix⟩

def skipGaps (front : Front α text) : Front α text :=
  ⟨front.value, front.rest.dropWhile Text.isGap,
    (List.dropWhile_suffix _).trans front.suffix⟩

/-- Go on behind this character, if it comes next. -/
def token? (char : Char) (front : Front α text) : Option (Front α text) :=
  match front.rest, front.suffix with
  | [], _ => none
  | c :: rest, suffix =>
    if c = char then some ⟨front.value, rest, (List.suffix_cons c rest).trans suffix⟩ else none

def read (front : Front α text) (reader : Reader β) : Except SpellingFault (Front β text) :=
  match reader front.rest with
  | .error fault => .error fault
  | .ok behind => .ok (behind.within front.suffix)

theorem token?_eq_some {char : Char} {front behind : Front α text}
    (h : front.token? char = some behind) :
    behind.value = front.value ∧ front.rest = char :: behind.rest := by
  obtain ⟨value, rest, suffix⟩ := front
  cases rest with
  | nil => cases h
  | cons c rest =>
    simp only [token?] at h
    split at h
    · rename_i same
      cases h
      exact ⟨rfl, congrArg (· :: rest) same⟩
    · cases h

/-- Reading a character leaves less of the text, which is why series of arguments end. -/
theorem length_token? {char : Char} {front behind : Front α text}
    (h : front.token? char = some behind) : behind.rest.length < text.length := by
  have shorter := front.suffix.length_le
  rw [(token?_eq_some h).2, List.length_cons] at shorter
  exact shorter

end Front

def name : Reader String := fun text =>
  if (text.takeWhile isNameChar).isEmpty then .error .nameExpected
  else
    .ok ⟨String.ofList (text.takeWhile isNameChar), text.dropWhile isNameChar,
      List.dropWhile_suffix _⟩

def field (type : Reader Term) (label : String) : Reader Argument := fun text =>
  match (Front.start text).skipGaps.read type with
  | .error fault => .error fault
  | .ok front => .ok (front.skipGaps.map (.field label))

/-- A name alone is the label of a field if a colon follows. -/
def asArgument (type : Reader Term) {text : List Char} (front : Front Term text) :
    Except SpellingFault (Front Argument text) :=
  match front.value, front.skipGaps.token? ':' with
  | .bare name, some behind => behind.read (field type name)
  | term, _ => .ok (front.skipGaps.map fun _ => .type term)

/-- A field without a name, or what begins with a name. -/
def filled (type : Reader Term) {text : List Char} (start : Front Unit text) :
    Except SpellingFault (Front Argument text) :=
  match start.token? ':' with
  | some front => front.read (field type "")
  | none =>
    match start.read type with
    | .error fault => .error fault
    | .ok front => asArgument type front

/-- One argument, which is empty where a separator or the end of the text comes next. -/
def argument (type : Reader Term) : Reader Argument := fun text =>
  let start := (Front.start text).skipGaps
  if start.rest.head?.all (fun c => c = ',' || c = ')') then .ok (start.map fun _ => .empty)
  else filled type start

/-- One argument or more, separated by commas. -/
def series (argument : Reader Argument) (text : List Char) :
    Except SpellingFault (Front (List Argument) text) :=
  match argument text with
  | .error fault => .error fault
  | .ok front =>
    match _ : front.token? ',' with
    | none => .ok (front.map fun first => [first])
    | some behind =>
      match series argument behind.rest with
      | .error fault => .error fault
      | .ok others => .ok ((others.map (front.value :: ·)).within behind.suffix)
termination_by text.length
decreasing_by exact Front.length_token? ‹_›

def closed {text : List Char} (arguments : Except SpellingFault (Front (List Argument) text)) :
    Except SpellingFault (Front (List Argument) text) :=
  match arguments with
  | .error fault => .error fault
  | .ok front =>
    match front.token? ')' with
    | some behind => .ok behind
    | none => .error .listNotClosed

/-- The arguments of a list and its end, behind the opening parenthesis. -/
def parameters (argument : Reader Argument) : Reader (List Argument) := fun text =>
  let start := (Front.start text).skipGaps
  match start.token? ')' with
  | some behind => .ok (behind.map fun _ => [])
  | none => closed (start.read (series argument))

def withParameters (parameters : Reader (List Argument)) {text : List Char}
    (front : Front String text) : Except SpellingFault (Front Term text) :=
  match front.skipGaps.token? '(' with
  | none => .ok (front.skipGaps.map .bare)
  | some behind =>
    match behind.read parameters with
    | .error fault => .error fault
    | .ok list => .ok (list.map (.applied front.value))

def term (limit depth : Nat) : Reader Term := fun text =>
  if limit < depth then .error (.tooDeep limit)
  else
    match name text with
    | .error fault => .error fault
    | .ok front => withParameters (parameters (argument (term limit (depth + 1)))) front
termination_by limit + 1 - depth

def trailingFault? : List Char → Option SpellingFault
  | [] => none
  | c :: rest =>
    if c = ')' then some .unmatchedClosing
    else if isNameChar c then some (.trailing (String.ofList (c :: rest)))
    else some (.illegalCharacter c)

def ofText (text : List Char) : Except SpellingFault Term :=
  match term maxNesting 0 (text.dropWhile Text.isBlank) with
  | .error fault => .error fault
  | .ok front =>
    match trailingFault? (front.rest.dropWhile Text.isBlank) with
    | some fault => .error fault
    | none => .ok front.value

end ColumnTypes.Direct
