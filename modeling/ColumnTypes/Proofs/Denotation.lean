import ColumnTypes.ClassPath
import ColumnTypes.Proofs.ClassNames
import ColumnTypes.Proofs.Decoding
import ColumnTypes.Proofs.Spells

/-!
# What terms denote

The rules by which a term denotes a descriptor, without an order of tests and without faults. A
class path resolves a term to exactly the descriptors that the term denotes (`resolve_eq_ok_iff`),
and so the texts that are parsed are the blank ones and the spellings of terms that denote
something.
-/

namespace ColumnTypes

/-- The digits of the bytes, with letters of either case. -/
def IsDigits (text : String) (bytes : Bytes) : Prop :=
  text.toList.map Char.toLower = Hex.encode bytes

/-- The argument names a keyspace or a type by these bytes. -/
inductive Argument.HexNames : Argument → Bytes → Prop
  | nothing : HexNames .empty []
  | digits {text : String} {bytes : Bytes} : IsDigits text bytes →
      HexNames (.type (.bare text)) bytes

/-- A name without arguments, and with no list or an empty one. -/
inductive Term.Alone (name : String) : Term → Prop
  | bare : Alone name (.bare name)
  | applied : Alone name (.applied name [])

mutual

/-- The term denotes the descriptor. -/
inductive ClassPath.Denotes (path : ClassPath) : Term → Descriptor → Prop
  | scalar {name : String} {type : Scalar} {term : Term} :
      (BuiltIn.scalar type).NamedBy name → term.Alone name → path.Denotes term (.scalar type)
  | external {name : String} {external : ClassName} {term : Term} :
      qualify name = external.text → external.text ∈ path.classes → term.Alone name →
      path.Denotes term (.external external)
  | reversed {name : String} {term : Term} {base : Descriptor} :
      BuiltIn.reversed.NamedBy name → path.Denotes term base →
      path.Denotes (.applied name [.type term]) (.reversed base)
  | list {name : String} {term : Term} {elements : Descriptor} :
      BuiltIn.list.NamedBy name → path.Denotes term elements →
      path.Denotes (.applied name [.type term]) (.list elements)
  | set {name : String} {term : Term} {elements : Descriptor} :
      BuiltIn.set.NamedBy name → path.Denotes term elements →
      path.Denotes (.applied name [.type term]) (.set elements)
  | map {name : String} {first second : Term} {keys values : Descriptor} :
      BuiltIn.map.NamedBy name → path.Denotes first keys → path.Denotes second values →
      path.Denotes (.applied name [.type first, .type second]) (.map keys values)
  | user {name keyspace : String} {first second : Argument} {typeName : Bytes}
      {rest : List Argument} {fields : List (Bytes × Descriptor)} :
      BuiltIn.user.NamedBy name → first.HexNames (Utf8.encode keyspace) →
      second.HexNames typeName → path.DenoteFields rest fields →
      path.Denotes (.applied name (first :: second :: rest)) (.user ⟨keyspace, typeName, fields⟩)

inductive ClassPath.DenoteFields (path : ClassPath) :
    List Argument → List (Bytes × Descriptor) → Prop
  | nil : path.DenoteFields [] []
  | cons {label : String} {bytes : Bytes} {term : Term} {type : Descriptor}
      {rest : List Argument} {fields : List (Bytes × Descriptor)} :
      IsDigits label bytes → path.Denotes term type → path.DenoteFields rest fields →
      path.DenoteFields (.field label term :: rest) ((bytes, type) :: fields)

end

theorem decodeHexName_eq_ok_iff {text : String} {bytes : Bytes} :
    decodeHexName text = .ok bytes ↔ IsDigits text bytes := by
  rw [IsDigits, ← Hex.decode_eq_ok_iff, decodeHexName]
  cases Hex.decode text.toList with
  | error fault => simp
  | ok found => simp

theorem Argument.hexName?_eq_ok_iff {argument : Argument} {bytes : Bytes} :
    argument.hexName? = .ok bytes ↔ argument.HexNames bytes := by
  constructor
  · intro h
    unfold hexName? at h
    split at h
    · have digits : [] = Hex.encode bytes := decodeHexName_eq_ok_iff.mp h
      rw [Hex.encode_eq_nil_iff.mp digits.symm]
      exact .nothing
    · exact .digits (decodeHexName_eq_ok_iff.mp h)
    · cases h
  · intro h
    cases h with
    | nothing => rfl
    | digits digits => exact decodeHexName_eq_ok_iff.mpr digits

theorem userTypeNames_eq_ok_iff {first second : Argument} {keyspace : String} {name : Bytes} :
    userTypeNames first second = .ok (keyspace, name) ↔
      first.HexNames (Utf8.encode keyspace) ∧ second.HexNames name := by
  simp only [userTypeNames, bind_eq_ok_iff, Argument.hexName?_eq_ok_iff]
  constructor
  · rintro ⟨bytes, named, h⟩
    split at h
    · cases h
    rename_i text valid
    simp only [bind_eq_ok_iff, pure_eq_ok_iff, Argument.hexName?_eq_ok_iff] at h
    obtain ⟨typeName, typeNamed, same⟩ := h
    cases same
    rw [Utf8.decode?_eq_some_iff.mp valid] at named
    exact ⟨named, typeNamed⟩
  · rintro ⟨named, typeNamed⟩
    refine ⟨_, named, ?_⟩
    simp only [Utf8.decode?_encode, bind_eq_ok_iff, Argument.hexName?_eq_ok_iff]
    exact ⟨name, typeNamed, rfl⟩

namespace ClassPath

variable {path : ClassPath}

/-- Loading succeeds for the external classes of the path, and only without parameters. -/
theorem load_eq_ok_iff {name : String} {given : Nat} {d : Descriptor} :
    path.load (qualify name) given = .ok d ↔
      given = 0 ∧ ∃ external : ClassName, qualify name = external.text ∧
        external.text ∈ path.classes ∧ d = .external external := by
  constructor
  · intro h
    rw [load] at h
    split at h
    · rename_i loaded
      split at h
      · rename_i none
        split at h
        · rename_i external made
          cases h
          have same := (ClassName.ofString_eq_ok_iff.mp made).2
          rw [qualify_of_dot (ClassName.dot_mem_qualify name)] at same
          exact ⟨none, external, same, same ▸ loaded, rfl⟩
        · cases h
      · cases h
    · cases h
  · rintro ⟨rfl, external, same, loaded, rfl⟩
    rw [load, same, if_pos loaded, if_pos rfl, external.ofString_text]

/-- A name alone is a scalar type or a loaded class, never a type that needs parameters. -/
theorem resolveBare_eq_ok_iff {name : String} {d : Descriptor} :
    path.resolveBare (qualify name) = .ok d ↔
      (∃ type, (BuiltIn.scalar type).NamedBy name ∧ d = .scalar type) ∨
      ∃ external : ClassName, qualify name = external.text ∧ external.text ∈ path.classes ∧
        d = .external external := by
  constructor
  · intro h
    rw [resolveBare] at h
    cases known : BuiltIn.ofClassName? (qualify name) with
    | none =>
      rw [known] at h
      exact Or.inr (load_eq_ok_iff.mp h).2
    | some builtIn =>
      rw [known] at h
      cases builtIn with
      | scalar type =>
        cases h
        exact Or.inl ⟨type, BuiltIn.ofClassName?_qualify_iff.mp known, rfl⟩
      | _ => cases h
  · rintro (⟨type, named, rfl⟩ | ⟨external, same, loaded, rfl⟩)
    · rw [resolveBare, BuiltIn.ofClassName?_qualify_iff.mpr named]
    · have other : BuiltIn.ofClassName? (qualify name) = none := same ▸ external.valid.2.2
      rw [resolveBare, other]
      exact load_eq_ok_iff.mpr ⟨rfl, external, same, loaded, rfl⟩

mutual

theorem denotes_of_resolve (term : Term) {d : Descriptor} (h : path.resolve term = .ok d) :
    path.Denotes term d := by
  match term with
  | .bare name =>
    rcases resolveBare_eq_ok_iff.mp h with ⟨type, named, rfl⟩ | ⟨external, same, loaded, rfl⟩
    · exact .scalar named .bare
    · exact .external same loaded .bare
  | .applied name arguments =>
    rw [resolve] at h
    cases known : BuiltIn.ofClassName? (qualify name) with
    | none =>
      rw [known] at h
      obtain ⟨none, external, same, loaded, rfl⟩ := load_eq_ok_iff.mp h
      rw [List.length_eq_zero_iff.mp none]
      exact .external same loaded .applied
    | some builtIn =>
      have named := BuiltIn.ofClassName?_qualify_iff.mp known
      rw [known] at h
      cases builtIn with
      | scalar type =>
        simp only at h
        split at h
        · rename_i none
          cases h
          rw [List.isEmpty_iff.mp none]
          exact .scalar named .applied
        · cases h
      -- The classes of one parameter differ only in what they make of it.
      | reversed =>
        obtain ⟨base, read, rfl⟩ := map_eq_ok_iff.mp h
        obtain ⟨only, rfl, denoted⟩ := denotes_of_resolveOne arguments read
        exact .reversed named denoted
      | list =>
        obtain ⟨elements, read, rfl⟩ := map_eq_ok_iff.mp h
        obtain ⟨only, rfl, denoted⟩ := denotes_of_resolveOne arguments read
        exact .list named denoted
      | set =>
        obtain ⟨elements, read, rfl⟩ := map_eq_ok_iff.mp h
        obtain ⟨only, rfl, denoted⟩ := denotes_of_resolveOne arguments read
        exact .set named denoted
      | map =>
        obtain ⟨⟨keys, values⟩, read, rfl⟩ := map_eq_ok_iff.mp h
        obtain ⟨first, second, rfl, denoted, denoted'⟩ := denotes_of_resolveTwo arguments read
        exact .map named denoted denoted'
      | user =>
        obtain ⟨type, read, rfl⟩ := map_eq_ok_iff.mp h
        exact denotes_of_resolveUser arguments named read

theorem denotes_of_resolveArgument (argument : Argument) {d : Descriptor}
    (h : path.resolveArgument argument = .ok d) :
    ∃ term, argument = .type term ∧ path.Denotes term d := by
  match argument with
  | .type term => exact ⟨term, rfl, denotes_of_resolve term h⟩
  | .field _ _ => cases h
  | .empty => cases h

theorem denotes_of_resolveOne (arguments : List Argument) {name : String} {d : Descriptor}
    (h : path.resolveOne name arguments = .ok d) :
    ∃ only, arguments = [.type only] ∧ path.Denotes only d := by
  match arguments with
  | [] => cases h
  | [argument] =>
    obtain ⟨only, rfl, denoted⟩ := denotes_of_resolveArgument argument h
    exact ⟨only, rfl, denoted⟩
  | _ :: _ :: _ => cases h

theorem denotes_of_resolveTwo (arguments : List Argument) {name : String} {keys values : Descriptor}
    (h : path.resolveTwo name arguments = .ok (keys, values)) :
    ∃ first second, arguments = [.type first, .type second] ∧ path.Denotes first keys ∧
      path.Denotes second values := by
  match arguments with
  | [] => cases h
  | [_] => cases h
  | [argument, other] =>
    simp only [resolveTwo, bind_eq_ok_iff, pure_eq_ok_iff] at h
    obtain ⟨keys', read, values', read', same⟩ := h
    cases same
    obtain ⟨first, rfl, denoted⟩ := denotes_of_resolveArgument argument read
    obtain ⟨second, rfl, denoted'⟩ := denotes_of_resolveArgument other read'
    exact ⟨first, second, rfl, denoted, denoted'⟩
  | _ :: _ :: _ :: _ => cases h

theorem denotes_of_resolveUser (arguments : List Argument) {name className : String}
    {type : UserType} (named : BuiltIn.user.NamedBy name)
    (h : path.resolveUser className arguments = .ok type) :
    path.Denotes (.applied name arguments) (.user type) := by
  match arguments with
  | [] => cases h
  | [_] => cases h
  | first :: second :: rest =>
    simp only [resolveUser, bind_eq_ok_iff, pure_eq_ok_iff] at h
    obtain ⟨⟨keyspace, typeName⟩, names, fields, read, rfl⟩ := h
    obtain ⟨first, second⟩ := userTypeNames_eq_ok_iff.mp names
    exact .user named first second (denoteFields_of_resolveFields rest read)

theorem denoteFields_of_resolveFields (arguments : List Argument)
    {fields : List (Bytes × Descriptor)} (h : path.resolveFields arguments = .ok fields) :
    path.DenoteFields arguments fields := by
  match arguments with
  | [] =>
    cases h
    exact .nil
  | .type _ :: _ => cases h
  | .empty :: _ => cases h
  | .field label term :: rest =>
    simp only [resolveFields, bind_eq_ok_iff, pure_eq_ok_iff] at h
    obtain ⟨type, read, bytes, decoded, others, tail, rfl⟩ := h
    have digits := decodeHexName_eq_ok_iff.mp decoded
    exact .cons digits (denotes_of_resolve term read) (denoteFields_of_resolveFields rest tail)

end

theorem resolve_scalar {name : String} {type : Scalar} {term : Term}
    (named : (BuiltIn.scalar type).NamedBy name) (alone : term.Alone name) :
    path.resolve term = .ok (.scalar type) := by
  have known := BuiltIn.ofClassName?_qualify_iff.mpr named
  cases alone with
  | bare => rw [resolve, resolveBare, known]
  | applied =>
    rw [resolve, known]
    rfl

theorem resolve_loaded {name : String} {external : ClassName} {term : Term}
    (same : qualify name = external.text) (loaded : external.text ∈ path.classes)
    (alone : term.Alone name) : path.resolve term = .ok (.external external) := by
  cases alone with
  | bare => exact resolveBare_eq_ok_iff.mpr (Or.inr ⟨external, same, loaded, rfl⟩)
  | applied =>
    have other : BuiltIn.ofClassName? (qualify name) = none := same ▸ external.valid.2.2
    rw [resolve, other]
    exact load_eq_ok_iff.mpr ⟨rfl, external, same, loaded, rfl⟩

mutual

/-- What is denoted is resolved, whichever faults are looked for first. -/
theorem resolve_of_denotes {term : Term} {d : Descriptor} (h : path.Denotes term d) :
    path.resolve term = .ok d := by
  match h with
  | .scalar named alone => exact resolve_scalar named alone
  | .external same loaded alone => exact resolve_loaded same loaded alone
  | .reversed named base | .list named base | .set named base =>
    rw [resolve, BuiltIn.ofClassName?_qualify_iff.mpr named]
    exact map_eq_ok_iff.mpr ⟨_, resolve_of_denotes base, rfl⟩
  | .map named keys values =>
    rw [resolve, BuiltIn.ofClassName?_qualify_iff.mpr named]
    refine map_eq_ok_iff.mpr ⟨(_, _), ?_, rfl⟩
    rw [resolveTwo, resolveArgument, resolveArgument, resolve_of_denotes keys,
      resolve_of_denotes values]
    rfl
  | .user named first second fields =>
    rw [resolve, BuiltIn.ofClassName?_qualify_iff.mpr named]
    refine map_eq_ok_iff.mpr ⟨_, ?_, rfl⟩
    rw [resolveUser, userTypeNames_eq_ok_iff.mpr ⟨first, second⟩, resolveFields_of_denote fields]
    rfl

theorem resolveFields_of_denote {arguments : List Argument} {fields : List (Bytes × Descriptor)}
    (h : path.DenoteFields arguments fields) : path.resolveFields arguments = .ok fields := by
  match h with
  | .nil => rfl
  | .cons digits type rest =>
    rw [resolveFields, resolve_of_denotes type, decodeHexName_eq_ok_iff.mpr digits,
      resolveFields_of_denote rest]
    rfl

end

/-- A term is resolved to what it denotes. -/
theorem resolve_eq_ok_iff {term : Term} {d : Descriptor} :
    path.resolve term = .ok d ↔ path.Denotes term d :=
  ⟨denotes_of_resolve term, resolve_of_denotes⟩

/-- The texts that are read as a descriptor are the spellings, within the limit, of the terms that
denote it. Blank texts are read as the bytes. -/
theorem parse_accepts_spellings (path : ClassPath) (text : String) (d : Descriptor) :
    path.parse text = .ok d ↔
      ((∀ c ∈ text.toList, Text.isBlank c) ∧ d = .scalar .bytes) ∨
      ∃ term, Spells text.toList term ∧ term.Shallow maxNesting ∧ path.Denotes term d := by
  by_cases blank : ∀ c ∈ text.toList, Text.isBlank c
  · rw [parse, if_pos (List.all_eq_true.mpr blank)]
    constructor
    · rintro ⟨⟩
      exact Or.inl ⟨blank, rfl⟩
    · rintro (⟨-, rfl⟩ | ⟨term, spelled, -, -⟩)
      · rfl
      · exact absurd blank spelled.not_blank
  · rw [parse, if_neg fun all => blank (List.all_eq_true.mp all)]
    constructor
    · intro h
      split at h
      · cases h
      rename_i term read
      split at h
      · cases h
      rename_i found resolved
      cases h
      obtain ⟨spelled, shallow⟩ := ofText_eq_ok_iff.mp read
      exact Or.inr ⟨term, spelled, shallow, resolve_eq_ok_iff.mp resolved⟩
    · rintro (⟨all, -⟩ | ⟨term, spelled, shallow, denoted⟩)
      · exact absurd all blank
      · rw [ofText_eq_ok_iff.mpr ⟨spelled, shallow⟩]
        simp only [resolve_eq_ok_iff.mpr denoted]

end ClassPath

end ColumnTypes
