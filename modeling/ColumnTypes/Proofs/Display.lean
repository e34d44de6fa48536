import ColumnTypes.Proofs.Requirements

/-!
# Canonical spellings read back

The canonical spelling of a descriptor spells the term of the descriptor, whose depth is the nesting
of the descriptor: an empty name of a user type is an empty argument and needs no list of its own.
The term stands for the descriptor if every class from outside can be loaded; otherwise the first
one that cannot is reported. No class name of a descriptor is mistaken for another, and names of
user types are read back whatever their bytes are.
-/

namespace ColumnTypes

mutual

/-- The number of parameter lists around the innermost part that is not empty. -/
def Descriptor.nesting : Descriptor → Nat
  | .scalar _ | .external _ => 0
  | .reversed base => 1 + base.nesting
  | .list elements => 1 + elements.nesting
  | .set elements => 1 + elements.nesting
  | .map keys values => 1 + max keys.nesting values.nesting
  | .user ⟨keyspace, name, fields⟩ =>
    max (if keyspace = "" ∧ name = [] then 0 else 1) (fieldsNesting fields)

def fieldsNesting : List (Bytes × Descriptor) → Nat
  | [] => 0
  | (_, type) :: rest => max (1 + type.nesting) (fieldsNesting rest)

end

theorem Hex.isNameChar_digit : ∀ value < 16, isNameChar (digit value) := by
  decide

theorem Hex.isNameChar_encode (bytes : Bytes) : ∀ c ∈ encode bytes, isNameChar c := by
  intro c mem
  obtain ⟨byte, -, digits⟩ := List.mem_flatMap.mp mem
  have small := byte.toNat_lt
  simp only [List.mem_cons, List.not_mem_nil, or_false] at digits
  rcases digits with rfl | rfl
  · exact isNameChar_digit _ (by omega)
  · exact isNameChar_digit _ (by omega)

/-- Bytes are written as a name, unless there are none. -/
theorem isName_hex {bytes : Bytes} (nonempty : bytes ≠ []) :
    IsName (String.ofList (Hex.encode bytes)) := by
  constructor
  · intro empty
    have digits : Hex.encode bytes = [] := by simpa using congrArg String.toList empty
    exact nonempty (Hex.encode_eq_nil_iff.mp digits)
  · rw [String.toList_ofList]
    exact Hex.isNameChar_encode bytes

theorem Utf8.encode_eq_nil_iff {text : String} : encode text = [] ↔ text = "" := by
  constructor
  · intro empty
    have back := decode?_encode text
    rw [empty] at back
    exact (Option.some.inj back).symm
  · rintro rfl
    rfl

theorem Argument.wellFormed_hexName (name : Bytes) : (Argument.hexName name).WellFormed := by
  rw [Argument.hexName]
  split
  · trivial
  · rename_i nonempty
    exact isName_hex nonempty

theorem listDepth_hexName (name : Bytes) :
    listDepth [Argument.hexName name] = if name = [] then 0 else 1 := by
  rw [Argument.hexName]
  split <;> rfl

mutual

theorem Descriptor.term_wellFormed (d : Descriptor) : d.term.WellFormed := by
  match d with
  | .scalar type => exact (BuiltIn.scalar type).isName_className
  | .external name => exact name.isName_text
  | .reversed base | .list base | .set base =>
    exact ⟨BuiltIn.isName_className _, by simp, base.term_wellFormed, trivial⟩
  | .map keys values =>
    exact ⟨BuiltIn.map.isName_className, by simp, keys.term_wellFormed, values.term_wellFormed,
      trivial⟩
  | .user ⟨keyspace, name, fields⟩ =>
    exact ⟨BuiltIn.user.isName_className, by simp, Argument.wellFormed_hexName _,
      Argument.wellFormed_hexName name, fieldArguments_wellFormed fields⟩

theorem fieldArguments_wellFormed (fields : List (Bytes × Descriptor)) :
    AllWellFormed (fieldArguments fields) := by
  match fields with
  | [] => trivial
  | (name, type) :: rest =>
    refine ⟨⟨?_, type.term_wellFormed⟩, fieldArguments_wellFormed rest⟩
    by_cases empty : name = []
    · subst empty
      exact Or.inl rfl
    · exact Or.inr (isName_hex empty)

end

mutual

/-- The parameter lists of a descriptor's text nest as deep as the descriptor. -/
theorem Descriptor.depth_term (d : Descriptor) : d.term.depth = d.nesting := by
  match d with
  | .scalar _ | .external _ => rfl
  | .reversed base | .list base | .set base =>
    simp [Descriptor.term, BuiltIn.applied, Term.depth, listDepth, Descriptor.nesting,
      base.depth_term, Nat.add_comm]
  | .map keys values =>
    have k := keys.depth_term
    have v := values.depth_term
    simp only [Descriptor.term, BuiltIn.applied, Term.depth, listDepth, Descriptor.nesting, k, v]
    omega
  | .user ⟨keyspace, name, fields⟩ =>
    have inner := listDepth_fieldArguments fields
    simp only [Descriptor.term, BuiltIn.applied, Term.depth, Descriptor.nesting]
    rw [listDepth_cons, listDepth_cons (.hexName name), listDepth_hexName, listDepth_hexName, inner,
      ← Nat.max_assoc]
    simp only [Utf8.encode_eq_nil_iff]
    have names : max (if keyspace = "" then 0 else 1) (if name = [] then 0 else 1) =
        if keyspace = "" ∧ name = [] then 0 else 1 := by
      by_cases first : keyspace = "" <;> by_cases second : name = [] <;> simp [first, second]
    rw [names]

theorem listDepth_fieldArguments (fields : List (Bytes × Descriptor)) :
    listDepth (fieldArguments fields) = fieldsNesting fields := by
  match fields with
  | [] => rfl
  | (name, type) :: rest =>
    have head := type.depth_term
    have tail := listDepth_fieldArguments rest
    simp only [fieldArguments, listDepth, fieldsNesting, head, tail]
    omega

end

/-- The text of a descriptor is a spelling of its term. -/
theorem Descriptor.spells_spelling (d : Descriptor) : Spells d.spelling d.term := by
  have wf := d.term_wellFormed
  have spaced : Token.Spaced d.term.tokens := by
    have alone : Token.Spaced (d.term.tokens ++ []) :=
      d.term.spaced_append wf (fun _ => by simp) trivial
    rwa [List.append_nil] at alone
  refine spells_iff_scan.mpr ⟨wf, [], [], ?_, by simp, by simp⟩
  rw [List.append_nil]
  exact Token.scan_write spaced

theorem decodeHexName_encode (bytes : Bytes) :
    decodeHexName (String.ofList (Hex.encode bytes)) = .ok bytes := by
  rw [decodeHexName, String.toList_ofList, Hex.decode_encode]

theorem Argument.hexName?_hexName (bytes : Bytes) :
    (Argument.hexName bytes).hexName? = .ok bytes := by
  by_cases empty : bytes = []
  · subst empty
    rfl
  · rw [Argument.hexName, if_neg empty]
    exact decodeHexName_encode bytes

theorem Argument.hexNames_hexName (bytes : Bytes) : (Argument.hexName bytes).HexNames bytes :=
  hexName?_eq_ok_iff.mp (hexName?_hexName bytes)

namespace ClassPath

mutual

/-- The term of a descriptor denotes the descriptor again, where its external classes are loaded. -/
theorem denotes_term {path : ClassPath} (d : Descriptor)
    (loaded : ∀ name ∈ d.externals, name.text ∈ path.classes) : path.Denotes d.term d := by
  match d with
  | .scalar type => exact .scalar (Or.inr rfl) .bare
  | .external name =>
    exact .external name.qualify_text (loaded name (List.mem_singleton_self name)) .bare
  | .reversed base => exact .reversed (Or.inr rfl) (denotes_term base loaded)
  | .list elements => exact .list (Or.inr rfl) (denotes_term elements loaded)
  | .set elements => exact .set (Or.inr rfl) (denotes_term elements loaded)
  | .map keys values =>
    obtain ⟨loadedKeys, loadedValues⟩ := List.forall_mem_append.mp loaded
    exact .map (Or.inr rfl) (denotes_term keys loadedKeys) (denotes_term values loadedValues)
  | .user ⟨keyspace, name, fields⟩ =>
    exact .user (Or.inr rfl) (Argument.hexNames_hexName _) (Argument.hexNames_hexName name)
      (denoteFields_fieldArguments fields loaded)

theorem denoteFields_fieldArguments {path : ClassPath} (fields : List (Bytes × Descriptor))
    (loaded : ∀ name ∈ fieldsExternals fields, name.text ∈ path.classes) :
    path.DenoteFields (fieldArguments fields) fields := by
  match fields with
  | [] => exact .nil
  | (name, type) :: rest =>
    obtain ⟨loadedType, loadedRest⟩ := List.forall_mem_append.mp loaded
    exact .cons (decodeHexName_eq_ok_iff.mp (decodeHexName_encode name))
      (denotes_term type loadedType) (denoteFields_fieldArguments rest loadedRest)

end

/-- All that can be wrong with the term of a descriptor is a class that is not loaded. -/
theorem resolve_term (path : ClassPath) (d : Descriptor) :
    path.resolve d.term = path.require d.externals d := by
  have denoted : ClassPath.Denotes ⟨d.externals.map (·.text)⟩ d.term d :=
    denotes_term d fun name mem => List.mem_map_of_mem mem
  exact denoted.resolve_eq_require path

/-- A spelling within the limit stands for what its term stands for. -/
theorem parse_of_spells (path : ClassPath) {text : String} {term : Term}
    (h : Spells text.toList term) (within : term.depth ≤ maxNesting) :
    path.parse text = (path.resolve term).mapError (·.toError text) := by
  have notBlank : ¬ text.toList.all Text.isBlank := fun blank =>
    h.not_blank (List.all_eq_true.mp blank)
  rw [parse, if_neg notBlank, h.ofText, if_pos within]
  dsimp only
  cases path.resolve term <;> rfl

/-- A spelling that nests too deep is refused for that, whatever else is wrong with it. -/
theorem parse_of_spells_deep (path : ClassPath) {text : String} {term : Term}
    (h : Spells text.toList term) (deep : maxNesting < term.depth) :
    path.parse text = .error ((SpellingFault.tooDeep maxNesting).toError text) := by
  have notBlank : ¬ text.toList.all Text.isBlank := fun blank =>
    h.not_blank (List.all_eq_true.mp blank)
  rw [parse, if_neg notBlank, h.ofText, if_neg (Nat.not_le.mpr deep)]

theorem spells_display (d : Descriptor) : Spells d.display.toList d.term := by
  rw [Descriptor.display, String.toList_ofList]
  exact d.spells_spelling

/-- Reading a display back fails at the first external class that is not loaded. -/
theorem parse_display (path : ClassPath) {d : Descriptor} (within : d.nesting ≤ maxNesting) :
    path.parse d.display = (path.require d.externals d).mapError (·.toError d.display) := by
  rw [path.parse_of_spells (spells_display d) (d.depth_term ▸ within), path.resolve_term d]

/-- The canonical spelling of a descriptor is read as the descriptor if it nests within the limit
and its classes can be loaded. Beyond the limit it is too deep, and within it the first class that
cannot be loaded is unknown. -/
theorem display_reads_back (path : ClassPath) (d : Descriptor) :
    (d.nesting ≤ maxNesting → (∀ name ∈ d.externals, name.text ∈ path.classes) →
      path.parse d.display = .ok d) ∧
    (maxNesting < d.nesting →
      path.parse d.display = .error (.malformed .nestingTooDeep
        (SpellingFault.tooDeep maxNesting).message d.display)) ∧
    (d.nesting ≤ maxNesting → ∀ before name after, d.externals = before ++ name :: after →
      (∀ earlier ∈ before, earlier.text ∈ path.classes) → name.text ∉ path.classes →
      path.parse d.display = .error (.configuration .unknownClass
        ("Unable to find abstract-type class '" ++ name.text ++ "'") (some d.display))) := by
  refine ⟨?_, ?_, ?_⟩
  · intro within loaded
    rw [path.parse_display within, require_eq_ok loaded]
    rfl
  · intro deep
    exact path.parse_of_spells_deep (spells_display d) (d.depth_term ▸ deep)
  · intro within before name after externals loaded missing
    rw [path.parse_display within, externals, require_eq_error loaded missing]
    rfl

/-- A user type with a field of a class from outside, which is loaded or not, and more lists than
the limit allows. -/
theorem display_reads_back_instances :
    (∃ money : ClassName, money.text = "com.example.Money" ∧
      (builtInOnly.register "com.example.Money").parse
          (Descriptor.user ⟨"ks", [0xFF], [([0x61], .external money)]⟩).display =
        .ok (.user ⟨"ks", [0xFF], [([0x61], .external money)]⟩) ∧
      builtInOnly.parse (Descriptor.user ⟨"ks", [0xFF], [([0x61], .external money)]⟩).display =
        .error (.configuration .unknownClass
          ("Unable to find abstract-type class '" ++ money.text ++ "'")
          (some (Descriptor.user ⟨"ks", [0xFF], [([0x61], .external money)]⟩).display))) ∧
    builtInOnly.parse (Nat.repeat Descriptor.list 65 (.scalar .int32)).display =
      .error (.malformed .nestingTooDeep (SpellingFault.tooDeep maxNesting).message
        (Nat.repeat Descriptor.list 65 (.scalar .int32)).display) := by
  have legal : "com.example.Money".toList.all isNameChar := by decide +kernel
  have dotted : "com.example.Money".toList.contains '.' := by decide +kernel
  have foreign : BuiltIn.ofClassName? "com.example.Money" = none := by decide +kernel
  have loaded : "com.example.Money" ∈ (builtInOnly.register "com.example.Money").classes := by
    decide +kernel
  have deep : maxNesting < (Nat.repeat Descriptor.list 65 (.scalar .int32)).nesting := by
    decide +kernel
  have within (money : ClassName) :
      (Descriptor.user ⟨"ks", [0xFF], [([0x61], .external money)]⟩).nesting ≤ maxNesting := by
    simp [Descriptor.nesting, fieldsNesting, maxNesting]
  refine ⟨⟨⟨"com.example.Money", List.all_eq_true.mp legal, List.contains_iff_mem.mp dotted,
    foreign⟩, rfl, ?_, ?_⟩, (builtInOnly.display_reads_back _).2.1 deep⟩
  · apply ((builtInOnly.register "com.example.Money").display_reads_back _).1 (within _)
    simpa [Descriptor.externals, fieldsExternals] using loaded
  · exact (builtInOnly.display_reads_back _).2.2 (within _) [] _ [] rfl (by simp)
      (by simp [builtInOnly])

end ClassPath

end ColumnTypes
