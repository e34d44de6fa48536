import ColumnTypes.Proofs.ClassPaths
import ColumnTypes.Proofs.Display

/-!
# Names of classes from outside

Whether a name makes a class is tested on the name alone, and what a text is read as is decided in
two passes over the text. On names the two agree: a name makes a class exactly if it is read as that
class once it is registered. A name in name characters that makes none is that of a built-in class,
which reads as a scalar or lacks arguments; so no class from outside hides a built-in one, and none
is out of reach.

The first part is a statement about every text, not about names only. A text with blanks at its ends
or with an idle list is read as the class of the name inside it, but registering the text as it is
does not load that class.
-/

namespace ColumnTypes

theorem IsName.spells_bare {name : String} (isName : IsName name) :
    Spells name.toList (.bare name) := by
  have scanned : Token.scan (name.toList ++ []) = [.name name] := Token.scan_name isName rfl
  refine spells_iff_scan.mpr ⟨isName, [], [], ?_, by simp, by simp⟩
  simpa [Term.tokens] using scanned

namespace ClassName

theorem isName_of_qualify {name : String} {made : ClassName} (same : qualify name = made.text)
    (nonempty : name ≠ "") : IsName name :=
  ⟨nonempty, fun c mem => made.valid.1 c (same ▸ mem_qualify mem)⟩

theorem ofString_of_namedBy {name : String} (isName : IsName name) {builtIn : BuiltIn}
    (named : builtIn.NamedBy name) : ofString name = .error (.builtIn (qualify name)) := by
  have taken : BuiltIn.ofClassName? (qualify name) ≠ none := by
    simp [BuiltIn.ofClassName?_qualify_iff.mpr named]
  rw [ofString, if_neg isName.1]
  split
  · rename_i c found
    exact absurd found (find?_illegal_ne_some isName.2)
  · exact dif_neg taken

/-- The only fault of a name in name characters is that it is taken. -/
theorem namedBy_of_ofString {name : String} {fault : Fault} (isName : IsName name)
    (h : ofString name = .error fault) : ∃ builtIn : BuiltIn, builtIn.NamedBy name := by
  cases known : BuiltIn.ofClassName? (qualify name) with
  | none =>
    have made : ofString name = .ok ⟨qualify name, isName.valid_qualify known⟩ :=
      ofString_eq_ok_iff.mpr ⟨isName, rfl⟩
    rw [made] at h
    cases h
  | some builtIn => exact ⟨builtIn, BuiltIn.ofClassName?_qualify_iff.mp known⟩

end ClassName

namespace ClassPath

/-- A name is read as what it stands for without arguments. -/
theorem parse_of_isName (path : ClassPath) {name : String} (isName : IsName name) :
    path.parse name = (path.resolveBare (qualify name)).mapError (·.toError name) :=
  path.parse_of_spells isName.spells_bare (Nat.zero_le _)

/-- What is read as a class that was registered under the text alone is that class. -/
theorem ofString_of_parse_register {name : String} {made : ClassName}
    (read : (builtInOnly.register name).parse name = .ok (.external made)) :
    ClassName.ofString name = .ok made := by
  rcases (parse_accepts_spellings ..).mp read with ⟨-, impossible⟩ | ⟨term, spelled, -, denoted⟩
  · cases impossible
  · cases denoted with
    | external _ loaded _ =>
      have same : made.text = qualify name := List.mem_singleton.mp loaded
      have nonempty : name ≠ "" := by
        rintro rfl
        exact spelled.not_blank (by simp)
      exact ClassName.ofString_eq_ok_iff.mpr
        ⟨ClassName.isName_of_qualify same.symm nonempty, same.symm⟩

/-- A class that can be named can be registered under that name and is then found. -/
theorem parse_register_of_ofString {name : String} {made : ClassName}
    (h : ClassName.ofString name = .ok made) :
    (builtInOnly.register name).parse name = .ok (.external made) := by
  obtain ⟨isName, same⟩ := ClassName.ofString_eq_ok_iff.mp h
  have loaded : made.text ∈ (builtInOnly.register name).classes :=
    List.mem_singleton.mpr same.symm
  rw [parse_of_isName _ isName, resolveBare_eq_ok_iff.mpr (Or.inr ⟨made, same, loaded, rfl⟩)]
  rfl

/-- A name that makes a class is unknown where only the built-in classes are known. -/
theorem parse_builtInOnly_of_ofString {name : String} {made : ClassName}
    (h : ClassName.ofString name = .ok made) :
    builtInOnly.parse name = .error ((ResolutionFault.unknownClass made.text).toError name) := by
  obtain ⟨isName, same⟩ := ClassName.ofString_eq_ok_iff.mp h
  have unknown : builtInOnly.resolveBare made.text = .error (.unknownClass made.text) := by
    rw [resolveBare, made.valid.2.2]
    rfl
  rw [parse_of_isName _ isName, same, unknown]
  rfl

/-- A name of a built-in class is read as a scalar, or its arguments are missing. -/
theorem parse_of_namedBy (path : ClassPath) {name : String} (isName : IsName name)
    {builtIn : BuiltIn} (named : builtIn.NamedBy name) :
    (∃ type, path.parse name = .ok (.scalar type)) ∨
      ∃ error, path.parse name = .error error ∧ error.code = .wrongParameterCount := by
  rw [path.parse_of_isName isName, resolveBare, BuiltIn.ofClassName?_qualify_iff.mpr named]
  cases builtIn with
  | scalar type => exact Or.inl ⟨type, rfl⟩
  | reversed | list | set | map | user => exact Or.inr ⟨_, rfl, rfl⟩

/-- A text makes a class exactly if it is read as that class once it is registered. A name in name
characters makes a class if without registrations it is unknown; otherwise it is refused as that of
a built-in class, and is read as a scalar or lacks arguments. The full name of a class makes that
class again. -/
theorem ofString_agrees_with_parse (text : String) :
    (∀ made, (builtInOnly.register text).parse text = .ok (.external made) ↔
      ClassName.ofString text = .ok made) ∧
    (IsName text →
      ((∃ made, ClassName.ofString text = .ok made) ↔
        ∃ error, builtInOnly.parse text = .error error ∧ error.code = .unknownClass) ∧
      ∀ fault, ClassName.ofString text = .error fault →
        (fault.toError text).code = .shadowsBuiltIn ∧
        ((∃ type, builtInOnly.parse text = .ok (.scalar type)) ∨
          ∃ error, builtInOnly.parse text = .error error ∧ error.code = .wrongParameterCount)) ∧
    (∀ made, ClassName.ofString text = .ok made → ClassName.ofString made.text = .ok made) := by
  refine ⟨?_, ?_, fun made _ => made.ofString_text⟩
  · intro made
    exact ⟨ofString_of_parse_register, parse_register_of_ofString⟩
  · intro isName
    have refused : ∀ fault, ClassName.ofString text = .error fault →
        (fault.toError text).code = .shadowsBuiltIn ∧
        ((∃ type, builtInOnly.parse text = .ok (.scalar type)) ∨
          ∃ error, builtInOnly.parse text = .error error ∧
            error.code = .wrongParameterCount) := by
      intro fault failed
      obtain ⟨builtIn, named⟩ := ClassName.namedBy_of_ofString isName failed
      rw [ClassName.ofString_of_namedBy isName named] at failed
      cases failed
      exact ⟨rfl, builtInOnly.parse_of_namedBy isName named⟩
    refine ⟨⟨?_, ?_⟩, refused⟩
    · rintro ⟨made, h⟩
      exact ⟨_, parse_builtInOnly_of_ofString h, rfl⟩
    · rintro ⟨error, unknown, code⟩
      cases made : ClassName.ofString text with
      | ok name => exact ⟨name, rfl⟩
      | error fault =>
        rcases (refused fault made).2 with ⟨type, read⟩ | ⟨other, failed, wrongCount⟩
        · rw [read] at unknown
          cases unknown
        · rw [failed] at unknown
          cases unknown
          rw [wrongCount] at code
          cases code

/-- The class of maps by its simple name: it makes no class, as it is built in and takes two
arguments. -/
theorem ofString_agrees_with_parse_map :
    IsName "MapType" ∧
      ClassName.ofString "MapType" = .error (.builtIn (qualify "MapType")) ∧
      ((∃ type, builtInOnly.parse "MapType" = .ok (.scalar type)) ∨
        ∃ error, builtInOnly.parse "MapType" = .error error ∧
          error.code = .wrongParameterCount) := by
  have isName : IsName "MapType" := ⟨by simp, BuiltIn.map.isNameChar_simpleName⟩
  have named : BuiltIn.map.NamedBy "MapType" := Or.inl rfl
  have refused := ClassName.ofString_of_namedBy isName named
  exact ⟨isName, refused, (((ofString_agrees_with_parse "MapType").2.1 isName).2 _ refused).2⟩

end ClassPath

end ColumnTypes
