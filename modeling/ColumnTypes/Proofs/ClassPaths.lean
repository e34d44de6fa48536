import ColumnTypes.Proofs.Loading
import ColumnTypes.Proofs.Requirements
import Mathlib.Control.Monad.Basic

/-!
# Class paths with more classes

A class path that loads more classes reads more texts, and nothing else changes: what is read stays
the same, and so does every failure but that a class is unknown (`parse_eq_of_known`). What is read
with more classes is read with fewer if they suffice for the type, and fails for an unknown class if
they do not (`parse_of_parse`).

What counts of a registration is the full name, and that only if a class can have it. Other
registrations, of built-in classes or of names with other characters, are never looked at
(`not_valid_qualify`).
-/

namespace ColumnTypes

theorem mem_qualify {name : String} {c : Char} (mem : c ∈ name.toList) :
    c ∈ (qualify name).toList := by
  unfold qualify inMarshalPackage
  split
  · exact mem
  · rw [String.toList_append]
    exact List.mem_append_right _ mem

/-- The full name of a built-in class, and one with an illegal character, is no class name. -/
theorem not_valid_qualify {name : String}
    (unusable : (∃ builtIn : BuiltIn, builtIn.NamedBy name) ∨ ∃ c ∈ name.toList, ¬ isNameChar c) :
    ¬ ClassName.Valid (qualify name) := by
  rintro ⟨legal, -, external⟩
  rcases unusable with ⟨builtIn, named⟩ | ⟨c, mem, illegal⟩
  · rw [BuiltIn.ofClassName?_qualify_iff.mpr named] at external
    cases external
  · exact illegal (legal c (mem_qualify mem))

namespace ClassPath

theorem classes_foldl_register (names : List String) (path : ClassPath) :
    (names.foldl register path).classes = path.classes ++ names.map qualify := by
  induction names generalizing path with
  | nil => simp
  | cons name rest ih => simp [ih, register]

theorem classes_ofNames (names : List String) : (ofNames names).classes = names.map qualify :=
  classes_foldl_register names builtInOnly

theorem within_ofNames {first second : List String}
    (included : ∀ name ∈ first.map qualify, ClassName.Valid name → name ∈ second.map qualify) :
    (ofNames first).Within (ofNames second) := by
  intro name valid loaded
  rw [classes_ofNames] at loaded ⊢
  exact included name loaded valid

/-- A registration that no class can have may be left out. -/
theorem within_ofNames_append {before after : List String} {name : String}
    (unusable : ¬ ClassName.Valid (qualify name)) :
    (ofNames (before ++ name :: after)).Within (ofNames (before ++ after)) := by
  apply within_ofNames
  intro other mem valid
  simp only [List.map_append, List.map_cons, List.mem_append, List.mem_cons] at mem ⊢
  rcases mem with early | rfl | late
  · exact Or.inl early
  · exact absurd valid unusable
  · exact Or.inr late

variable {first second : ClassPath} {text : String}

/-- More classes change an answer only where a class was not known before. -/
theorem parse_eq_of_known (within : first.Within second)
    (known : ∀ error, first.parse text = .error error → error.code ≠ .unknownClass) :
    second.parse text = first.parse text := by
  rcases parse_cases text with blank | ⟨fault, always⟩ | ⟨term, spelled, -, resolved⟩
  · rw [blank, blank]
  · rw [always, always]
  · have found : ∀ name, first.resolve term ≠ .error (.unknownClass name) := by
      intro name failed
      refine known ((ResolutionFault.unknownClass name).toError text) ?_ rfl
      rw [resolved, failed]
      rfl
    rw [resolved, resolved, (resolve_agree within term spelled.wellFormed).eq_of_known found]

theorem parse_eq_of_within (within : first.Within second) (back : second.Within first) :
    first.parse text = second.parse text := by
  rcases parse_cases text with blank | ⟨fault, always⟩ | ⟨term, spelled, -, resolved⟩
  · rw [blank, blank]
  · rw [always, always]
  · rw [resolved, resolved, resolve_eq_of_within spelled.wellFormed within back]

/-- A type that is read with one class path is what the text stands for with any other. -/
theorem parse_of_parse {d : Descriptor} (read : second.parse text = .ok d) :
    first.parse text = (first.require d.externals d).mapError (·.toError text) := by
  rcases parse_cases text with blank | ⟨fault, always⟩ | ⟨term, -, -, resolved⟩
  · rw [blank] at read ⊢
    cases read
    rfl
  · rw [always] at read
    cases read
  · rw [resolved, mapError_eq_ok_iff] at read
    rw [resolved, (resolve_eq_ok_iff.mp read).resolve_eq_require]

/-- Registrations decide which classes are known and nothing else. With more of them every result
but an unknown class stays the same. What is read with some of them is read with others if these
have the classes in it, and otherwise fails for one that they lack. Neither the order of
registrations nor their number or spelling counts, and a registration of a built-in class or of a
name with an illegal character does not count at all. -/
theorem parse_depends_on_classes (text : String) :
    (∀ first second : List String, (∀ name ∈ first.map qualify, name ∈ second.map qualify) →
      (∀ error, (ofNames first).parse text = .error error → error.code ≠ .unknownClass) →
      (ofNames second).parse text = (ofNames first).parse text) ∧
    (∀ (first second : List String) (d : Descriptor), (ofNames second).parse text = .ok d →
      ((∀ name ∈ d.externals, name.text ∈ first.map qualify) →
        (ofNames first).parse text = .ok d) ∧
      ((∃ name ∈ d.externals, name.text ∉ first.map qualify) →
        ∃ name ∈ d.externals, name.text ∉ first.map qualify ∧
          (ofNames first).parse text = .error (.configuration .unknownClass
            ("Unable to find abstract-type class '" ++ name.text ++ "'") (some text)))) ∧
    (∀ first second : List String, (∀ name, name ∈ first.map qualify ↔ name ∈ second.map qualify) →
      (ofNames first).parse text = (ofNames second).parse text) ∧
    (∀ (before after : List String) (name : String),
      ((∃ builtIn : BuiltIn, builtIn.NamedBy name) ∨ ∃ c ∈ name.toList, ¬ isNameChar c) →
      (ofNames (before ++ name :: after)).parse text = (ofNames (before ++ after)).parse text) := by
  refine ⟨?_, ?_, ?_, ?_⟩
  · intro first second included
    exact parse_eq_of_known (within_ofNames fun name mem _ => included name mem)
  · intro first second d read
    rw [parse_of_parse read, ← classes_ofNames]
    constructor
    · intro loaded
      rw [require_eq_ok loaded]
      rfl
    · intro missing
      obtain ⟨name, mem, absent, failed⟩ := require_of_missing missing d
      refine ⟨name, mem, absent, ?_⟩
      rw [failed]
      rfl
  · intro first second same
    exact parse_eq_of_within (within_ofNames fun name mem _ => (same name).mp mem)
      (within_ofNames fun name mem _ => (same name).mpr mem)
  · intro before after name unusable
    apply parse_eq_of_within (within_ofNames_append (not_valid_qualify unusable))
    apply within_ofNames
    intro other mem _
    have fewer : (before ++ after).Sublist (before ++ name :: after) :=
      List.Sublist.append_left (List.sublist_cons_self name after) before
    exact (fewer.map qualify).subset mem

/-- A map that is malformed in its keys stays so where the class of its values is registered. -/
theorem parse_depends_on_classes_map :
    (ofNames ["Bar", "Foo"]).parse "MapType(,Bar)" = (ofNames ["Foo"]).parse "MapType(,Bar)" ∧
      (ofNames ["Foo"]).parse "MapType(,Bar)" =
        .error (.malformed .emptyParameter "empty type parameter" "MapType(,Bar)") := by
  have failed : (ofNames ["Foo"]).parse "MapType(,Bar)" =
      .error (.malformed .emptyParameter "empty type parameter" "MapType(,Bar)") := by
    decide +kernel
  refine ⟨(parse_depends_on_classes "MapType(,Bar)").1 ["Foo"] ["Bar", "Foo"] (by simp) ?_, failed⟩
  intro error same
  rw [failed] at same
  cases same
  decide

end ClassPath

end ColumnTypes
