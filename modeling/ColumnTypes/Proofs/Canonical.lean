import ColumnTypes.Proofs.Display
import ColumnTypes.Proofs.Loading
import Mathlib.Control.Monad.Basic

/-!
# Reading and writing again

Whatever is read can be written and read again by the same class path, although the canonical
spelling is longer than most texts. The classes in it are loaded, as the text was resolved with
them. And it keeps within the limit on nesting, as the text did: a part of a type that counts comes
from an argument that counts, since the name of a user type is empty where its argument is
(`Denotes.nesting_le`).
-/

namespace ColumnTypes

theorem Argument.HexNames.one_le_listDepth {argument : Argument} {bytes : Bytes}
    (h : argument.HexNames bytes) (nonempty : bytes ≠ []) : 1 ≤ listDepth [argument] := by
  cases h with
  | nothing => exact absurd rfl nonempty
  | digits => exact Nat.le_refl 1

namespace ClassPath

mutual

/-- A descriptor nests no deeper than a term that denotes it. -/
theorem Denotes.nesting_le {path : ClassPath} {term : Term} {d : Descriptor}
    (h : path.Denotes term d) : d.nesting ≤ term.depth := by
  match h with
  | .scalar _ _ | .external _ _ _ => exact Nat.zero_le _
  | .reversed _ base | .list _ base | .set _ base =>
    have inner := base.nesting_le
    simp only [Descriptor.nesting, Term.depth, listDepth]
    omega
  | .map _ keys values =>
    have first := keys.nesting_le
    have second := values.nesting_le
    simp only [Descriptor.nesting, Term.depth, listDepth]
    omega
  | @Denotes.user _ _ keyspace first second typeName _ _ _ keyspaceNamed typeNamed fields =>
    have inner := fields.nesting_le
    have names : (if keyspace = "" ∧ typeName = [] then 0 else 1) ≤
        max (listDepth [first]) (listDepth [second]) := by
      split
      · exact Nat.zero_le _
      · rename_i named
        by_cases noKeyspace : keyspace = ""
        · have counts := typeNamed.one_le_listDepth fun noName => named ⟨noKeyspace, noName⟩
          omega
        · have counts := keyspaceNamed.one_le_listDepth (mt Utf8.encode_eq_nil_iff.mp noKeyspace)
          omega
    simp only [Descriptor.nesting, Term.depth]
    rw [listDepth_cons, listDepth_cons second]
    omega

theorem DenoteFields.nesting_le {path : ClassPath} {arguments : List Argument}
    {fields : List (Bytes × Descriptor)} (h : path.DenoteFields arguments fields) :
    fieldsNesting fields ≤ listDepth arguments := by
  match h with
  | .nil => exact Nat.zero_le _
  | .cons _ type rest =>
    have head := type.nesting_le
    have tail := rest.nesting_le
    simp only [fieldsNesting, listDepth]
    omega

end

/-- What is read keeps within the limit, and its classes are loaded. -/
theorem bounds_of_parse {path : ClassPath} {text : String} {d : Descriptor}
    (read : path.parse text = .ok d) :
    d.nesting ≤ maxNesting ∧ ∀ name ∈ d.externals, name.text ∈ path.classes := by
  rcases parse_cases text with blank | ⟨fault, always⟩ | ⟨term, -, within, resolved⟩
  · rw [blank] at read
    cases read
    exact ⟨Nat.zero_le _, by simp [Descriptor.externals]⟩
  · rw [always] at read
    cases read
  · rw [resolved, mapError_eq_ok_iff] at read
    have denoted := resolve_eq_ok_iff.mp read
    exact ⟨Nat.le_trans denoted.nesting_le within, denoted.externals_loaded⟩

/-- A type that is read nests within the limit, its classes are loaded by names that classes can
have, and its canonical spelling is read as the same type. -/
theorem parse_display_of_parse (path : ClassPath) (text : String) {d : Descriptor}
    (read : path.parse text = .ok d) :
    d.nesting ≤ maxNesting ∧
    (∀ name ∈ d.externals, name.text ∈ path.classes ∧ ClassName.ofString name.text = .ok name) ∧
    path.parse d.display = .ok d := by
  obtain ⟨within, loaded⟩ := bounds_of_parse read
  refine ⟨within, fun name mem => ⟨loaded name mem, name.ofString_text⟩, ?_⟩
  rw [path.parse_display within, require_eq_ok loaded]
  rfl

/-- A user type by its simple name, with capital digits and an idle list. -/
theorem parse_display_of_parse_user :
    builtInOnly.parse " UserType(6B73, 4a, :Int32Type( ))" =
        .ok (.user ⟨"ks", [0x4A], [([], .scalar .int32)]⟩) ∧
      builtInOnly.parse (Descriptor.user ⟨"ks", [0x4A], [([], .scalar .int32)]⟩).display =
        .ok (.user ⟨"ks", [0x4A], [([], .scalar .int32)]⟩) := by
  have read : builtInOnly.parse " UserType(6B73, 4a, :Int32Type( ))" =
      .ok (.user ⟨"ks", [0x4A], [([], .scalar .int32)]⟩) := by
    decide +kernel
  exact ⟨read, (parse_display_of_parse _ _ read).2.2⟩

end ClassPath

end ColumnTypes
