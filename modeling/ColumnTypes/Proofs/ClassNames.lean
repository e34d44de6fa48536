import ColumnTypes.Spelling.Term

/-!
# Which class a name means

A built-in class goes by two names, its simple name and its full one, and every other name means
another class (`BuiltIn.ofClassName?_qualify_iff`). The names that make a class from outside are the
names in name characters that no built-in class goes by (`ClassName.ofString_eq_ok_iff`).
-/

namespace ColumnTypes

theorem qualify_of_dot {name : String} (dot : '.' ∈ name.toList) : qualify name = name := by
  rw [qualify, if_pos dot]

theorem qualify_of_simple {name : String} (simple : '.' ∉ name.toList) :
    qualify name = inMarshalPackage name := by
  rw [qualify, if_neg simple]

theorem inMarshalPackage_inj {a b : String} (h : inMarshalPackage a = inMarshalPackage b) :
    a = b := by
  have same : (marshalPackage ++ ".").toList ++ a.toList =
      (marshalPackage ++ ".").toList ++ b.toList := by
    simpa [inMarshalPackage] using congrArg String.toList h
  exact String.toList_inj.mp (List.append_cancel_left same)

theorem isName_of_dot {name : String} (dot : '.' ∈ name.toList)
    (legal : ∀ c ∈ name.toList, isNameChar c) : IsName name := by
  refine ⟨?_, legal⟩
  rintro rfl
  simp at dot

namespace BuiltIn

theorem mem_all (builtIn : BuiltIn) : builtIn ∈ all := by
  cases builtIn with
  | scalar type => cases type <;> decide
  | _ => decide

theorem className_of_ofClassName? {name : String} {builtIn : BuiltIn}
    (h : ofClassName? name = some builtIn) : name = builtIn.className := by
  have found := List.find?_some h
  exact (of_decide_eq_true found).symm

theorem ofClassName?_className (builtIn : BuiltIn) :
    ofClassName? builtIn.className = some builtIn := by
  have each : ∀ builtIn ∈ all, ofClassName? builtIn.className = some builtIn := by decide +kernel
  exact each builtIn builtIn.mem_all

theorem simpleName_has_no_dot (builtIn : BuiltIn) : '.' ∉ builtIn.simpleName.toList := by
  have each : ∀ builtIn ∈ all, '.' ∉ builtIn.simpleName.toList := by decide +kernel
  exact each builtIn builtIn.mem_all

theorem dot_mem_className (builtIn : BuiltIn) : '.' ∈ builtIn.className.toList := by
  simp [className, inMarshalPackage]

theorem isNameChar_simpleName (builtIn : BuiltIn) :
    ∀ c ∈ builtIn.simpleName.toList, isNameChar c := by
  have each : ∀ builtIn ∈ all, builtIn.simpleName.toList.all isNameChar = true := by decide +kernel
  exact List.all_eq_true.mp (each builtIn builtIn.mem_all)

theorem isName_className (builtIn : BuiltIn) : IsName builtIn.className := by
  have full : qualify builtIn.simpleName = builtIn.className :=
    qualify_of_simple builtIn.simpleName_has_no_dot
  have legal := ClassName.isNameChar_qualify builtIn.isNameChar_simpleName
  rw [full] at legal
  exact isName_of_dot builtIn.dot_mem_className legal

/-- The class goes by this name: the simple one or the full one. -/
def NamedBy (builtIn : BuiltIn) (name : String) : Prop :=
  name = builtIn.simpleName ∨ name = builtIn.className

/-- A built-in class goes by its short name and by its full name, and by no other. -/
theorem qualify_eq_className_iff {builtIn : BuiltIn} {name : String} :
    qualify name = builtIn.className ↔ builtIn.NamedBy name := by
  constructor
  · intro h
    by_cases dot : '.' ∈ name.toList
    · rw [qualify_of_dot dot] at h
      exact Or.inr h
    · rw [qualify_of_simple dot] at h
      exact Or.inl (inMarshalPackage_inj h)
  · rintro (rfl | rfl)
    · exact qualify_of_simple builtIn.simpleName_has_no_dot
    · exact qualify_of_dot builtIn.dot_mem_className

theorem ofClassName?_qualify_iff {builtIn : BuiltIn} {name : String} :
    ofClassName? (qualify name) = some builtIn ↔ builtIn.NamedBy name := by
  rw [← qualify_eq_className_iff]
  constructor
  · exact className_of_ofClassName?
  · intro h
    rw [h, ofClassName?_className]

end BuiltIn

namespace ClassName

theorem qualify_text (name : ClassName) : qualify name.text = name.text :=
  qualify_of_dot name.valid.2.1

theorem isName_text (name : ClassName) : IsName name.text :=
  isName_of_dot name.valid.2.1 name.valid.1

theorem text_inj {a b : ClassName} (h : a.text = b.text) : a = b := by
  cases a
  cases b
  cases h
  rfl

/-- No illegal character is found in name characters. -/
theorem find?_illegal_ne_some {name : String} {c : Char} (legal : ∀ c ∈ name.toList, isNameChar c) :
    name.toList.find? (!isNameChar ·) ≠ some c := by
  intro found
  have illegal := List.find?_some found
  rw [legal c (List.mem_of_find?_eq_some found)] at illegal
  cases illegal

/-- An external name is made of exactly the legal names that no built-in class goes by, and the
package is put in front of a short one. -/
theorem ofString_eq_ok_iff {name : String} {made : ClassName} :
    ofString name = .ok made ↔ IsName name ∧ qualify name = made.text := by
  constructor
  · intro h
    rw [ofString] at h
    split at h
    · cases h
    rename_i nonempty
    split at h
    · cases h
    rename_i legal
    split at h
    · cases h
      refine ⟨⟨nonempty, ?_⟩, rfl⟩
      simpa using legal
    · cases h
  · rintro ⟨⟨nonempty, legal⟩, same⟩
    have external : BuiltIn.ofClassName? (qualify name) = none := same ▸ made.valid.2.2
    rw [ofString, if_neg nonempty]
    split
    · rename_i c found
      exact absurd found (find?_illegal_ne_some legal)
    · rw [dif_pos external]
      exact congrArg Except.ok (text_inj same)

theorem ofString_text (name : ClassName) : ofString name.text = .ok name :=
  ofString_eq_ok_iff.mpr ⟨name.isName_text, name.qualify_text⟩

end ClassName

end ColumnTypes
