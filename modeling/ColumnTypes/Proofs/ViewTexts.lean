import ColumnTypes.Proofs.UniqueSpelling
import ColumnTypes.Proofs.Views

/-!
# Texts of views

A column type is stored as a descriptor and is shown again as the view of that descriptor. Most
types keep their text on this way (`ColumnType.KeepsText`). The others are `varchar`, which comes
back as `text`, a user-defined type that goes by another name than the stored one, and a custom type
over what is not shown as a custom type, or is reversed.

That the texts of the others never agree by chance needs an argument only for names. The text of a
name may begin with a quote and may spell a descriptor. But a user type is spelled with two digits
for each byte of its name, and the text of the name has at most one character for each, so no name
spells the type that it belongs to, nor a reversal of that.
-/

namespace ColumnTypes

namespace Utf8

/-- The entries that a reader still owes when the bytes end. -/
def State.owes : State → Nat
  | .start => 0
  | .within .. => 1

/-- A byte between characters makes one entry, now or later. -/
theorem length_lead (byte : UInt8) : (lead byte).1.length + (lead byte).2.owes = 1 := by
  simp only [lead]
  repeat' split
  all_goals rfl

theorem length_step (state : State) (byte : UInt8) :
    (step state byte).1.length + (step state byte).2.owes ≤ state.owes + 1 := by
  have fresh := length_lead byte
  cases state with
  | start => exact Nat.le_of_eq fresh
  | within owed low high value =>
    have one : (State.within owed low high value).owes = 1 := rfl
    simp only [step]
    split
    · split <;> simp [State.owes]
    · simp only [List.length_cons, one]
      omega

/-- A scan makes at most one entry for each byte, and one more if the state owes it. -/
theorem length_scan_le (state : State) (bytes : Bytes) :
    (scan state bytes).length ≤ state.owes + bytes.length := by
  induction bytes generalizing state with
  | nil => cases state <;> simp [scan, State.owes]
  | cons byte rest ih =>
    have first := length_step state byte
    have others := ih (step state byte).2
    simp only [scan, List.length_append, List.length_cons]
    omega

/-- The text of bytes has at most as many characters as there are bytes. -/
theorem length_decodeLossy_le (bytes : Bytes) :
    (decodeLossy bytes).toList.length ≤ bytes.length := by
  have bound := length_scan_le .start bytes
  simpa [decodeLossy, State.owes] using bound

end Utf8

namespace Token

theorem write_cons (token : Token) (rest : List Token) :
    write (token :: rest) = token.text ++ write rest :=
  List.flatMap_cons

theorem write_append (first second : List Token) :
    write (first ++ second) = write first ++ write second :=
  List.flatMap_append

end Token

theorem Argument.write_hexName (name : Bytes) :
    Token.write (Argument.hexName name).tokens = Hex.encode name := by
  by_cases empty : name = []
  · simp [hexName, empty, tokens, Token.write, Hex.encode]
  · simp [hexName, empty, tokens, Term.tokens, Token.write, Token.text]

namespace Descriptor

/-- A user type is spelled with two digits for each byte of its name. -/
theorem length_name_lt_spelling (type : UserType) :
    type.name.length < (Descriptor.user type).spelling.length := by
  obtain ⟨keyspace, name, fields⟩ := type
  have digits := Hex.length_encode name
  simp only [spelling, term, BuiltIn.applied, Term.tokens, listTokens, moreTokens,
    Token.write_cons, Token.write_append, Argument.write_hexName, List.length_append]
  simp only [Token.text, List.length_cons, List.length_nil]
  omega

theorem length_spelling_reversed (base : Descriptor) :
    base.spelling.length ≤ (Descriptor.reversed base).spelling.length := by
  simp only [spelling, term, BuiltIn.applied, Term.tokens, listTokens, moreTokens,
    Argument.tokens, Token.write_cons, Token.write_append, List.length_append]
  omega

end Descriptor

theorem Custom.eq_of_display_eq {a b : Custom} (same : a.display = b.display) : a = b := by
  obtain ⟨d⟩ := a
  exact congrArg Custom.mk (Descriptor.eq_of_display_eq (Custom.descriptor_display_of_display same))

theorem Native.keyword_ne_quoted (native : Native) (custom : Custom) :
    native.keyword ≠ custom.display := by
  intro same
  have first := congrArg (·.toList.head?) same
  cases native <;> simp [keyword, Custom.display] at first

namespace ColumnType

/-- A view with the text of a custom type is that type, if the descriptor that it shows is not
longer than that of the custom type. -/
theorem ofDescriptor_eq_custom {d : Descriptor} {custom : Custom}
    (same : (ofDescriptor d).display = custom.display)
    (fits : d.spelling.length ≤ custom.descriptor.spelling.length) :
    ofDescriptor d = .custom custom := by
  induction d using ofDescriptor.induct with
  | case1 type native known =>
    rw [ofDescriptor, known] at same
    exact absurd same (native.keyword_ne_quoted custom)
  | case2 type unknown =>
    rw [ofDescriptor, unknown] at same ⊢
    exact congrArg ColumnType.custom (Custom.eq_of_display_eq same)
  | case3 name => exact congrArg ColumnType.custom (Custom.eq_of_display_eq same)
  | case4 base ih => exact ih same (Nat.le_trans base.length_spelling_reversed fits)
  | case8 type =>
    have name := Utf8.length_decodeLossy_le type.name
    have digits := Descriptor.length_name_lt_spelling type
    have lengths := congrArg (·.toList.length) same
    simp [ofDescriptor, display, Identifier.display, Identifier.ofBytes, Custom.display,
      Descriptor.display] at lengths
    omega
  | case5 | case6 | case7 =>
    have first := congrArg (·.toList.head?) same
    simp [ofDescriptor, display, Collection.display, Collection.descriptor, Descriptor.columnText,
      Custom.display] at first

/-- The text of the type is that of the view of what it is stored as. It is a native type other than
`varchar`, a collection, a user-defined type under the text of its stored name, or a custom type
over what is neither native nor a collection, not reversed and no user type. -/
def KeepsText : ColumnType → Prop
  | native type => type ≠ .varchar
  | custom type =>
    Native.ofDescriptor? type.descriptor = none ∧ type.descriptor.isCollection = false ∧
      (∀ base, type.descriptor ≠ .reversed base) ∧ type.descriptor.userType? = none
  | collection _ => True
  | userDefined type => type.name.text = type.userType.nameText

theorem custom_keepsText_iff (type : Custom) :
    (custom type).KeepsText ↔ ¬ (custom type).Displaced := by
  simp [KeepsText, Displaced, not_or]

theorem display_native_iff (type : Native) :
    (ofDescriptor type.descriptor).display = (native type).display ↔ type ≠ .varchar := by
  cases type <;> decide

theorem display_custom_iff (type : Custom) :
    (ofDescriptor type.descriptor).display = (custom type).display ↔
      ¬ (custom type).Displaced := by
  rw [← custom_equiv_iff]
  constructor
  · intro same
    rw [ofDescriptor_eq_custom same (Nat.le_refl _)]
    exact equiv_equivalence.refl _
  · intro same
    exact same.display_eq (same.eq_of_unnamed isUserType isUserType_unnamed)

/-- Views keep the texts of exactly the types that are listed as keeping them. -/
theorem display_view_iff (type : ColumnType) :
    (ofDescriptor type.descriptor).display = type.display ↔ type.KeepsText := by
  cases type with
  | native type => exact display_native_iff type
  | custom type => exact (display_custom_iff type).trans (custom_keepsText_iff type).symm
  | collection type => cases type <;> exact iff_of_true rfl trivial
  | userDefined type => exact eq_comm

theorem columnText_iff (opening : String) (component : ColumnType) :
    opening ++ component.descriptor.columnText ++ ">" = opening ++ component.display ++ ">" ↔
      component.KeepsText := by
  rw [← display_view_iff, display_ofDescriptor]
  constructor
  · intro same
    have inside := congrArg String.toList same
    simp only [String.toList_append, List.append_assoc, List.append_cancel_left_eq,
      List.append_cancel_right_eq] at inside
    exact String.toList_inj.mp inside
  · exact congrArg fun text => opening ++ text ++ ">"

/-- The types of `KeepsText` are exactly those with the text of the view of what they are stored as,
and so they are exactly those that have, inside a list or set, the text that they have alone. -/
theorem text_kept_by_view :
    (∀ type : ColumnType,
      (ofDescriptor type.descriptor).display = type.display ↔ type.KeepsText) ∧
    (∀ (elements : ColumnType) (made : Collection), Collection.listOf elements = .ok made →
      (made.display = "list<" ++ elements.display ++ ">" ↔ elements.KeepsText)) ∧
    (∀ (elements : ColumnType) (made : Collection), Collection.setOf elements = .ok made →
      (made.display = "set<" ++ elements.display ++ ">" ↔ elements.KeepsText)) := by
  refine ⟨display_view_iff, ?_, ?_⟩
  · intro elements made accepted
    obtain ⟨-, rfl⟩ := Collection.checked_eq_ok_iff.mp accepted
    exact columnText_iff "list<" elements
  · intro elements made accepted
    obtain ⟨-, rfl⟩ := Collection.checked_eq_ok_iff.mp accepted
    exact columnText_iff "set<" elements

/-- A list of `varchar` is made, and is shown as a list of `text`. -/
theorem text_kept_by_view_varchar :
    Collection.listOf (native .varchar) = .ok (.list (.scalar .utf8)) ∧
    (Collection.list (.scalar .utf8)).display ≠ "list<" ++ (native .varchar).display ++ ">" := by
  have accepted : Collection.listOf (native .varchar) = .ok (.list (.scalar .utf8)) := rfl
  have shown := text_kept_by_view.2.1 _ _ accepted
  exact ⟨accepted, fun same => shown.mp same rfl⟩

end ColumnType

end ColumnTypes
