import ColumnTypes.Proofs.TypeEquality

/-!
# Views of descriptors

The view of a descriptor is exact up to outer reversals: it is stored as what lies under them
(`descriptor_ofDescriptor`), and it is the view of that, too. So two descriptors have equal views
exactly if they are the same without their outer reversals, and viewing a view changes nothing.

The other way round a column type need not be the view of what it is stored as. Text has two
keywords, and a custom type may be made over a descriptor that is shown in another way. These are
the only types that are displaced by the view (`view_equiv_iff`).
-/

namespace ColumnTypes

namespace Descriptor

theorem unreversed_ne_reversed (d base : Descriptor) : d.unreversed ≠ .reversed base := by
  match d with
  | .reversed inner => exact inner.unreversed_ne_reversed base
  | .scalar _ | .external _ | .list _ | .set _ | .map _ _ | .user _ => simp [unreversed]

end Descriptor

namespace ColumnType

/-- Outer reversals are lost on the view. -/
theorem ofDescriptor_unreversed (d : Descriptor) : ofDescriptor d.unreversed = ofDescriptor d := by
  match d with
  | .reversed base => exact ofDescriptor_unreversed base
  | .scalar _ | .external _ | .list _ | .set _ | .map _ _ | .user _ => rfl

theorem descriptor_scalar (type : Scalar) :
    (ofDescriptor (.scalar type)).descriptor = .scalar type := by
  cases type <;> rfl

/-- Nothing but outer reversals is lost on the view. -/
theorem descriptor_ofDescriptor (d : Descriptor) : (ofDescriptor d).descriptor = d.unreversed := by
  match d with
  | .scalar type => exact descriptor_scalar type
  | .reversed base => exact descriptor_ofDescriptor base
  | .external _ | .list _ | .set _ | .map _ _ | .user _ => rfl

theorem isUserType_ofDescriptor (d : Descriptor) :
    (ofDescriptor d).isUserType = d.unreversed.userType?.isSome := by
  match d with
  | .scalar type => cases type <;> rfl
  | .reversed base => exact isUserType_ofDescriptor base
  | .external _ | .list _ | .set _ | .map _ _ | .user _ => rfl

theorem Equiv.descriptor_eq {a b : ColumnType} (same : a.Equiv b) : a.descriptor = b.descriptor :=
  same.eq_of_unnamed descriptor descriptor_unnamed

/-- Views tell descriptors apart up to reversals. -/
theorem equiv_ofDescriptor_iff {a b : Descriptor} :
    (ofDescriptor a).Equiv (ofDescriptor b) ↔ a.unreversed = b.unreversed := by
  constructor
  · intro same
    simpa only [descriptor_ofDescriptor] using same.descriptor_eq
  · intro same
    have views : ofDescriptor a = ofDescriptor b := by
      simpa only [ofDescriptor_unreversed] using congrArg ofDescriptor same
    exact views ▸ equiv_equivalence.refl (ofDescriptor a)

/-- A view is the view of what it is stored as. -/
theorem ofDescriptor_descriptor_ofDescriptor (d : Descriptor) :
    ofDescriptor (ofDescriptor d).descriptor = ofDescriptor d :=
  calc ofDescriptor (ofDescriptor d).descriptor
    _ = ofDescriptor d.unreversed := congrArg ofDescriptor (descriptor_ofDescriptor d)
    _ = ofDescriptor d := ofDescriptor_unreversed d

/-- Another type is shown for what the type is stored as: it is `varchar`, or it is a custom type
over what is native, a collection, reversed or a user type. -/
def Displaced : ColumnType → Prop
  | native type => type = .varchar
  | custom type =>
    (Native.ofDescriptor? type.descriptor).isSome ∨ type.descriptor.isCollection ∨
      (∃ base, type.descriptor = .reversed base) ∨ type.descriptor.userType?.isSome
  | collection _ | userDefined _ => False

theorem native_equiv_iff (type : Native) :
    (ofDescriptor type.descriptor).Equiv (native type) ↔ type ≠ .varchar := by
  cases type <;> decide

theorem custom_equiv_iff (type : Custom) :
    (ofDescriptor type.descriptor).Equiv (custom type) ↔ ¬ (custom type).Displaced := by
  obtain ⟨d⟩ := type
  match d with
  | .scalar type =>
    cases known : Native.ofScalar? type with
    | none => simp [ofDescriptor, Displaced, Equiv, Native.ofDescriptor?, known,
        Descriptor.isCollection, Descriptor.collectionKind?, Descriptor.userType?]
    | some native => simp [ofDescriptor, Displaced, Equiv, Native.ofDescriptor?, known]
  | .external _ =>
    simp [ofDescriptor, Displaced, Equiv, Native.ofDescriptor?, Descriptor.isCollection,
      Descriptor.collectionKind?, Descriptor.userType?]
  | .reversed base =>
    -- What a view is stored as is not reversed, so no view is a custom type over a reversal.
    have unequal : ¬ (ofDescriptor (.reversed base)).Equiv (custom ⟨.reversed base⟩) := by
      intro same
      have stored := (descriptor_ofDescriptor (.reversed base)).symm.trans same.descriptor_eq
      exact Descriptor.unreversed_ne_reversed _ base stored
    exact iff_of_false unequal (not_not_intro (Or.inr (Or.inr (Or.inl ⟨base, rfl⟩))))
  | .list _ | .set _ | .map _ _ | .user _ =>
    simp [ofDescriptor, Displaced, Equiv, Descriptor.isCollection, Descriptor.collectionKind?,
      Descriptor.userType?]

/-- A type comes back from its storage, up to names, unless it is displaced. -/
theorem view_equiv_iff (type : ColumnType) :
    (ofDescriptor type.descriptor).Equiv type ↔ ¬ type.Displaced := by
  cases type with
  | native type => exact native_equiv_iff type
  | custom type => exact custom_equiv_iff type
  | collection type => cases type <;> simp [descriptor, Collection.descriptor, ofDescriptor, Equiv,
      Displaced]
  | userDefined type => exact iff_of_true rfl not_false

/-- The view of a descriptor is stored as the descriptor without its outer reversals, and it is a
collection, the counter or a user type exactly if that is. Views are equal exactly if the
descriptors are the same under their outer reversals, and a view is its own view, with the same
text. A column type equals the view of what it is stored as unless it is displaced. -/
theorem view_exact_up_to_reversal :
    (∀ d : Descriptor, (ofDescriptor d).descriptor = d.unreversed) ∧
    (∀ d : Descriptor,
      (ofDescriptor d).isCollection = d.unreversed.isCollection ∧
      ((ofDescriptor d).isCounter ↔ d.unreversed = .scalar .counterColumn) ∧
      ((ofDescriptor d).isUserType ↔ ∃ type, d.unreversed = .user type)) ∧
    (∀ a b : Descriptor,
      (ofDescriptor a).Equiv (ofDescriptor b) ↔ a.unreversed = b.unreversed) ∧
    (∀ d : Descriptor,
      (ofDescriptor (ofDescriptor d).descriptor).Equiv (ofDescriptor d) ∧
      (ofDescriptor (ofDescriptor d).descriptor).display = (ofDescriptor d).display) ∧
    (∀ type : ColumnType, (ofDescriptor type.descriptor).Equiv type ↔ ¬ type.Displaced) := by
  refine ⟨descriptor_ofDescriptor, ?_, fun a b => equiv_ofDescriptor_iff, ?_, view_equiv_iff⟩
  · intro d
    refine ⟨d.isCollection_ofDescriptor, ?_, ?_⟩
    · rw [d.isCounter_ofDescriptor]
      exact decide_eq_true_iff
    · rw [isUserType_ofDescriptor]
      cases d.unreversed <;> simp [Descriptor.userType?]
  · intro d
    have again := ofDescriptor_descriptor_ofDescriptor d
    exact ⟨again.symm ▸ equiv_equivalence.refl _, congrArg display again⟩

end ColumnType

end ColumnTypes
