import ColumnTypes.Proofs.Components

/-!
# Equality of column types

Equality ignores the names of user-defined types: types are equal if they are the same without those
names (`ColumnType.equiv_iff`). Everything that is asked of a type, and everything that is made from
it, is the same without the name, so equal types can stand for each other everywhere but where they
are shown, and there only a user-defined type shows a difference.

Between collections equality is that of shapes and stored components. Different types may be stored
alike, so equal collections may be made from types that are not equal.
-/

namespace ColumnTypes

namespace ColumnType

/-- The type without the name of a user-defined type. -/
def unnamed : ColumnType → ColumnType
  | userDefined type => userDefined ⟨⟨""⟩, type.userType⟩
  | type => type

@[simp] theorem descriptor_unnamed (type : ColumnType) :
    type.unnamed.descriptor = type.descriptor := by
  cases type <;> rfl

@[simp] theorem isCollection_unnamed (type : ColumnType) :
    type.unnamed.isCollection = type.isCollection := by
  cases type <;> rfl

@[simp] theorem isCounter_unnamed (type : ColumnType) :
    type.unnamed.isCounter = type.isCounter := by
  cases type <;> rfl

@[simp] theorem isUserType_unnamed (type : ColumnType) :
    type.unnamed.isUserType = type.isUserType := by
  cases type <;> rfl

theorem unnamed_eq_self {type : ColumnType} (named : type.isUserType = false) :
    type.unnamed = type := by
  cases type with
  | userDefined type => cases named
  | _ => rfl

/-- Equality of types is equality once the names by which user types were asked for are left out. -/
theorem equiv_iff {a b : ColumnType} : a.Equiv b ↔ a.unnamed = b.unnamed := by
  cases a <;> cases b <;> simp [Equiv, unnamed]

theorem equiv_equivalence : Equivalence Equiv where
  refl _ := equiv_iff.mpr rfl
  symm same := equiv_iff.mpr (equiv_iff.mp same).symm
  trans same same' := equiv_iff.mpr ((equiv_iff.mp same).trans (equiv_iff.mp same'))

variable {a b : ColumnType}

/-- What does not depend on names is the same of equal types. -/
theorem Equiv.eq_of_unnamed {α : Type} (same : a.Equiv b) (f : ColumnType → α)
    (blind : ∀ type, f type.unnamed = f type) : f a = f b :=
  calc f a = f a.unnamed := (blind a).symm
    _ = f b.unnamed := congrArg f (equiv_iff.mp same)
    _ = f b := blind b

/-- Only the texts of user-defined types can tell equal types apart. -/
theorem Equiv.display_eq (same : a.Equiv b) (named : a.isUserType = false) :
    a.display = b.display := by
  have named' : b.isUserType = false :=
    (same.eq_of_unnamed isUserType isUserType_unnamed).symm.trans named
  have equal : a = b := by
    simpa [unnamed_eq_self named, unnamed_eq_self named'] using equiv_iff.mp same
  exact congrArg display equal

end ColumnType

namespace Collection

@[simp] theorem listOf_unnamed (elements : ColumnType) :
    listOf elements.unnamed = listOf elements := by
  simp [listOf, checkComponents]

@[simp] theorem setOf_unnamed (elements : ColumnType) :
    setOf elements.unnamed = setOf elements := by
  simp [setOf, checkComponents]

theorem mapOf_unnamed (keys values : ColumnType) :
    mapOf keys.unnamed values = mapOf keys values ∧
      mapOf keys values.unnamed = mapOf keys values := by
  simp [mapOf, checkComponents]

def parts : Collection → List Descriptor
  | list elements | set elements => [elements]
  | map keys values => [keys, values]

theorem eq_iff_parts {a b : Collection} : a = b ↔ a.kind = b.kind ∧ a.parts = b.parts := by
  cases a <;> cases b <;> simp [kind, parts]

theorem MadeFrom.parts_eq {components : List ColumnType} {collection : Collection}
    (made : MadeFrom components collection) :
    collection.parts = components.map ColumnType.descriptor := by
  cases made with
  | list accepted =>
    obtain ⟨-, rfl⟩ := checked_eq_ok_iff.mp accepted
    rfl
  | set accepted =>
    obtain ⟨-, rfl⟩ := checked_eq_ok_iff.mp accepted
    rfl
  | map accepted =>
    obtain ⟨-, rfl⟩ := checked_eq_ok_iff.mp accepted
    rfl

/-- Equality of column types is an equivalence that everything respects. Equal types agree in all
that is asked of them and are stored alike, the same collections or faults are made from them, and
they are shown alike unless they are user-defined. Collections are equal exactly if they have one
shape and are made from components that are stored alike. -/
theorem equiv_congruence :
    Equivalence ColumnType.Equiv ∧
    (∀ a b : ColumnType, a.Equiv b →
      (a.isCollection = b.isCollection ∧ a.isCounter = b.isCounter ∧
        a.isUserType = b.isUserType ∧ a.descriptor = b.descriptor) ∧
      (listOf a = listOf b ∧ setOf a = setOf b ∧
        ∀ c, mapOf a c = mapOf b c ∧ mapOf c a = mapOf c b) ∧
      (a.display = b.display ∨ (a.isUserType ∧ b.isUserType))) ∧
    (∀ components others made other, MadeFrom components made → MadeFrom others other →
      ((ColumnType.collection made).Equiv (.collection other) ↔
        made.kind = other.kind ∧
          components.map ColumnType.descriptor = others.map ColumnType.descriptor)) ∧
    (∀ made other : Collection, (ColumnType.collection made).Equiv (.collection other) →
      made.kind = other.kind ∧ made.display = other.display) := by
  refine ⟨ColumnType.equiv_equivalence, ?_, ?_, ?_⟩
  · intro a b same
    have userTypes := same.eq_of_unnamed _ ColumnType.isUserType_unnamed
    have stored := same.eq_of_unnamed _ ColumnType.descriptor_unnamed
    have collections := same.eq_of_unnamed _ ColumnType.isCollection_unnamed
    have counters := same.eq_of_unnamed _ ColumnType.isCounter_unnamed
    have lists := same.eq_of_unnamed _ listOf_unnamed
    have sets := same.eq_of_unnamed _ setOf_unnamed
    refine ⟨⟨collections, counters, userTypes, stored⟩, ⟨lists, sets, fun c => ⟨?_, ?_⟩⟩, ?_⟩
    · exact same.eq_of_unnamed (mapOf · c) fun type => (mapOf_unnamed type c).1
    · exact same.eq_of_unnamed (mapOf c) fun type => (mapOf_unnamed c type).2
    · cases named : a.isUserType with
      | false => exact Or.inl (same.display_eq named)
      | true => exact Or.inr ⟨rfl, userTypes.symm.trans named⟩
  · intro components others made other madeFrom madeFrom'
    rw [← madeFrom.parts_eq, ← madeFrom'.parts_eq]
    exact eq_iff_parts
  · intro made other same
    have equal : made = other := same
    exact ⟨congrArg kind equal, congrArg display equal⟩

/-- One composite under two names. -/
theorem equiv_congruence_renamed :
    (ColumnType.userDefined ⟨.quoted "Address", ⟨"ks", [0x61], []⟩⟩).Equiv
      (.userDefined ⟨.quoted "home", ⟨"ks", [0x61], []⟩⟩) ∧
    listOf (.userDefined ⟨.quoted "Address", ⟨"ks", [0x61], []⟩⟩) =
      listOf (.userDefined ⟨.quoted "home", ⟨"ks", [0x61], []⟩⟩) := by
  have same : (ColumnType.userDefined ⟨.quoted "Address", ⟨"ks", [0x61], []⟩⟩).Equiv
      (.userDefined ⟨.quoted "home", ⟨"ks", [0x61], []⟩⟩) := rfl
  exact ⟨same, (equiv_congruence.2.1 _ _ same).2.1.1⟩

end Collection

end ColumnTypes
