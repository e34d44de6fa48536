import ColumnTypes.ColumnType.Collection
import ColumnTypes.Proofs.Decoding

/-!
# Components of collections

A component goes into a collection as a column type and is read back as the view of what it was
stored as. The view passes through outer reversals, so it is a collection or the counter exactly if
what lies under them is. A custom type hides what it is stored as from the test of components: one
over a collection or the counter is let in, and comes back as that collection or counter.
-/

namespace ColumnTypes

namespace Descriptor

/-- What lies under the outer reversals. -/
def unreversed : Descriptor → Descriptor
  | .reversed base => base.unreversed
  | d => d

theorem isCollection_ofDescriptor (d : Descriptor) :
    (ColumnType.ofDescriptor d).isCollection = d.unreversed.isCollection := by
  induction d using ColumnType.ofDescriptor.induct with
  | case1 type native known =>
    simp [ColumnType.ofDescriptor, known, unreversed, ColumnType.isCollection, isCollection,
      collectionKind?]
  | case2 type unknown =>
    simp [ColumnType.ofDescriptor, unknown, unreversed, ColumnType.isCollection, isCollection,
      collectionKind?]
  | case4 base ih => exact ih
  | _ => rfl

theorem isCounter_scalar (type : Scalar) :
    (ColumnType.ofDescriptor (.scalar type)).isCounter = (Descriptor.scalar type).isCounter := by
  cases type <;> decide

theorem isCounter_ofDescriptor (d : Descriptor) :
    (ColumnType.ofDescriptor d).isCounter = d.unreversed.isCounter := by
  match d with
  | .scalar type => exact isCounter_scalar type
  | .reversed base => exact base.isCounter_ofDescriptor
  | .external _ | .list _ | .set _ | .map _ _ | .user _ =>
    simp [ColumnType.ofDescriptor, unreversed, ColumnType.isCounter, isCounter]

end Descriptor

/-- The type is neither a collection nor the counter. -/
def ColumnType.Plain (type : ColumnType) : Prop :=
  type.isCollection = false ∧ type.isCounter = false

/-- A custom type over a collection or the counter, reversed or not. -/
def ColumnType.Conceals (type : ColumnType) : Prop :=
  ∃ custom, type = .custom custom ∧
    (custom.descriptor.unreversed.isCollection ∨ custom.descriptor.unreversed.isCounter)

/-- A view looks through reversals, and with it the tests of a component. -/
theorem ColumnType.plain_ofDescriptor_iff {d : Descriptor} :
    (ofDescriptor d).Plain ↔
      ¬ (d.unreversed.isCollection ∨ d.unreversed.isCounter) := by
  rw [Plain, d.isCollection_ofDescriptor, d.isCounter_ofDescriptor]
  simp

theorem Native.isCounter_descriptor (native : Native) :
    native.descriptor.isCounter = native.isCounter := by
  cases native <;> decide

/-- Something plain is read back as something plain if it conceals nothing. -/
theorem ColumnType.plain_view_iff {type : ColumnType} (plain : type.Plain) :
    (ofDescriptor type.descriptor).Plain ↔ ¬ type.Conceals := by
  rw [plain_ofDescriptor_iff]
  apply not_congr
  constructor
  · intro shown
    cases type with
    | native native =>
      have uncounted : native.descriptor.unreversed.isCounter = false :=
        native.isCounter_descriptor.trans plain.2
      rcases shown with nested | counted
      · cases nested
      · rw [descriptor, uncounted] at counted
        cases counted
    | custom custom => exact ⟨custom, rfl, shown⟩
    | collection collection => cases plain.1
    | userDefined type =>
      rcases shown with nested | counted
      · cases nested
      · cases of_decide_eq_true counted
  · rintro ⟨custom, rfl, concealed⟩
    exact concealed

namespace Collection

def components (collection : Collection) : List ColumnType :=
  collection.elements?.toList ++ collection.keys?.toList ++ collection.values?.toList

/-- No component is a collection or the counter. -/
def OneLevel (collection : Collection) : Prop :=
  ∀ component ∈ collection.components, component.Plain

inductive MadeFrom : List ColumnType → Collection → Prop
  | list {elements : ColumnType} {collection : Collection} :
      listOf elements = .ok collection → MadeFrom [elements] collection
  | set {elements : ColumnType} {collection : Collection} :
      setOf elements = .ok collection → MadeFrom [elements] collection
  | map {keys values : ColumnType} {collection : Collection} :
      mapOf keys values = .ok collection → MadeFrom [keys, values] collection

/-- Components are accepted if each of them is plain, whatever the collection. -/
theorem checkComponents_eq_ok_iff {kind : CollectionKind} {components : List ColumnType} :
    checkComponents kind components = .ok () ↔ ∀ component ∈ components, component.Plain := by
  rw [checkComponents]
  split
  · rename_i nested
    obtain ⟨component, mem, collection⟩ := List.any_eq_true.mp nested
    constructor
    · rintro ⟨⟩
    · intro plain
      rw [(plain component mem).1] at collection
      cases collection
  rename_i flat
  split
  · rename_i counted
    obtain ⟨component, mem, counter⟩ := List.any_eq_true.mp counted
    constructor
    · rintro ⟨⟩
    · intro plain
      rw [(plain component mem).2] at counter
      cases counter
  · rename_i uncounted
    constructor
    · intro _ component mem
      constructor
      · exact Bool.eq_false_iff.mpr fun found => flat (List.any_eq_true.mpr ⟨component, mem, found⟩)
      · exact Bool.eq_false_iff.mpr fun found =>
          uncounted (List.any_eq_true.mpr ⟨component, mem, found⟩)
    · intro _
      rfl

theorem checked_eq_ok_iff {kind : CollectionKind} {components : List ColumnType}
    {made collection : Collection} :
    (do checkComponents kind components; return made) = .ok collection ↔
      (∀ component ∈ components, component.Plain) ∧ made = collection := by
  rw [bind_eq_ok_iff, ← @checkComponents_eq_ok_iff kind]
  constructor
  · rintro ⟨⟨⟩, accepted, same⟩
    exact ⟨accepted, pure_eq_ok_iff.mp same⟩
  · rintro ⟨accepted, same⟩
    exact ⟨(), accepted, pure_eq_ok_iff.mpr same⟩

/-- The components are those that were tested, as far as they can be told from what they are stored
as. -/
theorem MadeFrom.components_eq {components : List ColumnType} {collection : Collection}
    (made : MadeFrom components collection) :
    (∀ component ∈ components, component.Plain) ∧
      collection.components =
        components.map fun component => .ofDescriptor component.descriptor := by
  cases made with
  | list accepted =>
    obtain ⟨plain, rfl⟩ := checked_eq_ok_iff.mp accepted
    exact ⟨plain, rfl⟩
  | set accepted =>
    obtain ⟨plain, rfl⟩ := checked_eq_ok_iff.mp accepted
    exact ⟨plain, rfl⟩
  | map accepted =>
    obtain ⟨plain, rfl⟩ := checked_eq_ok_iff.mp accepted
    exact ⟨plain, rfl⟩

/-- A collection is one level deep and free of counters exactly if none of the types that it is made
from conceals a collection or the counter. -/
theorem one_level_unless_concealed {components : List ColumnType} {collection : Collection}
    (made : MadeFrom components collection) :
    collection.OneLevel ↔ ∀ component ∈ components, ¬ component.Conceals := by
  obtain ⟨plain, readBack⟩ := made.components_eq
  rw [OneLevel, readBack, List.forall_mem_map]
  constructor
  · intro oneLevel component mem
    exact (ColumnType.plain_view_iff (plain component mem)).mp (oneLevel component mem)
  · intro shown component mem
    exact (ColumnType.plain_view_iff (plain component mem)).mpr (shown component mem)

/-- A map from texts to integers. -/
theorem one_level_map :
    MadeFrom [.native .text, .native .int] (.map (.scalar .utf8) (.scalar .int32)) ∧
      OneLevel (.map (.scalar .utf8) (.scalar .int32)) := by
  have made : MadeFrom [.native .text, .native .int] (.map (.scalar .utf8) (.scalar .int32)) :=
    .map rfl
  refine ⟨made, (one_level_unless_concealed made).mpr ?_⟩
  intro component mem
  rintro ⟨custom, rfl, -⟩
  simp at mem

/-- A list of the custom type over a list of integers is made, and its elements are lists. -/
theorem concealed_list_is_nested :
    listOf (.custom ⟨.list (.scalar .int32)⟩) = .ok (.list (.list (.scalar .int32))) ∧
      ¬ OneLevel (.list (.list (.scalar .int32))) := by
  constructor
  · rfl
  · intro oneLevel
    have plain := oneLevel (.collection (.list (.scalar .int32))) (List.mem_cons_self ..)
    cases plain.1

end Collection

end ColumnTypes
