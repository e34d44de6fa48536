import ColumnTypes.Proofs.Views

/-!
# Collections taken apart and made again

The components of a collection are views, and what is made from views is tested like anything else.
So the same collection comes out exactly if each component is stored bare: not reversed, no
collection and not the counter. Outer reversals of a component are lost on its view, and what lies
under them decides whether it is let in. Any component that is a collection is reported before any
that is the counter, wherever the two stand.

The collection may have been made or be a view itself; nothing is assumed of its components.
-/

namespace ColumnTypes

namespace Descriptor

/-- The descriptor may stand in a collection as it is: it is neither reversed nor a collection, and
it is not the counter. -/
def Bare (d : Descriptor) : Prop :=
  (∀ base, d ≠ .reversed base) ∧ d.isCollection = false ∧ d.isCounter = false

theorem unreversed_eq_self_iff {d : Descriptor} :
    d.unreversed = d ↔ ∀ base, d ≠ .reversed base := by
  constructor
  · intro same base reversed
    exact unreversed_ne_reversed d base (same.trans reversed)
  · intro unwrapped
    cases d with
    | reversed base => exact absurd rfl (unwrapped base)
    | _ => rfl

/-- A part is bare if it may be a component and is no reversal of anything. -/
theorem bare_iff {d : Descriptor} :
    d.Bare ↔ (ColumnType.ofDescriptor d).Plain ∧ d.unreversed = d := by
  rw [ColumnType.plain_ofDescriptor_iff, unreversed_eq_self_iff, Bare]
  constructor
  · rintro ⟨unwrapped, flat, uncounted⟩
    rw [unreversed_eq_self_iff.mpr unwrapped, flat, uncounted]
    exact ⟨by simp, unwrapped⟩
  · rintro ⟨plain, unwrapped⟩
    rw [unreversed_eq_self_iff.mpr unwrapped, not_or] at plain
    exact ⟨unwrapped, Bool.eq_false_iff.mpr plain.1, Bool.eq_false_iff.mpr plain.2⟩

end Descriptor

namespace Collection

/-- What the test of components finds in views of these descriptors. -/
theorem checkComponents_views (kind : CollectionKind) (parts : List Descriptor) :
    checkComponents kind (parts.map .ofDescriptor) =
      if ∃ part ∈ parts, part.unreversed.isCollection then .error (.nested kind)
      else if ∃ part ∈ parts, part.unreversed.isCounter then .error .counter
      else .ok () := by
  simp [checkComponents, Function.comp_def, Descriptor.isCollection_ofDescriptor,
    Descriptor.isCounter_ofDescriptor]

def unreversed : Collection → Collection
  | list elements => list elements.unreversed
  | set elements => set elements.unreversed
  | map keys values => map keys.unreversed values.unreversed

theorem unreversed_eq_self_iff {collection : Collection} :
    collection.unreversed = collection ↔ ∀ part ∈ collection.parts, part.unreversed = part := by
  cases collection <;> simp [unreversed, parts]

/-- What is made from the components, as a collection of the same shape. -/
def rebuilt? (collection : Collection) : Option (Except ComponentFault Collection) :=
  match collection.kind with
  | .list => collection.elements?.map listOf
  | .set => collection.elements?.map setOf
  | .map => collection.keys?.bind fun keys => collection.values?.map (mapOf keys)

/-- The components are there, and are tested as the views that they are. -/
theorem rebuilt?_eq (collection : Collection) :
    collection.rebuilt? = some (do
      checkComponents collection.kind (collection.parts.map .ofDescriptor)
      return collection.unreversed) := by
  cases collection <;>
    simp [rebuilt?, kind, parts, unreversed, elements?, keys?, values?, listOf, setOf, mapOf,
      ColumnType.descriptor_ofDescriptor]

/-- A collection survives being taken apart and made again if all of its parts are bare. -/
theorem rebuilt?_eq_self_iff {collection : Collection} :
    collection.rebuilt? = some (.ok collection) ↔ ∀ part ∈ collection.parts, part.Bare := by
  rw [rebuilt?_eq, Option.some_inj, checked_eq_ok_iff, unreversed_eq_self_iff, List.forall_mem_map]
  simp only [Descriptor.bare_iff]
  constructor
  · rintro ⟨plain, same⟩ part mem
    exact ⟨plain part mem, same part mem⟩
  · intro bare
    exact ⟨fun part mem => (bare part mem).1, fun part mem => (bare part mem).2⟩

/-- A collection that is taken apart and made again is the same exactly if its components are bare.
If they are not, it is refused because of a component that is a collection under its reversals, else
because of one that is the counter there, and else it comes out with other components than it had:
those without their reversals. -/
theorem rebuilt_exactly_if_bare (collection : Collection) :
    ∃ result, collection.rebuilt? = some result ∧
      (result = .ok collection ↔ ∀ part ∈ collection.parts, part.Bare) ∧
      (¬ (∀ part ∈ collection.parts, part.Bare) →
        if ∃ part ∈ collection.parts, part.unreversed.isCollection then
          result = .error (.nested collection.kind) ∧
            (ComponentFault.nested collection.kind).toError.code = .nestedCollection
        else if ∃ part ∈ collection.parts, part.unreversed.isCounter then
          result = .error .counter ∧
            ComponentFault.counter.toError.code = .counterInCollection
        else
          result = .ok collection.unreversed ∧ collection.unreversed ≠ collection) := by
  have same := @rebuilt?_eq_self_iff collection
  rw [rebuilt?_eq, checkComponents_views] at same ⊢
  refine ⟨_, rfl, Option.some_inj.symm.trans same, fun dressed => ?_⟩
  split
  · exact ⟨rfl, rfl⟩
  split
  · exact ⟨rfl, rfl⟩
  · rename_i flat uncounted
    refine ⟨rfl, fun kept => dressed (same.mp ?_)⟩
    rw [if_neg flat, if_neg uncounted, kept]
    rfl

/-- A list of reversed integers is shown as a list of integers, and so it is made again as one. -/
theorem rebuilt_exactly_if_bare_reversed :
    (¬ ∀ part ∈ (list (.reversed (.scalar .int32))).parts, part.Bare) ∧
    (list (.reversed (.scalar .int32))).rebuilt? = some (.ok (list (.scalar .int32))) ∧
    list (.scalar .int32) ≠ list (.reversed (.scalar .int32)) := by
  have dressed : ¬ ∀ part ∈ (list (.reversed (.scalar .int32))).parts, part.Bare := fun bare =>
    (bare _ (List.mem_singleton_self _)).1 _ rfl
  obtain ⟨result, made, -, otherwise⟩ := rebuilt_exactly_if_bare (list (.reversed (.scalar .int32)))
  have outcome := otherwise dressed
  rw [if_neg (by decide), if_neg (by decide)] at outcome
  exact ⟨dressed, made.trans (congrArg some outcome.1), outcome.2⟩

-- The collection is reported though the counter stands before it.
example : (map (.scalar .counterColumn) (.reversed (.list (.scalar .int32)))).rebuilt? =
    some (.error (.nested .map)) :=
  rfl

end Collection

end ColumnTypes
