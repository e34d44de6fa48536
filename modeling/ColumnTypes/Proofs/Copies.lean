import ColumnTypes.ColumnType.Construction
import ColumnTypes.Proofs.Decoding
import Mathlib.Data.List.Forall2

/-!
# Copies that agree

A described collection keeps its shape and its descriptor, a described user type its composite and
its descriptor, and nothing in the types makes the copies agree. The ways to make column types do.
Each step of a construction comes to the same whether it is taken with column types, which keep
nothing twice, or with described types, and whether copies are tested or not; so does the whole
construction (`Construction.mirrors`). No test fails, then, and what is made is a column type with
its descriptor beside it.

The converse holds as well: every described type whose copies agree can be made
(`DescribedType.coherent_iff`, `DescribedType.made_iff`), so agreement is all that can be said of
what is made.
-/

namespace ColumnTypes

section

variable {α β γ δ ε ε' : Type} {f : α → β} {g : γ → δ}

/-- No copies are found to differ, and the attempt comes to what the result is, seen through `f`. -/
def Mirrors (f : α → β) (attempt : Attempt ε β) (result : Except ε α) : Prop :=
  attempt.run = .ok (result.map f)

namespace Mirrors

theorem pure (a : α) : Mirrors f (pure (f a) : Attempt ε β) (.ok a) := rfl

theorem throw (fault : ε) : Mirrors f (throw fault : Attempt ε β) (.error fault) := rfl

theorem lift {x : Except Mismatch β} {a : α} (made : x = .ok (f a)) :
    Mirrors f (liftM x : Attempt ε β) (.ok a) := by
  rw [made]
  rfl

theorem bind {attempt : Attempt ε β} {result : Except ε α} {next : β → Attempt ε δ}
    {next' : α → Except ε γ} (first : Mirrors f attempt result)
    (rest : ∀ a, Mirrors g (next (f a)) (next' a)) :
    Mirrors g (attempt >>= next) (result >>= next') := by
  rw [Mirrors, ExceptT.run_bind, first]
  cases result with
  | error fault => rfl
  | ok a => exact rest a

theorem adapt {attempt : Attempt ε β} {result : Except ε α} (same : Mirrors f attempt result)
    (c : ε → ε') : Mirrors f (attempt.adapt c) (result.mapError c) := by
  have adapted : (attempt.adapt c).run = (Except.mapError c) <$> attempt.run := rfl
  rw [Mirrors, adapted, same]
  cases result <;> rfl

end Mirrors

end

def Collection.described (type : Collection) : DescribedCollection :=
  ⟨type.kind, type.descriptor⟩

def UserDefined.described (type : UserDefined) : DescribedUserType :=
  ⟨type.name, type.userType, type.descriptor⟩

theorem Collection.collectionKind?_descriptor (type : Collection) :
    type.descriptor.collectionKind? = some type.kind := by
  cases type <;> rfl

theorem Collection.exists_of_collectionKind? {d : Descriptor} {kind : CollectionKind}
    (shape : d.collectionKind? = some kind) :
    ∃ type : Collection, type.kind = kind ∧ type.descriptor = d := by
  cases d with
  | list elements => exact ⟨.list elements, Option.some.inj shape, rfl⟩
  | set elements => exact ⟨.set elements, Option.some.inj shape, rfl⟩
  | map keys values => exact ⟨.map keys values, Option.some.inj shape, rfl⟩
  | _ => cases shape

theorem Collection.ofCopies_eq (tested : Bool) (type : Collection) :
    DescribedCollection.ofCopies tested type.kind type.descriptor = .ok type.described := by
  simp [DescribedCollection.ofCopies, type.collectionKind?_descriptor, described]

theorem UserDefined.ofCopies_eq (tested : Bool) (type : UserDefined) :
    DescribedUserType.ofCopies tested type.name type.userType type.descriptor =
      .ok type.described := by
  simp [DescribedUserType.ofCopies, descriptor, Descriptor.userType?, described]

theorem UserDefined.lookup_mirrors (tested : Bool) (registered : Identifier → Option Descriptor)
    (name : Identifier) :
    Mirrors described (DescribedUserType.lookup tested registered name)
      (lookup registered name) := by
  rw [DescribedUserType.lookup, lookup]
  cases registered name with
  | none => exact .throw _
  | some d =>
    cases d with
    | user type => exact .lift (ofCopies_eq tested ⟨name, type⟩)
    | _ => exact .throw _

namespace ColumnType

/-- The type with the copies that a described type keeps. -/
def described : ColumnType → DescribedType
  | native type => .native type
  | custom type => .custom type
  | collection type => .collection type.described
  | userDefined type => .userDefined type.described

@[simp] theorem descriptor_described (type : ColumnType) :
    type.described.descriptor = type.descriptor := by
  cases type <;> rfl

@[simp] theorem isCollection_described (type : ColumnType) :
    type.described.isCollection = type.isCollection := by
  cases type <;> rfl

@[simp] theorem isCounter_described (type : ColumnType) :
    type.described.isCounter = type.isCounter := by
  cases type <;> rfl

theorem ofDescriptor_descriptor_collection (type : Collection) :
    ofDescriptor type.descriptor = collection type := by
  cases type <;> rfl

theorem ofDescriptor_of_native {d : Descriptor} {type : Native}
    (known : Native.ofDescriptor? d = some type) : ofDescriptor d = native type := by
  cases d with
  | scalar stored =>
    have read : Native.ofScalar? stored = some type := known
    rw [ofDescriptor, read]
  | _ => cases known

/-- The view of a descriptor is the same with the descriptor beside it, and its copies agree. -/
theorem ofDescriptor_described (tested : Bool) (d : Descriptor) :
    DescribedType.ofDescriptor tested d = .ok (ofDescriptor d).described := by
  fun_induction DescribedType.ofDescriptor tested d with
  | case1 d type known => rw [ofDescriptor_of_native known, described]
  | case2 d unknown kind shape =>
    obtain ⟨type, rfl, rfl⟩ := Collection.exists_of_collectionKind? shape
    rw [type.ofCopies_eq, ofDescriptor_descriptor_collection]
    rfl
  | case3 base unknown shape ih => exact ih
  | case4 type unknown shape =>
    have made := UserDefined.ofCopies_eq tested ⟨.ofBytes type.name, type⟩
    rw [UserDefined.descriptor] at made
    rw [made]
    rfl
  | case5 d unknown shape straight plain =>
    cases d with
    | scalar type =>
      have unread : Native.ofScalar? type = none := unknown
      rw [ofDescriptor, unread, described]
    | external name => rfl
    | reversed base => exact absurd rfl (straight base)
    | user type => exact absurd rfl (plain type)
    | list _ | set _ | map _ _ => cases shape

theorem part?_collection (type : Collection) (which : Part) :
    (collection type).part? which = (type.descriptor.part? which).map ofDescriptor := by
  cases type <;> cases which <;> rfl

/-- A part of a type is the same when it is read off the descriptor. -/
theorem part?_described (tested : Bool) (type : ColumnType) (which : Part) :
    type.described.part? tested which = .ok ((type.part? which).map described) := by
  cases type with
  | native _ | custom _ | userDefined _ => cases which <;> rfl
  | collection type =>
    rw [part?_collection, described, Collection.described, DescribedType.part?]
    cases type.descriptor.part? which with
    | none => rfl
    | some found =>
      simp only [ofDescriptor_described]
      rfl

/-- What a part is shown as is its view, which is no larger than the part. -/
theorem shown_described (tested : Bool) (d : Descriptor) :
    ∃ fits, DescribedType.shown tested d = .ok ⟨(ofDescriptor d).described, fits⟩ := by
  rw [DescribedType.shown]
  split
  · rename_i view found
    cases (ofDescriptor_described tested d).symm.trans found
    exact ⟨DescribedType.sizeOf_descriptor_le found, rfl⟩
  · rename_i copies found
    cases (ofDescriptor_described tested d).symm.trans found

/-- The views that a text is put together from are views of smaller descriptors, so the induction is
on the descriptor. -/
theorem write_described_ofDescriptor (tested : Bool) (other : Descriptor → String)
    (d : Descriptor) :
    (ofDescriptor d).described.write tested other = .ok d.columnText := by
  match d with
  | .scalar type =>
    rw [ofDescriptor, Descriptor.columnText]
    cases Native.ofScalar? type with
    | none => rw [described, DescribedType.write]
    | some native => rw [described, DescribedType.write]
  | .external name => rw [ofDescriptor, described, DescribedType.write, Descriptor.columnText]
  | .reversed base => exact write_described_ofDescriptor tested other base
  | .list elements | .set elements =>
    have inside := write_described_ofDescriptor tested other elements
    obtain ⟨_, shown⟩ := shown_described tested elements
    rw [ofDescriptor, described, Collection.described, Collection.descriptor, DescribedType.write,
      shown]
    simp only [bind, Except.bind, inside]
    rfl
  | .map keys values =>
    have key := write_described_ofDescriptor tested other keys
    have value := write_described_ofDescriptor tested other values
    obtain ⟨_, shownKeys⟩ := shown_described tested keys
    obtain ⟨_, shownValues⟩ := shown_described tested values
    rw [ofDescriptor, described, Collection.described, Collection.descriptor, DescribedType.write,
      shownKeys, shownValues]
    simp only [bind, Except.bind, key, value]
    rfl
  | .user type =>
    rw [ofDescriptor, described, UserDefined.described, DescribedType.write]
    rfl

/-- The text of a type never depends on how a collection would be written that is none. -/
theorem write_described (tested : Bool) (other : Descriptor → String) (type : ColumnType) :
    type.described.write tested other = .ok type.display := by
  cases type with
  | native _ | custom _ | userDefined _ =>
    rw [described, DescribedType.write]
    rfl
  | collection type =>
    rw [← ofDescriptor_descriptor_collection, write_described_ofDescriptor,
      display_ofDescriptor]

end ColumnType

namespace Collection

variable (tested : Bool)

theorem make_mirrors (made : Collection) (components : List ColumnType) :
    Mirrors described
      (DescribedCollection.make tested made.kind (components.map ColumnType.described)
        made.descriptor)
      (do checkComponents made.kind components; return made) := by
  simp only [DescribedCollection.make, checkComponents, List.any_map, Function.comp_def,
    ColumnType.isCollection_described, ColumnType.isCounter_described]
  split
  · exact .throw _
  split
  · exact .throw _
  · exact .lift (made.ofCopies_eq tested)

theorem listOf_mirrors (elements : ColumnType) :
    Mirrors described (DescribedCollection.listOf tested elements.described) (listOf elements) := by
  rw [DescribedCollection.listOf, elements.descriptor_described]
  exact make_mirrors tested (.list elements.descriptor) [elements]

theorem setOf_mirrors (elements : ColumnType) :
    Mirrors described (DescribedCollection.setOf tested elements.described) (setOf elements) := by
  rw [DescribedCollection.setOf, elements.descriptor_described]
  exact make_mirrors tested (.set elements.descriptor) [elements]

theorem mapOf_mirrors (keys values : ColumnType) :
    Mirrors described (DescribedCollection.mapOf tested keys.described values.described)
      (mapOf keys values) := by
  rw [DescribedCollection.mapOf, keys.descriptor_described, values.descriptor_described]
  exact make_mirrors tested (.map keys.descriptor values.descriptor) [keys, values]

end Collection

namespace Construction

/-- Followed with types that keep their descriptors, a construction comes to what it comes to with
column types. -/
theorem mirrors (tested : Bool) (construction : Construction) :
    Mirrors ColumnType.described (construction.described tested) construction.value := by
  -- What the operands come to is known by induction, and `bind` hands it on to the step.
  induction construction with
  | native type => exact .pure (ColumnType.native type)
  | custom path text =>
    rw [described, value]
    cases (Custom.ofTypeName path text).mapError Refusal.spelling with
    | error fault => exact .throw fault
    | ok type => exact .pure (ColumnType.custom type)
  | customOver d => exact .pure (ColumnType.custom ⟨d⟩)
  | list elements ih =>
    apply ih.bind
    intro type
    apply ((Collection.listOf_mirrors tested type).adapt Refusal.component).bind
    exact fun made => .pure (ColumnType.collection made)
  | set elements ih =>
    apply ih.bind
    intro type
    apply ((Collection.setOf_mirrors tested type).adapt Refusal.component).bind
    exact fun made => .pure (ColumnType.collection made)
  | map keys values ihKeys ihValues =>
    apply ihKeys.bind
    intro key
    apply ihValues.bind
    intro value
    apply ((Collection.mapOf_mirrors tested key value).adapt Refusal.component).bind
    exact fun made => .pure (ColumnType.collection made)
  | known name type =>
    have made : DescribedUserType.known tested name type =
        .ok (UserDefined.described ⟨name, type⟩) :=
      UserDefined.ofCopies_eq tested ⟨name, type⟩
    rw [described, made]
    exact .pure (ColumnType.userDefined ⟨name, type⟩)
  | lookup registered name =>
    apply ((UserDefined.lookup_mirrors tested registered name).adapt Refusal.name).bind
    exact fun made => .pure (ColumnType.userDefined made)
  | view d => exact .lift (ColumnType.ofDescriptor_described tested d)
  | part which whole ih =>
    apply ih.bind
    intro type
    rw [ColumnType.part?_described]
    cases type.part? which with
    | none => exact .throw _
    | some found => exact .pure found

theorem exists_value (type : ColumnType) :
    ∃ construction : Construction, construction.value = .ok type := by
  cases type with
  | native type => exact ⟨.native type, rfl⟩
  | custom type => exact ⟨.customOver type.descriptor, rfl⟩
  | collection type =>
    exact ⟨.view type.descriptor,
      congrArg Except.ok (ColumnType.ofDescriptor_descriptor_collection type)⟩
  | userDefined type => exact ⟨.known type.name type.userType, rfl⟩

end Construction

def CollectionKind.parts : CollectionKind → List Part
  | list | set => [.elements]
  | map => [.keys, .values]

theorem Collection.isSome_part?_iff (type : Collection) (which : Part) :
    ((ColumnType.collection type).part? which).isSome ↔ which ∈ type.kind.parts := by
  cases type <;> cases which <;>
    simp [ColumnType.part?, elements?, keys?, values?, kind, CollectionKind.parts]

namespace DescribedType

/-- The type is made by some construction. -/
def Made (tested : Bool) (type : DescribedType) : Prop :=
  ∃ construction : Construction, (construction.described tested).run = .ok (.ok type)

def Coherent : DescribedType → Prop
  | native _ | custom _ => True
  | collection type => type.descriptor.collectionKind? = some type.kind
  | userDefined type => type.descriptor = .user type.userType

/-- The described types that can be made are those of plain types, with tests or without. -/
theorem made_iff {tested : Bool} {type : DescribedType} :
    type.Made tested ↔ ∃ plain : ColumnType, plain.described = type := by
  constructor
  · rintro ⟨construction, made⟩
    have same := (construction.mirrors tested).symm.trans made
    exact (map_eq_ok_iff.mp (Except.ok.inj same)).imp fun plain found => found.2
  · rintro ⟨plain, rfl⟩
    obtain ⟨construction, made⟩ := Construction.exists_value plain
    have same := construction.mirrors tested
    rw [Mirrors, made] at same
    exact ⟨construction, same⟩

/-- The copies agree in the described types of plain ones and in no others. -/
theorem coherent_iff {type : DescribedType} :
    type.Coherent ↔ ∃ plain : ColumnType, plain.described = type := by
  constructor
  · intro agree
    cases type with
    | native type => exact ⟨.native type, rfl⟩
    | custom type => exact ⟨.custom type, rfl⟩
    | collection type =>
      obtain ⟨kind, d⟩ := type
      obtain ⟨plain, rfl, rfl⟩ := Collection.exists_of_collectionKind? agree
      exact ⟨.collection plain, rfl⟩
    | userDefined type =>
      obtain ⟨name, composite, d⟩ := type
      have same : d = .user composite := agree
      subst same
      exact ⟨.userDefined ⟨name, composite⟩, rfl⟩
  · rintro ⟨plain, rfl⟩
    cases plain with
    | native _ | custom _ => trivial
    | collection type => exact type.collectionKind?_descriptor
    | userDefined type => rfl

theorem exists_of_made_collection {tested : Bool} {type : DescribedCollection}
    (made : (collection type).Made tested) : ∃ plain : Collection, plain.described = type := by
  obtain ⟨plain, same⟩ := made_iff.mp made
  cases plain with
  | collection plain =>
    cases same
    exact ⟨plain, rfl⟩
  | native _ | custom _ | userDefined _ => cases same

/-- These are the texts of the parts that the collection has by its shape. -/
def PartTexts (tested : Bool) (type : DescribedCollection) (texts : List String) : Prop :=
  List.Forall₂ (fun which text => ∃ part, (collection type).part? tested which = .ok (some part) ∧
    part.display tested = .ok text) type.kind.parts texts

theorem part_text (tested : Bool) (type : Collection) (which : Part) {d : Descriptor}
    (found : type.descriptor.part? which = some d) :
    ∃ part, (collection type.described).part? tested which = .ok (some part) ∧
      part.display tested = .ok d.columnText := by
  refine ⟨(ColumnType.ofDescriptor d).described, ?_, ?_⟩
  · have read := ColumnType.part?_described tested (.collection type) which
    rw [ColumnType.part?_collection, found] at read
    exact read
  · exact ColumnType.write_described_ofDescriptor tested Descriptor.display d

theorem partTexts_described (tested : Bool) (type : Collection) :
    ∃ texts, PartTexts tested type.described texts ∧
      type.display = type.kind.keyword ++ "<" ++ ", ".intercalate texts ++ ">" := by
  cases type with
  | list elements =>
    have element := part_text tested (.list elements) .elements rfl
    exact ⟨_, .cons element .nil, rfl⟩
  | set elements =>
    have element := part_text tested (.set elements) .elements rfl
    exact ⟨_, .cons element .nil, rfl⟩
  | map keys values =>
    have key := part_text tested (.map keys values) .keys rfl
    have value := part_text tested (.map keys values) .values rfl
    exact ⟨_, .cons key (.cons value .nil), rfl⟩

/-- Whatever is made, no test of copies fails, and the outcome is that of the construction with
column types. A collection that is made has the shape of its descriptor, and just the parts that go
with that shape. Its text is the keyword of the shape with the texts of those parts, and no other
way to write the descriptor is ever called upon. A user-defined type that is made has the descriptor
of its composite. And whatever keeps copies that agree can be made. -/
theorem copies_of_made_agree (tested : Bool) :
    (∀ construction : Construction,
      (construction.described tested).run =
        .ok (construction.value.map ColumnType.described)) ∧
    (∀ type : DescribedCollection, (collection type).Made tested →
      type.descriptor.collectionKind? = some type.kind ∧
      (∀ which, ∃ found, (collection type).part? tested which = .ok found ∧
        (found.isSome ↔ which ∈ type.kind.parts)) ∧
      ∃ texts, PartTexts tested type texts ∧ ∀ other,
        (collection type).write tested other =
          .ok (type.kind.keyword ++ "<" ++ ", ".intercalate texts ++ ">")) ∧
    (∀ type : DescribedUserType, (userDefined type).Made tested →
      type.descriptor = .user type.userType) ∧
    (∀ type : DescribedType, type.Coherent → type.Made tested) := by
  refine ⟨Construction.mirrors tested, ?_, ?_, ?_⟩
  · intro type made
    obtain ⟨plain, rfl⟩ := exists_of_made_collection made
    obtain ⟨texts, parts, text⟩ := partTexts_described tested plain
    refine ⟨plain.collectionKind?_descriptor, ?_, texts, parts, ?_⟩
    · intro which
      refine ⟨_, ColumnType.part?_described tested (.collection plain) which, ?_⟩
      rw [Option.isSome_map]
      exact plain.isSome_part?_iff which
    · intro other
      exact (ColumnType.write_described tested other (.collection plain)).trans
        (congrArg Except.ok text)
  · intro type made
    exact coherent_iff.mpr (made_iff.mp made)
  · intro type agree
    exact made_iff.mpr (coherent_iff.mp agree)

/-- The keys of a reversed map are taken out and made the elements of a list. -/
theorem copies_of_made_agree_taken_apart :
    (collection ⟨.list, .list (.user ⟨"ks", [0x61], []⟩)⟩).Made true ∧
    ∃ texts, PartTexts true ⟨.list, .list (.user ⟨"ks", [0x61], []⟩)⟩ texts ∧ ∀ other,
      (collection ⟨.list, .list (.user ⟨"ks", [0x61], []⟩)⟩).write true other =
        .ok ("list" ++ "<" ++ ", ".intercalate texts ++ ">") := by
  have made : (collection ⟨.list, .list (.user ⟨"ks", [0x61], []⟩)⟩).Made true :=
    ⟨.list (.part .keys (.view (.reversed (.map (.reversed (.user ⟨"ks", [0x61], []⟩))
      (.scalar .int32))))), rfl⟩
  exact ⟨made, ((copies_of_made_agree true).2.1 _ made).2.2⟩

end DescribedType

end ColumnTypes
