import ColumnTypes.Proofs.Decoding
import ColumnTypes.Proofs.RegistryLog

/-!
# Names with the same text

A registry tells types apart by the texts of their names, and malformed bytes have a text too. Names
that are written as text are told apart, and so are all names from one whose text is free of U+FFFD.
What remains is confused: different names with one text, which contains U+FFFD, where one of them at
least is malformed (`Utf8.confused_of_ne`).

So adding a type puts out of the registry only a type of the same name or of one that is confused
with it. That no other type is ever put out is not claimed, as it is false for malformed names
(`malformed_name_puts_out`).
-/

namespace ColumnTypes

namespace Utf8

def IsText (bytes : Bytes) : Prop :=
  ∃ text, bytes = encode text

/-- Both names are shown by one text, in which a character is missing from one of them. -/
structure Confused (first second : Bytes) : Prop where
  sameText : decodeLossy first = decodeLossy second
  replaced : replacement ∈ (decodeLossy first).toList
  malformed : ¬ IsText first ∨ ¬ IsText second

theorem IsText.eq_encode {bytes : Bytes} (h : IsText bytes) :
    bytes = encode (decodeLossy bytes) := by
  obtain ⟨text, rfl⟩ := h
  rw [decodeLossy_encode]

/-- A text without U+FFFD is that of its own bytes only. -/
theorem isText_of_clean {bytes : Bytes} (clean : replacement ∉ (decodeLossy bytes).toList) :
    IsText bytes := by
  have complete : (scan .start bytes).all Option.isSome := by
    apply List.all_eq_true.mpr
    intro entry mem
    cases entry with
    | some c => rfl
    | none =>
      refine absurd ?_ clean
      rw [decodeLossy, String.toList_ofList]
      exact List.mem_map.mpr ⟨none, mem, rfl⟩
  have read : decode? bytes = some (String.ofList ((scan .start bytes).filterMap id)) :=
    if_pos complete
  exact ⟨_, decode?_eq_some_iff.mp read⟩

/-- Two names that are told apart by bytes but not by text are confused in one of the listed ways.
-/
theorem confused_of_ne {first second : Bytes} (same : decodeLossy first = decodeLossy second)
    (different : first ≠ second) : Confused first second := by
  have malformed : ¬ (IsText first ∧ IsText second) := by
    rintro ⟨isText, isText'⟩
    exact different (isText.eq_encode.trans ((congrArg encode same).trans isText'.eq_encode.symm))
  refine ⟨same, ?_, not_and_or.mp malformed⟩
  by_contra clean
  exact malformed ⟨isText_of_clean clean, isText_of_clean (same ▸ clean)⟩

end Utf8

namespace Registry

variable {log : List Request} {type other : UserType}

/-- A registered type stays where no type is added under its text. -/
theorem Registered.add_of_ne (h : Registered log other.nameText other)
    (apart : type.nameText ≠ other.nameText) :
    Registered (log ++ [.add type]) other.nameText other :=
  registered_snoc.mpr (Or.inr ⟨apart, h⟩)

theorem Registered.add_all {added : List UserType} (h : Registered log other.nameText other)
    (apart : ∀ type ∈ added, type.nameText ≠ other.nameText) :
    Registered (log ++ added.map .add) other.nameText other := by
  induction added generalizing log with
  | nil => simpa using h
  | cons type rest ih =>
    obtain ⟨first, others⟩ := List.forall_mem_cons.mp apart
    have tail := ih (h.add_of_ne first) others
    simpa using tail

theorem nameText_ne (different : type.name ≠ other.name)
    (told : ¬ Utf8.Confused other.name type.name) : type.nameText ≠ other.nameText :=
  fun same => told (Utf8.confused_of_ne same.symm different.symm)

/-- A type that is added takes the place only of a type with the same name, or with one that is
confused with it. Every other registered type is still found under its own name, whatever types are
added with names of their own. -/
theorem add_replaces_same_name (log : List Request) :
    (∀ (type : UserType) (replaced : Descriptor),
      ((after log).answer (.add type)).1 = .descriptor (some replaced) →
      ∃ other, replaced = .user other ∧ Registered log type.nameText other ∧
        (other.name = type.name ∨ Utf8.Confused other.name type.name)) ∧
    (∀ (other : UserType) (added : List UserType), Registered log other.nameText other →
      (∀ type ∈ added, type.name ≠ other.name ∧ ¬ Utf8.Confused other.name type.name) →
      (after (log ++ added.map .add)).lookup (.ofBytes other.name) = some (.user other)) := by
  constructor
  · intro type replaced h
    have shown : ((after log).find? type.nameText).map .user = some replaced :=
      Reply.descriptor.inj h
    obtain ⟨other, found, rfl⟩ := Option.map_eq_some_iff.mp shown
    have registered := ((records_after log).finds _ other).mp found
    refine ⟨other, rfl, registered, ?_⟩
    by_cases same : other.name = type.name
    · exact Or.inl same
    · obtain ⟨_, _, -, sameText, -⟩ := registered
      exact Or.inr (Utf8.confused_of_ne sameText same)
  · intro other added registered told
    have apart : ∀ type ∈ added, type.nameText ≠ other.nameText :=
      fun type mem => nameText_ne (told type mem).1 (told type mem).2
    have kept := ((records_after _).finds _ other).mpr (registered.add_all apart)
    exact congrArg (Option.map Descriptor.user) kept

/-- Adding a malformed name leaves the type under a letter alone. -/
theorem add_replaces_same_name_letter :
    Registered [.add ⟨"ks", [0x61], []⟩] "a" ⟨"ks", [0x61], []⟩ ∧
    ¬ Utf8.Confused [0x61] [0xFF] ∧
    (after [.add ⟨"ks", [0x61], []⟩, .add ⟨"ks", [0xFF], []⟩]).lookup (.ofBytes [0x61]) =
      some (.user ⟨"ks", [0x61], []⟩) := by
  have registered : Registered [.add ⟨"ks", [0x61], []⟩] "a" ⟨"ks", [0x61], []⟩ :=
    ⟨[], [], rfl, by decide +kernel, by simp⟩
  have told : ¬ Utf8.Confused [0x61] [0xFF] := by
    intro confused
    exact absurd confused.sameText (by decide +kernel)
  refine ⟨registered, told, ?_⟩
  refine (add_replaces_same_name [.add ⟨"ks", [0x61], []⟩]).2 _ [⟨"ks", [0xFF], []⟩] registered ?_
  intro type mem
  rw [List.mem_singleton.mp mem]
  exact ⟨by decide, told⟩

/-- Two malformed names have one place: the second type puts out the first, and is found under the
name of the first. -/
theorem malformed_name_puts_out :
    ((after [.add ⟨"ks", [0xFF], []⟩]).answer (.add ⟨"ks", [0xFE], []⟩)).1 =
      .descriptor (some (.user ⟨"ks", [0xFF], []⟩)) ∧
    ([0xFF] : Bytes) ≠ [0xFE] ∧
    (after [.add ⟨"ks", [0xFF], []⟩, .add ⟨"ks", [0xFE], []⟩]).lookup (.ofBytes [0xFF]) =
      some (.user ⟨"ks", [0xFE], []⟩) := by
  have found : (after [.add ⟨"ks", [0xFF], []⟩]).lookup (.ofBytes [0xFE]) =
      some (.user ⟨"ks", [0xFF], []⟩) := by
    decide +kernel
  exact ⟨(reply_eq ..).trans (congrArg Reply.descriptor found), by decide, by decide +kernel⟩

end Registry

end ColumnTypes
