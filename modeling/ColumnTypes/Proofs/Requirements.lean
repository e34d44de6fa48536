import ColumnTypes.Proofs.Denotation

/-!
# Which classes a descriptor requires

A term that denotes a descriptor under one class path is resolved by any other path up to the first
class, in reading order, that this path cannot load (`Denotes.resolve_eq_require`). So the classes
from outside that occur in the descriptor are all that its spellings require of a class path.
-/

namespace ColumnTypes

mutual

/-- The classes from outside in reading order. -/
def Descriptor.externals : Descriptor → List ClassName
  | .scalar _ => []
  | .external name => [name]
  | .reversed base => base.externals
  | .list elements => elements.externals
  | .set elements => elements.externals
  | .map keys values => keys.externals ++ values.externals
  | .user ⟨_, _, fields⟩ => fieldsExternals fields

def fieldsExternals : List (Bytes × Descriptor) → List ClassName
  | [] => []
  | (_, type) :: rest => type.externals ++ fieldsExternals rest

end

namespace ClassPath

variable {α β : Type}

/-- The value, if all the classes can be loaded, and otherwise the first that cannot. -/
def require (path : ClassPath) (names : List ClassName) (value : α) : Except ResolutionFault α :=
  match names.find? (fun name => decide (name.text ∉ path.classes)) with
  | none => .ok value
  | some name => .error (.unknownClass name.text)

theorem require_map (path : ClassPath) (names : List ClassName) (value : α) (f : α → β) :
    (path.require names value).map f = path.require names (f value) := by
  rw [require, require]
  split <;> rfl

theorem require_bind_pure (path : ClassPath) (names : List ClassName) (value : α) (f : α → β) :
    (path.require names value >>= fun value => pure (f value)) = path.require names (f value) := by
  rw [require, require]
  split <;> rfl

/-- Requirements are met one after the other, so those of a continuation come behind. -/
theorem require_append (path : ClassPath) (first second : List ClassName) {a : α} {b : β}
    {f : α → Except ResolutionFault β} (h : f a = path.require second b) :
    (path.require first a >>= f) = path.require (first ++ second) b := by
  unfold require at h ⊢
  rw [List.find?_append]
  cases found : first.find? (fun name => decide (name.text ∉ path.classes)) with
  | none => exact h
  | some name => rfl

theorem require_eq_ok {path : ClassPath} {names : List ClassName}
    (loaded : ∀ name ∈ names, name.text ∈ path.classes) (value : α) :
    path.require names value = .ok value := by
  have none : names.find? (fun name => decide (name.text ∉ path.classes)) = none := by
    rw [List.find?_eq_none]
    intro name mem
    simp [loaded name mem]
  rw [require, none]

/-- The first class that is not loaded is the one reported. -/
theorem require_eq_error {path : ClassPath} {before after : List ClassName} {name : ClassName}
    (loaded : ∀ earlier ∈ before, earlier.text ∈ path.classes) (missing : name.text ∉ path.classes)
    (value : α) :
    path.require (before ++ name :: after) value = .error (.unknownClass name.text) := by
  have first : (before ++ name :: after).find? (fun name => decide (name.text ∉ path.classes)) =
      some name := by
    rw [List.find?_append, List.find?_eq_none.mpr]
    · simp [missing]
    · intro earlier mem
      simp [loaded earlier mem]
  rw [require, first]

/-- Something that is missing is reported. -/
theorem require_of_missing {path : ClassPath} {names : List ClassName}
    (missing : ∃ name ∈ names, name.text ∉ path.classes) (value : α) :
    ∃ name ∈ names, name.text ∉ path.classes ∧
      path.require names value = .error (.unknownClass name.text) := by
  obtain ⟨name, mem, absent⟩ := missing
  have found : (names.find? fun name => decide (name.text ∉ path.classes)).isSome := by
    rw [List.find?_isSome]
    exact ⟨name, mem, decide_eq_true absent⟩
  obtain ⟨first, isFirst⟩ := Option.isSome_iff_exists.mp found
  have lacking := List.find?_some isFirst
  exact ⟨first, List.mem_of_find?_eq_some isFirst, of_decide_eq_true lacking, by
    rw [require, isFirst]⟩

theorem loaded_of_require {path : ClassPath} {names : List ClassName} {value result : α}
    (h : path.require names value = .ok result) : ∀ name ∈ names, name.text ∈ path.classes := by
  intro name mem
  by_cases loaded : name.text ∈ path.classes
  · exact loaded
  · obtain ⟨first, -, -, failed⟩ := require_of_missing ⟨name, mem, loaded⟩ value
    rw [failed] at h
    cases h

variable (path : ClassPath)

theorem load_eq_require (name : ClassName) :
    path.load name.text 0 = path.require [name] (.external name) := by
  rw [load, require]
  by_cases loaded : name.text ∈ path.classes
  · simp [loaded, name.ofString_text]
  · simp [loaded]

theorem resolve_external {name : String} {external : ClassName} {term : Term}
    (same : qualify name = external.text) (alone : term.Alone name) :
    path.resolve term = path.require [external] (.external external) := by
  have other : BuiltIn.ofClassName? (qualify name) = none := same ▸ external.valid.2.2
  cases alone with
  | bare =>
    rw [resolve, resolveBare, other, same]
    exact path.load_eq_require external
  | applied =>
    rw [resolve, other, same]
    exact path.load_eq_require external

mutual

/-- What a term denotes under one path is what it stands for under any, if the classes in it can be
loaded there. -/
theorem Denotes.resolve_eq_require {other : ClassPath} {term : Term} {d : Descriptor}
    (h : other.Denotes term d) : path.resolve term = path.require d.externals d := by
  match h with
  | .scalar named alone => exact resolve_scalar named alone
  | .external same _ alone => exact path.resolve_external same alone
  | .reversed named base | .list named base | .set named base =>
    rw [resolve, BuiltIn.ofClassName?_qualify_iff.mpr named]
    simp only [resolveOne, resolveArgument]
    rw [base.resolve_eq_require]
    exact path.require_map ..
  | @Denotes.map _ name first second keys values named denoted denoted' =>
    have both : path.resolveTwo (qualify name) [.type first, .type second] =
        path.require (keys.externals ++ values.externals) (keys, values) := by
      rw [resolveTwo, resolveArgument, resolveArgument, denoted.resolve_eq_require,
        denoted'.resolve_eq_require]
      apply require_append
      exact path.require_bind_pure values.externals values fun values => (keys, values)
    rw [resolve, BuiltIn.ofClassName?_qualify_iff.mpr named]
    simp only [both]
    exact path.require_map ..
  | @Denotes.user _ name keyspace first second typeName rest fields named first' second' denoted =>
    have composite : path.resolveUser (qualify name) (first :: second :: rest) =
        path.require (fieldsExternals fields) ⟨keyspace, typeName, fields⟩ := by
      rw [resolveUser, userTypeNames_eq_ok_iff.mpr ⟨first', second'⟩,
        denoted.resolveFields_eq_require]
      exact path.require_bind_pure _ fields fun fields => UserType.mk keyspace typeName fields
    rw [resolve, BuiltIn.ofClassName?_qualify_iff.mpr named]
    simp only [composite]
    exact path.require_map ..

theorem DenoteFields.resolveFields_eq_require {other : ClassPath} {arguments : List Argument}
    {fields : List (Bytes × Descriptor)} (h : other.DenoteFields arguments fields) :
    path.resolveFields arguments = path.require (fieldsExternals fields) fields := by
  match h with
  | .nil => rfl
  | @DenoteFields.cons _ label bytes term type rest fields digits denoted others =>
    rw [resolveFields, denoted.resolve_eq_require, decodeHexName_eq_ok_iff.mpr digits,
      others.resolveFields_eq_require]
    apply require_append
    exact path.require_bind_pure _ fields fun rest => (bytes, type) :: rest

end

/-- The classes that a term needs to be resolved are loaded where it is. -/
theorem Denotes.externals_loaded {path : ClassPath} {term : Term} {d : Descriptor}
    (h : path.Denotes term d) : ∀ name ∈ d.externals, name.text ∈ path.classes := by
  have resolved := h.resolve_eq_require path
  rw [resolve_eq_ok_iff.mpr h] at resolved
  exact loaded_of_require resolved.symm

end ClassPath

end ColumnTypes
