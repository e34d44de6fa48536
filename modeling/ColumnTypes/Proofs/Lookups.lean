import ColumnTypes.Proofs.RegistryLog
import ColumnTypes.Proofs.TypeEquality
import Mathlib.Data.List.Nodup

/-!
# Lookups and the names they find

Three texts are made from the bytes of a stored name: the key of its registration, the identifier
that is read from them, and the name that the view goes by. They agree, so a type is found by any of
them.

A registry keeps no keys, it computes them. Where keys are kept beside the descriptors, as in a
`KeyedTable`, an entry could stand under any key and hold any descriptor, and it is the requests
that rule this out: one that was empty at first is after any requests the table of the registry that
has answered them, and it has given the same replies (`run_empty`).
-/

namespace ColumnTypes

namespace Registry

/-- Descriptors under keys, in the order in which the keys were put. -/
structure KeyedTable where
  entries : List (String × Descriptor)

namespace KeyedTable

def empty : KeyedTable := ⟨[]⟩

def find? (table : KeyedTable) (key : String) : Option Descriptor :=
  (table.entries.find? (·.1 = key)).map (·.2)

def lookup (table : KeyedTable) (name : Identifier) : Option Descriptor :=
  table.find? name.text

/-- The table with this descriptor under the key. A key that is there keeps its place. -/
def put (table : KeyedTable) (key : String) (d : Descriptor) : KeyedTable :=
  if key ∈ table.entries.map (·.1) then
    ⟨table.entries.map fun entry => if entry.1 = key then (key, d) else entry⟩
  else ⟨table.entries ++ [(key, d)]⟩

def remove (table : KeyedTable) (key : String) : KeyedTable :=
  ⟨table.entries.filter (·.1 ≠ key)⟩

def change (table : KeyedTable) : Request → KeyedTable
  | .add type => table.put type.nameText (.user type)
  | .remove name => table.remove name.text
  | .get _ | .userDefined _ => table

def run (table : KeyedTable) : List Request → List Reply × KeyedTable
  | [] => ([], table)
  | request :: rest =>
    let (replies, last) := (table.change request).run rest
    (request.replyFrom table.lookup :: replies, last)

end KeyedTable

/-- The types of a registry under the texts of their names. -/
def keyed (registry : Registry) : KeyedTable :=
  ⟨registry.types.map fun type => (type.nameText, .user type)⟩

theorem lookup_keyed (registry : Registry) : registry.keyed.lookup = registry.lookup := by
  funext name
  simp only [KeyedTable.lookup, KeyedTable.find?, keyed, lookup, find?, List.find?_map,
    Option.map_map]
  rfl

theorem keyed_insert (registry : Registry) (type : UserType) :
    (registry.insert type).keyed = registry.keyed.put type.nameText (.user type) := by
  have keys : registry.keyed.entries.map (·.1) = registry.types.map UserType.nameText := by
    simp [keyed, Function.comp_def]
  rw [KeyedTable.put, keys, insert]
  split
  · simp only [keyed, replace, List.map_map, KeyedTable.mk.injEq]
    apply List.map_congr_left
    intro other _
    by_cases same : other.nameText = type.nameText <;> simp [same]
  · simp [keyed]

theorem keyed_erase (registry : Registry) (name : String) :
    (registry.erase name).keyed = registry.keyed.remove name := by
  simp only [keyed, erase, KeyedTable.remove, List.filter_map]
  rfl

/-- A request leaves of the table what it leaves of the registry. -/
theorem keyed_answer (registry : Registry) (request : Request) :
    (registry.answer request).2.keyed = registry.keyed.change request := by
  cases request with
  | add type => exact keyed_insert registry type
  | remove name => exact keyed_erase registry name.text
  | get _ | userDefined _ => rfl

/-- A table of keys and descriptors answers every log as the registry does. -/
theorem run_keyed (registry : Registry) (log : List Request) :
    registry.keyed.run log = ((registry.run log).1, (registry.run log).2.keyed) := by
  induction log generalizing registry with
  | nil => rfl
  | cons request rest ih =>
    simp only [KeyedTable.run, run, ← keyed_answer, ih, lookup_keyed, reply_eq]

/-- A table that was empty at first is that of the registry, and replies alike. -/
theorem run_empty (log : List Request) :
    KeyedTable.empty.run log = ((empty.run log).1, (after log).keyed) :=
  run_keyed empty log

variable {registry : Registry} {name : Identifier} {type : UserType}

theorem find?_of_mem (mem : type ∈ registry.types) :
    registry.find? type.nameText = some type := by
  obtain ⟨found, h⟩ := mem_names_iff.mp (List.mem_map_of_mem mem)
  have named : found.nameText = type.nameText := by simpa using List.find?_some h
  have same := List.inj_on_of_nodup_map registry.distinct (List.mem_of_find?_eq_some h) mem named
  rw [h, same]

/-- A type is found under a name whatever its identifier looked like, and keeps the identifier that
was asked for. -/
theorem userDefined_of_find? (found : registry.find? name.text = some type) :
    UserDefined.lookup registry.lookup name = .ok ⟨name, type⟩ := by
  rw [UserDefined.lookup, lookup, found]
  rfl

theorem userDefined_of_notMem (absent : name.text ∉ registry.names) :
    UserDefined.lookup registry.lookup name = .error (.unknown name) := by
  rw [UserDefined.lookup, lookup_eq_none_iff.mpr absent]

/-- Only a name that is not there is not found: what is there is a user type. -/
theorem userDefined_eq_error_iff {fault : UserDefined.LookupFault} :
    UserDefined.lookup registry.lookup name = .error fault ↔
      fault = .unknown name ∧ name.text ∉ registry.names := by
  constructor
  · intro failed
    by_cases mem : name.text ∈ registry.names
    · obtain ⟨type, found⟩ := mem_names_iff.mp mem
      rw [userDefined_of_find? found] at failed
      cases failed
    · rw [userDefined_of_notMem mem] at failed
      exact ⟨(Except.error.inj failed).symm, mem⟩
  · rintro ⟨rfl, absent⟩
    exact userDefined_of_notMem absent

/-- A lookup fails, with the code for an unknown type, exactly if nothing is registered under the
text of the name. Otherwise it yields, under that name, the composite that is registered. Entries
are user types whose views go by the key, and each is found under its key, written in quotes, and
under its stored name. -/
theorem lookup_agrees_with_entries (log : List Request) :
    (∀ name : Identifier,
      ((∃ fault, UserDefined.lookup (after log).lookup name = .error fault ∧
        fault.toError.code = .unknownUserType) ↔ name.text ∉ (after log).names) ∧
      (∀ fault, UserDefined.lookup (after log).lookup name = .error fault →
        fault.toError.code ≠ .notUserType) ∧
      (name.text ∈ (after log).names → ∃ type,
        UserDefined.lookup (after log).lookup name = .ok type ∧ type.name = name ∧
          (after log).lookup name = some type.descriptor ∧
          type.descriptor = .user type.userType)) ∧
    KeyedTable.empty.run log = ((empty.run log).1, (after log).keyed) ∧
    (∀ key d, (key, d) ∈ (KeyedTable.empty.run log).2.entries →
      ∃ type view, d = .user type ∧ ColumnType.ofDescriptor d = .userDefined view ∧
        (ColumnType.ofDescriptor d).display = key ∧
        ∀ name : Identifier, name = .quoted key ∨ name = .ofBytes type.name → ∃ found,
          UserDefined.lookup (after log).lookup name = .ok found ∧
            (ColumnType.userDefined found).Equiv (.ofDescriptor d)) := by
  refine ⟨fun name => ⟨?_, ?_, ?_⟩, run_empty log, ?_⟩
  · constructor
    · rintro ⟨fault, failed, -⟩
      exact (userDefined_eq_error_iff.mp failed).2
    · intro absent
      exact ⟨.unknown name, userDefined_of_notMem absent, rfl⟩
  · intro fault failed
    obtain ⟨rfl, -⟩ := userDefined_eq_error_iff.mp failed
    have apart : ErrorCode.unknownUserType ≠ ErrorCode.notUserType := by decide
    exact apart
  · intro mem
    obtain ⟨type, found⟩ := mem_names_iff.mp mem
    exact ⟨⟨name, type⟩, userDefined_of_find? found, rfl,
      congrArg (Option.map Descriptor.user) found, rfl⟩
  · intro key d mem
    rw [run_empty] at mem
    obtain ⟨type, registered, filed⟩ := List.mem_map.mp mem
    cases filed
    refine ⟨type, _, rfl, rfl, rfl, ?_⟩
    -- The text of either name is the key itself.
    rintro name (rfl | rfl)
    · exact ⟨_, userDefined_of_find? (find?_of_mem registered), rfl⟩
    · exact ⟨_, userDefined_of_find? (find?_of_mem registered), rfl⟩

/-- A malformed name has an entry, which is found under the text that stands for it. -/
theorem lookup_agrees_with_entries_malformed :
    ("\uFFFD", .user ⟨"ks", [0xFF], []⟩) ∈
      (KeyedTable.empty.run [.add ⟨"ks", [0xFF], []⟩]).2.entries ∧
    ∃ found, UserDefined.lookup (after [.add ⟨"ks", [0xFF], []⟩]).lookup (.quoted "\uFFFD") =
        .ok found ∧
      (ColumnType.userDefined found).Equiv (.ofDescriptor (.user ⟨"ks", [0xFF], []⟩)) := by
  have filed : ("\uFFFD", .user ⟨"ks", [0xFF], []⟩) ∈
      (KeyedTable.empty.run [.add ⟨"ks", [0xFF], []⟩]).2.entries := by
    decide +kernel
  obtain ⟨type, view, -, -, -, found⟩ := (lookup_agrees_with_entries _).2.2 _ _ filed
  exact ⟨filed, found _ (Or.inl rfl)⟩

end Registry

end ColumnTypes
