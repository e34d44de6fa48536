import ColumnTypes.Registry.Basic
import Mathlib.Data.List.Basic
import Mathlib.Data.List.Induction

/-!
# What a registry records

A registry that was empty at first is a record of the requests it has answered. It finds the type
that was the last to be added under a text, unless something was removed under that text since
(`Registered`). The texts stand in the order in which their registrations began (`Began`): a type
that takes the place of another begins no registration, one that is added after a removal does.

`Records` says this of a registry and its log. One request keeps it (`Records.answer`), so it holds
after every log (`records_after`).
-/

namespace ColumnTypes

namespace Registry

theorem find?_replace_self {types : List UserType} {type : UserType}
    (taken : type.nameText ∈ types.map UserType.nameText) :
    (replace types type).find? (·.nameText = type.nameText) = some type := by
  induction types with
  | nil => cases taken
  | cons other rest ih =>
    simp only [replace, List.map_cons, List.find?_cons]
    by_cases same : other.nameText = type.nameText
    · simp [same]
    · have behind : type.nameText ∈ rest.map UserType.nameText := by
        simpa [Ne.symm same] using taken
      simp only [if_neg same, decide_eq_false same]
      exact ih behind

theorem find?_replace_of_ne {types : List UserType} {type : UserType} {name : String}
    (other : type.nameText ≠ name) :
    (replace types type).find? (·.nameText = name) = types.find? (·.nameText = name) := by
  induction types with
  | nil => rfl
  | cons first rest ih =>
    simp only [replace, List.map_cons, List.find?_cons]
    by_cases same : first.nameText = type.nameText
    · have passed : first.nameText ≠ name := fun found => other (same ▸ found)
      simp only [if_pos same, decide_eq_false other, decide_eq_false passed]
      exact ih
    · simp only [if_neg same]
      cases decide (first.nameText = name) with
      | true => rfl
      | false => exact ih

theorem mem_names_iff {registry : Registry} {name : String} :
    name ∈ registry.names ↔ ∃ type, registry.find? name = some type := by
  rw [← Option.isSome_iff_exists, find?, List.find?_isSome, names, List.mem_map]
  simp

theorem find?_eq_none_iff {registry : Registry} {name : String} :
    registry.find? name = none ↔ name ∉ registry.names := by
  rw [mem_names_iff, ← Option.isSome_iff_exists, Option.not_isSome_iff_eq_none]

/-- A new entry answers for its own name and leaves the others alone. -/
theorem find?_insert (registry : Registry) (type : UserType) (name : String) :
    (registry.insert type).find? name =
      if type.nameText = name then some type else registry.find? name := by
  by_cases same : type.nameText = name
  · subst same
    rw [if_pos rfl, insert]
    split
    · rename_i taken
      exact find?_replace_self taken
    · rename_i free
      have none : registry.types.find? (·.nameText = type.nameText) = none :=
        find?_eq_none_iff.mpr free
      simp [find?, List.find?_append, none]
  · rw [if_neg same, insert]
    split
    · exact find?_replace_of_ne same
    · simp [find?, List.find?_append, same]

theorem find?_erase (registry : Registry) (removed name : String) :
    (registry.erase removed).find? name =
      if removed = name then none else registry.find? name := by
  simp only [find?, erase, List.find?_filter]
  by_cases same : removed = name
  · subst same
    rw [if_pos rfl, List.find?_eq_none]
    simp
  · rw [if_neg same]
    congr 1
    funext type
    by_cases found : type.nameText = name
    · simp [found, Ne.symm same]
    · simp [found]

theorem names_insert_of_mem {registry : Registry} {type : UserType}
    (taken : type.nameText ∈ registry.names) : (registry.insert type).names = registry.names := by
  simp only [insert, names] at taken ⊢
  rw [dif_pos taken]
  exact nameText_replace registry.types type

theorem names_insert_of_notMem {registry : Registry} {type : UserType}
    (free : type.nameText ∉ registry.names) :
    (registry.insert type).names = registry.names ++ [type.nameText] := by
  simp only [insert, names] at free ⊢
  rw [dif_neg free]
  simp

theorem names_erase (registry : Registry) (removed : String) :
    (registry.erase removed).names = registry.names.filter (· ≠ removed) := by
  simp only [names, erase, List.filter_map]
  rfl

theorem erase_of_notMem {registry : Registry} {removed : String}
    (absent : removed ∉ registry.names) : registry.erase removed = registry := by
  have kept : registry.types.filter (·.nameText ≠ removed) = registry.types := by
    rw [List.filter_eq_self]
    intro type mem
    rw [decide_eq_true_eq]
    rintro rfl
    exact absent (List.mem_map_of_mem mem)
  simp only [erase, kept]

/-- The request puts a type under the text, or removes the one that is there. -/
def Request.Changes : Request → String → Prop
  | .add type, name => type.nameText = name
  | .remove identifier, name => identifier.text = name
  | .get _, _ | .userDefined _, _ => False

def Request.Removes : Request → String → Prop
  | .remove identifier, name => identifier.text = name
  | .add _, _ | .get _, _ | .userDefined _, _ => False

/-- The type was the last to be added under the text, and none was removed there since. -/
def Registered (log : List Request) (name : String) (type : UserType) : Prop :=
  ∃ before rest, log = before ++ .add type :: rest ∧ type.nameText = name ∧
    ∀ later ∈ rest, ¬ later.Changes name

/-- So many requests came before the one that added a type under the text, where there was none, and
none was removed there since. -/
def Began (log : List Request) (name : String) (moment : Nat) : Prop :=
  ∃ before type rest, log = before ++ .add type :: rest ∧ before.length = moment ∧
    type.nameText = name ∧ (∀ other, ¬ Registered before name other) ∧
    ∀ later ∈ rest, ¬ later.Removes name

variable {log : List Request} {request : Request} {name : String} {type : UserType}
  {moment : Nat}

theorem Request.Removes.changes (h : request.Removes name) : request.Changes name := by
  cases request with
  | remove identifier => exact h
  | _ => cases h

theorem snoc_eq_append_cons {α : Type} {xs before rest : List α} {x y : α}
    (h : xs ++ [x] = before ++ y :: rest) :
    (rest = [] ∧ xs = before ∧ x = y) ∨ ∃ others, rest = others ++ [x] ∧
      xs = before ++ y :: others := by
  rcases List.eq_nil_or_concat' rest with rfl | ⟨others, last, rfl⟩
  · obtain ⟨init, final⟩ := List.append_inj' h rfl
    cases final
    exact Or.inl ⟨rfl, init, rfl⟩
  · rw [← List.cons_append, ← List.append_assoc] at h
    obtain ⟨init, final⟩ := List.append_inj' h rfl
    cases final
    exact Or.inr ⟨others, rfl, init⟩

/-- One more request decides about its own name and about no other. -/
theorem registered_snoc :
    Registered (log ++ [request]) name type ↔
      (request = .add type ∧ type.nameText = name) ∨
      (¬ request.Changes name ∧ Registered log name type) := by
  constructor
  · rintro ⟨before, rest, split, named, quiet⟩
    rcases snoc_eq_append_cons split with ⟨-, -, added⟩ | ⟨others, rfl, init⟩
    · exact Or.inl ⟨added, named⟩
    · obtain ⟨quiet, last⟩ := List.forall_mem_append.mp quiet
      exact Or.inr ⟨last request (List.mem_singleton_self _), before, others, init, named, quiet⟩
  · rintro (⟨rfl, named⟩ | ⟨last, before, rest, rfl, named, quiet⟩)
    · exact ⟨log, [], rfl, named, by simp⟩
    · refine ⟨before, rest ++ [request], by simp, named, List.forall_mem_append.mpr ⟨quiet, ?_⟩⟩
      simpa using last

/-- A time under a name begins when a type is added and none is registered yet. -/
theorem began_snoc :
    Began (log ++ [request]) name moment ↔
      ((∃ type, request = .add type ∧ type.nameText = name) ∧ moment = log.length ∧
        ∀ other, ¬ Registered log name other) ∨
      (¬ request.Removes name ∧ Began log name moment) := by
  constructor
  · rintro ⟨before, type, rest, split, count, named, free, kept⟩
    rcases snoc_eq_append_cons split with ⟨-, rfl, added⟩ | ⟨others, rfl, init⟩
    · exact Or.inl ⟨⟨type, added, named⟩, count.symm, free⟩
    · obtain ⟨kept, last⟩ := List.forall_mem_append.mp kept
      exact Or.inr ⟨last request (List.mem_singleton_self _), before, type, others, init, count,
        named, free, kept⟩
  · rintro (⟨⟨type, rfl, named⟩, rfl, free⟩ | ⟨last, began⟩)
    · exact ⟨log, type, [], rfl, rfl, named, free, by simp⟩
    · obtain ⟨before, type, rest, rfl, count, named, free, kept⟩ := began
      refine ⟨before, type, rest ++ [request], by simp, count, named, free,
        List.forall_mem_append.mpr ⟨kept, ?_⟩⟩
      simpa using last

theorem not_registered_nil : ¬ Registered [] name type := by
  rintro ⟨before, rest, split, -⟩
  simp at split

theorem not_began_nil : ¬ Began [] name moment := by
  rintro ⟨before, type, rest, split, -⟩
  simp at split

theorem Began.lt_length (h : Began log name moment) : moment < log.length := by
  obtain ⟨before, type, rest, rfl, rfl, -⟩ := h
  simp

theorem Began.registered (h : Began log name moment) : ∃ type, Registered log name type := by
  induction log using List.reverseRec with
  | nil => exact absurd h not_began_nil
  | append_singleton log last ih =>
    rcases began_snoc.mp h with ⟨⟨type, added, named⟩, -, -⟩ | ⟨kept, earlier⟩
    · exact ⟨type, registered_snoc.mpr (Or.inl ⟨added, named⟩)⟩
    · obtain ⟨type, found⟩ := ih earlier
      by_cases changed : last.Changes name
      · -- A change that removes nothing puts a type in the place of the one before.
        cases last with
        | add type => exact ⟨type, registered_snoc.mpr (Or.inl ⟨rfl, changed⟩)⟩
        | remove identifier => exact absurd changed kept
        | _ => cases changed
      · exact ⟨type, registered_snoc.mpr (Or.inr ⟨changed, found⟩)⟩

/-- Whatever is registered has been so since some moment. -/
theorem Registered.began (h : Registered log name type) : ∃ moment, Began log name moment := by
  induction log using List.reverseRec generalizing type with
  | nil => exact absurd h not_registered_nil
  | append_singleton log last ih =>
    rcases registered_snoc.mp h with ⟨rfl, named⟩ | ⟨quiet, earlier⟩
    · by_cases taken : ∃ other, Registered log name other
      · obtain ⟨other, found⟩ := taken
        obtain ⟨moment, began⟩ := ih found
        exact ⟨moment, began_snoc.mpr (Or.inr ⟨id, began⟩)⟩
      · exact ⟨log.length, began_snoc.mpr (Or.inl ⟨⟨type, rfl, named⟩, rfl, not_exists.mp taken⟩)⟩
    · obtain ⟨moment, began⟩ := ih earlier
      exact ⟨moment, began_snoc.mpr (Or.inr ⟨mt Request.Removes.changes quiet, began⟩)⟩

theorem Began.unique {other : Nat} (h : Began log name moment) (h' : Began log name other) :
    other = moment := by
  induction log using List.reverseRec with
  | nil => exact absurd h not_began_nil
  | append_singleton log last ih =>
    rcases began_snoc.mp h with ⟨-, rfl, free⟩ | ⟨-, earlier⟩ <;>
      rcases began_snoc.mp h' with ⟨-, rfl, free'⟩ | ⟨-, earlier'⟩
    · rfl
    · obtain ⟨type, found⟩ := earlier'.registered
      exact absurd found (free type)
    · obtain ⟨type, found⟩ := earlier.registered
      exact absurd found (free' type)
    · exact ih earlier earlier'

def BeganBefore (log : List Request) (first second : String) : Prop :=
  ∃ i j, Began log first i ∧ Began log second j ∧ i < j

/-- The registry holds what the log leaves registered, in the order of the registrations. -/
structure Records (log : List Request) (registry : Registry) : Prop where
  finds : ∀ name type, registry.find? name = some type ↔ Registered log name type
  ordered : registry.names.Pairwise (BeganBefore log)

variable {registry : Registry}

theorem BeganBefore.snoc {first second : String} (h : BeganBefore log first second)
    (kept : ¬ request.Removes first) (kept' : ¬ request.Removes second) :
    BeganBefore (log ++ [request]) first second := by
  obtain ⟨i, j, began, began', before⟩ := h
  have stays := began_snoc.mpr (Or.inr ⟨kept, began⟩)
  have stays' := began_snoc.mpr (Or.inr ⟨kept', began'⟩)
  exact ⟨i, j, stays, stays', before⟩

theorem records_nil : Records [] empty where
  finds name type := by
    constructor
    · rintro ⟨⟩
    · exact fun registered => absurd registered not_registered_nil
  ordered := .nil

theorem Records.mem_names_iff (h : Records log registry) :
    name ∈ registry.names ↔ ∃ moment, Began log name moment := by
  rw [Registry.mem_names_iff]
  constructor
  · rintro ⟨type, found⟩
    exact ((h.finds name type).mp found).began
  · rintro ⟨moment, began⟩
    obtain ⟨type, found⟩ := began.registered
    exact ⟨type, (h.finds name type).mpr found⟩

/-- A type that takes the place of another keeps its moment, and so its place among the names. -/
theorem Records.insert (h : Records log registry) (type : UserType) :
    Records (log ++ [.add type]) (registry.insert type) := by
  have kept : registry.names.Pairwise (BeganBefore (log ++ [.add type])) :=
    h.ordered.imp fun before => before.snoc id id
  constructor
  · intro name found
    rw [find?_insert, registered_snoc, ← h.finds]
    by_cases same : type.nameText = name
    · rw [if_pos same]
      constructor
      · rintro ⟨⟩
        exact Or.inl ⟨rfl, same⟩
      · rintro (⟨⟨⟩, -⟩ | ⟨quiet, -⟩)
        · rfl
        · exact absurd same quiet
    · rw [if_neg same]
      constructor
      · exact fun found => Or.inr ⟨same, found⟩
      · rintro (⟨⟨⟩, named⟩ | ⟨-, found⟩)
        · exact absurd named same
        · exact found
  · by_cases taken : type.nameText ∈ registry.names
    · rw [names_insert_of_mem taken]
      exact kept
    · rw [names_insert_of_notMem taken]
      refine List.pairwise_append.mpr ⟨kept, List.pairwise_singleton .., ?_⟩
      intro first mem last same
      obtain ⟨i, began⟩ := h.mem_names_iff.mp mem
      have free : ∀ other, ¬ Registered log type.nameText other := fun other registered =>
        taken (h.mem_names_iff.mpr registered.began)
      rw [List.mem_singleton.mp same]
      exact ⟨i, log.length, began_snoc.mpr (Or.inr ⟨id, began⟩),
        began_snoc.mpr (Or.inl ⟨⟨type, rfl, rfl⟩, rfl, free⟩), began.lt_length⟩

theorem Records.erase (h : Records log registry) (identifier : Identifier) :
    Records (log ++ [.remove identifier]) (registry.erase identifier.text) := by
  constructor
  · intro name found
    rw [find?_erase, registered_snoc, ← h.finds]
    by_cases same : identifier.text = name
    · rw [if_pos same]
      constructor
      · rintro ⟨⟩
      · rintro (⟨⟨⟩, -⟩ | ⟨quiet, -⟩)
        exact absurd same quiet
    · rw [if_neg same]
      constructor
      · exact fun found => Or.inr ⟨same, found⟩
      · rintro (⟨⟨⟩, -⟩ | ⟨-, found⟩)
        exact found
  · rw [names_erase]
    refine (h.ordered.filter _).imp_of_mem ?_
    intro first second mem mem' before
    have other : first ≠ identifier.text := of_decide_eq_true (List.mem_filter.mp mem).2
    have other' : second ≠ identifier.text := of_decide_eq_true (List.mem_filter.mp mem').2
    exact before.snoc other.symm other'.symm

/-- A request that changes nothing leaves the record as it is. -/
theorem Records.read (h : Records log registry) (unchanged : ∀ name, ¬ request.Changes name) :
    Records (log ++ [request]) registry := by
  constructor
  · intro name found
    rw [h.finds, registered_snoc]
    constructor
    · exact fun registered => Or.inr ⟨unchanged name, registered⟩
    · rintro (⟨rfl, named⟩ | ⟨-, registered⟩)
      · exact absurd named (unchanged name)
      · exact registered
  · exact h.ordered.imp fun before =>
      before.snoc (mt Request.Removes.changes (unchanged _))
        (mt Request.Removes.changes (unchanged _))

/-- Answering a request keeps the record. -/
theorem Records.answer (h : Records log registry) (request : Request) :
    Records (log ++ [request]) (registry.answer request).2 := by
  cases request with
  | add type => exact h.insert type
  | remove identifier => exact h.erase identifier
  | get identifier => exact h.read fun _ => id
  | userDefined identifier => exact h.read fun _ => id

theorem run_append (registry : Registry) (first second : List Request) :
    registry.run (first ++ second) =
      ((registry.run first).1 ++ ((registry.run first).2.run second).1,
        ((registry.run first).2.run second).2) := by
  induction first generalizing registry with
  | nil => rfl
  | cons request rest ih => simp only [List.cons_append, run, ih]

theorem length_run (registry : Registry) (log : List Request) :
    (registry.run log).1.length = log.length := by
  induction log generalizing registry with
  | nil => rfl
  | cons request rest ih => simp only [run, List.length_cons, ih]

/-- The registry, empty at first, that has answered the requests. -/
def after (log : List Request) : Registry :=
  (empty.run log).2

theorem after_snoc (log : List Request) (request : Request) :
    after (log ++ [request]) = ((after log).answer request).2 := by
  rw [after, run_append]
  rfl

/-- A registry is a record of the requests it has answered. -/
theorem records_after (log : List Request) : Records log (after log) := by
  induction log using List.reverseRec with
  | nil => exact records_nil
  | append_singleton log last ih =>
    rw [after_snoc]
    exact ih.answer last

/-- The reply to a request where a lookup finds what it does. -/
def Request.replyFrom (lookup : Identifier → Option Descriptor) : Request → Reply
  | .add type => .descriptor (lookup (.ofBytes type.name))
  | .remove name | .get name => .descriptor (lookup name)
  | .userDefined name => .userDefined (UserDefined.lookup lookup name)

/-- A reply depends on what is looked up and on nothing else of the registry. -/
theorem reply_eq (registry : Registry) (request : Request) :
    (registry.answer request).1 = request.replyFrom registry.lookup := by
  cases request <;> rfl

theorem reply_at (before rest : List Request) (request : Request) :
    (empty.run (before ++ request :: rest)).1[before.length]? =
      some (request.replyFrom (after before).lookup) := by
  have passed : (empty.run before).1.length = before.length := length_run empty before
  rw [run_append, List.getElem?_append_right (Nat.le_of_eq passed), passed, Nat.sub_self,
    ← reply_eq]
  rfl

theorem lookup_eq_none_iff {identifier : Identifier} :
    registry.lookup identifier = none ↔ identifier.text ∉ registry.names := by
  rw [lookup, Option.map_eq_none_iff, find?_eq_none_iff]

/-- What a registry shows at any point is determined by the requests before it. A lookup finds the
type that was the last to be added under the text and not removed since. A type that is added or
removed is answered by what a lookup of its text would have found, and where nothing is found to be
removed nothing changes. The texts are those under which something is found, each once, in the order
in which their registrations began. -/
theorem run_refines_log (log : List Request) :
    (∀ name found, (after log).lookup name = some found ↔
      ∃ type, found = .user type ∧ Registered log name.text type) ∧
    (∀ before request rest, log = before ++ request :: rest →
      (empty.run log).1[before.length]? = some (request.replyFrom (after before).lookup)) ∧
    (∀ name, (after log).lookup name = none → after (log ++ [.remove name]) = after log) ∧
    (after log).names.Nodup ∧
    (∀ text, text ∈ (after log).names ↔ ((after log).lookup (.quoted text)).isSome) ∧
    (∀ text ∈ (after log).names,
      ∃ moment, Began log text moment ∧ ∀ other, Began log text other → other = moment) ∧
    (after log).names.Pairwise (BeganBefore log) ∧
    (∀ type, (after (log ++ [.add type])).names =
      if type.nameText ∈ (after log).names then (after log).names
      else (after log).names ++ [type.nameText]) ∧
    (∀ name, (after (log ++ [.remove name])).names = (after log).names.filter (· ≠ name.text)) ∧
    (after log).size = (after log).names.length ∧
    ((after log).isEmpty ↔ (after log).size = 0) := by
  have records := records_after log
  refine ⟨?_, ?_, ?_, (after log).distinct, ?_, ?_, records.ordered, ?_, ?_, ?_, ?_⟩
  · intro name found
    simp only [lookup, Option.map_eq_some_iff, records.finds]
    constructor
    · rintro ⟨type, registered, rfl⟩
      exact ⟨type, rfl, registered⟩
    · rintro ⟨type, rfl, registered⟩
      exact ⟨type, registered, rfl⟩
  · rintro before request rest rfl
    exact reply_at before rest request
  · intro name absent
    rw [after_snoc]
    exact erase_of_notMem (lookup_eq_none_iff.mp absent)
  · intro text
    rw [← Option.isNone_eq_false_iff, Bool.eq_false_iff, ne_eq, Option.isNone_iff_eq_none,
      lookup_eq_none_iff, not_not]
    rfl
  · intro text mem
    obtain ⟨moment, began⟩ := records.mem_names_iff.mp mem
    exact ⟨moment, began, fun other => began.unique⟩
  · intro type
    rw [after_snoc]
    split
    · rename_i taken
      exact names_insert_of_mem taken
    · rename_i free
      exact names_insert_of_notMem free
  · intro name
    rw [after_snoc]
    exact names_erase _ _
  · simp [size, names]
  · simp [isEmpty, size]

-- A type that is added again after its removal goes behind the others.
example : (after [.add ⟨"ks", [0x61], []⟩, .add ⟨"ks", [0x62], []⟩, .remove (.quoted "a"),
    .add ⟨"ks", [0x61], []⟩]).names = ["b", "a"] := by
  decide +kernel

end Registry

end ColumnTypes
