import ColumnTypes.Proofs.RegistryLog
import ColumnTypes.Registry.Handles

/-!
# Clients that share a registry

Several clients use one registry through handles of their own, and their requests are answered one
at a time in any order. If no two of them use the same text, none can tell that the others are
there: each of its requests is answered as if it were alone.

What a client can tell is what is left when the types under the texts of the others are hidden
(`Registry.hide`). A request about a hidden text leaves that as it is, and any other request is
answered from that alone and changes it in the same way (`answer_hide`). So a run of the whole
schedule and a run of the client's own part of it keep in step (`run_schedule`).
-/

namespace ColumnTypes

namespace Registry

def Request.key : Request → String
  | .add type => type.nameText
  | .remove name | .get name | .userDefined name => name.text

/-- The registry without the types under these texts. -/
def hide (registry : Registry) (hidden : List String) : Registry :=
  ⟨registry.types.filter (·.nameText ∉ hidden),
    registry.distinct.sublist (List.filter_sublist.map _)⟩

variable {registry : Registry} {hidden : List String} {type : UserType} {name : String}
  {request : Request}

theorem eq_of_types {first second : Registry} (same : first.types = second.types) :
    first = second := by
  cases first
  cases second
  cases same
  rfl

theorem names_hide (registry : Registry) (hidden : List String) :
    (registry.hide hidden).names = registry.names.filter (· ∉ hidden) := by
  simp only [names, hide, List.filter_map]
  rfl

theorem mem_names_hide :
    name ∈ (registry.hide hidden).names ↔ name ∈ registry.names ∧ name ∉ hidden := by
  simp [names_hide]

theorem find?_hide (shown : name ∉ hidden) :
    (registry.hide hidden).find? name = registry.find? name := by
  simp only [find?, hide, List.find?_filter]
  congr 1
  funext type
  by_cases found : type.nameText = name
  · simp [found, shown]
  · simp [found]

/-- Hidden names cannot be told from missing ones, and the others answer as before. -/
theorem lookup_hide {identifier : Identifier} (shown : identifier.text ∉ hidden) :
    (registry.hide hidden).lookup identifier = registry.lookup identifier := by
  simp only [lookup, find?_hide shown]

theorem filter_replace (types : List UserType) (type : UserType) (hidden : List String) :
    (replace types type).filter (·.nameText ∉ hidden) =
      replace (types.filter (·.nameText ∉ hidden)) type := by
  simp only [replace, List.filter_map]
  congr 1
  apply List.filter_congr
  intro other _
  by_cases same : other.nameText = type.nameText <;> simp [same]

theorem replace_of_notMem {types : List UserType}
    (free : type.nameText ∉ types.map UserType.nameText) : replace types type = types := by
  have kept : ∀ other ∈ types,
      (if other.nameText = type.nameText then type else other) = other := by
    intro other mem
    refine if_neg fun same => ?_
    exact free (same ▸ List.mem_map_of_mem mem)
  exact (List.map_congr_left kept).trans (List.map_id' types)

theorem hide_insert_of_mem (concealed : type.nameText ∈ hidden) :
    (registry.insert type).hide hidden = registry.hide hidden := by
  apply eq_of_types
  simp only [insert]
  split
  · have free : type.nameText ∉ (registry.hide hidden).names :=
      fun mem => (mem_names_hide.mp mem).2 concealed
    exact (filter_replace ..).trans (replace_of_notMem free)
  · simp [hide, concealed]

/-- What a client adds is added to what the client can tell. -/
theorem hide_insert_of_notMem (shown : type.nameText ∉ hidden) :
    (registry.insert type).hide hidden = (registry.hide hidden).insert type := by
  apply eq_of_types
  by_cases taken : type.nameText ∈ registry.names
  · have taken' : type.nameText ∈ (registry.hide hidden).names :=
      mem_names_hide.mpr ⟨taken, shown⟩
    simp only [names] at taken taken'
    simp only [insert, dif_pos taken, dif_pos taken']
    exact filter_replace ..
  · have free' : type.nameText ∉ (registry.hide hidden).names :=
      fun mem => taken (mem_names_hide.mp mem).1
    simp only [names] at taken free'
    simp only [insert, dif_neg taken, dif_neg free']
    simp [hide, shown]

theorem hide_erase (registry : Registry) (hidden : List String) (name : String) :
    (registry.erase name).hide hidden = (registry.hide hidden).erase name := by
  apply eq_of_types
  exact List.filter_comm ..

theorem hide_erase_of_mem (concealed : name ∈ hidden) :
    (registry.erase name).hide hidden = registry.hide hidden := by
  have absent : name ∉ (registry.hide hidden).names :=
    fun mem => (mem_names_hide.mp mem).2 concealed
  exact (hide_erase registry hidden name).trans (erase_of_notMem absent)

/-- A request about a hidden text leaves alone what is not hidden. -/
theorem hide_answer_of_mem (registry : Registry) (concealed : request.key ∈ hidden) :
    (registry.answer request).2.hide hidden = registry.hide hidden := by
  cases request with
  | add type => exact hide_insert_of_mem concealed
  | remove identifier => exact hide_erase_of_mem concealed
  | get _ => rfl
  | userDefined _ => rfl

/-- A reply depends on what a lookup finds under the text of the request. -/
theorem replyFrom_congr {first second : Identifier → Option Descriptor}
    (same : first ⟨request.key⟩ = second ⟨request.key⟩) :
    request.replyFrom first = request.replyFrom second := by
  cases request with
  | add type => exact congrArg Reply.descriptor same
  | remove identifier => exact congrArg Reply.descriptor same
  | get identifier => exact congrArg Reply.descriptor same
  | userDefined identifier =>
    have found : first identifier = second identifier := same
    simp only [Request.replyFrom, UserDefined.lookup, found]

/-- A request about another text is answered alike where the hidden types are missing, and changes
what is there in the same way. -/
theorem answer_hide (registry : Registry) (shown : request.key ∉ hidden) :
    (registry.hide hidden).answer request =
      ((registry.answer request).1, (registry.answer request).2.hide hidden) := by
  have replies : ((registry.hide hidden).answer request).1 = (registry.answer request).1 := by
    rw [reply_eq, reply_eq]
    exact replyFrom_congr (lookup_hide shown)
  have changes : ((registry.hide hidden).answer request).2 =
      (registry.answer request).2.hide hidden := by
    cases request with
    | add type => exact (hide_insert_of_notMem shown).symm
    | remove identifier => exact (hide_erase registry hidden identifier.text).symm
    | get _ => rfl
    | userDefined _ => rfl
  exact Prod.ext replies changes

/-- Requests for names that are shown are answered without looking at the hidden ones. -/
theorem run_hide (registry : Registry) {log : List Request}
    (shown : ∀ request ∈ log, request.key ∉ hidden) :
    (registry.hide hidden).run log = ((registry.run log).1, (registry.run log).2.hide hidden) := by
  induction log generalizing registry with
  | nil => rfl
  | cons request rest ih =>
    obtain ⟨first, others⟩ := List.forall_mem_cons.mp shown
    simp only [run, answer_hide registry first, ih _ others]

end Registry

/-- A request that a client makes through a handle. -/
structure Issue (ι : Type) where
  client : ι
  handle : String
  request : Registry.Request

namespace Issue

variable {ι : Type} [DecidableEq ι]

def call (issue : Issue ι) : String × Registry.Request :=
  (issue.handle, issue.request)

/-- What the client issues, in its own order. -/
def issuedBy (client : ι) (schedule : List (Issue ι)) : List (Issue ι) :=
  schedule.filter (·.client = client)

def keysOfOthers (client : ι) (schedule : List (Issue ι)) : List String :=
  (schedule.filter (·.client ≠ client)).map (·.request.key)

def repliesTo (client : ι) (schedule : List (Issue ι)) (replies : List Registry.Reply) :
    List Registry.Reply :=
  ((schedule.zip replies).filter (·.1.client = client)).map (·.2)

/-- While a schedule is answered, what a client can tell of the registry goes through a run of the
client's own requests. -/
theorem run_schedule (registry : Registry) {hidden : List String} {client : ι}
    {schedule : List (Issue ι)}
    (own : ∀ issue ∈ schedule, issue.client = client → issue.request.key ∉ hidden)
    (others : ∀ issue ∈ schedule, issue.client ≠ client → issue.request.key ∈ hidden) :
    (registry.hide hidden).run ((issuedBy client schedule).map (·.request)) =
      (repliesTo client schedule (registry.run (schedule.map (·.request))).1,
        (registry.run (schedule.map (·.request))).2.hide hidden) := by
  induction schedule generalizing registry with
  | nil => rfl
  | cons issue rest ih =>
    obtain ⟨ownFirst, ownRest⟩ := List.forall_mem_cons.mp own
    obtain ⟨otherFirst, otherRest⟩ := List.forall_mem_cons.mp others
    have tail := ih (registry.answer issue.request).2 ownRest otherRest
    by_cases mine : issue.client = client
    · have answered := registry.answer_hide (ownFirst mine)
      simp only [issuedBy] at tail
      simp [issuedBy, repliesTo, Registry.run, mine, answered, tail]
    · have unchanged := registry.hide_answer_of_mem (otherFirst mine)
      simp only [unchanged] at tail
      simp only [issuedBy, repliesTo] at tail
      simp [issuedBy, repliesTo, Registry.run, mine, tail]

theorem key_notMem_keysOfOthers {client : ι} {schedule : List (Issue ι)}
    (disjoint : ∀ first ∈ schedule, ∀ second ∈ schedule, first.client ≠ second.client →
      first.request.key ≠ second.request.key)
    {issue : Issue ι} (mem : issue ∈ schedule) (mine : issue.client = client) :
    issue.request.key ∉ keysOfOthers client schedule := by
  intro taken
  obtain ⟨other, issued, same⟩ := List.mem_map.mp taken
  obtain ⟨mem', theirs⟩ := List.mem_filter.mp issued
  have distinct : issue.client ≠ other.client := fun equal =>
    of_decide_eq_true theirs (equal.symm.trans mine)
  exact disjoint issue mem other mem' distinct same.symm

theorem key_mem_keysOfOthers {client : ι} {schedule : List (Issue ι)} {issue : Issue ι}
    (mem : issue ∈ schedule) (theirs : issue.client ≠ client) :
    issue.request.key ∈ keysOfOthers client schedule := by
  apply List.mem_map_of_mem
  exact List.mem_filter.mpr ⟨mem, decide_eq_true theirs⟩

end Issue

namespace Handles

open Issue

variable {ι : Type} {all : Handles} {position : Nat} {registry : Registry}
  {schedule : List (Issue ι)}

/-- Requests through handles on one registry are answered by that registry, and leave the others as
they are. -/
theorem run_shared (held : all.registries[position]? = some registry)
    (shared : ∀ issue ∈ schedule, all.position? issue.handle = some position) :
    all.run (schedule.map call) = some ((registry.run (schedule.map (·.request))).1,
      { all with
        registries :=
          all.registries.set position (registry.run (schedule.map (·.request))).2 }) := by
  induction schedule generalizing all registry with
  | nil =>
    obtain ⟨bound, here⟩ := List.getElem?_eq_some_iff.mp held
    have same : all.registries.set position registry = all.registries := by
      rw [← here, List.set_getElem_self]
    simp only [run, Registry.run, List.map_nil, same]
  | cons issue rest ih =>
    obtain ⟨first, others⟩ := List.forall_mem_cons.mp shared
    obtain ⟨bound, -⟩ := List.getElem?_eq_some_iff.mp held
    let next : Handles := { all with
      registries := all.registries.set position (registry.answer issue.request).2 }
    have answered : all.answer issue.handle issue.request =
        some ((registry.answer issue.request).1, next) := by
      simp [answer, first, held, next]
    have heldNext : next.registries[position]? = some (registry.answer issue.request).2 :=
      List.getElem?_set_self bound
    have tail := @ih next _ heldNext others
    simp [run, call, answered, tail, Registry.run, next]

/-- Clients whose requests are about different texts do not notice each other, in whatever order
their requests through handles on one registry are answered. Each request of a client is answered as
it is when the client is alone. But for the texts of the others, the names at the end are those at
the end of the client's own run, in the same order, and the same types are found under them. -/
theorem run_of_disjoint_clients [DecidableEq ι]
    (held : all.registries[position]? = some registry)
    (shared : ∀ issue ∈ schedule, all.position? issue.handle = some position)
    (disjoint : ∀ first ∈ schedule, ∀ second ∈ schedule, first.client ≠ second.client →
      first.request.key ≠ second.request.key) (client : ι) :
    ∃ replies final alone finalAlone,
      all.run (schedule.map call) =
        some (replies, { all with registries := all.registries.set position final }) ∧
      all.run ((issuedBy client schedule).map call) =
        some (alone, { all with registries := all.registries.set position finalAlone }) ∧
      replies.length = schedule.length ∧
      repliesTo client schedule replies = alone ∧
      final.names.filter (· ∉ keysOfOthers client schedule) =
        finalAlone.names.filter (· ∉ keysOfOthers client schedule) ∧
      ∀ name, name.text ∉ keysOfOthers client schedule →
        final.lookup name = finalAlone.lookup name := by
  have ownShown : ∀ issue ∈ schedule, issue.client = client →
      issue.request.key ∉ keysOfOthers client schedule :=
    fun issue mem mine => key_notMem_keysOfOthers disjoint mem mine
  have othersHidden : ∀ issue ∈ schedule, issue.client ≠ client →
      issue.request.key ∈ keysOfOthers client schedule :=
    fun issue mem theirs => key_mem_keysOfOthers mem theirs
  have together := run_schedule registry ownShown othersHidden
  have shown : ∀ request ∈ (issuedBy client schedule).map (·.request),
      request.key ∉ keysOfOthers client schedule := by
    intro request mem
    obtain ⟨issue, issued, rfl⟩ := List.mem_map.mp mem
    obtain ⟨mem, mine⟩ := List.mem_filter.mp issued
    exact ownShown issue mem (of_decide_eq_true mine)
  have apart := registry.run_hide shown
  obtain ⟨sameReplies, sameRest⟩ := Prod.mk.inj (together.symm.trans apart)
  have sharedOwn : ∀ issue ∈ issuedBy client schedule, all.position? issue.handle = some position :=
    fun issue mem => shared issue (List.mem_filter.mp mem).1
  refine ⟨_, _, _, _, run_shared held shared, run_shared held sharedOwn, ?_, sameReplies, ?_, ?_⟩
  · exact (Registry.length_run ..).trans (List.length_map _)
  · simp only [← Registry.names_hide, sameRest]
  · intro name other
    exact (Registry.lookup_hide other).symm.trans
      ((congrArg (·.lookup name) sameRest).trans (Registry.lookup_hide other))

/-- Two clients take turns, each through a handle of its own. One of them adds a type again that it
removed. -/
def twoClients : List (Issue Bool) :=
  [⟨true, "main", .add ⟨"ks", [0x62], []⟩⟩, ⟨false, "copy", .add ⟨"ks", [0x63], []⟩⟩,
    ⟨true, "main", .remove (.quoted "b")⟩, ⟨false, "copy", .userDefined (.quoted "c")⟩,
    ⟨true, "main", .add ⟨"ks", [0x62], []⟩⟩]

theorem run_of_disjoint_clients_two :
    (∀ issue ∈ twoClients,
      Handles.position? ⟨[("copy", 0), ("main", 0)], [.empty]⟩ issue.handle = some 0) ∧
    (∀ first ∈ twoClients, ∀ second ∈ twoClients, first.client ≠ second.client →
      first.request.key ≠ second.request.key) ∧
    ∃ replies final alone finalAlone,
      Handles.run ⟨[("copy", 0), ("main", 0)], [.empty]⟩ (twoClients.map call) =
        some (replies, ⟨[("copy", 0), ("main", 0)], [final]⟩) ∧
      Handles.run ⟨[("copy", 0), ("main", 0)], [.empty]⟩ ((issuedBy true twoClients).map call) =
        some (alone, ⟨[("copy", 0), ("main", 0)], [finalAlone]⟩) ∧
      repliesTo true twoClients replies = alone ∧
      final.names.filter (· ∉ keysOfOthers true twoClients) =
        finalAlone.names.filter (· ∉ keysOfOthers true twoClients) := by
  have shared : ∀ issue ∈ twoClients,
      Handles.position? ⟨[("copy", 0), ("main", 0)], [.empty]⟩ issue.handle = some 0 := by
    decide +kernel
  have disjoint : ∀ first ∈ twoClients, ∀ second ∈ twoClients, first.client ≠ second.client →
      first.request.key ≠ second.request.key := by
    decide +kernel
  have held : (⟨[("copy", 0), ("main", 0)], [.empty]⟩ : Handles).registries[0]? =
      some Registry.empty := rfl
  obtain ⟨replies, final, alone, finalAlone, together, apart, -, sameReplies, sameNames, -⟩ :=
    run_of_disjoint_clients held shared disjoint true
  exact ⟨shared, disjoint, replies, final, alone, finalAlone, together, apart, sameReplies,
    sameNames⟩

end Handles

end ColumnTypes
