import ColumnTypes.Diagnostic.Json
import ColumnTypes.TypeError
import Mathlib.Data.List.Perm.Basic

/-!
# What diagnostics keep

An error may be given contexts on its way to the user, one after the other. Only a configuration
error takes them, and it keeps the last one; all else of an error stays as it was, and so do the
code and the message of its report (`TypeError.within_eq`).

A diagnostic is written in one form and is read in several. `Diagnostic.Form` lists the values that
stand for a diagnostic: an array of the three values, and an object whose known members are the
three in any order, where help may be missing if there is none. Nothing else is read
(`Diagnostic.ofJson?_eq_some_iff`), so each value stands for one diagnostic at most, and reading
again what was written for it gives the same one.
-/

namespace ColumnTypes

namespace TypeError

/-- The error after each of these contexts has been attached to it in turn. -/
def within (error : TypeError) (contexts : List String) : TypeError :=
  contexts.foldl withContext error

/-- Of several contexts the last one counts, and only for errors of configuration. -/
theorem within_eq (error : TypeError) (contexts : List String) :
    error.within contexts =
      match error with
      | configuration code message context =>
        configuration code message (contexts.getLast?.or context)
      | other => other := by
  induction contexts generalizing error with
  | nil => cases error <;> rfl
  | cons first rest ih =>
    have later : error.within (first :: rest) = (error.withContext first).within rest := rfl
    rw [later, ih]
    cases error with
    | configuration code message context =>
      simp only [withContext, List.getLast?_cons, Option.or_some, Option.some_or]
    | malformed | invalidType | invalidRequest => rfl

theorem code_within (error : TypeError) (contexts : List String) :
    (error.within contexts).code = error.code := by
  rw [within_eq]
  cases error <;> rfl

theorem message_within (error : TypeError) (contexts : List String) :
    (error.within contexts).message = error.message := by
  rw [within_eq]
  cases error <;> rfl

end TypeError

theorem ErrorCode.ofJson?_eq_some_iff {json : Json} {code : ErrorCode} :
    ofJson? json = some code ↔ json = code.toJson := by
  constructor
  · intro read
    match json with
    | .integer value =>
      obtain ⟨range, same⟩ := Option.ite_none_right_eq_some.mp read
      have small : value.toNat < 65536 := by omega
      cases Option.some.inj same
      simp only [toJson, UInt16.toNat_ofNat_of_lt' small, Int.toNat_of_nonneg range.1]
  · rintro rfl
    have small := code.number.toNat_lt
    have range : (0 : Int) ≤ code.number.toNat ∧ (code.number.toNat : Int) < 65536 := by omega
    simp [toJson, ofJson?, range]

namespace Diagnostic

theorem messageOfJson?_eq_some_iff {json : Json} {text : String} :
    messageOfJson? json = some text ↔ json = .string text := by
  cases json <;> simp [messageOfJson?]

theorem helpOfJson?_eq_some_iff {json : Json} {help : Option String} :
    helpOfJson? json = some help ↔ json = helpToJson help := by
  cases json <;> cases help <;> simp [helpOfJson?, helpToJson]

/-- Three values make a diagnostic if each of them is what the diagnostic writes there. -/
theorem ofValues?_eq_some_iff {code message help : Json} {diagnostic : Diagnostic} :
    ofValues? code message help = some diagnostic ↔
      code = diagnostic.code.toJson ∧ message = .string diagnostic.message ∧
        help = helpToJson diagnostic.help := by
  obtain ⟨number, text, advice⟩ := diagnostic
  simp [ofValues?, Option.bind_eq_some_iff, ErrorCode.ofJson?_eq_some_iff,
    messageOfJson?_eq_some_iff, helpOfJson?_eq_some_iff]

end Diagnostic

namespace Json

variable {names : List String} {members entries : List (String × Json)}

theorem filter_eq_map_valuesOf (name : String) (members : List (String × Json)) :
    members.filter (·.1 = name) = (valuesOf name members).map (name, ·) := by
  have same : ∀ member ∈ members.filter (·.1 = name), (name, member.2) = id member := by
    intro member mem
    obtain ⟨-, named⟩ := List.mem_filter.mp mem
    simp [← of_decide_eq_true named]
  rw [valuesOf, List.map_map]
  exact ((List.map_congr_left same).trans (List.map_id _)).symm

theorem filter_filter_known {name : String} (known : name ∈ names)
    (members : List (String × Json)) :
    (members.filter (·.1 ∈ names)).filter (·.1 = name) = members.filter (·.1 = name) := by
  rw [List.filter_filter]
  apply List.filter_congr
  intro member _
  by_cases named : member.1 = name <;> simp [named, known]

/-- The members of some names are, in another order, those of the first name, then those of the
next, and so on. -/
theorem filter_perm_valuesOf (distinct : names.Nodup) (members : List (String × Json)) :
    (members.filter (·.1 ∈ names)).Perm
      (names.flatMap fun name => (valuesOf name members).map (name, ·)) := by
  induction names with
  | nil => simp
  | cons first rest ih =>
    obtain ⟨fresh, distinct⟩ := List.nodup_cons.mp distinct
    have others :
        (members.filter (·.1 ∈ first :: rest)).filter (fun member => !(member.1 = first)) =
          members.filter (·.1 ∈ rest) := by
      rw [List.filter_filter]
      apply List.filter_congr
      intro member _
      by_cases named : member.1 = first <;> simp [named, fresh]
    have split := List.filter_append_perm (·.1 = first) (members.filter (·.1 ∈ first :: rest))
    rw [filter_filter_known List.mem_cons_self, others, filter_eq_map_valuesOf] at split
    exact split.symm.trans ((ih distinct).append_left _)

/-- Each name among these has its values, but for their order, from the members of these names. -/
theorem valuesOf_perm (name : String) (known : name ∈ names)
    (same : (members.filter (·.1 ∈ names)).Perm entries) :
    (valuesOf name members).Perm (valuesOf name entries) := by
  rw [valuesOf, ← filter_filter_known known]
  exact (same.filter _).map _

end Json

namespace Diagnostic

/-- The names of the members that a diagnostic has. -/
def memberNames : List String := ["code", "message", "help"]

/-- The JSON values that stand for the diagnostic. Among the members of an object there may be any
of other names. -/
inductive Form (diagnostic : Diagnostic) : Json → Prop
  | array : Form diagnostic (.array [diagnostic.code.toJson, .string diagnostic.message,
      helpToJson diagnostic.help])
  | object {members : List (String × Json)} :
      (members.filter (·.1 ∈ memberNames)).Perm
        [("code", diagnostic.code.toJson), ("message", .string diagnostic.message),
          ("help", helpToJson diagnostic.help)] →
      Form diagnostic (.object members)
  | withoutHelp {members : List (String × Json)} : diagnostic.help = none →
      (members.filter (·.1 ∈ memberNames)).Perm
        [("code", diagnostic.code.toJson), ("message", .string diagnostic.message)] →
      Form diagnostic (.object members)

theorem form_toJson (diagnostic : Diagnostic) : diagnostic.Form diagnostic.toJson :=
  .object (.refl _)

variable {diagnostic : Diagnostic} {json : Json}

/-- The order of members does not matter, and neither does what stands under other names. -/
theorem Form.ofJson?_eq (form : diagnostic.Form json) : ofJson? json = some diagnostic := by
  cases form with
  | array => exact ofValues?_eq_some_iff.mpr ⟨rfl, rfl, rfl⟩
  | object same =>
    have code := List.perm_singleton.mp (Json.valuesOf_perm "code" (by decide) same)
    have message := List.perm_singleton.mp (Json.valuesOf_perm "message" (by decide) same)
    have help := List.perm_singleton.mp (Json.valuesOf_perm "help" (by decide) same)
    rw [ofJson?, code, message, help]
    exact ofValues?_eq_some_iff.mpr ⟨rfl, rfl, rfl⟩
  | withoutHelp absent same =>
    have code := List.perm_singleton.mp (Json.valuesOf_perm "code" (by decide) same)
    have message := List.perm_singleton.mp (Json.valuesOf_perm "message" (by decide) same)
    have help := List.perm_nil.mp (Json.valuesOf_perm "help" (by decide) same)
    rw [ofJson?, code, message, help]
    exact ofValues?_eq_some_iff.mpr ⟨rfl, rfl, absent ▸ rfl⟩

theorem form_of_ofJson? (read : ofJson? json = some diagnostic) : diagnostic.Form json := by
  match json with
  | .array [code, message, help] =>
    obtain ⟨rfl, rfl, rfl⟩ := ofValues?_eq_some_iff.mp read
    exact .array
  | .object members =>
    -- Each name that is read has one value, so the members of these names are told by the values.
    have known := Json.filter_perm_valuesOf (show memberNames.Nodup by decide) members
    simp only [memberNames, List.flatMap_cons, List.flatMap_nil] at known
    simp only [ofJson?] at read
    split at read
    · rename_i code message help codes messages helps
      obtain ⟨rfl, rfl, rfl⟩ := ofValues?_eq_some_iff.mp read
      rw [codes, messages, helps] at known
      exact .object known
    · rename_i code message codes messages helps
      obtain ⟨rfl, rfl, absent⟩ := ofValues?_eq_some_iff.mp read
      rw [codes, messages, helps] at known
      refine .withoutHelp ?_ known
      cases help : diagnostic.help with
      | none => rfl
      | some text => simp [help, helpToJson] at absent
    · cases read

/-- Exactly the forms of a diagnostic are read as it. -/
theorem ofJson?_eq_some_iff : ofJson? json = some diagnostic ↔ diagnostic.Form json :=
  ⟨form_of_ofJson?, Form.ofJson?_eq⟩

example : ofJson? (.object [("at", .null), ("message", .string "no"), ("code", .integer 7)]) =
    some ⟨⟨7⟩, "no", none⟩ := rfl

example :
    ofJson? (.object [("code", .integer 7), ("message", .string "no"), ("code", .integer 7)]) =
      none := rfl

/-- However many contexts are attached to an error, it stays of its sort and keeps its code, its
message and the spelling at fault, and so does its report; the last context is kept by a
configuration error and by no other. What is written for a diagnostic is read as it. A JSON value is
read as a diagnostic exactly if it is one of its forms, and writing what was read and reading it
again makes no difference. -/
theorem kept_by_contexts_and_json :
    (∀ (error : TypeError) (contexts : List String),
      error.within contexts =
        (match error with
        | .configuration code message context =>
          .configuration code message (contexts.getLast?.or context)
        | other => other) ∧
      (error.within contexts).code = error.code ∧
      (error.within contexts).message = error.message ∧
      (error.within contexts).toDiagnostic.code = error.code ∧
      (error.within contexts).toDiagnostic.message = error.message) ∧
    (∀ diagnostic : Diagnostic, ofJson? diagnostic.toJson = some diagnostic) ∧
    (∀ (json : Json) (diagnostic : Diagnostic),
      ofJson? json = some diagnostic ↔ diagnostic.Form json) ∧
    (∀ json : Json, (ofJson? json).bind (fun read => ofJson? read.toJson) = ofJson? json) := by
  have back (diagnostic : Diagnostic) : ofJson? diagnostic.toJson = some diagnostic :=
    diagnostic.form_toJson.ofJson?_eq
  refine ⟨?_, back, fun json diagnostic => ofJson?_eq_some_iff, ?_⟩
  · intro error contexts
    have code := error.code_within contexts
    have message := error.message_within contexts
    exact ⟨error.within_eq contexts, code, message, code, message⟩
  · intro json
    simp only [back]
    exact Option.bind_fun_some (ofJson? json)

end Diagnostic

end ColumnTypes
