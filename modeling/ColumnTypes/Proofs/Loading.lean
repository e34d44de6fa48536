import ColumnTypes.ClassPath
import ColumnTypes.Proofs.ClassNames
import ColumnTypes.Proofs.Spells

/-!
# What a class path decides

A class path is consulted only for names of classes that are not built in, and it answers with a
class or with none. So two class paths resolve a term alike up to the first class that one of them
lacks: `Agree` says this of two results, and sequencing keeps it, so that it holds of terms and of
all their parts (`resolve_agree`).

The relation also says which faults there are. Of a term that was read every name is a name, hence
no class is refused for its name, and a number of arguments that is reported as wrong is wrong
(`ResolutionFault.Possible`). As a text is read before any class is looked up (`parse_cases`), both
carry over to texts.
-/

namespace ColumnTypes

theorem IsName.valid_qualify {name : String} (isName : IsName name)
    (external : BuiltIn.ofClassName? (qualify name) = none) : ClassName.Valid (qualify name) :=
  ⟨ClassName.isNameChar_qualify isName.2, ClassName.dot_mem_qualify name, external⟩

/-- The fault arises in terms that were read. -/
def ResolutionFault.Possible : ResolutionFault → Prop
  | .unknownClass name => ClassName.Valid name
  | .wrongCount _ expected given => given ≠ expected
  | .namesMissing _ given => given < 2
  | .invalidClassName _ _ => False
  | .takesNoArguments _ | .emptyArgument | .unexpectedField _ | .hexNameExpected | .invalidHex _ _
  | .keyspaceNotText | .fieldExpected => True

namespace ClassPath

/-- Every class that the first path can load, the second can load as well. -/
def Within (first second : ClassPath) : Prop :=
  ∀ name, ClassName.Valid name → name ∈ first.classes → name ∈ second.classes

/-- The second path leads to the same result as the first, or the first lacks a class that the
second has. -/
inductive Agree (first second : ClassPath) {α : Type} :
    Except ResolutionFault α → Except ResolutionFault α → Prop
  | ok (value : α) : Agree first second (.ok value) (.ok value)
  | error {fault : ResolutionFault} (possible : fault.Possible) :
      Agree first second (.error fault) (.error fault)
  | lacking {name : String} {result : Except ResolutionFault α} (valid : ClassName.Valid name)
      (missing : name ∉ first.classes) (loaded : name ∈ second.classes) :
      Agree first second (.error (.unknownClass name)) result

variable {first second : ClassPath} {α β : Type}

namespace Agree

theorem bind {x y : Except ResolutionFault α} {f g : α → Except ResolutionFault β}
    (h : Agree first second x y) (next : ∀ value, Agree first second (f value) (g value)) :
    Agree first second (x >>= f) (y >>= g) := by
  cases h with
  | ok value => exact next value
  | error possible => exact .error possible
  | lacking valid missing loaded => exact .lacking valid missing loaded

theorem map {x y : Except ResolutionFault α} (f : α → β) (h : Agree first second x y) :
    Agree first second (x.map f) (y.map f) := by
  cases h with
  | ok value => exact .ok (f value)
  | error possible => exact .error possible
  | lacking valid missing loaded => exact .lacking valid missing loaded

theorem possible {x y : Except ResolutionFault α} {fault : ResolutionFault}
    (h : Agree first second x y) (failed : x = .error fault) : fault.Possible := by
  cases h with
  | ok value => cases failed
  | error possible =>
    cases failed
    exact possible
  | lacking valid =>
    cases failed
    exact valid

/-- A result other than an unknown class is that of the second path, too. -/
theorem eq_of_known {x y : Except ResolutionFault α} (h : Agree first second x y)
    (known : ∀ name, x ≠ .error (.unknownClass name)) : x = y := by
  cases h with
  | ok => rfl
  | error => rfl
  | lacking => exact absurd rfl (known _)

theorem eq_of_within {x y : Except ResolutionFault α} (h : Agree first second x y)
    (back : second.Within first) : x = y := by
  cases h with
  | ok => rfl
  | error => rfl
  | lacking valid missing loaded => exact absurd (back _ valid loaded) missing

end Agree

theorem decodeHexName_agree (text : String) :
    Agree first second (decodeHexName text) (decodeHexName text) := by
  rw [decodeHexName]
  split
  · exact .ok _
  · exact .error trivial

theorem hexName?_agree (argument : Argument) :
    Agree first second argument.hexName? argument.hexName? := by
  unfold Argument.hexName?
  split
  · exact decodeHexName_agree _
  · exact decodeHexName_agree _
  · exact .error trivial

theorem userTypeNames_agree (keyspace name : Argument) :
    Agree first second (userTypeNames keyspace name) (userTypeNames keyspace name) := by
  refine (hexName?_agree keyspace).bind fun bytes => ?_
  split
  · exact .error trivial
  · exact (hexName?_agree name).bind fun name => .ok _

/-- Loading is the one place where the class path counts. -/
theorem load_agree (within : first.Within second) {name : String} (valid : ClassName.Valid name)
    (given : Nat) : Agree first second (first.load name given) (second.load name given) := by
  have made : ClassName.ofString name = .ok ⟨name, valid⟩ := ClassName.ofString_text ⟨name, valid⟩
  rw [load, load, made]
  by_cases loaded : name ∈ first.classes
  · rw [if_pos loaded, if_pos (within name valid loaded)]
    split
    · exact .ok _
    · exact .error trivial
  · rw [if_neg loaded]
    split
    · rename_i other
      exact .lacking valid loaded other
    · exact .error valid

theorem resolveBare_agree (within : first.Within second) {name : String} (isName : IsName name) :
    Agree first second (first.resolveBare (qualify name)) (second.resolveBare (qualify name)) := by
  rw [resolveBare, resolveBare]
  cases known : BuiltIn.ofClassName? (qualify name) with
  | none => exact load_agree within (isName.valid_qualify known) 0
  | some builtIn =>
    cases builtIn with
    | scalar type => exact .ok _
    | user => exact .error Nat.zero_lt_two
    | _ => exact .error (by simp [ResolutionFault.Possible])

mutual

/-- A term is resolved alike, up to the first class that the first path lacks. -/
theorem resolve_agree (within : first.Within second) (term : Term) (wf : term.WellFormed) :
    Agree first second (first.resolve term) (second.resolve term) := by
  match term with
  | .bare name => exact resolveBare_agree within wf
  | .applied name arguments =>
    rw [resolve, resolve]
    cases known : BuiltIn.ofClassName? (qualify name) with
    | none => exact load_agree within (wf.1.valid_qualify known) arguments.length
    | some builtIn =>
      cases builtIn with
      | scalar type =>
        dsimp only
        split
        · exact .ok _
        · exact .error trivial
      | reversed => exact (resolveOne_agree within _ arguments wf.2.2).map _
      | list => exact (resolveOne_agree within _ arguments wf.2.2).map _
      | set => exact (resolveOne_agree within _ arguments wf.2.2).map _
      | map => exact (resolveTwo_agree within _ arguments wf.2.2).map _
      | user => exact (resolveUser_agree within _ arguments wf.2.2).map _

theorem resolveArgument_agree (within : first.Within second) (argument : Argument)
    (wf : argument.WellFormed) :
    Agree first second (first.resolveArgument argument) (second.resolveArgument argument) := by
  match argument with
  | .type term => exact resolve_agree within term wf
  | .empty => exact .error trivial
  | .field label type => exact .error trivial

theorem resolveOne_agree (within : first.Within second) (name : String)
    (arguments : List Argument) (wf : AllWellFormed arguments) :
    Agree first second (first.resolveOne name arguments) (second.resolveOne name arguments) := by
  match arguments with
  | [] => exact .error (by simp [ResolutionFault.Possible])
  | [argument] => exact resolveArgument_agree within argument wf.1
  | _ :: _ :: rest => exact .error (by simp [ResolutionFault.Possible])

theorem resolveTwo_agree (within : first.Within second) (name : String)
    (arguments : List Argument) (wf : AllWellFormed arguments) :
    Agree first second (first.resolveTwo name arguments) (second.resolveTwo name arguments) := by
  match arguments with
  | [] => exact .error (by simp [ResolutionFault.Possible])
  | [_] => exact .error (by simp [ResolutionFault.Possible])
  | [keys, values] =>
    rw [resolveTwo, resolveTwo]
    refine (resolveArgument_agree within keys wf.1).bind fun keys => ?_
    exact (resolveArgument_agree within values wf.2.1).bind fun values => .ok (keys, values)
  | _ :: _ :: _ :: rest => exact .error (by simp [ResolutionFault.Possible])

theorem resolveUser_agree (within : first.Within second) (name : String)
    (arguments : List Argument) (wf : AllWellFormed arguments) :
    Agree first second (first.resolveUser name arguments) (second.resolveUser name arguments) := by
  match arguments with
  | [] => exact .error Nat.zero_lt_two
  | [_] => exact .error Nat.one_lt_two
  | keyspace :: typeName :: fields =>
    rw [resolveUser, resolveUser]
    refine (userTypeNames_agree keyspace typeName).bind fun (keyspace, typeName) => ?_
    exact (resolveFields_agree within fields wf.2.2).bind fun fields => .ok _

theorem resolveFields_agree (within : first.Within second) (arguments : List Argument)
    (wf : AllWellFormed arguments) :
    Agree first second (first.resolveFields arguments) (second.resolveFields arguments) := by
  match arguments with
  | [] => exact .ok []
  | .type _ :: _ => exact .error trivial
  | .empty :: _ => exact .error trivial
  | .field label type :: rest =>
    rw [resolveFields, resolveFields]
    refine (resolve_agree within type wf.1.2).bind fun type => ?_
    refine (decodeHexName_agree label).bind fun label => ?_
    exact (resolveFields_agree within rest wf.2).bind fun rest => .ok ((label, type) :: rest)

end

/-- The fault of a term that was read is one that arises in such terms. -/
theorem possible_of_resolve {path : ClassPath} {term : Term} {fault : ResolutionFault}
    (wf : term.WellFormed) (failed : path.resolve term = .error fault) : fault.Possible :=
  (resolve_agree (fun _ _ loaded => loaded) term wf).possible failed

/-- Paths that load the same classes resolve a term alike. -/
theorem resolve_eq_of_within {term : Term} (wf : term.WellFormed) (within : first.Within second)
    (back : second.Within first) : first.resolve term = second.resolve term :=
  (resolve_agree within term wf).eq_of_within back

/-- A text is blank, or at fault under every class path, or spells a term that the class path
resolves. -/
theorem parse_cases (text : String) :
    (∀ path : ClassPath, path.parse text = .ok (.scalar .bytes)) ∨
    (∃ fault : SpellingFault, ∀ path : ClassPath, path.parse text = .error (fault.toError text)) ∨
    ∃ term, Spells text.toList term ∧ term.depth ≤ maxNesting ∧
      ∀ path : ClassPath, path.parse text = (path.resolve term).mapError (·.toError text) := by
  by_cases blank : text.toList.all Text.isBlank
  · exact Or.inl fun path => by rw [parse, if_pos blank]
  · apply Or.inr
    cases read : Term.ofText text.toList with
    | error fault => exact Or.inl ⟨fault, fun path => by rw [parse, if_neg blank, read]⟩
    | ok term =>
      obtain ⟨spelled, within⟩ := spells_of_ofText read
      refine Or.inr ⟨term, spelled, within, fun path => ?_⟩
      rw [parse, if_neg blank, read]
      dsimp only
      cases path.resolve term <;> rfl

end ClassPath

end ColumnTypes
