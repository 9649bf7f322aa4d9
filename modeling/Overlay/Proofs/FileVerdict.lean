import Overlay.Proofs.TopLevel

namespace Overlay

open Yaml (Tree)

/-- What is written in a file, with the merge keys carried out. -/
def Documents (files : Files) (path : String) (tree : Tree) : Prop :=
  ∃ text, files.readText path = .ok text ∧ Loading.tree text = .ok tree

/-- How it ends to read the arguments of a file: with the first thing that is
wrong with it, or with the arguments. -/
inductive FileVerdict (files : Files) (env : Environment) (path : String) : Except Failure Arguments → Prop
  | missing : files path = .missing → FileVerdict files env path (.error (.fileNotFound path))
  | unreadable {fault : FileFault} : files.readText path = .error (.unreadableFile path fault) →
      FileVerdict files env path (.error (.unreadableFile path fault))
  | malformed {text : String} {fault : Yaml.Fault} : files.readText path = .ok text → Tree.read text = .error fault →
      FileVerdict files env path (.error (.malformedYaml path fault))
  | unmergeable {text : String} {document : Tree} {fault : Yaml.Fault} : files.readText path = .ok text →
      Tree.read text = .ok document → document.expandMerges = .error fault →
      FileVerdict files env path (.error (.malformedYaml path fault))
  | unconvertible {tree : Tree} {failure : Failure} : Documents files path tree →
      (Conversion.value env tree).outcome = .error failure → FileVerdict files env path (.error failure)
  | misshaped {tree : Tree} {value : Value} : Documents files path tree →
      (Conversion.value env tree).outcome = .ok value → tree.kind ≠ .mapping → tree.kind ≠ .null →
      FileVerdict files env path (.error (.invalidDocument (.topLevel path tree.kind)))
  | empty {tree : Tree} : Documents files path tree →
      (Conversion.value env tree).outcome = .ok .null → FileVerdict files env path (.ok [])
  | arguments {tree : Tree} {arguments : Arguments} : Documents files path tree →
      (Conversion.value env tree).outcome = .ok (.mapping arguments) → FileVerdict files env path (.ok arguments)

variable {files : Files} {env : Environment} {path : String}

/-- Reading a file fails as its text fails to be read or continues with that
text; what is noticed on the way does not bear on the outcome. -/
theorem outcome_readArguments (files : Files) (env : Environment) (path : String) :
    (readArguments files env path).outcome =
      (files.readText path).bind fun text => (Loading.ofText env path text).outcome := by
  rw [readArguments, Run.outcome_bind, Run.note, Except.bind, Run.outcome_bind, Run.ofExcept]

/-- A text that is no YAML document fails with the fault of its parser and the
path the file was asked for at. -/
theorem outcome_readArguments_of_fault {text : String} {fault : Yaml.Fault} (read : files.readText path = .ok text)
    (failed : Loading.tree text = .error fault) :
    (readArguments files env path).outcome = .error (.malformedYaml path fault) := by
  rw [outcome_readArguments, read, Except.bind, Loading.ofText_of_error failed]
  rfl

/-- A file that documents a tree is settled by that tree alone: its conversion
first, then the form of the top level. -/
theorem Documents.outcome_readArguments {tree : Tree} (documents : Documents files path tree) :
    (readArguments files env path).outcome =
      (Conversion.value env tree).outcome.bind fun value => (Loading.topLevel path value).outcome := by
  obtain ⟨text, read, loaded⟩ := documents
  rw [Overlay.outcome_readArguments, read, Except.bind, Loading.ofText_of_ok loaded, Run.outcome_bind]

/-- Each rule of the verdict names the outcome that reading the file has, in the
order in which the program comes to them. -/
theorem FileVerdict.outcome_eq {result : Except Failure Arguments} (verdict : FileVerdict files env path result) :
    (readArguments files env path).outcome = result := by
  cases verdict with
  | missing absent => rw [outcome_readArguments, Files.readText, absent, Except.bind]
  | unreadable read => rw [outcome_readArguments, read, Except.bind]
  | malformed read failed => exact outcome_readArguments_of_fault read (by rw [Loading.tree, failed]; rfl)
  | unmergeable read found failed =>
    refine outcome_readArguments_of_fault read ?_
    rw [Loading.tree, found]
    exact failed
  | unconvertible documents failed => rw [documents.outcome_readArguments, failed, Except.bind]
  | @misshaped tree value documents converts noMapping noNull =>
    rw [documents.outcome_readArguments, converts, Except.bind, ← Conversion.kind_of_value converts]
    rw [← Conversion.kind_of_value converts] at noMapping noNull
    cases value with
    | mapping _ => exact absurd rfl noMapping
    | null => exact absurd rfl noNull
    | _ => rfl
  | empty documents converts =>
    rw [documents.outcome_readArguments, converts]
    rfl
  | arguments documents converts =>
    rw [documents.outcome_readArguments, converts]
    rfl

theorem fileVerdict_of_unread {failure : Failure} (unread : files.readText path = .error failure) :
    FileVerdict files env path (.error failure) := by
  have whole := unread
  unfold Files.readText at unread
  cases status : files path with
  | missing =>
    rw [status] at unread
    cases unread
    exact .missing status
  | file content =>
    rw [status] at unread
    dsimp only at unread
    split at unread <;> cases unread
    exact .unreadable whole
  | _ =>
    rw [status] at unread
    cases unread
    exact .unreadable whole

/-- Every path has a verdict: the rules leave no state of the file system out.
-/
theorem exists_fileVerdict (files : Files) (env : Environment) (path : String) :
    ∃ result, FileVerdict files env path result := by
  cases read : files.readText path with
  | error failure => exact ⟨_, fileVerdict_of_unread read⟩
  | ok text =>
    cases found : Tree.read text with
    | error fault => exact ⟨_, .malformed read found⟩
    | ok document =>
      cases expanded : document.expandMerges with
      | error fault => exact ⟨_, .unmergeable read found expanded⟩
      | ok tree =>
        have documents : Documents files path tree := by
          refine ⟨text, read, ?_⟩
          rw [Loading.tree, found]
          exact expanded
        cases converted : (Conversion.value env tree).outcome with
        | error failure => exact ⟨_, .unconvertible documents converted⟩
        | ok value =>
          have sameKind := Conversion.kind_of_value converted
          cases value with
          | mapping arguments => exact ⟨_, .arguments documents converted⟩
          | null => exact ⟨_, .empty documents converted⟩
          | _ => exact ⟨_, .misshaped documents converted (sameKind ▸ nofun) (sameKind ▸ nofun)⟩

/-- Exactly one verdict holds of a file: that on which reading it ends. -/
theorem fileVerdict_iff {result : Except Failure Arguments} :
    FileVerdict files env path result ↔ (readArguments files env path).outcome = result := by
  refine ⟨FileVerdict.outcome_eq, ?_⟩
  rintro rfl
  obtain ⟨result, verdict⟩ := exists_fileVerdict files env path
  rwa [verdict.outcome_eq]

end Overlay
