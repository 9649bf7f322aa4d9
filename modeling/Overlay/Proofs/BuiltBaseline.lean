import Mathlib
import Overlay.Proofs.DistinctNames
import Overlay.Proofs.WrittenAssignments

namespace Overlay.Baseline

open Assignment

variable {files : Files} {env : Environment} {options : Options}

/-- The arguments of the defaults file; without one there are none. -/
def readDefaults (files : Files) (env : Environment) (options : Options) : Run Arguments :=
  match options.defaults with
  | some path => readArguments files env path
  | none => pure []

/-- A baseline is built in two parts: the defaults are read, and the assignments
are made over what they give. -/
theorem build_eq : build files env options =
    readDefaults files env options >>= (setAssignments · options.assignments) := by
  rw [build, readDefaults]
  cases options.defaults <;> rfl

/-- Defaults that were read have distinct keys, since a file is turned into a
map and no file gives none at all. -/
theorem nodup_keys_readDefaults {start : Arguments} (read : (readDefaults files env options).outcome = .ok start) :
    start.keys.Nodup := by
  unfold readDefaults at read
  split at read
  · exact (Value.namesDistinct_mapping_iff.mp (fileVerdict_iff.mpr read).namesDistinct).1
  · cases read
    exact List.nodup_nil

/-- Making the assignments notices nothing: their values are taken as they
stand, and no variable is looked up for them. -/
theorem notices_setAssignments (arguments : Arguments) (texts : List String) :
    (setAssignments arguments texts).notices = [] := by
  induction texts generalizing arguments with
  | nil => rfl
  | cons text rest ih =>
    rw [setAssignments]
    cases parse? text with
    | none => rfl
    | some assignment => exact ih _

theorem notices_build : (build files env options).notices = (readDefaults files env options).notices := by
  rw [build_eq]
  cases read : (readDefaults files env options).outcome with
  | error failure => exact Run.notices_bind_of_error read _
  | ok start => rw [Run.notices_bind_of_ok read, notices_setAssignments, List.append_nil]

/-- The assignments are made one by one from the left, each over what is there,
so the last one of a key counts. -/
theorem assigned_eq (arguments : Arguments) (texts : List String) : assigned arguments texts =
    (pairs Conversion.scalar (texts.filterMap parse?)).foldl
      (fun arguments pair => arguments.insert pair.1 pair.2) arguments := by
  rw [assigned, pairs, List.foldl_map]

/-- The arguments that come of setting texts `KEY=VALUE` over others. The keys
that were there keep their places and new ones come behind them in the order of
the texts; the last text that names a key counts, and its value is typed as a
scalar. -/
structure Assigns (start : Arguments) (texts : List String) (result : Arguments) : Prop where
  keys : ∃ names, List.Forall₂ (fun text name => Names name text) texts names ∧
    result.keys = start.keys ++ (names.filter fun name => name ∉ start.keys).eraseDups
  distinct : result.keys.Nodup
  last : ∀ text key value, LastOf (Names key) texts text → Writes text key value →
    result.get? key = some (Conversion.scalar value)
  others : ∀ key, (∀ text ∈ texts, ¬ Names key text) → result.get? key = start.get? key

/-- Assignments that are all well formed give a baseline with every part of
`Assigns`, whatever distinct keys it starts with. -/
theorem assigns_assigned {start : Arguments} {texts : List String} (distinct : start.keys.Nodup)
    (wellFormed : ∀ text ∈ texts, ¬ Malformed text) : Assigns start texts (assigned start texts) := by
  have found (key : String) := Entries.get?_foldl_insert (pairs Conversion.scalar (texts.filterMap parse?)) start key
  rw [assigned_eq]
  refine ⟨⟨_, forall₂_names wellFormed, ?_⟩, Entries.nodup_keys_foldl_insert _ distinct, ?_, ?_⟩
  · rw [Entries.keys_foldl_insert, keys_pairs]
  · intro text key value last writes
    rw [found, get?_reverse_pairs_of_lastOf ((lastOf_congr fun _ => names_iff).mp last) (parse?_eq_some_iff.mpr writes),
      Option.some_or]
  · intro key absent
    rw [found, get?_reverse_pairs_eq_none fun text member => mt names_iff.mpr (absent text member), Option.none_or]

/-- A baseline fails with its defaults, whatever is set over them, and else with
the first text that is no `KEY=VALUE`. Otherwise the texts are set over the
defaults, and while this is done no variable is looked up. -/
theorem build_assigns (files : Files) (env : Environment) (options : Options) :
    (∀ failure, (readDefaults files env options).outcome = .error failure →
      (build files env options).outcome = .error failure) ∧
    (∀ start, (readDefaults files env options).outcome = .ok start →
      (∀ text, FirstMalformed options.assignments text →
        (build files env options).outcome = .error (.invalidAssignment text)) ∧
      ((∀ text ∈ options.assignments, ¬ Malformed text) →
        ∃ result, (build files env options).outcome = .ok result ∧ Assigns start options.assignments result)) ∧
    (build files env options).notices = (readDefaults files env options).notices := by
  refine ⟨fun failure failed => ?_, fun start read => ⟨fun text first => ?_, fun wellFormed => ?_⟩, notices_build⟩
  · rw [build_eq, Run.outcome_bind, failed]
    rfl
  · rw [build_eq, Run.outcome_bind, read, Except.bind, outcome_setAssignments, firstMalformed?_eq_some_iff.mpr first]
  · refine ⟨assigned start options.assignments, ?_, assigns_assigned (nodup_keys_readDefaults read) wellFormed⟩
    rw [build_eq, Run.outcome_bind, read, Except.bind, outcome_setAssignments,
      firstMalformed?_eq_none_iff.mpr wellFormed]

/-- Defaults with one key. -/
def defaultsFile : Files
  | "d.yaml" => .file "a: 1\n".toUTF8
  | _ => .missing

def overDefaults (assignments : List String) : Options := ⟨"c.yaml", some "d.yaml", assignments, "", [], false⟩

theorem outcome_readDefaults_defaultsFile (env : Environment) (assignments : List String) :
    (readDefaults defaultsFile env (overDefaults assignments)).outcome = .ok [("a", .integer 1)] := by cbv

theorem scalar_reference : Conversion.scalar "$\x7bT\x7d" = .string "$\x7bT\x7d" := by cbv

/-- A text without equals sign is refused. A key that is written twice has the
second value, in which nothing is expanded; one that is not written keeps its
default. -/
theorem build_assigns_key_twice (env : Environment) :
    (build defaultsFile env (overDefaults ["b=1", "b"])).outcome = .error (.invalidAssignment "b") ∧
      ∃ result, (build defaultsFile env (overDefaults ["b=1", " b =$\x7bT\x7d"])).outcome = .ok result ∧
        result.get? "b" = some (.string "$\x7bT\x7d") ∧ result.get? "a" = some (.integer 1) := by
  constructor
  · obtain ⟨_, builds, _⟩ := build_assigns defaultsFile env (overDefaults ["b=1", "b"])
    exact (builds _ (outcome_readDefaults_defaultsFile ..)).1 "b" (firstMalformed?_eq_some_iff.mp (by decide))
  · obtain ⟨_, builds, _⟩ := build_assigns defaultsFile env (overDefaults ["b=1", " b =$\x7bT\x7d"])
    obtain ⟨result, success, assigns⟩ := (builds _ (outcome_readDefaults_defaultsFile ..)).2
      (firstMalformed?_eq_none_iff.mp (by decide))
    have writes : Writes " b =$\x7bT\x7d" "b" "$\x7bT\x7d" := parse?_eq_some_iff.mp (by decide)
    refine ⟨result, success, ?_, assigns.others "a" ?_⟩
    · rw [assigns.last _ "b" _ ⟨["b=1"], [], rfl, ⟨_, writes⟩, nofun⟩ writes, scalar_reference]
    · rintro text (_ | ⟨_, _ | ⟨_, ⟨⟩⟩⟩)
      · exact not_names_of_parse? (show parse? "b=1" = some ⟨"b", "1"⟩ by decide) (by decide)
      · exact not_names_of_parse? (parse?_eq_some_iff.mpr writes) (by decide)

end Overlay.Baseline
