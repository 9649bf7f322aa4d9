import Mathlib
import Overlay.Proofs.WrittenAssignments

namespace Overlay

theorem fromUTF8?_eq_some_iff {bytes : ByteArray} {text : String} :
    String.fromUTF8? bytes = some text ↔ bytes = text.toUTF8 := by
  unfold String.fromUTF8?
  constructor
  · intro decoded
    split at decoded
    · cases decoded
      rfl
    · cases decoded
  · rintro rfl
    exact dif_pos text.isValidUTF8

/-- The invariant of the library's loop over the bytes of an array: what has
been read stands reversed in front of what is still to come. -/
theorem toList_loop_eq (bytes : ByteArray) (i : Nat) (done : List UInt8) :
    ByteArray.toList.loop bytes i done = done.reverse ++ bytes.data.toList.drop i := by
  induction i, done using ByteArray.toList.loop.induct bytes with
  | case1 i done inside ih =>
    have bound : i < bytes.data.toList.length := inside
    have atIndex : bytes.get! i = bytes.data.toList[i] := getElem!_pos bytes.data i inside
    rw [ByteArray.toList.loop, if_pos inside, ih, List.drop_eq_getElem_cons bound, atIndex, List.reverse_cons,
      List.append_assoc, List.singleton_append]
  | case2 i done outside =>
    have bound : bytes.data.toList.length ≤ i := Nat.le_of_not_lt outside
    rw [ByteArray.toList.loop, if_neg outside, List.drop_eq_nil_of_le bound, List.append_nil]

theorem toList_eq_data_toList (bytes : ByteArray) : bytes.toList = bytes.data.toList := toList_loop_eq bytes 0 []

theorem toList_append (front back : ByteArray) : (front ++ back).toList = front.toList ++ back.toList := by
  simp only [toList_eq_data_toList, ByteArray.toList_data_append]

theorem toList_inj {first second : ByteArray} : first.toList = second.toList ↔ first = second := by
  rw [toList_eq_data_toList, toList_eq_data_toList, Array.toList_inj, ByteArray.ext_iff]

namespace ProcessVariables

variable {process : ProcessVariables} {name : String} {value : ByteArray}

/-- The first text of the process that starts with the name and an equals sign
goes on with the value. -/
structure Holds (process : ProcessVariables) (name : String) (value : ByteArray) : Prop where
  nonempty : name ≠ ""
  first : ∃ front back, process = front ++ ((name ++ "=").toUTF8 ++ value) :: back ∧
    ∀ text ∈ front, ∀ other, text ≠ (name ++ "=").toUTF8 ++ other

/-- What is found behind a beginning is the rest of the text, so that the search
can be read as an equation between lists and its answer is the only one there
is. -/
theorem behind?_eq_some_iff {start bytes rest : List UInt8} :
    behind? start bytes = some rest ↔ bytes = start ++ rest := by
  induction start generalizing bytes with
  | nil => simp [behind?]
  | cons expected more ih =>
    cases bytes with
    | nil => simp [behind?]
    | cons byte bytes =>
      by_cases same : expected = byte
      · simp [behind?, same, ih]
      · simp [behind?, same, Ne.symm same]

theorem behind?_toList_eq_some_iff {start text : ByteArray} {rest : List UInt8} :
    behind? start.toList text.toList = some rest ↔ text = start ++ ⟨rest.toArray⟩ := by
  rw [behind?_eq_some_iff, ← toList_inj, toList_append, toList_eq_data_toList ⟨rest.toArray⟩, List.toList_toArray]

/-- The search fails exactly if no rest makes the text up, which is how an
absent variable is told from one with an empty value. -/
theorem behind?_toList_eq_none_iff {start text : ByteArray} :
    behind? start.toList text.toList = none ↔ ∀ rest, text ≠ start ++ rest := by
  rw [Option.eq_none_iff_forall_ne_some]
  simp only [ne_eq, behind?_toList_eq_some_iff]
  exact ⟨fun differs rest => differs rest.data.toList, fun differs rest => differs ⟨rest.toArray⟩⟩

/-- A look-up among the variables of the process has a result exactly if the
first variable of that name holds it. A value that is no text counts as absent,
even with another variable of the name behind it. -/
theorem environment_eq_some_iff {text : String} :
    process.environment name = some text ↔ Holds process name text.toUTF8 := by
  unfold environment
  constructor
  · intro found
    split at found
    · cases found
    · rename_i nonempty
      split at found
      · cases found
      · rename_i rest first
        obtain ⟨front, entry, back, rfl, here, earlier⟩ := List.findSome?_eq_some_iff.mp first
        refine ⟨nonempty, front, back, ?_, fun text inFront => behind?_toList_eq_none_iff.mp (earlier text inFront)⟩
        rw [behind?_toList_eq_some_iff.mp here, fromUTF8?_eq_some_iff.mp found]
  · rintro ⟨nonempty, front, back, rfl, earlier⟩
    have first : (front ++ ((name ++ "=").toUTF8 ++ text.toUTF8) :: back).findSome?
        (fun entry => behind? (name ++ "=").toUTF8.toList entry.toList) = some text.toUTF8.data.toList :=
      List.findSome?_eq_some_iff.mpr ⟨front, _, back, rfl, behind?_toList_eq_some_iff.mpr rfl,
        fun entry inFront => behind?_toList_eq_none_iff.mpr (earlier entry inFront)⟩
    rw [if_neg nonempty, first]
    exact fromUTF8?_eq_some_iff.mpr rfl

theorem environment_eq_none_iff :
    process.environment name = none ↔ ∀ text : String, ¬ Holds process name text.toUTF8 := by
  rw [Option.eq_none_iff_forall_ne_some]
  exact forall_congr' fun text => not_congr environment_eq_some_iff

end ProcessVariables

namespace EnvFile

def Entry.Sets (name : String) (entry : Entry) : Prop := ∃ value, entry = .set ⟨name, value⟩

def Entry.assignment? : Entry → Option Assignment
  | .set assignment => some assignment
  | _ => none

theorem Entry.assignment?_eq_some_iff {entry : Entry} {assignment : Assignment} :
    entry.assignment? = some assignment ↔ entry = .set assignment := by
  cases entry <;> simp [assignment?]

theorem read_empty (process : Environment) : read process .empty = [] := by
  rw [read, lines, ByteArray.toList_empty]
  rfl

end EnvFile

namespace LayeredEnvironment

open Assignment

/-- The entries of a file of variables; there are none where it is missing,
cannot be opened or cannot be found out about. A path that can be opened and
then not read, such as a directory, has no entries in this sense, since asking
for them never ends. -/
inductive EntriesAt (files : Files) (process : Environment) (path : String) : List EnvFile.Entry → Prop
  | file {content : ByteArray} : files path = .file content →
      EntriesAt files process path (EnvFile.read process content)
  | missing : files path = .missing → EntriesAt files process path []
  | locked {fault : FileFault} : files path = .locked fault → EntriesAt files process path []
  | unreachable {fault : FileFault} : files path = .fault fault → EntriesAt files process path []

/-- Where the value of a variable comes from: the last override of its name,
else the last entry of the file that sets it, else the process, if its value is
a text. -/
inductive Supplies (process : ProcessVariables) (entries : List EnvFile.Entry) (overrides : List String)
    (name : String) : Option String → Prop
  | override {text value : String} : LastOf (Names name) overrides text → Writes text name value →
      Supplies process entries overrides name (some value)
  | file {value : String} : (∀ text ∈ overrides, ¬ Names name text) →
      LastOf (EnvFile.Entry.Sets name) entries (.set ⟨name, value⟩) →
      Supplies process entries overrides name (some value)
  | process {value : String} : (∀ text ∈ overrides, ¬ Names name text) → (∀ entry ∈ entries, ¬ entry.Sets name) →
      process.Holds name value.toUTF8 → Supplies process entries overrides name (some value)
  | unset : (∀ text ∈ overrides, ¬ Names name text) → (∀ entry ∈ entries, ¬ entry.Sets name) →
      (∀ value : String, ¬ process.Holds name value.toUTF8) → Supplies process entries overrides name none

variable {files : Files} {environment : Environment} {process : ProcessVariables} {path name : String}
  {entries : List EnvFile.Entry} {overrides : List String} {value : Option String}

/-- The layer of the file is made of the assignments among its entries alone,
whatever the path led to and whatever else stands between them. -/
theorem EntriesAt.fileAssignments_eq (given : EntriesAt files environment path entries) :
    fileAssignments files environment path = entries.filterMap EnvFile.Entry.assignment? := by
  unfold fileAssignments
  cases given with
  | file found | missing found | locked found | unreachable found =>
    rw [found]
    rfl

/-- A path has entries exactly if it is not one that opens and then refuses
every read: there the loop over the entries never comes to an end, and no list
of them can be given. -/
theorem exists_entriesAt_iff :
    (∃ entries, EntriesAt files environment path entries) ↔ (files path).defiesReading = false := by
  constructor
  · rintro ⟨entries, given⟩
    cases given with
    | file found | missing found | locked found | unreachable found =>
      rw [found]
      rfl
  · intro reads
    cases status : files path with
    | file => exact ⟨_, .file status⟩
    | missing => exact ⟨_, .missing status⟩
    | locked => exact ⟨_, .locked status⟩
    | fault => exact ⟨_, .unreachable status⟩
    | directory | unreadable =>
      rw [status] at reads
      cases reads

/-- Where there are entries, the environment is loaded unless an override is
malformed. -/
theorem EntriesAt.outcome?_load (given : EntriesAt files environment path entries) (overrides : List String) :
    (load files environment path overrides).outcome? =
      match firstMalformed? overrides with
      | some text => some (.error (.invalidAssignment text))
      | none => some (.ok (ofSources files environment path overrides)) := by
  rw [LayeredEnvironment.outcome?_load, exists_entriesAt_iff.mp ⟨entries, given⟩]
  exact if_neg Bool.false_ne_true

/-- Dropping the entries that nobody can read, which are only noticed, keeps the
assignments and their order. -/
theorem filterMap_assignment?_filter (entries : List EnvFile.Entry) :
    (entries.filter (· ≠ .malformed)).filterMap EnvFile.Entry.assignment? =
      entries.filterMap EnvFile.Entry.assignment? := by
  rw [List.filterMap_filter]
  refine List.filterMap_congr fun entry _ => ?_
  cases entry <;> rfl

/-- The entries that are skipped have no part in the environment. -/
theorem EntriesAt.outcome?_load_congr {other : Files} {others : List EnvFile.Entry}
    (given : EntriesAt files environment path entries) (elsewhere : EntriesAt other environment path others)
    (same : entries.filter (· ≠ .malformed) = others.filter (· ≠ .malformed)) (overrides : List String) :
    (load files environment path overrides).outcome? = (load other environment path overrides).outcome? := by
  have assignments : fileAssignments files environment path = fileAssignments other environment path := by
    rw [given.fileAssignments_eq, elsewhere.fileAssignments_eq, ← filterMap_assignment?_filter entries, same,
      filterMap_assignment?_filter]
  rw [given.outcome?_load, elsewhere.outcome?_load, ofSources, ofSources, assignments]

/-- Both layers that are read as text are one list of assignments, the overrides
behind the file, so that the last one of a name counts over both. -/
theorem EntriesAt.bindings_eq (given : EntriesAt files environment path entries) :
    (ofSources files environment path overrides).bindings =
      Entries.ofList
        (pairs id (entries.filterMap EnvFile.Entry.assignment?) ++ pairs id (overrides.filterMap parse?)) := by
  rw [ofSources, given.fileAssignments_eq, Entries.ofList, pairs, pairs, ← List.map_append, List.foldl_map]
  rfl

/-- A look-up tries the overrides from their end, then the entries of the file
from their end, then the variables of the process. -/
theorem EntriesAt.get?_eq (given : EntriesAt files environment path entries) (name : String) :
    (ofSources files environment path overrides).get? name =
      ((Entries.get? (pairs id (overrides.filterMap parse?)).reverse name).or
        (Entries.get? (pairs id (entries.filterMap EnvFile.Entry.assignment?)).reverse name)).or
          (environment name) := by
  rw [get?, given.bindings_eq, Entries.get?_ofList, List.reverse_append, Entries.get?_append,
    Option.orElse_eq_orElse, Option.orElse_eq_or]
  rfl

/-- A name that no override gives is not found among them, which is where a
look-up passes on to the file. -/
theorem get?_overrides_eq_none (absent : ∀ text ∈ overrides, ¬ Names name text) :
    Entries.get? (pairs id (overrides.filterMap parse?)).reverse name = none :=
  get?_reverse_pairs_eq_none fun text member => mt names_iff.mpr (absent text member)

theorem sets_iff {entry : EnvFile.Entry} : entry.Sets name ↔ ∃ value, entry.assignment? = some ⟨name, value⟩ :=
  exists_congr fun _ => EnvFile.Entry.assignment?_eq_some_iff.symm

/-- A name that no entry of the file sets is not found among them, which is
where a look-up passes on to the variables of the process. -/
theorem get?_entries_eq_none (absent : ∀ entry ∈ entries, ¬ entry.Sets name) :
    Entries.get? (pairs id (entries.filterMap EnvFile.Entry.assignment?)).reverse name = none :=
  get?_reverse_pairs_eq_none fun entry member => mt sets_iff.mpr (absent entry member)

/-- Every rule of the relation describes a look-up correctly, one layer for
each: from the overrides at the top to a name that no layer has. -/
theorem Supplies.get?_eq (supplies : Supplies process entries overrides name value)
    (given : EntriesAt files process.environment path entries) :
    (ofSources files process.environment path overrides).get? name = value := by
  rw [given.get?_eq]
  cases supplies with
  | override last writes =>
    rw [get?_reverse_pairs_of_lastOf ((lastOf_congr fun _ => names_iff).mp last) (parse?_eq_some_iff.mpr writes)]
    rfl
  | file absent last =>
    rw [get?_overrides_eq_none absent, Option.none_or,
      get?_reverse_pairs_of_lastOf ((lastOf_congr fun _ => sets_iff).mp last)
        (EnvFile.Entry.assignment?_eq_some_iff.mpr rfl)]
    rfl
  | process absent unset holds =>
    rw [get?_overrides_eq_none absent, get?_entries_eq_none unset,
      ProcessVariables.environment_eq_some_iff.mpr holds]
    rfl
  | unset absent unset missing =>
    rw [get?_overrides_eq_none absent, get?_entries_eq_none unset, ProcessVariables.environment_eq_none_iff.mpr missing]
    rfl

/-- Some rule applies to every name. Together with `Supplies.get?_eq` this makes
the relation the look-up itself: nothing is supplied in two ways and nothing is
left open. -/
theorem exists_supplies (process : ProcessVariables) (entries : List EnvFile.Entry) (overrides : List String)
    (name : String) : ∃ value, Supplies process entries overrides name value := by
  by_cases overridden : ∃ text ∈ overrides, Names name text
  · obtain ⟨text, last⟩ := exists_lastOf overridden
    obtain ⟨value, writes⟩ := last.holds
    exact ⟨_, .override last writes⟩
  · have absent : ∀ text ∈ overrides, ¬ Names name text := fun text member names => overridden ⟨text, member, names⟩
    by_cases inFile : ∃ entry ∈ entries, entry.Sets name
    · obtain ⟨entry, last⟩ := exists_lastOf inFile
      obtain ⟨value, rfl⟩ := last.holds
      exact ⟨_, .file absent last⟩
    · have unset : ∀ entry ∈ entries, ¬ entry.Sets name := fun entry member sets => inFile ⟨entry, member, sets⟩
      cases inProcess : process.environment name with
      | some value => exact ⟨_, .process absent unset (ProcessVariables.environment_eq_some_iff.mp inProcess)⟩
      | none => exact ⟨_, .unset absent unset (ProcessVariables.environment_eq_none_iff.mp inProcess)⟩

theorem EntriesAt.get?_eq_iff (given : EntriesAt files process.environment path entries) :
    (ofSources files process.environment path overrides).get? name = value ↔
      Supplies process entries overrides name value := by
  refine ⟨?_, fun supplies => supplies.get?_eq given⟩
  rintro rfl
  obtain ⟨value, supplies⟩ := exists_supplies process entries overrides name
  rwa [supplies.get?_eq given]

/-- There are as many variables as there are names in the file and the
overrides. -/
theorem EntriesAt.length_bindings (given : EntriesAt files environment path entries) {names : Finset String}
    (all : ∀ name, name ∈ names ↔ (∃ text ∈ overrides, Names name text) ∨ ∃ entry ∈ entries, entry.Sets name) :
    (ofSources files environment path overrides).bindings.length = names.card := by
  have same : names = (ofSources files environment path overrides).bindings.keys.toFinset := by
    ext name
    rw [all, List.mem_toFinset, given.bindings_eq, Entries.mem_keys_ofList, List.map_append, List.mem_append, or_comm]
    refine or_congr ?_ ?_
    · exact (exists_congr fun entry => and_congr_right fun _ => sets_iff).trans mem_keys_pairs.symm
    · exact (exists_congr fun text => and_congr_right fun _ => names_iff).trans mem_keys_pairs.symm
  have distinct : (ofSources files environment path overrides).bindings.keys.Nodup := by
    rw [given.bindings_eq]
    exact Entries.nodup_keys_ofList _
  rw [same, List.toFinset_card_of_nodup distinct, Entries.keys, List.length_map]

/-- The environment fails with the first override that is no `KEY=VALUE`,
whatever the file has. Otherwise each variable has its value from where
`Supplies` says, and the variables of its own are as many as there are names in
the overrides and the file. An entry that cannot be read counts as if it were
not there, and a file that is missing as an empty one. A directory in the place
of the file is left out by `EntriesAt`, since loading never comes to an end
there. -/
theorem load_supplies (process : ProcessVariables) (given : EntriesAt files process.environment path entries)
    (overrides : List String) :
    (∀ text, FirstMalformed overrides text →
      (load files process.environment path overrides).outcome? = some (.error (.invalidAssignment text))) ∧
    ((∀ text ∈ overrides, ¬ Malformed text) →
      ∃ layers, (load files process.environment path overrides).outcome? = some (.ok layers) ∧
        (∀ name value, layers.get? name = value ↔ Supplies process entries overrides name value) ∧
        ∀ names : Finset String,
          (∀ name, name ∈ names ↔ (∃ text ∈ overrides, Names name text) ∨ ∃ entry ∈ entries, entry.Sets name) →
          layers.bindings.length = names.card) ∧
    (∀ other others, EntriesAt other process.environment path others →
      entries.filter (· ≠ .malformed) = others.filter (· ≠ .malformed) →
      (load files process.environment path overrides).outcome? =
        (load other process.environment path overrides).outcome?) ∧
    (files path = .missing → ∀ other : Files, other path = .file .empty →
      (load files process.environment path overrides).outcome? =
        (load other process.environment path overrides).outcome?) := by
  refine ⟨fun text first => ?_, fun wellFormed => ?_, fun other others elsewhere same => ?_,
    fun absent other empty => ?_⟩
  · rw [given.outcome?_load, firstMalformed?_eq_some_iff.mpr first]
  · refine ⟨_, ?_, fun _ _ => given.get?_eq_iff, fun _ all => given.length_bindings all⟩
    rw [given.outcome?_load, firstMalformed?_eq_none_iff.mpr wellFormed]
  · exact given.outcome?_load_congr elsewhere same overrides
  · have empty : EntriesAt other process.environment path [] := EnvFile.read_empty _ ▸ .file empty
    exact (EntriesAt.missing absent).outcome?_load_congr empty rfl overrides

/-- A file with a line that is no entry between two values of one name. -/
def variablesFile : Files
  | ".env" => .file "A=1\n-\nA=2\n".toUTF8
  | _ => .missing

/-- Variables of a process, the last one with a value that is no text. -/
def someVariables : ProcessVariables := .ofPairs [("B", "p".toUTF8), ("C", "q".toUTF8), ("D", ⟨#[255]⟩)]

theorem entriesAt_variablesFile : EntriesAt variablesFile someVariables.environment ".env"
    [.set ⟨"A", "1"⟩, .malformed, .set ⟨"A", "2"⟩] := by
  have read : EnvFile.read someVariables.environment "A=1\n-\nA=2\n".toUTF8 =
      [.set ⟨"A", "1"⟩, .malformed, .set ⟨"A", "2"⟩] := by cbv
  exact read ▸ .file rfl

/-- An override with an empty value hides the variable of the process, and an
entry that cannot be read hides nothing. -/
theorem load_supplies_someVariables :
    (load variablesFile someVariables.environment ".env" ["B", "C=1"]).outcome? =
        some (.error (.invalidAssignment "B")) ∧
      ∃ layers, (load variablesFile someVariables.environment ".env" [" B ="]).outcome? = some (.ok layers) ∧
        layers.get? "A" = some "2" ∧ layers.get? "B" = some "" ∧ layers.get? "C" = some "q" ∧
        layers.get? "D" = none := by
  have first : FirstMalformed ["B", "C=1"] "B" := firstMalformed?_eq_some_iff.mp (by decide)
  refine ⟨(load_supplies someVariables entriesAt_variablesFile _).1 "B" first, ?_⟩
  obtain ⟨layers, success, supplied, _⟩ := (load_supplies someVariables entriesAt_variablesFile [" B ="]).2.1
    (firstMalformed?_eq_none_iff.mp (by decide))
  have parsed : parse? " B =" = some ⟨"B", ""⟩ := by decide
  have others : ∀ name, "B" ≠ name → ∀ text ∈ [" B ="], ¬ Names name text := by
    rintro name different text (_ | ⟨_, ⟨⟩⟩)
    exact not_names_of_parse? parsed different
  have unset : ∀ name, "A" ≠ name →
      ∀ entry ∈ [EnvFile.Entry.set ⟨"A", "1"⟩, .malformed, .set ⟨"A", "2"⟩], ¬ entry.Sets name := by
    rintro name different entry member ⟨value, rfl⟩
    simp [Ne.symm different] at member
  have writes : Writes " B =" "B" "" := parse?_eq_some_iff.mp parsed
  refine ⟨layers, success, (supplied _ _).mpr (.file (others "A" (by decide)) ?_),
    (supplied _ _).mpr (.override ⟨[], [], rfl, ⟨"", writes⟩, nofun⟩ writes),
    (supplied _ _).mpr (.process (others "C" (by decide)) (unset "C" (by decide)) ?_),
    (supplied _ _).mpr (.unset (others "D" (by decide)) (unset "D" (by decide)) ?_)⟩
  · exact ⟨[.set ⟨"A", "1"⟩, .malformed], [], rfl, ⟨"2", rfl⟩, nofun⟩
  · exact ProcessVariables.environment_eq_some_iff.mp (by cbv)
  · exact ProcessVariables.environment_eq_none_iff.mp (by cbv)

end LayeredEnvironment

end Overlay
