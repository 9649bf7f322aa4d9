import Mathlib
import Overlay.Proofs.DistinctNames
import Overlay.Proofs.LoadVerdict

namespace Overlay

theorem Entries.mem_keys_filter_iff {α : Type} {entries : Entries α} (distinct : entries.keys.Nodup)
    {p : String × α → Bool} {name : String} :
    name ∈ keys (entries.filter p) ↔ ∃ value, entries.get? name = some value ∧ p (name, value) = true := by
  constructor
  · intro listed
    obtain ⟨⟨_, value⟩, member, rfl⟩ := List.mem_map.mp listed
    obtain ⟨inEntries, holds⟩ := List.mem_filter.mp member
    exact ⟨value, get?_of_mem distinct inEntries, holds⟩
  · rintro ⟨value, found, holds⟩
    exact List.mem_map_of_mem (f := Prod.fst) (List.mem_filter.mpr ⟨mem_of_get? found, holds⟩)

variable {options : Options} {files : Files} {process : Environment}

/-- The baseline of every load has distinct names at all levels of its values.
-/
theorem Options.Prepared.namesDistinct {baseline : Arguments} (prepared : options.Prepared files process baseline) :
    (Value.mapping baseline).namesDistinct = true := by
  obtain ⟨defaults, verdict, rfl⟩ := prepared.defaults
  refine Baseline.namesDistinct_assigned ?_ options.assignments
  unfold DefaultsVerdict at verdict
  split at verdict
  · cases verdict
    rfl
  · exact verdict.namesDistinct

namespace Merge

/-- The file gives a value for the key of an entry of the baseline that differs
from its value. -/
def changes (file : Arguments) (entry : String × Value) : Bool :=
  (given? file entry.1).any fun new => !entry.2.equal new

/-- The keys that a file changes, in the order of the baseline. -/
def changedKeys (file baseline : Arguments) : List String := Entries.keys (baseline.filter (changes file))

/-- What is left of an entry of the baseline when a file is merged differs from
what it was. -/
def differs (file : Arguments) (entry : String × Value) : Bool :=
  !entry.2.equal ((given? file entry.1).getD entry.2)

variable {file baseline : Arguments}

/-- Where the file gives no value, an entry differs from itself if a NaN is in
it. -/
theorem differs_iff {key : String} {old : Value} (distinct : old.namesDistinct = true) :
    differs file (key, old) = true ↔ changes file (key, old) = true ∨ given? file key = none ∧ old.hasNaN = true := by
  cases given : given? file key with
  | some new => simp [differs, changes, given]
  | none =>
    have self : old.equal old = false ↔ old.hasNaN = true := by
      rw [← Bool.not_eq_true, Value.equal_self_iff distinct, Bool.not_eq_false]
    simp [differs, changes, given, self]

/-- The keys that are reported as overridden are those whose entry differs from
what the file gives, in the order of the baseline. -/
theorem overridden_overlay (distinct : baseline.keys.Nodup) :
    (Loaded.mk baseline (overlay file baseline)).overridden = Entries.keys (baseline.filter (differs file)) := by
  have same : ∀ entry ∈ baseline,
      (!(baseline.get? entry.1).any (·.equal ((given? file entry.1).getD entry.2))) = differs file entry := by
    intro entry member
    rw [Entries.get?_of_mem distinct member, Option.any_some, differs]
  rw [← List.filter_congr same, Loaded.overridden, overlay, List.filter_map, List.map_map]
  rfl

/-- The entries that differ are those that the file changes exactly if no other
one has a NaN in it. -/
theorem keys_filter_differs_iff (distinct : (Value.mapping baseline).namesDistinct = true) :
    Entries.keys (baseline.filter (differs file)) = changedKeys file baseline ↔
      ∀ key old, baseline.get? key = some old → given? file key = none → old.hasNaN = false := by
  obtain ⟨keys, inner⟩ := Value.namesDistinct_mapping_iff.mp distinct
  constructor
  · intro same key old found absent
    refine Bool.eq_false_iff.mpr fun nan => ?_
    have member := Entries.mem_of_get? found
    have differs := (differs_iff (inner _ member)).mpr (Or.inr ⟨absent, nan⟩)
    have listed : key ∈ changedKeys file baseline :=
      same ▸ (Entries.mem_keys_filter_iff keys).mpr ⟨old, found, differs⟩
    obtain ⟨_, _, changed⟩ := (Entries.mem_keys_filter_iff keys).mp listed
    rw [changes, absent] at changed
    cases changed
  · intro clean
    refine congrArg Entries.keys (List.filter_congr fun entry member => ?_)
    rw [Bool.eq_iff_iff, differs_iff (inner entry member)]
    have found := Entries.get?_of_mem keys member
    constructor
    · rintro (changed | ⟨absent, nan⟩)
      · exact changed
      · rw [clean _ _ found absent] at nan
        cases nan
    · exact Or.inl

end Merge

namespace Options

/-- A load that succeeds reports keys of the baseline in their order, none of
them twice: those for which the configuration gives a value that differs, and
those that it leaves alone and whose value has a NaN in it. So it reports
exactly what the configuration changes if and only if there are none of the
second sort. -/
theorem overridden_eq_changedKeys_iff {loaded : Loaded}
    (success : (options.load files process).outcome? = some (.ok loaded)) :
    ∃ file, (readArguments files (options.environment files process) options.config).outcome = .ok file ∧
      loaded.overridden.Sublist loaded.baseline.keys ∧ loaded.overridden.Nodup ∧
      (∀ key, key ∈ loaded.overridden ↔ ∃ old, loaded.baseline.get? key = some old ∧
        ((∃ new, Merge.given? file key = some new ∧ old.equal new = false) ∨
          Merge.given? file key = none ∧ old.hasNaN = true)) ∧
      (loaded.overridden = Merge.changedKeys file loaded.baseline ↔
        ∀ key old, loaded.baseline.get? key = some old → Merge.given? file key = none → old.hasNaN = false) := by
  obtain ⟨notices, ended⟩ := Course.outcome?_eq_some_iff.mp success
  have ends := ((settles_of_ends ended).outcome_iff _).mp rfl
  cases ends with
  | @merged baseline file merged prepared verdict _ _ merges =>
    have distinct := prepared.namesDistinct
    obtain ⟨keys, inner⟩ := Value.namesDistinct_mapping_iff.mp distinct
    obtain ⟨_, _, rfl⟩ := outcome_merge_eq_ok_iff.mp merges
    have listed : (Loaded.mk baseline (Merge.overlay file baseline)).overridden = _ := Merge.overridden_overlay keys
    have sublist : (Loaded.mk baseline (Merge.overlay file baseline)).overridden.Sublist baseline.keys :=
      listed ▸ List.filter_sublist.map Prod.fst
    refine ⟨file, verdict.outcome_eq, sublist, keys.sublist sublist, fun key => ?_, ?_⟩
    · rw [listed, Entries.mem_keys_filter_iff keys]
      refine exists_congr fun old => and_congr_right fun found => ?_
      rw [Merge.differs_iff (inner _ (Entries.mem_of_get? found)), Merge.changes, Option.any_eq_true]
      simp only [Bool.not_eq_true']
    · rw [listed, Merge.keys_filter_differs_iff distinct]

/-- A single argument to merge an empty configuration over. -/
def single (assignment : String) : Options := { bare "c.yaml" with assignments := [assignment] }

def emptyFile : Files
  | "c.yaml" => .file "".toUTF8
  | _ => .missing

def loadedNaN : Loaded := ⟨[("a", .float .nan)], [("a", .float .nan)]⟩

theorem outcome?_load_emptyFile :
    ((single "a=.nan").load emptyFile fun _ => none).outcome? = some (.ok loadedNaN) := by cbv

theorem outcome_readArguments_emptyFile :
    (readArguments emptyFile ((single "a=.nan").environment emptyFile fun _ => none) "c.yaml").outcome =
      .ok [] := by cbv

theorem overridden_loadedNaN_ne :
    ((single "a=.nan").load emptyFile fun _ => none).outcome? = some (.ok loadedNaN) ∧
      loadedNaN.overridden ≠ Merge.changedKeys [] loadedNaN.baseline := by
  obtain ⟨file, read, _, _, _, exactly⟩ := overridden_eq_changedKeys_iff outcome?_load_emptyFile
  cases outcome_readArguments_emptyFile.symm.trans read
  refine ⟨outcome?_load_emptyFile, fun same => ?_⟩
  have clean := exactly.mp same "a" (.float .nan) rfl rfl
  exact absurd clean (by decide)

theorem not_overridden_eq_changedKeys : ¬ ∀ (options : Options) (files : Files) (process : Environment)
    (loaded : Loaded) (file : Arguments), (options.load files process).outcome? = some (.ok loaded) →
    (readArguments files (options.environment files process) options.config).outcome = .ok file →
    loaded.overridden = Merge.changedKeys file loaded.baseline := by
  intro exactly
  have same := exactly _ _ _ _ _ outcome?_load_emptyFile outcome_readArguments_emptyFile
  have listed : loadedNaN.overridden = ["a"] := by cbv
  cases listed.symm.trans same

end Options

end Overlay
