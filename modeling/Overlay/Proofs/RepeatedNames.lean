import Overlay.Proofs.LastNamed
import Overlay.Proofs.MemberInduction
import Overlay.Proofs.NamesApart
import Overlay.Proofs.RelatedArguments
import Overlay.Proofs.SameVariables

namespace Overlay

open Yaml (Tree)

/-- A part of a value, the value itself among them. -/
inductive Value.PartOf (piece : Value) : Value → Prop
  | whole : PartOf piece piece
  | item {items : List Value} {item : Value} : item ∈ items → PartOf piece item → PartOf piece (.sequence items)
  | value {entries : Arguments} {name : String} {value : Value} : (name, value) ∈ entries → PartOf piece value →
      PartOf piece (.mapping entries)

namespace Conversion

open Loading (LastNamed)

variable {env : Environment}

/-- The arguments that the entries of a mapping come to: each name that a key
gets, in the place of the first key that gets it and with the value of the last
one. -/
structure Settles (env : Environment) (entries : List (Tree × Tree)) (arguments : Arguments) : Prop where
  keys : ∃ names, Named env entries names ∧ arguments.keys = names.eraseDups
  distinct : arguments.keys.Nodup
  last : ∀ name found, arguments.get? name = some found ↔
    ∃ item, LastNamed env entries name item ∧ (value env item).outcome = .ok found

/-- A mapping settles to one map: its keys and their look-ups determine it,
order included. -/
theorem Settles.unique {entries : List (Tree × Tree)} {first second : Arguments} (settles : Settles env entries first)
    (again : Settles env entries second) : first = second := by
  obtain ⟨names, named, keys⟩ := settles.keys
  obtain ⟨others, namedAgain, otherKeys⟩ := again.keys
  cases named.unique namedAgain
  refine Entries.eq_of_get? (keys.trans otherKeys.symm) settles.distinct fun name found atName => ?_
  exact (again.last name found).mpr ((settles.last name found).mp atName)

/-- Inserting the converted entries one by one is a map to which the mapping
settles. -/
theorem settles_ofList {entries : List (Tree × Tree)} {pairs : List (String × Value)}
    (each : List.Forall₂ (Converts env) entries pairs) : Settles env entries (Entries.ofList pairs) where
  keys := ⟨_, named_of_converts each, Entries.keys_ofList pairs⟩
  distinct := Entries.nodup_keys_ofList pairs
  last _ _ := Loading.get?_ofList_iff_last (r := fun item found => (value env item).outcome = .ok found)
    (fun here there => Except.ok.inj (here.symm.trans there)) each

/-- A part of a tree that is no key converts if the whole does. -/
theorem converts_of_partOf {piece tree : Tree} {result : Value} (part : piece.PartOf tree)
    (converts : (value env tree).outcome = .ok result) : ∃ found, (value env piece).outcome = .ok found := by
  induction part generalizing result with
  | whole => exact ⟨result, converts⟩
  | item member _ ih =>
    obtain ⟨results, rfl, each⟩ := value_sequence_eq_ok_iff.mp converts
    obtain ⟨_, _, here⟩ := exists_right_of_forall₂ each member
    exact ih here
  | value member _ ih =>
    obtain ⟨pairs, rfl, each⟩ := value_mapping_eq_ok_iff.mp converts
    obtain ⟨_, _, here⟩ := exists_right_of_forall₂ each member
    exact ih here.2
  | content _ ih => exact ih (by rwa [value] at converts)

/-- A mapping inside the value of a tree is what a mapping of the tree has come
to there. -/
theorem exists_place_of_partOf {tree : Tree} {result : Value} {found : Arguments}
    (part : (Value.mapping found).PartOf result) (converts : (value env tree).outcome = .ok result) :
    ∃ inner, Place env (.mapping inner) (.mapping found) tree result := by
  -- on the tree, since tags stand between its parts and not between those of the value
  induction tree using Tree.memberInduction generalizing result with
  | sequence items ih =>
    obtain ⟨results, rfl, each⟩ := value_sequence_eq_ok_iff.mp converts
    cases part with
    | item member inside =>
      obtain ⟨i, item, atItem, atValue⟩ := exists_index_of_forall₂ each member
      obtain ⟨inner, place⟩ := ih item (List.mem_of_getElem? atItem) inside (related_of_getElem? each atItem atValue)
      exact ⟨inner, .item atItem atValue place⟩
  | mapping entries ih =>
    obtain ⟨pairs, rfl, each⟩ := value_mapping_eq_ok_iff.mp converts
    cases part with
    | whole => exact ⟨entries, .whole⟩
    | @value _ name result member inside =>
      have atName := Entries.get?_of_mem (Entries.nodup_keys_ofList pairs) member
      obtain ⟨entry, inEntries, here⟩ := exists_entry_of_get? each atName
      obtain ⟨inner, place⟩ := (ih entry inEntries).2 inside here.2
      exact ⟨inner, .entry inEntries here atName place⟩
  | tagged _ _ ih =>
    rw [value] at converts
    obtain ⟨inner, place⟩ := ih part converts
    exact ⟨inner, .content place⟩
  | string text =>
    rw [value, Run.outcome_bind_eq_ok_iff] at converts
    obtain ⟨_, _, same⟩ := converts
    cases same
    cases part
  | integer n =>
    rw [value] at converts
    split at converts <;> cases converts
    cases part
  | _ =>
    cases converts
    cases part

/-- Where several keys get the same name, the place of the first and the value
of the last stay, and nothing else is in the arguments. So it is with every
mapping inside, and there are no mappings in the value but those that come of
mappings of the tree. -/
theorem value_mapping_settles {entries : List (Tree × Tree)} {result : Value}
    (converts : (value env (.mapping entries)).outcome = .ok result) :
    (∃ arguments, result = .mapping arguments ∧ Settles env entries arguments ∧
      ∀ other, Settles env entries other → other = arguments) ∧
    (∀ inner, (Tree.mapping inner).PartOf (.mapping entries) →
      ∃ found, (value env (.mapping inner)).outcome = .ok (.mapping found) ∧ Settles env inner found) ∧
    ∀ found, (Value.mapping found).PartOf result →
      ∃ inner, Place env (.mapping inner) (.mapping found) (.mapping entries) result ∧ Settles env inner found := by
  have settles {inner : List (Tree × Tree)} {whole : Value}
      (success : (value env (.mapping inner)).outcome = .ok whole) :
      ∃ found, whole = .mapping found ∧ Settles env inner found := by
    obtain ⟨pairs, rfl, each⟩ := value_mapping_eq_ok_iff.mp success
    exact ⟨_, rfl, settles_ofList each⟩
  refine ⟨?_, fun inner part => ?_, fun found part => ?_⟩
  · obtain ⟨arguments, rfl, here⟩ := settles converts
    exact ⟨arguments, rfl, here, fun _ again => again.unique here⟩
  · obtain ⟨_, success⟩ := converts_of_partOf part converts
    obtain ⟨found, rfl, here⟩ := settles success
    exact ⟨found, success, here⟩
  · obtain ⟨inner, place⟩ := exists_place_of_partOf part converts
    obtain ⟨_, same, here⟩ := settles (place.converts converts)
    cases same
    exact ⟨inner, place, here⟩

/-- A number and a string that are the same name. -/
def innerRepeat : List (Tree × Tree) := [(.integer 1, .null), (.string "1", .bool false)]

/-- A tagged key with a variable and a string that get the same name, around a
mapping in which a name is repeated. -/
def outerRepeat : List (Tree × Tree) :=
  [(.tagged "t" (.string "$\x7bA\x7d"), .integer 1), (.bool true, .mapping innerRepeat), (.string "x", .null)]

theorem value_mapping_settles_outerRepeat :
    (value (Environment.single "A" "x") (.mapping outerRepeat)).outcome =
        .ok (.mapping [("x", .null), ("true", .mapping [("1", .bool false)])]) ∧
      Settles (Environment.single "A" "x") outerRepeat [("x", .null), ("true", .mapping [("1", .bool false)])] ∧
      Settles (Environment.single "A" "x") innerRepeat [("1", .bool false)] := by
  have converts : (value (Environment.single "A" "x") (.mapping outerRepeat)).outcome =
      .ok (.mapping [("x", .null), ("true", .mapping [("1", .bool false)])]) := by cbv
  obtain ⟨⟨_, same, settles, _⟩, inside, _⟩ := value_mapping_settles converts
  cases same
  have part : (Tree.mapping innerRepeat).PartOf (.mapping outerRepeat) :=
    .value (List.mem_cons_of_mem _ List.mem_cons_self) .whole
  have innerConverts : (value (Environment.single "A" "x") (.mapping innerRepeat)).outcome =
      .ok (.mapping [("1", .bool false)]) := by cbv
  obtain ⟨_, success, settlesInside⟩ := inside innerRepeat part
  cases innerConverts.symm.trans success
  exact ⟨converts, settles, settlesInside⟩

end Conversion

end Overlay
