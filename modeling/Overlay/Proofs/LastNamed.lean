import Overlay.Proofs.GivenValues

namespace Overlay.Loading

open Conversion
open Yaml (Tree)

variable {env : Environment}

/-- The last of the entries whose keys get the name has this value. -/
def LastNamed (env : Environment) (entries : List (Tree × Tree)) (name : String) (item : Tree) : Prop :=
  ∃ before key after, entries = before ++ (key, item) :: after ∧ (keyName env key).outcome = .ok name ∧
    ∀ later ∈ after, (keyName env later.1).outcome ≠ .ok name

/-- The names of the pairs are those of the entries, in the same order. -/
theorem named_of_gives {entries : List (Tree × Tree)} {pairs : List (String × Value)}
    (each : List.Forall₂ (GivesPair env) entries pairs) : Named env entries (Entries.keys pairs) :=
  named_keys (fun _ _ => And.left) each

/-- A name is there if the key of some entry becomes it. -/
theorem mem_keys_iff_named {entries : List (Tree × Tree)} {pairs : List (String × Value)}
    (each : List.Forall₂ (GivesPair env) entries pairs) {name : String} :
    name ∈ Entries.keys pairs ↔ ∃ entry ∈ entries, (keyName env entry.1).outcome = .ok name :=
  (named_of_gives each).mem_iff

/-- Where every entry gets a name and a value of its own, the value of the last
entry of a name stands under it. -/
theorem get?_ofList_iff_last {r : Tree → Value → Prop}
    (functional : ∀ {item first second}, r item first → r item second → first = second)
    {entries : List (Tree × Tree)} {pairs : List (String × Value)}
    (each : List.Forall₂ (fun entry pair => (keyName env entry.1).outcome = .ok pair.1 ∧ r entry.2 pair.2)
      entries pairs)
    {name : String} {value : Value} :
    (Entries.ofList pairs).get? name = some value ↔ ∃ item, LastNamed env entries name item ∧ r item value := by
  rw [Entries.get?_ofList_eq_some_iff]
  constructor
  · intro split
    obtain ⟨front, back, rfl, absent⟩ := split
    obtain ⟨before, behind, rfl, _, others⟩ := forall₂_append_right each
    obtain ⟨⟨key, item⟩, after, here, later, rfl⟩ := List.forall₂_cons_right_iff.mp others
    have laterNames := named_keys (fun _ _ => And.left) later
    refine ⟨item, ⟨before, key, after, rfl, here.1, fun entry inAfter named => ?_⟩, here.2⟩
    exact absent (laterNames.mem_iff.mpr ⟨entry, inAfter, named⟩)
  · intro last
    obtain ⟨item, ⟨before, key, after, rfl, named, noLater⟩, holds⟩ := last
    obtain ⟨front, behind, rfl, _, others⟩ := forall₂_append_left each
    obtain ⟨⟨other, found⟩, back, here, later, rfl⟩ := List.forall₂_cons_left_iff.mp others
    cases here.1.symm.trans named
    cases functional here.2 holds
    have laterNames := named_keys (fun _ _ => And.left) later
    refine ⟨front, back, rfl, fun again => ?_⟩
    obtain ⟨entry, inAfter, namedAgain⟩ := laterNames.mem_iff.mp again
    exact noLater entry inAfter namedAgain

/-- Under a name stands what the last entry of that name gives. -/
theorem get?_ofList_iff_lastNamed {entries : List (Tree × Tree)} {pairs : List (String × Value)}
    (each : List.Forall₂ (GivesPair env) entries pairs) {name : String} {value : Value} :
    (Entries.ofList pairs).get? name = some value ↔
      ∃ item, LastNamed env entries name item ∧ Gives env item value :=
  get?_ofList_iff_last (r := Gives env) Gives.unique each

/-- The last item of a name belongs to one of the entries. -/
theorem LastNamed.mem {entries : List (Tree × Tree)} {name : String} {item : Tree}
    (last : LastNamed env entries name item) : ∃ key, (key, item) ∈ entries := by
  obtain ⟨before, key, after, rfl, _⟩ := last
  exact ⟨key, List.mem_append_right before List.mem_cons_self⟩

/-- What is found under a name is given by this item. -/
theorem LastNamed.gives {entries : List (Tree × Tree)} {pairs : List (String × Value)} {name : String} {item : Tree}
    {value : Value} (last : LastNamed env entries name item) (each : List.Forall₂ (GivesPair env) entries pairs)
    (atName : (Entries.ofList pairs).get? name = some value) : Gives env item value := by
  obtain ⟨key, member⟩ := last.mem
  obtain ⟨pair, _, _, gives⟩ := exists_right_of_forall₂ each member
  have found := (get?_ofList_iff_lastNamed each).mpr ⟨item, last, gives⟩
  cases found.symm.trans atName
  exact gives

/-- If a name is given at all, there is a last entry that gives it. -/
theorem exists_lastNamed {entries : List (Tree × Tree)} {name : String}
    (named : ∃ entry ∈ entries, (keyName env entry.1).outcome = .ok name) :
    ∃ item, LastNamed env entries name item := by
  induction entries with
  | nil =>
    obtain ⟨_, member, _⟩ := named
    cases member
  | cons entry rest ih =>
    by_cases later : ∃ other ∈ rest, (keyName env other.1).outcome = .ok name
    · obtain ⟨item, before, key, after, rfl, atKey, noLater⟩ := ih later
      exact ⟨item, entry :: before, key, after, rfl, atKey, noLater⟩
    · obtain ⟨found, member, atFound⟩ := named
      have first : found = entry := by
        rcases List.mem_cons.mp member with same | inRest
        · exact same
        · exact absurd ⟨found, inRest, atFound⟩ later
      subst first
      exact ⟨found.2, [], found.1, rest, rfl, atFound, fun other inRest again => later ⟨other, inRest, again⟩⟩

/-- More entries in front do not change which one is last. -/
theorem LastNamed.append_left {front back : List (Tree × Tree)} {name : String} {item : Tree}
    (last : LastNamed env back name item) : LastNamed env (front ++ back) name item := by
  obtain ⟨before, key, after, rfl, named, noLater⟩ := last
  exact ⟨front ++ before, key, after, (List.append_assoc ..).symm, named, noLater⟩

/-- Nor do entries behind, as long as none of them has the name. -/
theorem LastNamed.append_right {front back : List (Tree × Tree)} {name : String} {item : Tree}
    (last : LastNamed env front name item) (absent : ∀ entry ∈ back, (keyName env entry.1).outcome ≠ .ok name) :
    LastNamed env (front ++ back) name item := by
  obtain ⟨before, key, after, rfl, named, noLater⟩ := last
  refine ⟨before, key, after ++ back, by simp, named, fun entry member => ?_⟩
  rcases List.mem_append.mp member with inFront | inBack
  · exact noLater entry inFront
  · exact absent entry inBack

end Overlay.Loading
