import Overlay.Proofs.WellFormedTrees

namespace Overlay.Yaml

/-- The document of a text as it is written; nothing stands for a text without
one. -/
def Node.ofText? (text : String) : Except Fault (Option Node) := do Node.ofTokens? (← Token.ofText text.toList)

/-- A node is composed to a tree, after whatever aliases were followed. -/
def Composed (anchors : Anchors) (depth : Nat) (node : Node) (tree : Tree) : Prop :=
  ∃ before after, composeNode anchors depth node before = .ok (tree, after)

variable {anchors : Anchors} {depth : Nat} {properties : Properties}

theorem composeNode_scalar (plain : Bool) (text : String) (count : Nat) :
    composeNode anchors depth (.scalar properties plain text) count =
      (Tree.ofScalar properties.tag plain text).map fun tree => (tree, count) := by
  have content (inner : Option (Node → Composer Tree)) : composeContent inner (.scalar properties plain text) count =
      (Tree.ofScalar properties.tag plain text).map fun tree => (tree, count) := by
    rw [composeContent]
    cases Tree.ofScalar properties.tag plain text <;> rfl
  cases depth with
  | zero => exact content none
  | succ depth => exact content (some (composeNode anchors depth))

/-- A scalar is composed by itself, at any depth and with any anchors. -/
theorem composed_scalar_iff {plain : Bool} {text : String} {tree : Tree} :
    Composed anchors depth (.scalar properties plain text) tree ↔
      Tree.ofScalar properties.tag plain text = .ok tree := by
  simp only [Composed, composeNode_scalar]
  constructor
  · rintro ⟨before, after, success⟩
    obtain ⟨found, read, same⟩ := exceptMap_eq_ok_iff.mp success
    cases same
    exact read
  · intro read
    exact ⟨0, 0, by rw [read]; rfl⟩

/-- The loop over the entries adds one for each, in their order, behind those
that are there. The repeated keys that it refuses have no part in what it adds.
-/
theorem composeEntries_eq_ok {entries : List (Node × Node)} {earlier result : List (Tree × Tree)} {before after : Nat}
    (success : composeEntries (composeNode anchors depth) earlier entries before = .ok (result, after)) :
    ∃ added, result = earlier ++ added ∧ List.Forall₂ (fun entry tree =>
      Composed anchors depth entry.1 tree.1 ∧ Composed anchors depth entry.2 tree.2) entries added := by
  induction entries generalizing earlier before with
  | nil =>
    cases success
    exact ⟨[], (List.append_nil _).symm, .nil⟩
  | cons entry rest ih =>
    obtain ⟨key, value⟩ := entry
    rw [composeEntries] at success
    obtain ⟨⟨keyTree, between⟩, composedKey, success⟩ := exceptBind_eq_ok_iff.mp success
    cases repeated : Tree.hasKey earlier keyTree with
    | true =>
      simp only [repeated] at success
      cases success
    | false =>
      simp only [repeated] at success
      obtain ⟨⟨valueTree, behind⟩, composedValue, success⟩ := exceptBind_eq_ok_iff.mp success
      obtain ⟨added, rfl, each⟩ := ih success
      refine ⟨(keyTree, valueTree) :: added, List.append_assoc .., .cons ?_ each⟩
      exact ⟨⟨_, _, composedKey⟩, ⟨_, _, composedValue⟩⟩

/-- A mapping is composed entry by entry, each of its keys and items one level
deeper. This is the step from a node to what stands in it. -/
theorem Composed.mapping {entries : List (Node × Node)} {tree : Tree}
    (composed : Composed anchors (depth + 1) (.mapping properties entries) tree) :
    ∃ trees, tree = Tree.withTag properties.tag (.mapping trees) ∧ List.Forall₂ (fun entry tree =>
      Composed anchors depth entry.1 tree.1 ∧ Composed anchors depth entry.2 tree.2) entries trees := by
  obtain ⟨before, after, success⟩ := composed
  have content : composeContent (some (composeNode anchors depth)) (.mapping properties entries) before =
    .ok (tree, after) := success
  rw [composeContent] at content
  obtain ⟨⟨trees, _⟩, success, same⟩ := exceptBind_eq_ok_iff.mp content
  cases same
  obtain ⟨added, rfl, each⟩ := composeEntries_eq_ok success
  exact ⟨trees, rfl, each⟩

/-- The keys of a mapping are apart, whether a tag is in front of it or not. -/
theorem Tree.keysApart_of_withTag {tag : Option Octets} {entries : List (Tree × Tree)}
    (wellFormed : (Tree.withTag tag (.mapping entries)).WellFormed) : KeysApart entries := by
  unfold Tree.withTag at wellFormed
  split at wellFormed
  · exact wellFormed.content.keysApart
  · exact wellFormed.keysApart

/-- The tree that a document is read as is composed of its node, with the
anchors of the whole document. -/
theorem Tree.composed_of_read {text : String} {node : Node} {tree : Tree}
    (document : Node.ofText? text = .ok (some node)) (read : Tree.read text = .ok tree) :
    Composed (.ofNode node) depthLimit node tree := by
  obtain ⟨tokens, lexed, parsed⟩ := exceptBind_eq_ok_iff.mp document
  unfold Tree.read at read
  obtain ⟨others, again, read⟩ := exceptBind_eq_ok_iff.mp read
  cases lexed.symm.trans again
  obtain ⟨found, success, read⟩ := exceptBind_eq_ok_iff.mp read
  cases parsed.symm.trans success
  obtain ⟨⟨composed, after⟩, success, same⟩ := exceptBind_eq_ok_iff.mp read
  cases same
  exact ⟨0, after, success⟩

theorem composeNode_entry (key scalar : String) (count : Nat) :
    composeNode anchors (depth + 1) (.mapping .none [(.scalar .none true key, .scalar .none true scalar)]) count = do
      let key ← Tree.ofText true key
      let scalar ← Tree.ofText true scalar
      return (.mapping [(key, scalar)], count) := by
  have compose (text : String) : composeNode anchors depth (.scalar .none true text) count =
    (Tree.ofText true text).map fun tree => (tree, count) := composeNode_scalar true text count
  have entries : composeEntries (composeNode anchors depth) []
      [(.scalar .none true key, .scalar .none true scalar)] count =
    (composeNode anchors depth (.scalar .none true key) count).bind fun key =>
      (composeNode anchors depth (.scalar .none true scalar) key.2).bind fun scalar =>
        .ok ([(key.1, scalar.1)], scalar.2) := rfl
  change (composeEntries (composeNode anchors depth) []
    [(.scalar .none true key, .scalar .none true scalar)] count).bind
      (fun composed => .ok (Tree.mapping composed.1, composed.2)) = _
  rw [entries, compose]
  cases Tree.ofText true key with
  | error fault => rfl
  | ok key =>
    change ((composeNode anchors depth (.scalar .none true scalar) count).bind _).bind _ = _
    rw [compose]
    cases Tree.ofText true scalar <;> rfl

/-- A document with one entry, both parts of which are plain scalars. -/
theorem Tree.read_of_entry {text key scalar : String}
    (document : Node.ofText? text = .ok (some (.mapping .none [(.scalar .none true key, .scalar .none true scalar)]))) :
    Tree.read text = do
      let key ← Tree.ofText true key
      let scalar ← Tree.ofText true scalar
      return .mapping [(key, scalar)] := by
  obtain ⟨tokens, lexed, parsed⟩ := exceptBind_eq_ok_iff.mp document
  rw [Tree.read, lexed]
  change (Node.ofTokens? tokens).bind _ = _
  rw [parsed]
  change (composeNode _ depthLimit _ 0).bind _ = _
  rw [depthLimit, composeNode_entry]
  cases Tree.ofText true key with
  | error fault => rfl
  | ok key => cases Tree.ofText true scalar <;> rfl

end Overlay.Yaml
