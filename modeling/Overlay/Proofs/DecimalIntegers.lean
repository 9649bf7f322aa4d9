import Mathlib
import Overlay.Proofs.DecimalNumerals
import Overlay.Proofs.EntryLines
import Overlay.Proofs.LastNamed
import Overlay.Proofs.PlaceholderPieces
import Overlay.Proofs.TopLevel

namespace Overlay

open Yaml

namespace Yaml

/-- A word refers to no variable, as it has no sign that could open a reference.
-/
theorem Word.names_text (word : Word) : Placeholder.names word.text = [] := by
  refine Placeholder.names_eq_nil_of_not_mem fun member => ?_
  rw [text, String.toList_ofList] at member
  cases word.all '$' member

namespace Numeral

variable (n : Numeral)

theorem isWordChar_of_mem_chars : ∀ c ∈ n.chars, isWordChar c = true := by
  intro c member
  rcases Bool.or_eq_true_iff.mp (n.isPart_of_mem_chars c member) with digit | dash
  · rw [isWordChar, Char.isAlphanum, digit, Bool.or_true, Bool.true_or, Bool.true_or]
  · rw [isWordChar, dash, Bool.or_true]

def word : Word := ⟨n.chars, n.chars_ne_nil, n.isWordChar_of_mem_chars⟩

theorem chars_ne_dash : n.chars ≠ ['-'] := by
  rw [chars]
  split
  · exact fun same => Nat.toDigits_ne_nil (List.cons.inj same).2
  · intro same
    have digit := isDigit_toDigits n.magnitude '-' (same ▸ List.mem_cons_self)
    cases digit

/-- How the text of an integer is typed: integers of 128 bits are read as such,
and of these the ones without 64 bits are refused; any other integer is taken
for a float, or, if it is too great for that, for a string. -/
inductive Typed : Except Fault Tree → Prop
  | integer : n.isShort = true → -0x8000000000000000 ≤ n.value → n.value < 0x10000000000000000 →
      Typed (.ok (.integer n.value))
  | tooLarge : n.isShort = true → ¬(-0x8000000000000000 ≤ n.value ∧ n.value < 0x10000000000000000) →
      Typed (.error .integerTooLarge)
  | float : n.isShort = false → n.nearest.isFinite = true → Typed (.ok (.float n.nearest))
  | string : n.isShort = false → n.nearest.isFinite = false → Typed (.ok (.string n.text))

/-- Which of the four ranges a numeral lies in decides how it is typed. The
proof goes along the order in which the reader tries them. -/
theorem typed : n.Typed (Tree.ofText true n.text) := by
  rw [Tree.ofText, if_pos rfl, meaning_text]
  cases short : n.isShort with
  | true =>
    rw [if_pos rfl]
    dsimp only
    rw [Tree.ofInteger]
    split
    · rename_i fits
      exact .integer short fits.1 fits.2
    · rename_i large
      exact .tooLarge short large
  | false =>
    rw [if_neg Bool.false_ne_true]
    cases finite : n.nearest.isFinite with
    | true => exact .float short finite
    | false => exact .string short finite

/-- What becomes of an integer that is the value of a key: only some of those
that no value can hold are refused. -/
def verdict : Except Failure Value :=
  if n.isShort then
    if Conversion.inRange n.value then .ok (.integer (Int64.ofInt n.value))
    else if 0 ≤ n.value ∧ n.value < 0x10000000000000000 then
      .error (.invalidDocument (.integerOutOfRange n.value.toNat))
    else .error (.malformedYaml "<string>" .integerTooLarge)
  else if n.nearest.isFinite then .ok (.float n.nearest)
  else .ok (.string n.text)

variable {n}

/-- Where the text of an integer has a tree, its conversion is what becomes of
the integer. -/
theorem Typed.outcome_value {item : Tree} (typed : n.Typed (.ok item)) (env : Environment) :
    (Conversion.value env item).outcome = n.verdict := by
  cases typed with
  | integer short low high =>
    rw [Conversion.value, verdict, if_pos short]
    cases held : Conversion.inRange n.value with
    | true => rfl
    | false =>
      have unsigned : 0 ≤ n.value ∧ n.value < 0x10000000000000000 := by
        simp only [Conversion.inRange, Bool.and_eq_false_iff, decide_eq_false_iff_not] at held
        omega
      rw [if_neg Bool.false_ne_true, if_neg Bool.false_ne_true, if_pos unsigned, Conversion.numberFault,
        if_pos unsigned]
      rfl
  | float short finite =>
    rw [Conversion.value, verdict, short, if_neg Bool.false_ne_true, if_pos finite]
    rfl
  | string short infinite =>
    have plain : Placeholder.names n.text = [] := n.word.names_text
    rw [Conversion.value, verdict, short, if_neg Bool.false_ne_true, infinite, if_neg Bool.false_ne_true,
      Placeholder.substitute_of_names_eq_nil env plain]
    rfl

/-- A numeral that the reader refuses is refused with the document. -/
theorem Typed.verdict_of_error {fault : Fault} (typed : n.Typed (.error fault)) :
    n.verdict = .error (.malformedYaml "<string>" fault) := by
  cases typed with
  | tooLarge short large =>
    have outside : Conversion.inRange n.value = false := by
      simp only [Conversion.inRange, Bool.and_eq_false_iff, decide_eq_false_iff_not]
      omega
    have noUnsigned : ¬(0 ≤ n.value ∧ n.value < 0x10000000000000000) := by omega
    rw [verdict, if_pos short, outside, if_neg Bool.false_ne_true, if_neg noUnsigned]

/-- There is nothing to merge in a number. -/
theorem Typed.expandMerges {item : Tree} (typed : n.Typed (.ok item)) : item.expandMerges = .ok item := by
  cases typed <;> rfl

/-- Nor does a number offer anything to be merged, so an entry with one stays
even if its key is a merge key. -/
theorem Typed.mergeSources_ne_ok {item : Tree} (typed : n.Typed (.ok item)) (sources : List (List (Tree × Tree))) :
    Tree.mergeSources item ≠ .ok sources := by
  cases typed <;> exact fun success => by cases success

end Numeral

/-- A word that stands for itself as a key. -/
structure KeyWord extends Word where
  short : chars.length ≤ 1024
  string : meaning (String.ofList chars) = .string

namespace KeyWord

variable (key : KeyWord)

/-- A line with this key and the numeral behind it. -/
def line (n : Numeral) : EntryLine := ⟨key.toWord, n.word, key.short, n.chars_ne_dash⟩

/-- The line is read as a mapping with one entry, whose item is typed as if the
numeral stood alone. -/
theorem read_line (n : Numeral) : Tree.read (key.line n).text =
    (Tree.ofText true n.text).map fun item => .mapping [(.string key.text, item)] := by
  have named : Tree.ofText true key.text = .ok (.string key.text) := by
    rw [Tree.ofText, if_pos rfl, Word.text, key.string]
  rw [EntryLine.read_text]
  change (Tree.ofText true key.text).bind _ = _
  rw [named]
  rfl

theorem text_ne_merge : key.text ≠ "<<" := by
  intro same
  have member : '<' ∈ key.chars := by
    rw [← String.toList_ofList (l := key.chars), ← Word.text, same]
    decide
  cases key.all '<' member

end KeyWord

end Yaml

namespace Loading

variable {env : Environment}

/-- For a document with one entry all that is left is the conversion of its
item, given that its key is taken as it is. -/
theorem outcome_parseArguments_of_entry {text key : String} {item : Tree}
    (read : Tree.read text = .ok (.mapping [(.string key, item)])) (noMerge : key ≠ "<<")
    (literal : Placeholder.names key = []) (unchanged : item.expandMerges = .ok item) :
    (parseArguments env text).outcome = (Conversion.value env item).outcome.map fun value => [(key, value)] := by
  have merged : Tree.mergeEntries [(.string key, item)] = .ok [(.string key, item)] := by
    simp [Tree.mergeEntries, Tree.takeMergeKey, Tree.isMergeKey, noMerge]
  have loaded : tree text = .ok (.mapping [(.string key, item)]) := by
    rw [tree, read]
    change (Tree.mapping [(.string key, item)]).expandMerges = _
    rw [Tree.expandMerges_mapping, merged]
    simp [bind, Except.bind, unchanged, Except.map, pure, Except.pure]
  have entries : Conversion.arguments env [] [(.string key, item)] =
      Conversion.value env item >>= fun value => pure [(key, value)] := by
    rw [Conversion.arguments, Conversion.keyName, Placeholder.substitute_of_names_eq_nil env literal]
    rfl
  rw [parseArguments, ofText_of_ok loaded, Conversion.value, entries]
  simp only [Run.outcome_bind]
  cases (Conversion.value env item).outcome <;> rfl

/-- So a line with a numeral comes to what the numeral does. -/
theorem outcome_parseArguments_line (key : KeyWord) (n : Numeral) :
    (parseArguments env (key.line n).text).outcome = n.verdict.map fun value => [(key.text, value)] := by
  have read := key.read_line n
  have typed := n.typed
  generalize Tree.ofText true n.text = typing at read typed
  cases typing with
  | error fault =>
    have failed : tree (key.line n).text = .error fault := by
      rw [tree, read]
      rfl
    rw [parseArguments, ofText_of_error failed, typed.verdict_of_error]
    rfl
  | ok item =>
    rw [outcome_parseArguments_of_entry read key.text_ne_merge key.names_text typed.expandMerges,
      typed.outcome_value]

/-- A document that gives a key an integer keeps it or, if no value can hold it,
is refused for what it says. -/
def KeptOrRefused (key : String) (n : Int) : Except Failure Arguments → Prop
  | .ok arguments => Conversion.inRange n = true ∧ arguments.get? key = some (.integer (Int64.ofInt n))
  | .error (.malformedYaml ..) | .error (.invalidDocument _) => Conversion.inRange n = false
  | .error _ => False

/-- A numeral is kept or refused, as it ought to be, exactly within 128 bits.
Beyond them it becomes a float. -/
theorem keptOrRefused_verdict_iff (key : String) (n : Numeral) :
    KeptOrRefused key n.value (n.verdict.map fun value => [(key, value)]) ↔ n.isShort = true := by
  have atKey (value : Value) : Entries.get? [(key, value)] key = some value := by simp [Entries.get?]
  cases short : n.isShort with
  | true =>
    refine iff_of_true ?_ rfl
    rw [Numeral.verdict, short, if_pos rfl]
    cases held : Conversion.inRange n.value with
    | true => exact ⟨held, atKey _⟩
    | false =>
      rw [if_neg Bool.false_ne_true]
      split <;> exact held
  | false =>
    refine iff_of_false ?_ Bool.false_ne_true
    rw [Numeral.verdict, short, if_neg Bool.false_ne_true]
    split <;>
    · rintro ⟨_, found⟩
      rw [atKey] at found
      cases found

/-- The arguments have this value for one of the entries of a document, unless
an entry behind it takes its name. -/
def HeldAt (env : Environment) (entries : List (Tree × Tree)) (place : Nat) (value : Value) (arguments : Arguments) :
    Prop :=
  ∃ key item name, entries[place]? = some (key, item) ∧ (Conversion.keyName env key).outcome = .ok name ∧
    ∀ merged, Tree.mergeEntries entries = .ok merged → LastNamed env merged name item →
      arguments.get? name = some value

/-- The same for a numeral anywhere at the top level of a document that parses:
it is still there behind the merges, and the arguments hold what it comes to,
unless a later entry of that name replaces it. -/
theorem heldAt_of_parsed {n : Numeral} {text : String} {properties scalar : Properties} {entries : List (Node × Node)}
    {place : Nat} {key : Node} {arguments : Arguments}
    (document : Node.ofText? text = .ok (some (.mapping properties entries)))
    (written : entries[place]? = some (key, .scalar scalar true n.text)) (untagged : scalar.tag = none)
    (parsed : (parseArguments env text).outcome = .ok arguments) :
    ∃ value trees, n.verdict = .ok value ∧ Tree.read text = .ok (Tree.withTag properties.tag (.mapping trees)) ∧
      HeldAt env trees place value arguments := by
  obtain ⟨tree, read, loads⟩ := outcome_ofText_eq_ok_iff.mp parsed
  obtain ⟨trees, rfl, composed⟩ := (Tree.composed_of_read document read).mapping
  obtain ⟨inEntries, _⟩ := List.getElem?_eq_some_iff.mp written
  obtain ⟨⟨keyTree, item⟩, atPlace⟩ : ∃ entry, trees[place]? = some entry :=
    ⟨_, List.getElem?_eq_getElem (composed.length_eq ▸ inEntries)⟩
  have typing := composed_scalar_iff.mp (related_of_getElem? composed written atPlace).2
  rw [untagged] at typing
  have typed : n.Typed (.ok item) := typing ▸ n.typed
  have apart := Tree.keysApart_of_withTag (Tree.wellFormed_of_read read)
  obtain ⟨merged, pairs, success, rfl, each⟩ : ∃ merged pairs, Tree.mergeEntries trees = .ok merged ∧
      arguments = Entries.ofList pairs ∧ List.Forall₂ (GivesPair env) merged pairs := by
    rcases loads with gives | ⟨null, _⟩
    · obtain ⟨merged, pairs, success, same, each⟩ := gives_mapping_iff.mp (gives_withTag_iff.mp gives)
      exact ⟨merged, pairs, success, Value.mapping.inj same, each⟩
    -- a document that gives null stands for no arguments, but this one is a mapping
    · obtain ⟨_, _, _, impossible, _⟩ := gives_mapping_iff.mp (gives_withTag_iff.mp null)
      cases impossible
  -- had the key been a merge key, a number would have had to be merged in
  have inMerged := apart.mem_of_no_source success (List.mem_of_getElem? atPlace) typed.mergeSources_ne_ok
  obtain ⟨⟨name, value⟩, _, named, gives⟩ := exists_right_of_forall₂ each inMerged
  have verdict : n.verdict = .ok value := by
    rw [← typed.outcome_value env]
    exact (gives_iff_converts typed.expandMerges).mp gives
  refine ⟨value, trees, verdict, read, keyTree, item, name, atPlace, named, ?_⟩
  intro again successAgain last
  cases success.symm.trans successAgain
  exact (get?_ofList_iff_lastNamed each).mpr ⟨item, last, gives⟩

/-- An integer as the only value of a document comes to its verdict, and so it
is kept or refused if and only if it fits into 128 bits. Wherever a document
with an integer as the value of a key has arguments at all, the verdict is a
value, and that is what the arguments have there. -/
theorem parseArguments_numeral (env : Environment) (n : Numeral) :
    (∀ key : KeyWord,
      (parseArguments env (key.line n).text).outcome = n.verdict.map (fun value => [(key.text, value)]) ∧
      (KeptOrRefused key.text n.value (parseArguments env (key.line n).text).outcome ↔ n.isShort = true)) ∧
    ∀ (text : String) (properties scalar : Properties) (entries : List (Node × Node)) (place : Nat) (key : Node)
        (arguments : Arguments),
      Node.ofText? text = .ok (some (.mapping properties entries)) →
      entries[place]? = some (key, .scalar scalar true n.text) → scalar.tag = none →
      (parseArguments env text).outcome = .ok arguments →
      ∃ value trees, n.verdict = .ok value ∧ Tree.read text = .ok (Tree.withTag properties.tag (.mapping trees)) ∧
        HeldAt env trees place value arguments := by
  refine ⟨fun key => ?_, fun _ _ _ _ _ _ _ => heldAt_of_parsed⟩
  have outcome : (parseArguments env (key.line n).text).outcome = _ := outcome_parseArguments_line key n
  refine ⟨outcome, ?_⟩
  rw [outcome]
  exact keptOrRefused_verdict_iff key.text n

def keyA : KeyWord := ⟨⟨['a'], List.cons_ne_nil _ _, List.all_eq_true.mp rfl⟩, by decide, by decide⟩

/-- The least integer that takes more than 128 bits. -/
def above : Numeral := ⟨false, 0x100000000000000000000000000000000⟩

theorem line_above : (keyA.line above).text = "a: 340282366920938463463374607431768211456\n" := by decide +kernel

theorem verdict_above : above.verdict = .ok (.float ⟨0x47f0000000000000⟩) := by
  have nearest : above.nearest = ⟨0x47f0000000000000⟩ := by decide +kernel
  rw [Numeral.verdict, nearest]
  rfl

theorem outcome_parseArguments_above :
    (parseArguments (fun _ => none) "a: 340282366920938463463374607431768211456\n").outcome =
      .ok [("a", .float ⟨0x47f0000000000000⟩)] := by
  rw [← line_above, outcome_parseArguments_line, verdict_above]
  rfl

/-- The first integer beyond 128 bits is neither kept nor refused. -/
theorem not_keptOrRefused_above : ¬KeptOrRefused "a" 340282366920938463463374607431768211456
    (parseArguments (fun _ => none) "a: 340282366920938463463374607431768211456\n").outcome := by
  rw [outcome_parseArguments_above]
  rintro ⟨held, _⟩
  exact absurd held (by decide)

/-- An integer with an anchor behind another entry. -/
def twelve : String := "b: x\na: &n 12\n"

def twelveEntries : List (Node × Node) :=
  [(.scalar .none true "b", .scalar .none true "x"), (.scalar .none true "a", .scalar ⟨some 0, none⟩ true "12")]

theorem ofText?_twelve : Node.ofText? twelve = .ok (some (.mapping .none twelveEntries)) := by cbv

theorem outcome_parseArguments_twelve :
    (parseArguments (fun _ => none) twelve).outcome = .ok [("b", .string "x"), ("a", .integer 12)] := by cbv

theorem parseArguments_numeral_twelve : ∃ value trees, (Numeral.mk false 12).verdict = .ok value ∧
    Tree.read twelve = .ok (.mapping trees) ∧
    HeldAt (fun _ => none) trees 1 value [("b", .string "x"), ("a", .integer 12)] :=
  (parseArguments_numeral (fun _ => none) ⟨false, 12⟩).2 twelve .none ⟨some 0, none⟩ twelveEntries 1
    (.scalar .none true "a") _ ofText?_twelve rfl rfl outcome_parseArguments_twelve

end Loading

end Overlay
