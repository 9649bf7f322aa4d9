import Mathlib.Data.List.Forall2
import Overlay.Proofs.MemberInduction
import Overlay.Proofs.NumberTexts
import Overlay.Yaml.Printer

namespace Overlay.Yaml

/-- Whether a line that goes on like this opens an entry of a mapping at the
margin. The other lines are blank, indented, comments, directives or document
markers, they belong to the entry before them, as an item of its sequence or the
value of a key with lines of its own, or they are a collection between brackets,
which has no entries with lines. -/
def opensEntry : List Char → Bool
  | [] => false
  | c :: rest =>
    if isBreak c ∨ [' ', '#', '%', '[', '{'].contains c ∨ startsWithMarker (c :: rest) then false
    else if c = '-' ∨ c = ':' then !blankAhead rest
    else true

/-- Cuts a text in front of the lines that open an entry: what stands before the
first of them, and the entries, each with all lines up to the next one. The flag
says whether the text starts a line. -/
def cutEntries (lineStart : Bool) : List Char → List Char × List (List Char)
  | [] => ([], [])
  | c :: rest =>
    let behind := cutEntries (isBreak c) rest
    if lineStart && opensEntry (c :: rest) then ([], (c :: behind.1) :: behind.2) else (c :: behind.1, behind.2)

/-- A document that is a mapping with these entries at its top level: the empty
one between brackets, or else lines that open an entry each, from the first line
on, with what belongs to them. -/
inductive TopLevel : List Char → List (List Char) → Prop
  | empty : TopLevel ['{', '}', '\n'] []
  | block {text : List Char} {entries : List (List Char)} : entries ≠ [] → cutEntries true text = ([], entries) →
      TopLevel text entries

/-- A text has one list of entries at its top level. So the number of them is a
property of what is printed, whoever printed it. -/
theorem TopLevel.unique {text : List Char} {entries others : List (List Char)} (first : TopLevel text entries)
    (second : TopLevel text others) : entries = others := by
  have noEntries : cutEntries true ['{', '}', '\n'] = (['{', '}', '\n'], []) := by decide
  cases first with
  | empty =>
    cases second with
    | empty => rfl
    | block _ cut => cases noEntries.symm.trans cut
  | block _ cut =>
    cases second with
    | empty => cases noEntries.symm.trans cut
    | block _ again => exact congrArg Prod.snd (cut.symm.trans again)

/-- The entry starts with its key as it is written, on one line with a colon
behind it or behind a question mark. -/
def Opens (key : String) (entry : List Char) : Prop :=
  stringText 2 key ++ [':'] <+: entry ∨ '?' :: ' ' :: stringText 2 key <+: entry

/-- Whether a line starts behind a text, if `lineStart` says whether one starts
in front of it. -/
def lineAfter (lineStart : Bool) (text : List Char) : Bool := text.getLast?.elim lineStart isBreak

/-- What the end of a text says about the next line depends on the last part
that is not empty. -/
theorem lineAfter_append (lineStart : Bool) (text more : List Char) :
    lineAfter lineStart (text ++ more) = lineAfter (lineAfter lineStart text) more := by
  unfold lineAfter
  rw [List.getLast?_append]
  cases more.getLast? <;> rfl

theorem lineAfter_cons (lineStart : Bool) (c : Char) (text : List Char) :
    lineAfter lineStart (c :: text) = lineAfter (isBreak c) text := lineAfter_append lineStart [c] text

/-- No line of the text opens an entry, whatever stands behind it. -/
def GoesOn (lineStart : Bool) (text : List Char) : Prop := ∀ rest, cutEntries lineStart (text ++ rest) =
  (text ++ (cutEntries (lineAfter lineStart text) rest).1, (cutEntries (lineAfter lineStart text) rest).2)

section Lines

variable {lineStart : Bool} {text more : List Char} {c : Char}

theorem goesOn_nil : GoesOn lineStart [] := fun _ => rfl

/-- Texts that go on can be put one behind the other. The state between them is
known from the end of the first. -/
theorem GoesOn.append (first : GoesOn lineStart text) (second : GoesOn (lineAfter lineStart text) more) :
    GoesOn lineStart (text ++ more) := by
  intro rest
  rw [List.append_assoc, first, second, lineAfter_append, List.append_assoc]

/-- A character may stand where it opens no entry, whatever comes behind it. -/
theorem goesOn_cons (other : ∀ rest, (lineStart && opensEntry (c :: (text ++ rest))) = false)
    (goesOn : GoesOn (isBreak c) text) : GoesOn lineStart (c :: text) := by
  intro rest
  rw [List.cons_append, cutEntries, if_neg (by rw [other]; decide), goesOn, lineAfter_cons]
  rfl

/-- Inside a line no entry opens, whatever the character is. -/
theorem goesOn_inside (goesOn : GoesOn (isBreak c) text) : GoesOn false (c :: text) := goesOn_cons (fun _ => rfl) goesOn

/-- A line may end anywhere; the next one has to go on as well. -/
theorem goesOn_break (lineEnd : isBreak c = true) (goesOn : GoesOn true text) : GoesOn lineStart (c :: text) := by
  refine goesOn_cons (fun rest => ?_) (lineEnd ▸ goesOn)
  rw [opensEntry, if_pos (.inl lineEnd), Bool.and_false]

theorem goesOn_space (goesOn : GoesOn false text) : GoesOn lineStart (' ' :: text) := by
  refine goesOn_cons (fun rest => ?_) goesOn
  rw [opensEntry, if_pos (.inr (.inl rfl)), Bool.and_false]

/-- Behind a dash or a colon with a blank no entry opens, even where a line
starts. -/
theorem goesOn_mark (mark : c = '-' ∨ c = ':') (blank : ∀ rest, blankAhead (text ++ rest) = true)
    (goesOn : GoesOn false text) : GoesOn lineStart (c :: text) := by
  have noBreak : isBreak c = false := by rcases mark with rfl | rfl <;> rfl
  refine goesOn_cons (fun rest => ?_) (noBreak ▸ goesOn)
  rw [opensEntry, if_pos mark, blank, Bool.not_true, ite_self, Bool.and_false]

/-- A text on one line goes on inside of it. -/
theorem goesOn_line (noBreak : ∀ c ∈ text, isBreak c = false) : GoesOn false text := by
  induction text with
  | nil => exact goesOn_nil
  | cons c text ih =>
    obtain ⟨here, later⟩ := List.forall_mem_cons.mp noBreak
    exact goesOn_inside (here ▸ ih later)

theorem goesOn_spaces (count : Nat) : GoesOn lineStart (spaces count) := by
  induction count generalizing lineStart with
  | zero => exact goesOn_nil
  | succ count ih => exact goesOn_space ih

theorem lineAfter_spaces (count : Nat) : lineAfter lineStart (spaces (count + 1)) = false := by
  rw [spaces, List.replicate_succ', lineAfter_append]
  rfl

/-- A line break that is added, or none. -/
theorem goesOn_freshLine : GoesOn lineStart (freshLine text) := by
  unfold freshLine
  split
  · exact goesOn_nil
  · exact goesOn_break rfl goesOn_nil

/-- Behind it a line starts in any case. -/
theorem lineAfter_freshLine (nonempty : text ≠ []) : lineAfter lineStart (text ++ freshLine text) = true := by
  unfold freshLine
  split
  · rename_i ended
    rw [List.append_nil, lineAfter]
    rw [List.getLast?_eq_some_getLast nonempty] at ended ⊢
    exact ended
  · rw [lineAfter_append]
    rfl

end Lines

section Scalars

/-- Lines that are indented go on wherever they start: in front of the first
character of a line stand blanks. Empty lines have none and open nothing either.
-/
theorem goesOn_indentLines (indent : Nat) (lineStart : Bool) (text : List Char) :
    GoesOn lineStart (indentLines (indent + 1) lineStart text) := by
  induction text generalizing lineStart with
  | nil => exact goesOn_nil
  | cons c text ih =>
    rw [indentLines]
    split
    · rename_i lineEnd
      exact goesOn_break lineEnd (ih true)
    · rename_i inLine
      have here : GoesOn false (c :: indentLines (indent + 1) false text) :=
        goesOn_inside (Bool.eq_false_iff.mpr inLine ▸ ih false)
      cases lineStart with
      | false => exact here
      | true =>
        refine (goesOn_spaces _).append ?_
        rw [lineAfter_spaces]
        exact here

/-- The indentation stands inside a text and never at its end. -/
theorem lineAfter_indentLines (indent : Nat) (lineStart : Bool) (text : List Char) :
    lineAfter lineStart (indentLines indent lineStart text) = lineAfter lineStart text := by
  induction text generalizing lineStart with
  | nil => rfl
  | cons c text ih =>
    rw [indentLines, lineAfter_cons]
    split
    · rename_i lineEnd
      rw [lineAfter_cons, lineEnd, ih]
    · rename_i inLine
      rw [lineAfter_append, lineAfter_cons, Bool.eq_false_iff.mpr inLine, ih]

theorem lineAfter_doubled (lineStart : Bool) (text : List Char) :
    lineAfter lineStart (text.flatMap fun c => if c = '\'' then ['\'', '\''] else [c]) = lineAfter lineStart text := by
  induction text generalizing lineStart with
  | nil => rfl
  | cons c text ih =>
    rw [List.flatMap_cons, lineAfter_append, ih, lineAfter_cons]
    split
    · rename_i quote
      rw [quote]
      rfl
    · rfl

/-- Quoted text of several lines is indented, and so is the closing quote when
it starts a line. -/
theorem goesOn_singleQuoted (indent : Nat) (text : List Char) : GoesOn false (singleQuoted (indent + 1) text) := by
  have closing : GoesOn (lineAfter false text)
      ((if text.getLast?.any isBreak then spaces (indent + 1) else []) ++ ['\'']) := by
    unfold lineAfter
    cases text.getLast? with
    | none => exact goesOn_inside goesOn_nil
    | some c =>
      rw [Option.elim_some, Option.any_some]
      cases lineEnd : isBreak c with
      | false => exact goesOn_inside goesOn_nil
      | true =>
        refine (goesOn_spaces _).append ?_
        rw [lineAfter_spaces]
        exact goesOn_inside goesOn_nil
  unfold singleQuoted
  rw [List.append_assoc, List.cons_append]
  refine goesOn_inside ((goesOn_indentLines _ _ _).append ?_)
  rw [show isBreak '\'' = false from rfl, lineAfter_indentLines, lineAfter_doubled]
  exact closing

theorem isBreak_upperHex (width n : Nat) : ∀ c ∈ upperHex width n, isBreak c = false := by
  have digits : ∀ digit < 16, isBreak (Nat.digitChar digit).toUpper = false := by decide
  exact List.forall_mem_map.mpr fun k _ => digits _ (Nat.mod_lt _ (by decide))

/-- Line breaks are escaped, as is everything that cannot be printed. -/
theorem isBreak_escape (c : Char) : ∀ d ∈ escape c, isBreak d = false := by
  unfold escape
  split
  case h_15 noZero _ _ _ noNewLine _ _ noReturn _ _ _ noNextLine noLine noParagraph =>
    dsimp only
    split
    · refine List.forall_mem_singleton.mpr ?_
      simp only [isBreak, Bool.or_eq_false_iff, beq_eq_false_iff_ne]
      exact ⟨⟨⟨⟨noNewLine, noReturn⟩, noNextLine⟩, noLine⟩, noParagraph⟩
    · split
      · exact List.forall_mem_cons.mpr ⟨rfl, List.forall_mem_cons.mpr ⟨rfl, isBreak_upperHex _ _⟩⟩
      · split
        · exact List.forall_mem_cons.mpr ⟨rfl, List.forall_mem_cons.mpr ⟨rfl, isBreak_upperHex _ _⟩⟩
        · exact List.forall_mem_cons.mpr ⟨rfl, List.forall_mem_cons.mpr ⟨rfl, isBreak_upperHex _ _⟩⟩
  all_goals exact List.forall_mem_cons.mpr ⟨rfl, List.forall_mem_singleton.mpr rfl⟩

/-- The indicators of a literal scalar stand on one line. -/
theorem isBreak_literalHeader (text : List Char) : ∀ c ∈ literalHeader text, isBreak c = false := by
  unfold literalHeader
  dsimp only
  refine List.forall_mem_append.mpr ⟨List.forall_mem_cons.mpr ⟨rfl, ?_⟩, ?_⟩
  · split
    · exact List.forall_mem_singleton.mpr rfl
    · exact List.forall_mem_nil _
  · split
    · exact List.forall_mem_singleton.mpr rfl
    · split
      · exact List.forall_mem_singleton.mpr rfl
      · split
        · exact List.forall_mem_singleton.mpr rfl
        · exact List.forall_mem_nil _

/-- A text is written plain only where that is allowed. The empty text would be
read as null, so it never is. -/
theorem plainAllowed_of_style {text : String} (style : ScalarStyle.ofString text = .plain) :
    text.toList ≠ [] ∧ ScalarStyle.plainAllowed text.toList = true := by
  unfold ScalarStyle.ofString at style
  dsimp only at style
  split at style
  · split at style <;> cases style
  · split at style
    · rename_i plain
      obtain ⟨unquoted, allowed⟩ := Bool.and_eq_true_iff.mp plain
      refine ⟨fun empty => ?_, allowed⟩
      obtain rfl := String.toList_eq_nil_iff.mp empty
      exact absurd unquoted (by decide)
    · split at style <;> cases style

/-- In each of the four styles a string goes on: two of them are written on one
line and the two others indented. -/
theorem goesOn_stringText (indent : Nat) (text : String) : GoesOn false (stringText (indent + 1) text) := by
  unfold stringText
  dsimp only
  cases style : ScalarStyle.ofString text with
  | plain =>
    refine goesOn_line fun c member => ?_
    have allowed := (plainAllowed_of_style style).2
    simp only [ScalarStyle.plainAllowed, Bool.and_eq_true, List.all_eq_true, Bool.not_eq_true'] at allowed
    exact (allowed.1.1.1.1.1 c member).2
  | singleQuoted => exact goesOn_singleQuoted indent _
  | doubleQuoted =>
    have noBreaks : ∀ c ∈ text.toList.flatMap escape, isBreak c = false := by
      intro c member
      obtain ⟨d, _, inEscape⟩ := List.mem_flatMap.mp member
      exact isBreak_escape d c inEscape
    refine goesOn_line (List.forall_mem_append.mpr ⟨List.forall_mem_cons.mpr ⟨rfl, noBreaks⟩, ?_⟩)
    exact List.forall_mem_singleton.mpr rfl
  | literal =>
    exact (goesOn_line (isBreak_literalHeader _)).append (goesOn_break rfl (goesOn_indentLines indent true _))

/-- Numbers are written on one line. -/
theorem isBreak_of_isNumeral {c : Char} (numeral : isNumeral c = true) : isBreak c = false := by
  cases lineEnd : isBreak c with
  | false => rfl
  | true =>
    simp only [isBreak, Bool.or_eq_true, beq_iff_eq] at lineEnd
    obtain (((rfl | rfl) | rfl) | rfl) | rfl := lineEnd <;> exact absurd numeral (by decide)

end Scalars

section Collections

/-- One of the texts that `entryTexts` lists. -/
def entryText (column : Nat) (entry : String × Value) : List Char :=
  let keyText := stringText (column + 2) entry.1
  if isSimpleKey entry.1 then keyText ++ ':' :: valueText column .key entry.2
  else '?' :: ' ' :: keyText ++ freshLine keyText ++ spaces column ++ ':' :: valueText column .mark entry.2

theorem itemTexts_eq_map (column : Nat) (items : List Value) :
    itemTexts column items = items.map fun item => '-' :: valueText column .mark item := by
  induction items with
  | nil => rw [itemTexts, List.map_nil]
  | cons item items ih => rw [itemTexts, List.map_cons, ih]

theorem entryTexts_eq_map (column : Nat) (entries : Arguments) :
    entryTexts column entries = entries.map (entryText column) := by
  induction entries with
  | nil => rw [entryTexts, List.map_nil]
  | cons entry entries ih => rw [entryTexts, List.map_cons, ih]; rfl

/-- What separates a block from a mark in front of it starts with a blank or a
break. -/
theorem blankAhead_blockStart (column : Nat) {before : Before} (behind : before ≠ .nothing) (text : List Char) :
    blankAhead (before.blockStart column ++ text) = true := by
  cases before with
  | nothing => exact absurd rfl behind
  | key => rfl
  | mark => rfl

theorem blankAhead_space {before : Before} (behind : before ≠ .nothing) (text : List Char) :
    blankAhead (before.space ++ text) = true := by
  cases before with
  | nothing => exact absurd rfl behind
  | key => rfl
  | mark => rfl

/-- A colon and a dash stand in front of a blank, which keeps them apart from
the text of a key. -/
theorem blankAhead_valueText (outer : Nat) {before : Before} (behind : before ≠ .nothing) (value : Value)
    (rest : List Char) : blankAhead (valueText outer before value ++ rest) = true := by
  cases value with
  | sequence items =>
    cases items with
    | nil => rw [valueText, List.append_assoc, blankAhead_space behind]
    | cons item items =>
      rw [valueText, List.append_assoc, blankAhead_blockStart _ behind]
      exact List.cons_ne_nil _ _
  | mapping entries =>
    cases entries with
    | nil => rw [valueText, List.append_assoc, blankAhead_space behind]
    | cons entry entries =>
      rw [valueText, List.append_assoc, blankAhead_blockStart _ behind]
      exact List.cons_ne_nil _ _
  | _ => rw [valueText, List.append_assoc, blankAhead_space behind]

/-- The lines of a collection keep the entry going if each member does, at the
start of its line and behind what stands in front of the first. -/
theorem goesOn_joinLines {indent : Nat} {lineStart : Bool} {texts : List (List Char)} (members : ∀ text ∈ texts,
    text ≠ [] ∧ GoesOn lineStart text ∧ GoesOn (lineAfter true (spaces indent)) text) :
    GoesOn lineStart (joinLines indent texts) := by
  induction texts generalizing lineStart with
  | nil => exact goesOn_nil
  | cons text texts ih =>
    obtain ⟨⟨nonempty, here, -⟩, later⟩ := List.forall_mem_cons.mp members
    cases texts with
    | nil => exact here
    | cons next texts =>
      rw [joinLines]
      · refine ((here.append goesOn_freshLine).append (goesOn_spaces indent)).append ?_
        rw [lineAfter_append, lineAfter_freshLine nonempty]
        exact ih fun text member => ⟨(later text member).1, (later text member).2.2, (later text member).2.2⟩
      · exact List.cons_ne_nil _ _

theorem Before.goesOn_space (before : Before) {word : List Char} (goesOn : GoesOn false word) :
    GoesOn false (before.space ++ word) := by
  cases before with
  | nothing => exact goesOn
  | key => exact Yaml.goesOn_space goesOn
  | mark => exact Yaml.goesOn_space goesOn

/-- The start of a block goes on in any case. -/
theorem Before.goesOn_blockStart (before : Before) (column : Nat) : GoesOn false (before.blockStart column) := by
  cases before with
  | nothing => exact goesOn_nil
  | key => exact goesOn_break rfl (goesOn_spaces column)
  | mark => exact Yaml.goesOn_space goesOn_nil

/-- In a column further inside, the first line of a block has begun with blanks
when its first member comes. -/
theorem Before.lineAfter_blockStart (before : Before) (column : Nat) :
    lineAfter false (before.blockStart (column + 1)) = false := by
  cases before with
  | nothing => rfl
  | key => exact lineAfter_spaces column
  | mark => rfl

/-- An item may start a line at the margin, since its dash has a blank behind
it. This is where a sequence behind a key stands. -/
theorem goesOn_itemText {column : Nat} {lineStart : Bool} {item : Value}
    (goesOn : GoesOn false (valueText column .mark item)) : GoesOn lineStart ('-' :: valueText column .mark item) :=
  goesOn_mark (.inl rfl) (blankAhead_valueText column Before.noConfusion item) goesOn

/-- An entry goes on only inside a line: at the margin its key would open one.
The colon of a key that has a line of its own may stand at the margin. -/
theorem goesOn_entryText {column : Nat} {entry : String × Value}
    (goesOn : ∀ before ≠ Before.nothing, GoesOn false (valueText column before entry.2)) :
    GoesOn false (entryText column entry) := by
  have colon : ∀ lineStart, ∀ before ≠ Before.nothing, GoesOn lineStart (':' :: valueText column before entry.2) :=
    fun _ before behind => goesOn_mark (.inr rfl) (blankAhead_valueText column behind entry.2) (goesOn before behind)
  have key := goesOn_stringText (column + 1) entry.1
  unfold entryText
  dsimp only
  split
  · exact key.append (colon _ .key Before.noConfusion)
  · have marked : GoesOn false ('?' :: ' ' :: stringText (column + 2) entry.1) := goesOn_inside (goesOn_space key)
    exact ((marked.append goesOn_freshLine).append (goesOn_spaces column)).append (colon _ .mark Before.noConfusion)

theorem entryText_ne_nil (column : Nat) (entry : String × Value) : entryText column entry ≠ [] := by
  unfold entryText
  dsimp only
  split <;> exact List.append_ne_nil_of_right_ne_nil _ (List.cons_ne_nil _ _)

/-- What is written on one line behind a key or a mark stays inside of it. -/
theorem Before.goesOn_word (before : Before) {word : List Char} (oneLine : ∀ c ∈ word, isBreak c = false) :
    GoesOn false (before.space ++ word) := before.goesOn_space (goesOn_line oneLine)

theorem isBreak_of_all {word : List Char} (all : word.all (fun c => !isBreak c) = true) :
    ∀ c ∈ word, isBreak c = false := fun c member => (Bool.not_eq_true' _).mp (List.all_eq_true.mp all c member)

/-- The items of a sequence go on, each with its dash in front, if their values
do. -/
theorem goesOn_valueText_sequence {items : List Value} (outer : Nat) (before : Before)
    (each : ∀ item ∈ items, GoesOn false (valueText (before.sequenceColumn outer) .mark item)) :
    GoesOn false (valueText outer before (.sequence items)) := by
  cases items with
  | nil =>
    rw [valueText]
    exact before.goesOn_word (isBreak_of_all rfl)
  | cons item items =>
    rw [valueText]
    · refine (before.goesOn_blockStart _).append (goesOn_joinLines ?_)
      rw [itemTexts_eq_map]
      refine List.forall_mem_map.mpr fun item member => ?_
      have inItem := each item member
      exact ⟨List.cons_ne_nil _ _, goesOn_itemText inItem, goesOn_itemText inItem⟩
    · exact List.cons_ne_nil _ _

/-- The entries of a mapping behind a key or a mark go on if their values do:
they stand further inside, so none of their keys is at the margin. -/
theorem goesOn_valueText_mapping {entries : Arguments} (outer : Nat) {before : Before} (behind : before ≠ .nothing)
    (each : ∀ entry ∈ entries, ∀ column, ∀ before ≠ Before.nothing, GoesOn false (valueText column before entry.2)) :
    GoesOn false (valueText outer before (.mapping entries)) := by
  cases entries with
  | nil =>
    rw [valueText]
    exact before.goesOn_word (isBreak_of_all rfl)
  | cons entry entries =>
    rw [valueText]
    · obtain ⟨column, indented⟩ : ∃ column, before.mappingColumn outer = column + 1 := by
        cases before with
        | nothing => exact absurd rfl behind
        | key => exact ⟨_, rfl⟩
        | mark => exact ⟨_, rfl⟩
      rw [indented]
      refine (before.goesOn_blockStart _).append (goesOn_joinLines ?_)
      rw [entryTexts_eq_map, before.lineAfter_blockStart, lineAfter_spaces]
      refine List.forall_mem_map.mpr fun entry member => ?_
      have inEntry := goesOn_entryText (each entry member (column + 1))
      exact ⟨entryText_ne_nil _ _, inEntry, inEntry⟩
    · exact List.cons_ne_nil _ _

/-- Behind a key or a mark no line of a value opens an entry: the items of its
sequences have their dashes, and the keys of its mappings are indented. -/
theorem goesOn_valueText (value : Value) :
    ∀ outer, ∀ before ≠ Before.nothing, GoesOn false (valueText outer before value) := by
  induction value using Value.memberInduction with
  | null =>
    intro outer before _
    rw [valueText]
    exact before.goesOn_word (isBreak_of_all rfl)
  | bool value =>
    intro outer before _
    rw [valueText]
    cases value <;> exact before.goesOn_word (isBreak_of_all rfl)
  | integer value =>
    intro outer before _
    rw [valueText]
    exact before.goesOn_word fun c member => isBreak_of_isNumeral (isNumeral_toString _ c member)
  | float value =>
    intro outer before _
    rw [valueText]
    exact before.goesOn_word fun c member => isBreak_of_isNumeral (isNumeral_floatText value c member)
  | string text =>
    intro outer before _
    rw [valueText]
    exact before.goesOn_space (goesOn_stringText _ text)
  | sequence items ih =>
    intro outer before _
    exact goesOn_valueText_sequence outer before fun item member => ih item member _ .mark Before.noConfusion
  | mapping entries ih =>
    intro outer before behind
    exact goesOn_valueText_mapping outer behind ih

end Collections

section Document

/-- Cutting a text whose first line opens an entry only adds a cut in front of
it. -/
theorem cutEntries_of_opens {text : List Char} (opens : opensEntry text = true) :
    cutEntries true text = ([], (cutEntries false text).1 :: (cutEntries false text).2) := by
  cases text with
  | nil => cases opens
  | cons c text =>
    rw [cutEntries, cutEntries, opens]
    rfl

/-- Texts that each open an entry, go on and end with a line are cut apart again
where they were put together. By induction on the texts, from the end. -/
theorem cutEntries_flatten {entries : List (List Char)} (each : ∀ entry ∈ entries,
    (∀ rest, opensEntry (entry ++ rest) = true) ∧ GoesOn false entry ∧ lineAfter false entry = true) :
    cutEntries true entries.flatten = ([], entries) := by
  induction entries with
  | nil => rfl
  | cons entry entries ih =>
    obtain ⟨⟨opens, goesOn, ended⟩, later⟩ := List.forall_mem_cons.mp each
    rw [List.flatten_cons, cutEntries_of_opens (opens _), goesOn, ended, ih later, List.append_nil]

/-- A document marker as a beginning of the text. -/
theorem startsWithMarker_iff (text : List Char) :
    startsWithMarker text = true ↔ ['-', '-', '-'] <+: text ∨ ['.', '.', '.'] <+: text := by
  unfold startsWithMarker
  split
  · exact iff_of_true rfl (.inl (List.prefix_append _ _))
  · exact iff_of_true rfl (.inr (List.prefix_append _ _))
  · rename_i noDashes noDots
    refine iff_of_false Bool.false_ne_true ?_
    rintro (⟨rest, same⟩ | ⟨rest, same⟩)
    · exact noDashes rest same.symm
    · exact noDots rest same.symm

/-- A colon behind a text makes no marker of it, since none has a colon in it.
-/
theorem startsWithMarker_append_colon (text rest : List Char) :
    startsWithMarker (text ++ ':' :: rest) = startsWithMarker text := by
  match text with
  | [] => rfl
  | [_] => simp [startsWithMarker]
  | [_, _] => simp [startsWithMarker]
  | _ :: _ :: _ :: _ =>
    rw [Bool.eq_iff_iff, startsWithMarker_iff, startsWithMarker_iff]
    simp only [List.cons_append, List.cons_prefix_cons, List.nil_prefix]

/-- A plain key is kept apart from everything else that a line may start with,
the dash of an item included. -/
theorem opensEntry_of_plainAllowed {text : List Char} (nonempty : text ≠ [])
    (allowed : ScalarStyle.plainAllowed text = true) (rest : List Char) : opensEntry (text ++ ':' :: rest) = true := by
  simp only [ScalarStyle.plainAllowed, Bool.and_eq_true, List.all_eq_true, Bool.not_eq_true', bne_iff_ne] at allowed
  obtain ⟨⟨⟨⟨⟨printable, noSpace⟩, -⟩, noMarker⟩, noIndicator⟩, -⟩ := allowed
  rw [← startsWithMarker_append_colon text rest] at noMarker
  cases text with
  | nil => exact absurd rfl nonempty
  | cons c text =>
    have noBreak : isBreak c = false := (printable c (List.mem_cons_self ..)).2
    rw [startsWithIndicator, Bool.or_eq_false_iff] at noIndicator
    have noMark : [' ', '#', '%', '[', '{'].contains c = false := by
      simp only [List.contains_eq_mem, decide_eq_false_iff_not, List.mem_cons, List.not_mem_nil] at noIndicator ⊢
      rintro (rfl | rfl | rfl | rfl | rfl | impossible)
      · exact noSpace rfl
      all_goals first | exact noIndicator.1 (by decide) | exact impossible
    rw [List.cons_append] at noMarker ⊢
    rw [opensEntry, noBreak, noMark, noMarker, if_neg (by decide)]
    split
    · rename_i mark
      have isMark : ['?', ':', '-'].contains c = true := by rcases mark with rfl | rfl <;> rfl
      rw [isMark, Bool.true_and] at noIndicator
      -- a lone mark would have a blank ahead
      cases text with
      | nil => cases noIndicator.2
      | cons d text => exact (congrArg Bool.not noIndicator.2 :)
    · rfl

/-- A key opens an entry in each style: three of them start with a quote or an
indicator, and plain keys are allowed only where they cannot be taken for
anything else. -/
theorem opensEntry_stringText (indent : Nat) (key : String) (rest : List Char) :
    opensEntry (stringText indent key ++ ':' :: rest) = true := by
  unfold stringText
  dsimp only
  cases style : ScalarStyle.ofString key with
  | plain =>
    obtain ⟨nonempty, allowed⟩ := plainAllowed_of_style style
    exact opensEntry_of_plainAllowed nonempty allowed rest
  | singleQuoted => rfl
  | doubleQuoted => rfl
  | literal => rfl

/-- The text of an entry opens one at the margin, with its key or with a
question mark. -/
theorem opensEntry_entryText (entry : String × Value) (rest : List Char) :
    opensEntry (entryText 0 entry ++ rest) = true := by
  unfold entryText
  dsimp only
  split
  · rw [List.append_assoc, List.cons_append, opensEntry_stringText]
  · rfl

/-- The text of an entry starts with its key, on one line with a colon or behind
a question mark. -/
theorem opens_entryText (entry : String × Value) (rest : List Char) : Opens entry.1 (entryText 0 entry ++ rest) := by
  unfold entryText
  dsimp only
  split
  · refine .inl ⟨valueText 0 .key entry.2 ++ rest, ?_⟩
    simp only [List.append_assoc, List.cons_append, List.nil_append, Nat.zero_add]
  · refine .inr ⟨freshLine (stringText 2 entry.1) ++ spaces 0 ++ ':' :: valueText 0 .mark entry.2 ++ rest, ?_⟩
    simp only [List.append_assoc, List.cons_append, Nat.zero_add]

/-- Whether a line break is missing at the end is seen from the last part. -/
theorem freshLine_append {text more : List Char} (nonempty : more ≠ []) :
    freshLine (text ++ more) = freshLine more := by
  rw [freshLine, freshLine, List.getLast?_append, List.getLast?_eq_some_getLast nonempty, Option.some_or]

theorem joinLines_ne_nil {texts : List (List Char)} (nonempty : texts ≠ []) (each : ∀ text ∈ texts, text ≠ []) :
    joinLines 0 texts ≠ [] := by
  cases texts with
  | nil => exact absurd rfl nonempty
  | cons text texts =>
    obtain ⟨here, -⟩ := List.forall_mem_cons.mp each
    cases texts with
    | nil => exact here
    | cons next texts =>
      rw [joinLines, List.append_assoc, List.append_assoc]
      · exact List.append_ne_nil_of_left_ne_nil here _
      · exact List.cons_ne_nil _ _

/-- At the margin every text is ended by a line break, so that the lines are
those of the texts one behind the other. -/
theorem joinLines_freshLine {texts : List (List Char)} (nonempty : texts ≠ []) (each : ∀ text ∈ texts, text ≠ []) :
    joinLines 0 texts ++ freshLine (joinLines 0 texts) = (texts.map fun text => text ++ freshLine text).flatten := by
  induction texts with
  | nil => exact absurd rfl nonempty
  | cons text texts ih =>
    obtain ⟨-, later⟩ := List.forall_mem_cons.mp each
    rw [List.map_cons, List.flatten_cons]
    cases texts with
    | nil => rw [joinLines, List.map_nil, List.flatten_nil, List.append_nil]
    | cons next texts =>
      have several : next :: texts ≠ [] := List.cons_ne_nil _ _
      rw [joinLines, freshLine_append (joinLines_ne_nil several later), List.append_assoc, ih several later]
      · simp only [spaces, List.replicate_zero, List.append_nil]
      · exact several

/-- At the margin nothing stands in front of the arguments, so their text is
that of the entries put together. -/
theorem valueText_arguments {arguments : Arguments} (nonempty : arguments ≠ []) :
    valueText 0 .nothing (.mapping arguments) = joinLines 0 (arguments.map (entryText 0)) := by
  rw [← entryTexts_eq_map]
  cases arguments with
  | nil => exact absurd rfl nonempty
  | cons entry arguments =>
    rw [valueText]
    · rfl
    · exact List.cons_ne_nil _ _

/-- What is printed of arguments is a document with a mapping at its top level,
which has an entry for each of them, in their order. -/
theorem topLevel_print (arguments : Arguments) : ∃ entries,
    TopLevel (print (.mapping arguments)).toList entries ∧ List.Forall₂ Opens (arguments.map Prod.fst) entries := by
  unfold print
  dsimp only
  rw [String.toList_ofList]
  by_cases nonempty : arguments = []
  · rw [nonempty, valueText]
    exact ⟨[], .empty, .nil⟩
  · have texts : ∀ text ∈ arguments.map (entryText 0), text ≠ [] :=
      List.forall_mem_map.mpr fun entry _ => entryText_ne_nil 0 entry
    rw [valueText_arguments nonempty, joinLines_freshLine (List.map_eq_nil_iff.not.mpr nonempty) texts, List.map_map]
    refine ⟨_, .block (List.map_eq_nil_iff.not.mpr nonempty) (cutEntries_flatten ?_), ?_⟩
    · refine List.forall_mem_map.mpr fun entry _ => ⟨fun rest => ?_, ?_, lineAfter_freshLine (entryText_ne_nil 0 entry)⟩
      · rw [Function.comp_apply, List.append_assoc, opensEntry_entryText]
      · exact (goesOn_entryText fun before => goesOn_valueText entry.2 0 before).append goesOn_freshLine
    · rw [List.forall₂_map_left_iff, List.forall₂_map_right_iff]
      exact List.forall₂_same.mpr fun entry _ => opens_entryText entry _

example : TopLevel (print (.mapping [("b", .sequence [.null]), ("c", .mapping [("x", .bool true)])])).toList
    ["b:\n- null\n".toList, "c:\n  x: true\n".toList] := .block (List.cons_ne_nil _ _) (by decide)

end Document

end Overlay.Yaml
