import Overlay.Proofs.JsonTrees
import Overlay.Proofs.ValueFolds
import Overlay.Report

namespace Overlay

namespace Json

/-- A text is read as these tokens wherever it does not run into a word. -/
def Lexes (text : List Char) (read : List Token) : Prop :=
  ∀ rest, Breaks rest → tokens (text ++ rest) = (tokens rest).map (read ++ ·)

section Words

/-- A word is one token if it is recognized and nothing of the text behind it
goes on with it. It is not empty, since a token takes at least one character. -/
theorem lexes_word {word : List Char} {token : Token} (spells : word? word = some token) (nonempty : word ≠ [])
    (all : ∀ c ∈ word, isWordChar c = true) : Lexes word [token] :=
  fun _ breaks => tokens_word spells nonempty all breaks

theorem lexes_null : Lexes "null".toList [.null] := lexes_word rfl (by decide) (List.all_eq_true.mp rfl)

theorem lexes_bool (b : Bool) : Lexes (if b then "true" else "false").toList [.bool b] := by
  cases b <;> exact lexes_word rfl (by decide) (List.all_eq_true.mp rfl)

/-- A number is not one of the three words, so that nothing stands before its
being read as a number. -/
theorem word?_of_isNumber {text : List Char} (number : isNumber text = true) : word? text = some (.number text) := by
  have noWord (word : List Char) (other : isNumber word = false) : text ≠ word := by
    rintro rfl
    rw [other] at number
    cases number
  rw [word?, if_neg (noWord _ (by decide)), if_neg (noWord _ (by decide)), if_neg (noWord _ (by decide)), if_pos number]

/-- The characters of numbers go into one word, the signs and the point
included, which end no word. -/
theorem isWordChar_of_isNumeral {c : Char} (numeral : isNumeral c = true) : isWordChar c = true := by
  have letters : ∀ c ∈ ['-', '+', '.', 'e', 'i', 'n', 'f', 'a'], isWordChar c = true := List.all_eq_true.mp rfl
  rcases Bool.or_eq_true_iff.mp numeral with digit | letter
  · rw [isWordChar, Char.isAlphanum, digit, Bool.or_true, Bool.true_or]
  · exact letters c (List.contains_iff_mem.mp letter)

theorem lexes_number {text : List Char} (number : isNumber text = true) (all : ∀ c ∈ text, isNumeral c = true) :
    Lexes text [.number text] := by
  refine lexes_word (word?_of_isNumber number) ?_ fun c member => isWordChar_of_isNumeral (all c member)
  rintro rfl
  cases number

end Words

section Strings

variable {rest : List Char}

theorem hexDigit?_digitChar {n : Nat} (small : n < 16) : Yaml.hexDigit? n.digitChar = some n := by
  have all : ∀ n < 16, Yaml.hexDigit? n.digitChar = some n := by decide
  exact all n small

/-- A character behind a backslash is read back as what it stands for, unless it
announces a code. -/
theorem string?_escaped {c e : Char} (noCode : e ≠ 'u') (escaped : escaped? e = some c) :
    string? .none ('\\' :: e :: rest) = (string? .none rest).map (push c) := by
  rw [string?, if_neg (by decide), if_pos rfl, string?, if_neg noCode, escaped, Option.bind_some]

/-- A control character is written as a code of four digits, of which the first
two are zeros. -/
theorem string?_control {c : Char} (control : c.toNat < 0x20) :
    string? .none ('\\' :: 'u' :: '0' :: '0' :: Nat.digitChar (c.toNat / 16) :: Nat.digitChar (c.toNat % 16) :: rest) =
      (string? .none rest).map (push c) := by
  have zero : Yaml.hexDigit? '0' = some 0 := rfl
  have high : Yaml.hexDigit? (c.toNat / 16).digitChar = some (c.toNat / 16) := hexDigit?_digitChar (by omega)
  have low : Yaml.hexDigit? (c.toNat % 16).digitChar = some (c.toNat % 16) := hexDigit?_digitChar (by omega)
  have code : 16 * (16 * (16 * (16 * 0 + 0) + 0) + c.toNat / 16) + c.toNat % 16 = c.toNat := by omega
  have character : Yaml.charOfCode? c.toNat = some c := by
    rw [Yaml.charOfCode?, if_pos (show c.toNat.isValidChar from c.valid), Char.ofNat_toNat]
  rw [string?, if_neg (by decide), if_pos rfl, string?, if_pos rfl, string?, zero, Option.bind_some, string?, zero,
    Option.bind_some, string?, high, Option.bind_some, string?, low, Option.bind_some, code, character,
    Option.bind_some]

/-- Whatever way a character is written, it is read back and the text goes on
behind it. This is the step of the induction along a string. -/
theorem string?_escape (c : Char) : string? .none (escape c ++ rest) = (string? .none rest).map (push c) := by
  unfold escape
  iterate 7
    split
    · subst_vars
      exact string?_escaped (by decide) rfl
  split
  · exact string?_control ‹_›
  · rename_i noQuote noBackslash _ _ _ _ _ noControl
    rw [List.singleton_append, string?, if_neg noQuote, if_neg noBackslash, if_neg noControl]

/-- An escaped text is read as the text. -/
theorem string?_flatMap_escape (text : List Char) :
    string? .none (text.flatMap escape ++ '"' :: rest) = some (text, rest) := by
  induction text with
  | nil => rw [List.flatMap_nil, List.nil_append, string?, if_pos rfl]
  | cons c text ih => rw [List.flatMap_cons, List.append_assoc, string?_escape, ih, Option.map_some, push]

theorem lexes_stringText (text : String) : Lexes (stringText text) [.string text] := by
  intro rest _
  rw [stringText, List.cons_append, List.cons_append, List.append_assoc, List.singleton_append,
    tokens_string (string?_flatMap_escape text.toList), String.ofList_toList]
  rfl

end Strings

section Collections

theorem tokens_blanks {blanks rest : List Char} (all : ∀ c ∈ blanks, isBlank c = true) :
    tokens (blanks ++ rest) = tokens rest := by
  induction blanks with
  | nil => rfl
  | cons c blanks ih =>
    obtain ⟨blank, more⟩ := List.forall_mem_cons.mp all
    rw [List.cons_append, tokens_blank blank, ih more]

theorem isBlank_newLine (layout : Layout) (level : Nat) : ∀ c ∈ layout.newLine level, isBlank c = true := by
  cases layout with
  | compact => exact List.forall_mem_nil _
  | pretty =>
    refine List.forall_mem_cons.mpr ⟨by decide, fun c member => ?_⟩
    rw [List.eq_of_mem_replicate member]
    rfl

/-- Parts with a separator in between are the first part and then every other
one with a separator in front. The printer says it the one way and the reader
needs the other. -/
theorem flatten_intersperse_cons {α : Type} (separator first : List α) (rest : List (List α)) :
    ((first :: rest).intersperse separator).flatten = first ++ rest.flatMap (separator ++ ·) := by
  induction rest generalizing first with
  | nil => rw [List.intersperse_singleton, List.flatten_singleton, List.flatMap_nil, List.append_nil]
  | cons second rest ih =>
    rw [List.intersperse_cons_cons, List.flatten_cons, List.flatten_cons, ih, List.flatMap_cons, List.append_assoc]

variable {layout : Layout} {level : Nat} {closing : Char} {rest : List Char}

theorem tokens_newLine : tokens (layout.newLine level ++ rest) = tokens rest :=
  tokens_blanks (isBlank_newLine layout level)

theorem breaks_newLine (breaks : Breaks rest) : Breaks (layout.newLine level ++ rest) := by
  have blanks := isBlank_newLine layout level
  cases shape : layout.newLine level with
  | nil => exact breaks
  | cons c more =>
    rw [shape] at blanks
    exact breaks_cons (Or.inl (blanks c List.mem_cons_self))

/-- The text behind the first part of a collection. -/
def restText (layout : Layout) (level : Nat) (closing : Char) (parts : List (List Char)) (rest : List Char) :
    List Char :=
  parts.flatMap ((',' :: layout.newLine (level + 1)) ++ ·) ++ (layout.newLine level ++ closing :: rest)

theorem restText_cons (part : List Char) (parts : List (List Char)) :
    restText layout level closing (part :: parts) rest =
      ',' :: (layout.newLine (level + 1) ++ (part ++ restText layout level closing parts rest)) := by
  simp only [restText, List.flatMap_cons, List.cons_append, List.append_assoc]

theorem breaks_restText (mark : isMark closing = true) (parts : List (List Char)) :
    Breaks (restText layout level closing parts rest) := by
  cases parts with
  | nil => exact breaks_newLine (breaks_cons (Or.inr (Or.inl mark)))
  | cons part parts =>
    rw [restText_cons]
    exact breaks_cons (Or.inr (Or.inl rfl))

/-- What follows the first part of a collection is read part by part. The
hypothesis about each part is used with what stands behind it, whatever that is.
-/
theorem tokens_restText (mark : isMark closing = true) {parts : List (List Char)} {reads : List (List Token)}
    (each : List.Forall₂ Lexes parts reads) : tokens (restText layout level closing parts rest) =
      (tokens rest).map (reads.flatMap (.mark ',' :: ·) ++ .mark closing :: ·) := by
  induction each with
  | nil => exact tokens_newLine.trans (tokens_mark mark)
  | @cons part read parts reads here _ ih =>
    rw [restText_cons, tokens_mark rfl, tokens_newLine, here _ (breaks_restText mark parts), ih, Option.map_map,
      Option.map_map]
    refine congrArg (Option.map · (tokens rest)) (funext fun behind => ?_)
    simp only [Function.comp_apply, List.flatMap_cons, List.cons_append, List.append_assoc]

/-- A collection is read as its opening mark, the tokens of its parts with
commas in between and its closing mark. The layout puts blanks between them,
which are skipped, in the pretty layout as in the compact one. -/
theorem lexes_enclose {opening : Char} (open_mark : isMark opening = true) (mark : isMark closing = true)
    {parts : List (List Char)} {reads : List (List Token)} (each : List.Forall₂ Lexes parts reads) :
    Lexes (layout.enclose level opening closing parts) (enclose opening closing reads) := by
  intro rest _
  cases each with
  | nil =>
    rw [Layout.enclose, if_pos rfl, List.cons_append, tokens_mark open_mark, List.singleton_append, tokens_mark mark,
      Option.map_map]
    rfl
  | @cons part read parts reads here later =>
    have shape : layout.enclose level opening closing (part :: parts) ++ rest =
        opening :: (layout.newLine (level + 1) ++ (part ++ restText layout level closing parts rest)) := by
      rw [Layout.enclose, if_neg (List.cons_ne_nil _ _), flatten_intersperse_cons, restText]
      simp only [List.cons_append, List.append_assoc, List.nil_append]
    rw [shape, tokens_mark open_mark, tokens_newLine, here _ (breaks_restText mark parts), tokens_restText mark later,
      Option.map_map, Option.map_map]
    refine congrArg (Option.map · (tokens rest)) (funext fun behind => ?_)
    simp only [Function.comp_apply, enclose, List.cons_append, List.append_assoc, List.nil_append]

end Collections

/-- The tree that a value is to denote. A float without a number in it has none
in this format, and null is written in its place. -/
def Tree.ofValue : Value → Tree :=
  Value.fold
    (fun
      | .bool value => .bool value
      | .integer value => .number (toString value.toInt).toList
      | .float value => if value.isFinite then .number (floatNotation.finite value) else .null
      | .string text => .string text
      | _ => .null)
    .array .object

theorem itemTexts_eq_map (layout : Layout) (level : Nat) (items : List Value) :
    itemTexts layout level items = items.map (valueText layout level) := by
  induction items with
  | nil => rfl
  | cons item rest ih => rw [itemTexts, ih, List.map_cons]

/-- One of the texts that `entryTexts` lists. -/
def entryText (layout : Layout) (level : Nat) (entry : String × Value) : List Char :=
  stringText entry.1 ++ layout.colon ++ valueText layout level entry.2

theorem entryTexts_eq_map (layout : Layout) (level : Nat) (entries : Arguments) :
    entryTexts layout level entries = entries.map (entryText layout level) := by
  induction entries with
  | nil => rfl
  | cons entry rest ih => rw [entryTexts, ih, List.map_cons, entryText]

/-- An entry is read as its name, a colon and the tokens of its value. -/
theorem lexes_entryText {layout : Layout} {level : Nat} {entry : String × Value} {tree : Tree}
    (value : Lexes (valueText layout level entry.2) tree.tokens) :
    Lexes (entryText layout level entry) (Tree.memberOf (entry.1, tree)) := by
  intro rest breaks
  have colon : tokens (layout.colon ++ (valueText layout level entry.2 ++ rest)) =
      (tokens (valueText layout level entry.2 ++ rest)).map (.mark ':' :: ·) := by
    cases layout with
    | compact => exact tokens_mark rfl
    | pretty => exact (tokens_mark rfl).trans (congrArg _ (tokens_blank rfl))
  have breaksColon : Breaks (layout.colon ++ (valueText layout level entry.2 ++ rest)) := by
    cases layout <;> exact breaks_cons (Or.inr (Or.inl rfl))
  rw [entryText, List.append_assoc, List.append_assoc, lexes_stringText _ _ breaksColon, colon, value rest breaks,
    Option.map_map, Option.map_map]
  rfl

theorem Tree.ofValue_sequence (items : List Value) :
    ofValue (.sequence items) = .array (items.map ofValue) := Value.fold_sequence ..

theorem Tree.ofValue_mapping (entries : Arguments) :
    ofValue (.mapping entries) = .object (entries.map fun entry => (entry.1, ofValue entry.2)) := Value.fold_mapping ..

/-- A float that is finite is printed as a number of the grammar, and any other
as null. -/
theorem lexes_floatText (x : Double) : Lexes (floatText x) (Tree.ofValue (.float x)).tokens := by
  have shape : Tree.ofValue (.float x) = if x.isFinite then .number (floatNotation.finite x) else .null := rfl
  rw [floatText, shape]
  split
  · exact lexes_number (isNumber_finite x) (floatNotation.isNumeral_finite x)
  · exact lexes_null

/-- In either layout and at every level, a value is read as its tree. -/
theorem lexes_valueText (layout : Layout) (level : Nat) (value : Value) :
    Lexes (valueText layout level value) (Tree.ofValue value).tokens := by
  induction value using Value.memberInduction generalizing level with
  | null => exact lexes_null
  | bool b => exact lexes_bool b
  | integer n => exact lexes_number (isNumber_of_isInteger (isInteger_toString _)) (isNumeral_toString _)
  | float x => exact lexes_floatText x
  | string text => exact lexes_stringText text
  | sequence items ih =>
    rw [Tree.ofValue_sequence, Tree.tokens_array, valueText, itemTexts_eq_map]
    refine lexes_enclose rfl rfl ?_
    rw [List.map_map, List.forall₂_map_left_iff, List.forall₂_map_right_iff, List.forall₂_same]
    exact fun item member => ih item member _
  | mapping entries ih =>
    rw [Tree.ofValue_mapping, Tree.tokens_object, valueText, entryTexts_eq_map]
    refine lexes_enclose rfl rfl ?_
    rw [List.map_map, List.forall₂_map_left_iff, List.forall₂_map_right_iff, List.forall₂_same]
    exact fun entry member => lexes_entryText (ih entry member _)

/-- The printed arguments denote one tree. -/
theorem denotes_print_iff {arguments : Arguments} {tree : Tree} :
    Denotes (Format.json.print arguments) tree ↔ tree = .ofValue (.mapping arguments) := by
  have printed : Denotes (Format.json.print arguments) (.ofValue (.mapping arguments)) := by
    have breaks : Breaks ['\n'] := breaks_cons (Or.inl rfl)
    have text : (Format.json.print arguments).toList = valueText .pretty 0 (.mapping arguments) ++ ['\n'] := by
      rw [Format.print, Json.print, String.toList_append, String.toList_ofList]
      rfl
    rw [Denotes, text, lexes_valueText .pretty 0 _ _ breaks, tokens_blank rfl, tokens_nil, Option.map_some,
      List.append_nil]
  constructor
  · exact fun denotes => denotes.unique printed
  · rintro rfl
    exact printed

end Json

end Overlay
