import Overlay.Proofs.JsonNumbers
import Overlay.Yaml.Scalar.Quoted

namespace Overlay.Json

/-- What the text of a document is made of; the marks are brackets, braces,
commas and colons. -/
inductive Token where
  | mark (c : Char)
  | null
  | bool (value : Bool)
  | number (literal : List Char)
  | string (text : String)
  deriving DecidableEq

section Strings

/-- A character behind a backslash. -/
def escaped? : Char → Option Char
  | '"' => some '"'
  | '\\' => some '\\'
  | '/' => some '/'
  | 'b' => some '\x08'
  | 'f' => some '\x0C'
  | 'n' => some '\n'
  | 'r' => some '\r'
  | 't' => some '\t'
  | _ => none

/-- What stands right before a character of a string: nothing that matters to
it, a backslash, or the start of an escaped code point, with so many digits to
come after the next one. -/
inductive Escape where
  | none
  | backslash
  | digits (more code : Nat)

def push (c : Char) (read : List Char × List Char) : List Char × List Char := (c :: read.1, read.2)

/-- The characters of a string up to its closing quote, and what stands behind
the quote. Each escaped code point is a character; halves of surrogate pairs are
none. -/
def string? : Escape → List Char → Option (List Char × List Char)
  | _, [] => Option.none
  | .none, c :: rest =>
    if c = '"' then some ([], rest)
    else if c = '\\' then string? .backslash rest
    else if c.toNat < 0x20 then Option.none
    else (string? .none rest).map (push c)
  | .backslash, e :: rest =>
    if e = 'u' then string? (.digits 3 0) rest
    else (escaped? e).bind fun c => (string? .none rest).map (push c)
  | .digits (more + 1) code, d :: rest =>
    (Yaml.hexDigit? d).bind fun digit => string? (.digits more (16 * code + digit)) rest
  | .digits 0 code, d :: rest =>
    (Yaml.hexDigit? d).bind fun digit => (Yaml.charOfCode? (16 * code + digit)).bind fun c =>
      (string? .none rest).map (push c)

/-- Reading a string takes characters away, so that the lexer can go on behind
it by recursion on the length. -/
theorem length_string?_lt {escape : Escape} {text : List Char} {read : List Char × List Char}
    (found : string? escape text = some read) : read.2.length < text.length := by
  induction text generalizing escape read with
  | nil => cases escape <;> cases found
  | cons first rest ih =>
    have pushed {c : Char} (found : (string? .none rest).map (push c) = some read) :
        read.2.length < (first :: rest).length := by
      obtain ⟨inner, more, rfl⟩ := Option.map_eq_some_iff.mp found
      have shorter : inner.2.length < rest.length := ih more
      exact Nat.lt_succ_of_lt shorter
    match escape with
    | .none =>
      rw [string?] at found
      split at found
      · cases found
        exact Nat.lt_succ_self _
      · split at found
        · exact Nat.lt_succ_of_lt (ih found)
        · split at found
          · cases found
          · exact pushed found
    | .backslash =>
      rw [string?] at found
      split at found
      · exact Nat.lt_succ_of_lt (ih found)
      · obtain ⟨c, _, more⟩ := Option.bind_eq_some_iff.mp found
        exact pushed more
    | .digits (_ + 1) code =>
      obtain ⟨digit, _, more⟩ := Option.bind_eq_some_iff.mp found
      exact Nat.lt_succ_of_lt (ih more)
    | .digits 0 code =>
      obtain ⟨digit, _, atCode⟩ := Option.bind_eq_some_iff.mp found
      obtain ⟨c, _, more⟩ := Option.bind_eq_some_iff.mp atCode
      exact pushed more

end Strings

def isMark (c : Char) : Bool := ['[', ']', '{', '}', ',', ':'].contains c

def isBlank (c : Char) : Bool := [' ', '\t', '\n', '\r'].contains c

def isWordChar (c : Char) : Bool := c.isAlphanum || ['-', '+', '.'].contains c

def word? (word : List Char) : Option Token :=
  if word = "null".toList then some .null
  else if word = "true".toList then some (.bool true)
  else if word = "false".toList then some (.bool false)
  else if isNumber word then some (.number word)
  else none

/-- The tokens of a text, with any blanks between them. -/
def tokens : List Char → Option (List Token)
  | [] => some []
  | c :: rest =>
    if isBlank c then tokens rest
    else if isMark c then (tokens rest).map (.mark c :: ·)
    else if c = '"' then
      match _found : string? .none rest with
      | none => none
      | some (text, behind) => (tokens behind).map (.string (String.ofList text) :: ·)
    else if isWordChar c then
      (word? (c :: rest.takeWhile isWordChar)).bind fun token =>
        (tokens (rest.dropWhile isWordChar)).map (token :: ·)
    else none
termination_by text => text.length
decreasing_by
  · exact Nat.lt_succ_self _
  · exact Nat.lt_succ_self _
  · exact Nat.lt_succ_of_lt (length_string?_lt ‹_›)
  · exact Nat.lt_succ_of_le ((List.dropWhile_sublist _).length_le)

section Lexing

variable {c : Char} {text rest behind : List Char}

theorem tokens_nil : tokens [] = some [] := by rw [tokens]

theorem tokens_blank (blank : isBlank c = true) : tokens (c :: rest) = tokens rest := by
  rw [tokens, if_pos blank]

theorem tokens_mark (mark : isMark c = true) : tokens (c :: rest) = (tokens rest).map (.mark c :: ·) := by
  have others : ∀ c ∈ ['[', ']', '{', '}', ',', ':'], (!isBlank c) = true := List.all_eq_true.mp rfl
  have noBlank : ¬ isBlank c = true := by simpa using others c (List.contains_iff_mem.mp mark)
  rw [tokens, if_neg noBlank, if_pos mark]

/-- A string is one token, however many of its characters would be marks or
blanks outside of it. -/
theorem tokens_string (read : string? .none rest = some (text, behind)) :
    tokens ('"' :: rest) = (tokens behind).map (.string (String.ofList text) :: ·) := by
  rw [tokens, if_neg (by decide), if_neg (by decide), if_pos rfl, read]

/-- No text, or one whose first character belongs to no word. -/
def Breaks (text : List Char) : Prop := ∀ c ∈ text.head?, isWordChar c = false

theorem isWordChar_of_other (other : isBlank c = true ∨ isMark c = true ∨ c = '"') : isWordChar c = false := by
  have blanks : ∀ c ∈ [' ', '\t', '\n', '\r'], (!isWordChar c) = true := List.all_eq_true.mp rfl
  have marks : ∀ c ∈ ['[', ']', '{', '}', ',', ':'], (!isWordChar c) = true := List.all_eq_true.mp rfl
  rcases other with blank | mark | rfl
  · simpa using blanks c (List.contains_iff_mem.mp blank)
  · simpa using marks c (List.contains_iff_mem.mp mark)
  · rfl

theorem breaks_cons (other : isBlank c = true ∨ isMark c = true ∨ c = '"') : Breaks (c :: rest) := by
  rintro _ ⟨⟩
  exact isWordChar_of_other other

/-- The characters of a word go together. -/
theorem tokens_word {word : List Char} {token : Token} (spells : word? word = some token) (nonempty : word ≠ [])
    (all : ∀ c ∈ word, isWordChar c = true) (breaks : Breaks rest) :
    tokens (word ++ rest) = (tokens rest).map (token :: ·) := by
  obtain ⟨c, more, rfl⟩ := List.exists_cons_of_ne_nil nonempty
  obtain ⟨first, others⟩ := List.forall_mem_cons.mp all
  have noOther (other : isBlank c = true ∨ isMark c = true ∨ c = '"') : False := by
    rw [isWordChar_of_other other] at first
    cases first
  have behind : rest.takeWhile isWordChar = [] ∧ rest.dropWhile isWordChar = rest := by
    cases rest with
    | nil => exact ⟨rfl, rfl⟩
    | cons d rest =>
      have stop := breaks d rfl
      exact ⟨List.takeWhile_cons_of_neg (by simp [stop]), List.dropWhile_cons_of_neg (by simp [stop])⟩
  rw [List.cons_append, tokens, if_neg (noOther ∘ .inl), if_neg (noOther ∘ .inr ∘ .inl),
    if_neg (noOther ∘ .inr ∘ .inr), if_pos first, List.takeWhile_append_of_pos others, behind.1, List.append_nil,
    spells, List.dropWhile_append_of_pos others, behind.2, Option.bind_some]

end Lexing

/-- What a document says; an object keeps its members in order, repeated names
included. -/
inductive Tree where
  | null
  | bool (value : Bool)
  | number (literal : List Char)
  | string (text : String)
  | array (items : List Tree)
  | object (members : List (String × Tree))

/-- The parts of a collection between its brackets, set apart by commas. -/
def enclose (opening closing : Char) : List (List Token) → List Token
  | [] => [.mark opening, .mark closing]
  | first :: rest => .mark opening :: first ++ rest.flatMap (.mark ',' :: ·) ++ [.mark closing]

namespace Tree

mutual

/-- How a tree is written. -/
def tokens : Tree → List Token
  | .null => [.null]
  | .bool value => [.bool value]
  | .number literal => [.number literal]
  | .string text => [.string text]
  | .array items => enclose '[' ']' (itemTokens items)
  | .object members => enclose '{' '}' (memberTokens members)

def itemTokens : List Tree → List (List Token)
  | [] => []
  | item :: rest => item.tokens :: itemTokens rest

def memberTokens : List (String × Tree) → List (List Token)
  | [] => []
  | (name, tree) :: rest => (.string name :: .mark ':' :: tree.tokens) :: memberTokens rest

end

def memberOf (member : String × Tree) : List Token := .string member.1 :: .mark ':' :: member.2.tokens

theorem tokens_array (items : List Tree) : (array items).tokens = enclose '[' ']' (items.map tokens) := by
  rw [tokens]
  refine congrArg _ ?_
  induction items with
  | nil => rfl
  | cons item rest ih => rw [itemTokens, ih, List.map_cons]

theorem tokens_object (members : List (String × Tree)) :
    (object members).tokens = enclose '{' '}' (members.map memberOf) := by
  rw [tokens]
  refine congrArg _ ?_
  induction members with
  | nil => rfl
  | cons member rest ih => rw [memberTokens, ih, List.map_cons, memberOf]

/-- Induction with a hypothesis for every item and every member. -/
theorem memberInduction {motive : Tree → Prop} (null : motive .null) (bool : ∀ b, motive (.bool b))
    (number : ∀ literal, motive (.number literal)) (string : ∀ text, motive (.string text))
    (array : ∀ items, (∀ item ∈ items, motive item) → motive (.array items))
    (object : ∀ members : List (String × Tree), (∀ member ∈ members, motive member.2) → motive (.object members))
    (tree : Tree) : motive tree := by
  refine @Tree.rec motive (fun items => ∀ item ∈ items, motive item)
    (fun members => ∀ member ∈ members, motive member.2) (fun member => motive member.2)
    null bool number string array object ?noItem ?item ?noMember ?member ?pair tree
  case noItem => exact List.forall_mem_nil _
  case item => exact fun _ _ here later => List.forall_mem_cons.mpr ⟨here, later⟩
  case noMember => exact List.forall_mem_nil _
  case member => exact fun _ _ here later => List.forall_mem_cons.mpr ⟨here, later⟩
  case pair => exact fun _ _ atValue => atValue

end Tree

section Unambiguous

variable {α : Type}

/-- A part that is read in one way only, whatever stands behind it. -/
def IsPart (write : α → List Token) (part : α) : Prop :=
  ∀ other rest behind, write part ++ rest = write other ++ behind → part = other ∧ rest = behind

/-- Two lists of parts that are written alike behind their first ones, up to a
closing mark, are the same list. The induction takes one part off both: a comma
goes on, the closing mark ends, and each rules the other out. -/
theorem isPart_rest {write : α → List Token} {closing : Char} (noComma : closing ≠ ',') {parts others : List α}
    (each : ∀ part ∈ parts, IsPart write part) {rest behind : List Token}
    (same : (parts.map write).flatMap (.mark ',' :: ·) ++ .mark closing :: rest =
      (others.map write).flatMap (.mark ',' :: ·) ++ .mark closing :: behind) :
    parts = others ∧ rest = behind := by
  induction parts generalizing others with
  | nil =>
    cases others with
    | nil => exact ⟨rfl, (List.cons.inj same).2⟩
    | cons other others => exact absurd (Token.mark.inj (List.cons.inj same).1) noComma
  | cons part parts ih =>
    cases others with
    | nil => exact absurd (Token.mark.inj (List.cons.inj same).1).symm noComma
    | cons other others =>
      obtain ⟨here, later⟩ := List.forall_mem_cons.mp each
      simp only [List.map_cons, List.flatMap_cons, List.cons_append, List.append_assoc, List.cons.injEq,
        true_and] at same
      obtain ⟨rfl, tails⟩ := here other _ _ same
      obtain ⟨rfl, rfl⟩ := ih later tails
      exact ⟨rfl, rfl⟩

/-- Enclosed parts can be read off the front if each of them can and none is
written like the closing mark, which is what tells an empty list from one with
parts. -/
theorem isPart_enclose {write : α → List Token} {opening closing : Char} (noComma : closing ≠ ',')
    (opens : ∀ part rest behind, write part ++ rest ≠ .mark closing :: behind) {parts : List α}
    (each : ∀ part ∈ parts, IsPart write part) :
    IsPart (fun parts : List α => enclose opening closing (parts.map write)) parts := by
  intro others rest behind same
  cases parts with
  | nil =>
    cases others with
    | nil => exact ⟨rfl, (List.cons.inj (List.cons.inj same).2).2⟩
    | cons other others =>
      simp only [List.map_nil, List.map_cons, enclose, List.cons_append, List.append_assoc, List.cons.injEq,
        true_and] at same
      exact absurd same.symm (opens _ _ _)
  | cons part parts =>
    cases others with
    | nil =>
      simp only [List.map_nil, List.map_cons, enclose, List.cons_append, List.append_assoc, List.cons.injEq,
        true_and] at same
      exact absurd same (opens _ _ _)
    | cons other others =>
      obtain ⟨here, later⟩ := List.forall_mem_cons.mp each
      simp only [List.map_cons, enclose, List.cons_append, List.append_assoc, List.cons.injEq, true_and] at same
      obtain ⟨rfl, tails⟩ := here other _ _ same
      obtain ⟨rfl, rfl⟩ := isPart_rest noComma later tails
      exact ⟨rfl, rfl⟩

end Unambiguous

namespace Tree

/-- The first token of a tree. -/
def head : Tree → Token
  | .null => .null
  | .bool value => .bool value
  | .number literal => .number literal
  | .string text => .string text
  | .array _ => .mark '['
  | .object _ => .mark '{'

/-- No tree is written with no tokens: the first of them tells which kind of
tree it is. -/
theorem exists_tokens_eq (tree : Tree) : ∃ tail, tree.tokens = tree.head :: tail := by
  have enclosed (opening closing : Char) (parts : List (List Token)) :
      ∃ tail, enclose opening closing parts = .mark opening :: tail := by
    cases parts <;> exact ⟨_, rfl⟩
  cases tree with
  | array items => exact tokens_array items ▸ enclosed '[' ']' _
  | object members => exact tokens_object members ▸ enclosed '{' '}' _
  | _ => exact ⟨[], rfl⟩

theorem isPart_memberOf {member : String × Tree} (value : IsPart tokens member.2) : IsPart memberOf member := by
  rintro ⟨name, tree⟩ rest behind same
  simp only [memberOf, List.cons_append, List.cons.injEq, Token.string.injEq, true_and] at same
  obtain ⟨rfl, rfl⟩ := value tree rest behind same.2
  exact ⟨Prod.ext same.1 rfl, rfl⟩

/-- Two trees that are written at the front of one list of tokens begin with the
same token, hence are of one kind. -/
theorem head_eq_of_append {tree other : Tree} {rest behind : List Token}
    (same : tree.tokens ++ rest = other.tokens ++ behind) : other.head = tree.head := by
  obtain ⟨_, first⟩ := exists_tokens_eq tree
  obtain ⟨_, second⟩ := exists_tokens_eq other
  rw [first, second] at same
  exact (List.cons.inj same).1.symm

theorem isPart_of_head {tree : Tree} (leaf : tree.tokens = [tree.head])
    (only : ∀ other : Tree, other.head = tree.head → other = tree) : IsPart tokens tree := by
  intro other rest behind same
  obtain rfl := only other (head_eq_of_append same)
  exact ⟨rfl, List.append_cancel_left same⟩

/-- No tree is written beginning with the mark that closes an array, so an array
that ends at once has no items. -/
theorem tokens_append_ne_closing (tree : Tree) (rest behind : List Token) :
    tree.tokens ++ rest ≠ .mark ']' :: behind := by
  obtain ⟨_, shape⟩ := exists_tokens_eq tree
  rw [shape]
  intro same
  cases tree <;> cases (List.cons.inj same).1

/-- No text of a tree goes on as the text of another one. -/
theorem isPart_tokens (tree : Tree) : IsPart tokens tree := by
  induction tree using memberInduction with
  | array items ih =>
    intro other rest behind same
    have heads := head_eq_of_append same
    cases other with
    | array others =>
      rw [tokens_array, tokens_array] at same
      obtain ⟨rfl, rfl⟩ := isPart_enclose (by decide) tokens_append_ne_closing ih others rest behind same
      exact ⟨rfl, rfl⟩
    | object others => exact absurd (Token.mark.inj heads) (by decide)
    | _ => cases heads
  | object members ih =>
    intro other rest behind same
    have heads := head_eq_of_append same
    cases other with
    | object others =>
      rw [tokens_object, tokens_object] at same
      obtain ⟨rfl, rfl⟩ := isPart_enclose (by decide) nofun (fun member inside => isPart_memberOf (ih member inside))
        others rest behind same
      exact ⟨rfl, rfl⟩
    | array others => exact absurd (Token.mark.inj heads) (by decide)
    | _ => cases heads
  | _ =>
    refine isPart_of_head rfl fun other heads => ?_
    cases other <;> cases heads
    rfl

end Tree

/-- A text of which a reader makes this tree. -/
def Denotes (text : String) (tree : Tree) : Prop := tokens text.toList = some tree.tokens

/-- A text denotes at most one tree, which is why one may speak of the data that
was printed. -/
theorem Denotes.unique {text : String} {tree other : Tree} (first : Denotes text tree) (second : Denotes text other) :
    tree = other := by
  have same := Option.some.inj (first.symm.trans second)
  exact (tree.isPart_tokens other [] [] (congrArg (· ++ []) same)).1

end Overlay.Json
