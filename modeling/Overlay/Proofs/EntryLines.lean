import Mathlib
import Overlay.Proofs.ComposedNodes

namespace Overlay.Yaml

section Words

variable {c d : Char} {word rest : List Char}

/-- Characters of words are told from those that mean something to the reader by
their class. -/
theorem ne_of_isWordChar (inWord : isWordChar c = true) (other : isWordChar d = false) : c ≠ d := by
  rintro rfl
  rw [other] at inWord
  cases inWord

theorem isBreak_of_isWordChar (inWord : isWordChar c = true) : isBreak c = false := by
  simp only [isBreak, Bool.or_eq_false_iff, beq_eq_false_iff_ne]
  have apart {d : Char} := ne_of_isWordChar (d := d) inWord
  exact ⟨⟨⟨⟨apart (by decide), apart (by decide)⟩, apart (by decide)⟩, apart (by decide)⟩, apart (by decide)⟩

theorem isSpaceOrTab_of_isWordChar (inWord : isWordChar c = true) : isSpaceOrTab c = false := by
  simp only [isSpaceOrTab, Bool.or_eq_false_iff, beq_eq_false_iff_ne]
  exact ⟨ne_of_isWordChar inWord (by decide), ne_of_isWordChar inWord (by decide)⟩

/-- The class lies within a range of code points. With these bounds all other
tests on its characters are comparisons of numbers. -/
theorem toNat_of_isWordChar (inWord : isWordChar c = true) : 45 ≤ c.toNat ∧ c.toNat ≤ 122 := by
  simp only [isWordChar, Char.isAlphanum, Char.isAlpha, Char.isUpper, Char.isLower, Char.isDigit, Bool.or_eq_true,
    Bool.and_eq_true, decide_eq_true_eq, beq_iff_eq, ge_iff_le, UInt32.le_iff_toNat_le] at inWord
  change (((65 ≤ c.toNat ∧ c.toNat ≤ 90 ∨ 97 ≤ c.toNat ∧ c.toNat ≤ 122) ∨ 48 ≤ c.toNat ∧ c.toNat ≤ 57) ∨ c = '_') ∨
    c = '-' at inWord
  rcases inWord with (((_ | _) | _) | rfl) | rfl <;> first | omega | decide

theorem utf8Size_of_isWordChar (inWord : isWordChar c = true) : c.utf8Size = 1 := by
  have bound := (toNat_of_isWordChar inWord).2
  exact Char.utf8Size_eq_one_iff.mpr (UInt32.le_iff_toNat_le.mpr (Nat.le_trans bound (by decide)))

/-- A character of a word may stand in a document. -/
theorem isAllowed_of_isWordChar (inWord : isWordChar c = true) : isAllowed c = true := by
  obtain ⟨low, high⟩ := toNat_of_isWordChar inWord
  simp only [isAllowed, Bool.or_eq_true, Bool.and_eq_true, decide_eq_true_eq]
  omega

theorem blankAhead_cons_word (inWord : isWordChar c = true) : blankAhead (c :: rest) = false :=
  Bool.or_eq_false_iff.mpr ⟨isSpaceOrTab_of_isWordChar inWord, isBreak_of_isWordChar inWord⟩

/-- A word does not start with a blank, nor does what comes behind an empty one,
which is the colon. -/
theorem blankAhead_word (all : ∀ c ∈ word, isWordChar c = true) : blankAhead (word ++ ':' :: rest) = false := by
  cases word with
  | nil => rfl
  | cons c more => exact blankAhead_cons_word (all c List.mem_cons_self)

/-- A key is no document marker, even if it is made of dashes, since a marker
ends at a blank. -/
theorem markerAhead_word (all : ∀ c ∈ word, isWordChar c = true) : markerAhead (word ++ ':' :: rest) = false := by
  unfold markerAhead
  rcases word with _ | ⟨first, _ | ⟨second, _ | ⟨third, more⟩⟩⟩
  · rfl
  · split <;> simp_all
  · split <;> simp_all
  · split
    · rename_i same
      obtain ⟨-, -, -, rfl⟩ : _ ∧ _ ∧ _ ∧ _ := by simpa using same
      exact blankAhead_word fun c member => all c (by simp [member])
    · rename_i same
      exact absurd (List.cons.inj same).1 (ne_of_isWordChar (all first List.mem_cons_self) rfl)
    · rfl

/-- A word inside a plain scalar is taken up as it stands. -/
theorem readPlain_word (all : ∀ c ∈ word, isWordChar c = true) {indent column : Nat} {scalar : ScalarText}
    (read : readPlain false indent (column + word.length) true [] [] rest = .ok scalar) :
    readPlain false indent column true [] [] (word ++ rest) =
      .ok { scalar with text := word ++ scalar.text, consumed := word.length + scalar.consumed } := by
  induction word generalizing column with
  | nil => simpa using read
  | cons c word ih =>
    obtain ⟨inWord, more⟩ := List.forall_mem_cons.mp all
    rw [List.length_cons, ← Nat.add_assoc, Nat.add_right_comm] at read
    have noReturn := ne_of_isWordChar (d := '\r') inWord rfl
    have noColon := ne_of_isWordChar (d := ':') inWord rfl
    rw [List.cons_append, readPlain]
    simp [noReturn, noColon, isBreak_of_isWordChar inWord, isSpaceOrTab_of_isWordChar inWord, endsPlain, ih more read,
      Except.map, ScalarText.push]
    omega

namespace Cursor

theorem advance_of_rest_eq_nil {cursor : Cursor} (atEnd : cursor.rest = []) (count : Nat) :
    cursor.advance count = cursor := by
  cases count with
  | zero => rfl
  | succ count => rw [advance, atEnd]

theorem advance_add (cursor : Cursor) (first second : Nat) :
    cursor.advance (first + second) = (cursor.advance first).advance second := by
  induction first generalizing cursor with
  | zero => rw [Nat.zero_add, advance]
  | succ first ih =>
    rw [Nat.add_right_comm, advance, advance]
    cases whole : cursor.rest with
    | nil => exact (advance_of_rest_eq_nil whole second).symm
    | cons c rest =>
      dsimp only
      split <;> exact ih _

theorem advance_word (all : ∀ c ∈ word, isWordChar c = true) (offset line column : Nat) :
    advance ⟨word ++ rest, offset, line, column⟩ word.length =
      ⟨rest, offset + word.length, line, column + word.length⟩ := by
  induction word generalizing offset column with
  | nil => rfl
  | cons c word ih =>
    obtain ⟨inWord, more⟩ := List.forall_mem_cons.mp all
    simp [advance, isBreak_of_isWordChar inWord, utf8Size_of_isWordChar inWord, ih more]
    omega

end Cursor

namespace Lexer

variable {lexer here next : Lexer}

/-- Whether a token can start with this character, so that nothing is passed
over in front of it. -/
def beginsToken (c : Char) : Bool := !isSpaceOrTab c && !isBreak c && c != '#' && c != '\uFEFF'

theorem beginsToken_iff : beginsToken c = true ↔
    c ≠ ' ' ∧ c ≠ '\t' ∧ isBreak c = false ∧ c ≠ '#' ∧ c ≠ '\uFEFF' := by
  simp [beginsToken, isSpaceOrTab, and_assoc]

theorem beginsToken_of_isWordChar (inWord : isWordChar c = true) : beginsToken c = true := by
  have noComment := ne_of_isWordChar (d := '#') inWord rfl
  have noMark := ne_of_isWordChar (d := '\uFEFF') inWord (by decide)
  simp [beginsToken, isSpaceOrTab_of_isWordChar inWord, isBreak_of_isWordChar inWord, noComment, noMark]

theorem skipToToken_of_beginsToken (begins : beginsToken c = true) (atToken : lexer.cursor.rest = c :: rest)
    (steps : Nat) : lexer.skipToToken (steps + 1) = lexer := by
  obtain ⟨noSpace, noTab, noBreak, noComment, noMark⟩ := beginsToken_iff.mp begins
  simp [skipToToken, atToken, noMark, Cursor.skipWhile, noSpace, noTab, Cursor.advance, noComment, noBreak, moveTo]

theorem skipToToken_space (begins : beginsToken c = true) (atToken : lexer.cursor.rest = ' ' :: c :: rest)
    (steps : Nat) : lexer.skipToToken (steps + 1) = lexer.advance 1 := by
  obtain ⟨noSpace, noTab, noBreak, noComment, noMark⟩ := beginsToken_iff.mp begins
  have left : (lexer.cursor.advance 1).rest = c :: rest := by
    rw [Cursor.rest_advance, atToken, List.drop_one, List.tail_cons]
  simp [skipToToken, atToken, Cursor.skipWhile, noSpace, noTab, left, noComment, noBreak, advance]

theorem run_of_token (reached : lexer.skipToToken (lexer.cursor.rest.length + 1) = here)
    (fresh : here.dropOutdatedKeys = .ok here) (inside : here.closeBlocks (here.cursor.column < ·) = here)
    (atToken : here.cursor.rest = c :: rest) (read : here.readToken c rest = .ok next) (steps : Nat) :
    lexer.run (steps + 1) = next.run steps := by
  rw [run, reached, fresh]
  dsimp only [bind, Except.bind]
  rw [inside, atToken]
  dsimp only
  rw [read]

theorem readToken_of_isWordChar (inWord : isWordChar c = true) (noEntry : c = '-' → blankAhead rest = false)
    (noMarker : lexer.cursor.column = 0 → markerAhead (c :: rest) = false) :
    lexer.readToken c rest = lexer.readPlain := by
  have others : ∀ d ∈ ['%', '[', ']', '{', '}', ',', '?', ':', '*', '&', '!', '|', '>', '\'', '"', '#', '@', '\x60'],
      (!isWordChar d) = true := List.all_eq_true.mp rfl
  have apart := fun d listed => ne_of_isWordChar inWord (by simpa using others d listed)
  simp only [List.forall_mem_cons] at apart
  have noSpace := isSpaceOrTab_of_isWordChar inWord
  have noBreak := isBreak_of_isWordChar inWord
  have indicator : isIndicator c = false ∨ c = '-' := by
    by_cases dash : c = '-'
    · exact Or.inr dash
    · exact Or.inl (by simp [isIndicator, apart, dash])
  have noEntry : ¬(c = '-' ∧ blankAhead rest = true) := fun entry => by simp [noEntry entry.1] at entry
  have noMarker : ¬(lexer.cursor.column = 0 ∧ markerAhead (c :: rest) = true) := fun marker => by
    simp [noMarker marker.1] at marker
  simp [readToken, apart, noEntry, noMarker, noSpace, noBreak, indicator]

theorem readPlain_eq {saved : Lexer} {scalar : ScalarText} {cursor : Cursor} (saves : lexer.saveKey = .ok saved)
    (read : Yaml.readPlain saved.inFlow (saved.indents.head?.elim 0 (· + 1)) saved.cursor.column true [] []
      saved.cursor.rest = .ok scalar) (moved : saved.cursor.advance scalar.consumed = cursor) :
    lexer.readPlain =
      .ok (((saved.allowKey scalar.endsLine).emit (.scalar true (String.ofList scalar.text))).moveTo cursor) := by
  rw [Lexer.readPlain, saves, ← moved]
  change (Yaml.readPlain saved.inFlow (saved.indents.head?.elim 0 (· + 1)) saved.cursor.column true [] []
    saved.cursor.rest).bind _ = _
  rw [read]
  rfl

end Lexer

end Words

/-- One or more letters, digits, underscores and hyphens. -/
structure Word where
  chars : List Char
  ne_nil : chars ≠ []
  all : ∀ c ∈ chars, isWordChar c = true

/-- A word as the text of a scalar. -/
def Word.text (word : Word) : String := String.ofList word.chars

/-- A line with a word as key and another one for it. A key must be short, and a
lone hyphen is no scalar. -/
structure EntryLine where
  key : Word
  scalar : Word
  short : key.chars.length ≤ 1024
  ne_dash : scalar.chars ≠ ['-']

namespace EntryLine

open Lexer

variable (line : EntryLine)

/-- The line: the key, a colon with a blank, the scalar and a line feed. -/
def chars : List Char := line.key.chars ++ ':' :: ' ' :: (line.scalar.chars ++ ['\n'])

def text : String := String.ofList line.chars

/-- The lexer behind the key of the line, which a colon must follow on that
line. -/
def behindKey : Lexer :=
  ⟨⟨':' :: ' ' :: (line.scalar.chars ++ ['\n']), line.key.chars.length, 0, line.key.chars.length⟩,
    [.scalar true line.key.text], 1, [], some ⟨0, 0, 0, 0, false⟩, [], false⟩

/-- The lexer behind the colon, which has opened a block mapping. -/
def behindColon : Lexer :=
  ⟨⟨' ' :: (line.scalar.chars ++ ['\n']), line.key.chars.length + 1, 0, line.key.chars.length + 1⟩,
    [.value, .scalar true line.key.text, .key, .blockMappingStart], 4, [0], none, [], false⟩

/-- The lexer behind the scalar and the end of the line. -/
def behindScalar : Lexer :=
  ⟨⟨[], line.key.chars.length + 2 + line.scalar.chars.length + 1, 1, 0⟩,
    [.scalar true line.scalar.text, .value, .scalar true line.key.text, .key, .blockMappingStart], 5, [0], none, [],
    true⟩

/-- The first step: the key is read up to the colon, as a scalar that may turn
out to be a key. No mapping is opened yet, since that depends on what follows
it. -/
theorem run_start (steps : Nat) : (start line.chars).run (steps + 1) = line.behindKey.run steps := by
  obtain ⟨c, more, whole⟩ := List.exists_cons_of_ne_nil line.key.ne_nil
  have all := line.key.all
  rw [whole, List.forall_mem_cons] at all
  have atToken : (start line.chars).cursor.rest = c :: (more ++ ':' :: ' ' :: (line.scalar.chars ++ ['\n'])) := by
    change line.key.chars ++ _ = _
    rw [whole, List.cons_append]
  have saves : (start line.chars).saveKey = .ok { start line.chars with candidate := some ⟨0, 0, 0, 0, false⟩ } := rfl
  have ends : readPlain false 0 (0 + line.key.chars.length) true [] [] (':' :: ' ' :: (line.scalar.chars ++ ['\n'])) =
    .ok ⟨[], 0, false⟩ := rfl
  have moved : (Cursor.start line.chars).advance line.key.chars.length = line.behindKey.cursor := by
    have moved : (Cursor.start line.chars).advance line.key.chars.length = _ :=
      Cursor.advance_word line.key.all 0 0 0
    rwa [Nat.zero_add] at moved
  refine run_of_token (skipToToken_of_beginsToken (beginsToken_of_isWordChar all.1) atToken _) rfl rfl atToken ?_ steps
  rw [readToken_of_isWordChar all.1]
  · rw [readPlain_eq saves (readPlain_word line.key.all ends) moved]
    simp [start, allowKey, emit, moveTo, behindKey, Word.text]
  · exact fun _ => blankAhead_word all.2
  · intro _
    rw [← List.cons_append, ← whole]
    exact markerAhead_word line.key.all

/-- The second step: the colon makes a key of the scalar in front of it, if that
is not too long. The tokens of a mapping and of a key are put in front of the
scalar, and the candidate is used up. -/
theorem run_behindKey (steps : Nat) : line.behindKey.run (steps + 1) = line.behindColon.run steps := by
  have begins : beginsToken ':' = true := rfl
  refine run_of_token (skipToToken_of_beginsToken begins rfl _) ?_ rfl rfl ?_ steps
  · have fresh : outdated line.behindKey.cursor ⟨0, 0, 0, 0, false⟩ = false := by
      simp [outdated, behindKey, line.short]
    rw [dropOutdatedKeys]
    change (dropOutdated _ (some _)).bind _ = _
    rw [dropOutdated, fresh]
    rfl
  · have read : line.behindKey.readToken ':' (' ' :: (line.scalar.chars ++ ['\n'])) = line.behindKey.readValue := by
      simp [readToken, markerAhead, blankAhead, isSpaceOrTab]
    have octet : ':'.utf8Size = 1 := rfl
    have noBreak : isBreak ':' = false := rfl
    rw [read]
    simp [readValue, behindKey, behindColon, insertAt, openBlock, emit, Lexer.advance, moveTo, inFlow, Cursor.advance,
      octet, noBreak]
    rfl

/-- The third step: the blank and then the scalar, with the end of its line.
Behind a colon no other key may start on the same line, so this scalar is no
candidate. -/
theorem run_behindColon (steps : Nat) : line.behindColon.run (steps + 1) = line.behindScalar.run steps := by
  obtain ⟨c, more, whole⟩ := List.exists_cons_of_ne_nil line.scalar.ne_nil
  have all := line.scalar.all
  rw [whole, List.forall_mem_cons] at all
  have atSpace : line.behindColon.cursor.rest = ' ' :: c :: (more ++ ['\n']) := by
    change ' ' :: (line.scalar.chars ++ _) = _
    rw [whole, List.cons_append]
  let behindSpace := line.behindColon.moveTo
    ⟨line.scalar.chars ++ ['\n'], line.key.chars.length + 2, 0, line.key.chars.length + 2⟩
  have skipped : line.behindColon.advance 1 = behindSpace := by
    have octet : ' '.utf8Size = 1 := rfl
    have noBreak : isBreak ' ' = false := rfl
    simp [behindSpace, Lexer.advance, behindColon, Cursor.advance, octet, noBreak]
  have atToken : behindSpace.cursor.rest = c :: (more ++ ['\n']) := by
    change line.scalar.chars ++ _ = _
    rw [whole, List.cons_append]
  have saves : behindSpace.saveKey = .ok behindSpace := rfl
  have ends : readPlain false 1 (line.key.chars.length + 2 + line.scalar.chars.length) true [] [] ['\n'] =
    .ok ⟨[], 1, true⟩ := rfl
  have moved : behindSpace.cursor.advance (line.scalar.chars.length + 1) = line.behindScalar.cursor := by
    rw [Cursor.advance_add]
    change ((Cursor.mk _ _ _ _).advance line.scalar.chars.length).advance 1 = _
    rw [Cursor.advance_word line.scalar.all]
    rfl
  have reached := skipToToken_space (beginsToken_of_isWordChar all.1) atSpace line.behindColon.cursor.rest.length
  refine run_of_token (reached.trans skipped) rfl rfl atToken ?_ steps
  rw [readToken_of_isWordChar all.1]
  · rw [readPlain_eq saves (readPlain_word line.scalar.all ends) moved]
    simp [behindSpace, behindColon, behindScalar, moveTo, allowKey, emit, Word.text]
  · rintro rfl
    cases more with
    | nil => exact absurd whole line.ne_dash
    | cons d more => exact blankAhead_cons_word (all.2 d List.mem_cons_self)
  · exact fun column => absurd column (Nat.succ_ne_zero _)

/-- The last step: at the end of the text the mapping is closed. -/
theorem run_behindScalar (steps : Nat) : line.behindScalar.run (steps + 1) =
    .ok [.blockMappingStart, .key, .scalar true line.key.text, .value, .scalar true line.scalar.text, .blockEnd] := rfl

/-- The reader looks for characters that it does not allow before anything else;
there are none in the line. -/
theorem all_isAllowed : line.chars.all isAllowed = true := by
  refine List.all_eq_true.mpr fun c member => ?_
  simp only [chars, List.mem_append, List.mem_cons, List.not_mem_nil, or_false] at member
  rcases member with inKey | rfl | rfl | inScalar | rfl
  · exact isAllowed_of_isWordChar (line.key.all c inKey)
  · decide
  · decide
  · exact isAllowed_of_isWordChar (line.scalar.all c inScalar)
  · decide

/-- The four steps put together: the tokens of the line. The number of steps
that a text may take is more than it needs. -/
theorem ofText_chars : Token.ofText line.chars =
    .ok [.blockMappingStart, .key, .scalar true line.key.text, .value, .scalar true line.scalar.text, .blockEnd] := by
  have steps : line.chars.length + 1 = line.key.chars.length + line.scalar.chars.length + 4 := by
    simp only [chars, List.length_append, List.length_cons, List.length_nil]
    omega
  rw [Token.ofText, if_pos line.all_isAllowed, steps, run_start, run_behindKey, run_behindColon, run_behindScalar]

/-- From the tokens the one node of the line is made, a mapping with one entry.
-/
theorem ofText?_text : Node.ofText? line.text = .ok (some (.mapping .none
    [(.scalar .none true line.key.text, .scalar .none true line.scalar.text)])) := by
  rw [Node.ofText?, text, String.toList_ofList, ofText_chars]
  rfl

/-- So the line is read as a mapping with one entry, whose key and item are
typed by their texts alone. This is all that is used of the reader in what
follows. -/
theorem read_text : Tree.read line.text = do
    let key ← Tree.ofText true line.key.text
    let scalar ← Tree.ofText true line.scalar.text
    return .mapping [(key, scalar)] := Tree.read_of_entry line.ofText?_text

end EntryLine

end Overlay.Yaml
