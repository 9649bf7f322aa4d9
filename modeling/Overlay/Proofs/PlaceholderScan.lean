import Overlay.Proofs.PlaceholderPieces
import Overlay.Proofs.TextParts

namespace Overlay

namespace Placeholder

/-- The text starts with a reference: its name, up to the first closing brace,
and what comes behind that. -/
structure Reference (text name after : List Char) : Prop where
  whole : text = '$' :: '{' :: (name ++ '}' :: after)
  nonempty : name ≠ []
  closes : '}' ∉ name

/-- A dollar sign, an opening brace, a character that does not close it, and
later on one that does. -/
def Opens (text : List Char) : Prop := ∃ c rest, text = '$' :: '{' :: c :: rest ∧ c ≠ '}' ∧ '}' ∈ rest

variable {env : Environment} {text name after place : List Char}

/-- The reader of a reference finds exactly the references there are at the
front of a text, with their name and with what stands behind them. -/
theorem reference?_eq_some_iff : reference? text = some (name, after) ↔ Reference text name after := by
  constructor
  · intro found
    obtain ⟨whole, nonempty, closes⟩ := eq_of_reference? found
    exact ⟨whole, nonempty, closes⟩
  · rintro ⟨rfl, nonempty, closes⟩
    simp only [reference?, Text.splitAtFirst_append closes, if_neg nonempty]

/-- Whether a reference stands at the front is decided without its name: an
opening, and a closing brace somewhere behind one character or more. -/
theorem opens_iff : Opens text ↔ ∃ name after, Reference text name after := by
  constructor
  · rintro ⟨c, rest, rfl, notClosing, closing⟩
    obtain ⟨name, after, rfl, absent⟩ := List.eq_append_cons_of_mem closing
    have closes : '}' ∉ c :: name := List.not_mem_cons_of_ne_of_not_mem notClosing.symm absent
    exact ⟨c :: name, after, rfl, List.cons_ne_nil c name, closes⟩
  · rintro ⟨name, after, rfl, nonempty, closes⟩
    cases name with
    | nil => exact absurd rfl nonempty
    | cons c rest =>
      have different : '}' ≠ c := List.ne_of_not_mem_cons closes
      exact ⟨c, rest ++ '}' :: after, rfl, different.symm, List.mem_append_right rest List.mem_cons_self⟩

/-- The reader gives up exactly where no reference opens, and the scan goes on
one character further. -/
theorem reference?_eq_none_iff : reference? text = none ↔ ¬ Opens text := by
  rw [opens_iff, Option.eq_none_iff_forall_ne_some]
  constructor
  · rintro differs ⟨name, after, found⟩
    exact differs _ (reference?_eq_some_iff.mpr found)
  · rintro closed ⟨name, after⟩ found
    exact closed ⟨name, after, reference?_eq_some_iff.mp found⟩

theorem Reference.opens (found : Reference text name after) : Opens text := opens_iff.mpr ⟨name, after, found⟩

/-- A text begins with at most one reference: its name ends at the first closing
brace. -/
theorem Reference.unique {other behind : List Char} (found : Reference text name after)
    (again : Reference text other behind) : other = name ∧ behind = after := by
  have same := (reference?_eq_some_iff.mpr again).symm.trans (reference?_eq_some_iff.mpr found)
  exact Prod.mk.inj (Option.some.inj same)

/-- What stands behind a reference is shorter than the text, on which every
induction over the scan rests. -/
theorem Reference.length_lt (found : Reference text name after) : after.length < text.length :=
  length_after_lt (reference?_eq_some_iff.mpr found)

/-- The first equation of the splitter: a reference at the front is one piece,
and the rest is split behind it. -/
theorem Reference.pieces_eq (found : Reference text name after) :
    pieces text = .reference (String.ofList name) :: pieces after := by
  obtain ⟨c, rest, rfl⟩ : ∃ c rest, text = c :: rest := ⟨_, _, found.whole⟩
  exact pieces_cons_of_some (reference?_eq_some_iff.mpr found)

/-- The second equation of the splitter: a character at which no reference opens
is a piece of its own. -/
theorem pieces_of_not_opens {c : Char} {rest : List Char} (literal : ¬ Opens (c :: rest)) :
    pieces (c :: rest) = .char c :: pieces rest :=
  pieces_cons_of_none (reference?_eq_none_iff.mpr literal)

/-- Induction along a scan, which goes on behind the end of a reference and else
behind one character. -/
theorem scanInduction {motive : List Char → Prop} (nil : motive [])
    (reference : ∀ text name after, Reference text name after → motive after → motive text)
    (literal : ∀ c rest, ¬ Opens (c :: rest) → motive rest → motive (c :: rest)) (text : List Char) :
    motive text := by
  match text with
  | [] => exact nil
  | c :: rest =>
    by_cases opens : Opens (c :: rest)
    · obtain ⟨name, after, found⟩ := opens_iff.mp opens
      have shorter := found.length_lt
      exact reference _ _ _ found (scanInduction nil reference literal after)
    · exact literal c rest opens (scanInduction nil reference literal rest)
termination_by text.length
decreasing_by
  · exact shorter
  · exact Nat.lt_succ_self rest.length

theorem outcome_expand_char (c : Char) (rest : List Piece) :
    (expand env (.char c :: rest)).outcome = (expand env rest).outcome.map (c :: ·) := by
  rw [expand, Run.outcome_bind]
  cases (expand env rest).outcome <;> rfl

/-- A name that is set is replaced by its value, which is not looked at again.
-/
theorem outcome_expand_of_some {name value : String} (isSet : env name = some value) (rest : List Piece) :
    (expand env (.reference name :: rest)).outcome = (expand env rest).outcome.map (value.toList ++ ·) := by
  rw [expand, isSet, Run.outcome_bind, Run.note, Except.bind, Run.outcome_bind]
  cases (expand env rest).outcome <;> rfl

/-- A name that is not set ends the expansion with an error about it; nothing
behind it is looked at. -/
theorem outcome_expand_of_none {name : String} (unset : env name = none) (rest : List Piece) :
    (expand env (.reference name :: rest)).outcome = .error (.missingVariable name) := by
  rw [expand, unset]
  rfl

/-- A scan from left to right and how it ends. The value of a variable is put in
the place of a reference and is not looked at; where no reference opens, one
character is kept. -/
inductive Scan (env : Environment) : List Char → Except Failure (List Char) → Prop
  | done : Scan env [] (.ok [])
  | value {text name after : List Char} {value : String} {result : Except Failure (List Char)} :
      Reference text name after → env (String.ofList name) = some value → Scan env after result →
      Scan env text (result.map (value.toList ++ ·))
  | missing {text name after : List Char} : Reference text name after → env (String.ofList name) = none →
      Scan env text (.error (.missingVariable (String.ofList name)))
  | literal {c : Char} {rest : List Char} {result : Except Failure (List Char)} : ¬ Opens (c :: rest) →
      Scan env rest result → Scan env (c :: rest) (result.map (c :: ·))

/-- The program scans: for every text and every environment its outcome is one
the relation describes. -/
theorem scan_expand (env : Environment) (text : List Char) : Scan env text (expand env (pieces text)).outcome := by
  induction text using scanInduction with
  | nil =>
    rw [pieces]
    exact .done
  | reference text name after found ih =>
    rw [found.pieces_eq]
    cases atName : env (String.ofList name) with
    | some value =>
      rw [outcome_expand_of_some atName]
      exact .value found atName ih
    | none =>
      rw [outcome_expand_of_none atName]
      exact .missing found atName
  | literal c rest closed ih =>
    rw [pieces_of_not_opens closed, outcome_expand_char]
    exact .literal closed ih

/-- A scan ends in one way only. -/
theorem scan_iff {result : Except Failure (List Char)} :
    Scan env text result ↔ (expand env (pieces text)).outcome = result := by
  constructor
  · intro scan
    induction scan with
    | done =>
      rw [pieces]
      rfl
    | value found isSet _ ih => rw [found.pieces_eq, outcome_expand_of_some isSet, ih]
    | missing found unset => rw [found.pieces_eq, outcome_expand_of_none unset]
    | literal closed _ ih => rw [pieces_of_not_opens closed, outcome_expand_char, ih]
  · rintro rfl
    exact scan_expand env text

/-- The places that a scan comes to, each given by the text that is left there.
-/
inductive Reaches : List Char → List Char → Prop
  | here {text : List Char} : Reaches text text
  | reference {text name after place : List Char} : Reference text name after → Reaches after place →
      Reaches text place
  | literal {c : Char} {rest place : List Char} : ¬ Opens (c :: rest) → Reaches rest place → Reaches (c :: rest) place

/-- A reference is passed as a whole: the scan reaches the front and then what
it reaches behind the closing brace, and no place inside. -/
theorem Reference.reaches_iff (found : Reference text name after) :
    Reaches text place ↔ place = text ∨ Reaches after place := by
  constructor
  · intro reaches
    cases reaches with
    | here => exact Or.inl rfl
    | reference again later =>
      obtain ⟨_, rfl⟩ := found.unique again
      exact Or.inr later
    | literal closed _ => exact absurd found.opens closed
  · rintro (rfl | later)
    · exact .here
    · exact .reference found later

/-- Where no reference opens at the front, the scan reaches the front itself and
what it reaches from the next character on. -/
theorem reaches_cons_iff {c : Char} {rest : List Char} (closed : ¬ Opens (c :: rest)) :
    Reaches (c :: rest) place ↔ place = c :: rest ∨ Reaches rest place := by
  constructor
  · intro reaches
    cases reaches with
    | here => exact Or.inl rfl
    | reference found _ => exact absurd found.opens closed
    | literal _ later => exact Or.inr later
  · rintro (rfl | later)
    · exact .here
    · exact .literal closed later

/-- The scan only moves forward: no place it reaches is longer than the text it
starts with. -/
theorem Reaches.length_le (reaches : Reaches text place) : place.length ≤ text.length := by
  induction reaches with
  | here => exact Nat.le_refl _
  | reference found _ ih => exact Nat.le_trans ih (Nat.le_of_lt found.length_lt)
  | literal _ _ ih => exact Nat.le_succ_of_le ih

/-- The scan comes to a reference to a variable that is not set, and before that
to no other such. -/
def FirstUnset (env : Environment) (text name : List Char) : Prop :=
  ∃ place after, Reaches text place ∧ Reference place name after ∧ env (String.ofList name) = none ∧
    ∀ earlier other behind, Reaches text earlier → Reference earlier other behind →
      env (String.ofList other) = none → earlier.length ≤ place.length

theorem Reference.firstUnset_iff (found : Reference text name after) (unset : env (String.ofList name) = none)
    {other : List Char} : FirstUnset env text other ↔ other = name := by
  constructor
  · rintro ⟨place, behind, reaches, here, _, first⟩
    have atLeast := first text name after .here found unset
    rcases found.reaches_iff.mp reaches with rfl | later
    · exact (found.unique here).1
    · have shorter := found.length_lt
      have within := later.length_le
      omega
  · rintro rfl
    exact ⟨text, after, .here, found, unset, fun _ _ _ reaches _ _ => reaches.length_le⟩

/-- Where a scan starts with nothing that is unset, its first unset variable is
that of the rest. -/
theorem firstUnset_step {next : List Char} (reaches : ∀ place, Reaches text place ↔ place = text ∨ Reaches next place)
    (isSet : ∀ name after, Reference text name after → env (String.ofList name) ≠ none) :
    FirstUnset env text name ↔ FirstUnset env next name := by
  constructor
  · rintro ⟨place, after, there, found, unset, first⟩
    rcases (reaches place).mp there with rfl | later
    · exact absurd unset (isSet _ _ found)
    · exact ⟨place, after, later, found, unset, fun earlier other behind before =>
        first earlier other behind ((reaches earlier).mpr (Or.inr before))⟩
  · rintro ⟨place, after, later, found, unset, first⟩
    refine ⟨place, after, (reaches place).mpr (Or.inr later), found, unset, ?_⟩
    intro earlier other behind there again unsetToo
    rcases (reaches earlier).mp there with rfl | before
    · exact absurd unsetToo (isSet _ _ again)
    · exact first earlier other behind before again unsetToo

theorem not_firstUnset_nil : ¬ FirstUnset env [] name := by
  rintro ⟨place, after, reaches, found, _⟩
  have positive := found.length_lt
  have within := reaches.length_le
  rw [List.length_nil] at within
  omega

/-- Expansion fails exactly if the scan reaches a reference to a name that is
not set, and its error is about the first of them. -/
theorem outcome_expand_eq_error_iff {failure : Failure} : (expand env (pieces text)).outcome = .error failure ↔
    ∃ name, FirstUnset env text name ∧ failure = .missingVariable (String.ofList name) := by
  induction text using scanInduction with
  | nil =>
    rw [pieces]
    constructor
    · intro failed
      cases failed
    · rintro ⟨name, first, _⟩
      exact absurd first not_firstUnset_nil
  | reference text name after found ih =>
    rw [found.pieces_eq]
    cases atName : env (String.ofList name) with
    | none =>
      simp only [outcome_expand_of_none atName, found.firstUnset_iff atName, exists_eq_left, Except.error.injEq]
      exact eq_comm
    | some value =>
      have isSet : ∀ other behind, Reference text other behind → env (String.ofList other) ≠ none := by
        intro other behind again
        rw [(found.unique again).1, atName]
        exact Option.some_ne_none value
      simp only [firstUnset_step (fun _ => found.reaches_iff) isSet, ← ih, outcome_expand_of_some atName]
      cases (expand env (pieces after)).outcome <;> simp [Except.map]
  | literal c rest closed ih =>
    have isSet : ∀ name after, Reference (c :: rest) name after → env (String.ofList name) ≠ none :=
      fun name after found => absurd found.opens closed
    simp only [firstUnset_step (fun _ => reaches_cons_iff closed) isSet, ← ih, pieces_of_not_opens closed,
      outcome_expand_char]
    cases (expand env (pieces rest)).outcome <;> simp [Except.map]

/-- No reference opens in the text when `rest` comes behind it. -/
def Literal (text rest : List Char) : Prop := ∀ front back, text = front ++ back → back ≠ [] → ¬ Opens (back ++ rest)

theorem literal_cons_iff {c : Char} {text rest : List Char} :
    Literal (c :: text) rest ↔ ¬ Opens (c :: (text ++ rest)) ∧ Literal text rest := by
  constructor
  · intro literal
    refine ⟨literal [] (c :: text) rfl (List.cons_ne_nil c text), fun front back whole nonempty => ?_⟩
    exact literal (c :: front) back (congrArg (c :: ·) whole) nonempty
  · rintro ⟨here, later⟩ front back whole nonempty
    cases front with
    | nil =>
      cases whole
      exact here
    | cons d front =>
      obtain ⟨rfl, inner⟩ := List.cons.inj whole
      exact later front back inner nonempty

theorem literal_nil (rest : List Char) : Literal [] rest := by
  intro front back whole nonempty
  exact absurd (List.append_eq_nil_iff.mp whole.symm).2 nonempty

/-- A part in which no reference opens is split into its characters, also with a
reference behind it. -/
theorem Literal.pieces_append {rest : List Char} (literal : Literal text rest) :
    pieces (text ++ rest) = text.map .char ++ pieces rest := by
  induction text with
  | nil => rfl
  | cons c text ih =>
    obtain ⟨here, later⟩ := literal_cons_iff.mp literal
    rw [List.cons_append, pieces_of_not_opens here, ih later, List.map_cons, List.cons_append]

/-- The references of a text from left to right, each with the text in front of
it, and the text behind the last one. Every reference is the leftmost one behind
the one before. -/
inductive Cut : List Char → List (List Char × List Char) → List Char → Prop
  | last {text : List Char} : Literal text [] → Cut text [] text
  | reference {literal text name after last : List Char} {parts : List (List Char × List Char)} :
      Literal literal text → Reference text name after → Cut after parts last →
      Cut (literal ++ text) ((literal, name) :: parts) last

/-- Every text can be cut at its references, into the parts in front of them and
what stands behind the last. -/
theorem exists_cut (text : List Char) : ∃ parts last, Cut text parts last := by
  induction text using scanInduction with
  | nil => exact ⟨[], [], .last (literal_nil [])⟩
  | reference text name after found ih =>
    obtain ⟨parts, last, cut⟩ := ih
    exact ⟨_, last, .reference (literal_nil text) found cut⟩
  | literal c rest closed ih =>
    obtain ⟨parts, last, cut⟩ := ih
    cases cut with
    | last literal =>
      refine ⟨[], c :: rest, .last (literal_cons_iff.mpr ⟨?_, literal⟩)⟩
      rwa [List.append_nil]
    | reference literal found later =>
      exact ⟨_, last, .reference (literal_cons_iff.mpr ⟨closed, literal⟩) found later⟩

/-- Goes from reference to reference: looks its variable up, and copies the text
in front of it and the value. -/
def fill (env : Environment) (last : List Char) : List (List Char × List Char) → Run (List Char)
  | [] => pure last
  | (literal, name) :: parts =>
    match env (String.ofList name) with
    | none => Run.fail (.missingVariable (String.ofList name))
    | some value => do
      Run.note (.variableResolved (String.ofList name))
      let tail ← fill env last parts
      return literal ++ value.toList ++ tail

theorem expand_map_char_append (env : Environment) (text : List Char) (rest : List Piece) :
    expand env (text.map .char ++ rest) = expand env rest >>= fun tail => pure (text ++ tail) := by
  induction text with
  | nil =>
    rw [List.map_nil, List.nil_append]
    obtain ⟨notices, failure | tail⟩ := expand env rest
    · rfl
    · rw [Run.ok_bind, Run.pure_eq, List.append_nil, List.nil_append]
  | cons c text ih =>
    rw [List.map_cons, List.cons_append, expand, ih]
    obtain ⟨notices, failure | tail⟩ := expand env rest
    · rfl
    · simp

/-- Expanding the pieces of a text is filling in the parts it is cut into. The
two forms of the program, character by character and slice by slice, have the
same run with the same notices. -/
theorem Cut.expand_eq {parts : List (List Char × List Char)} {last : List Char} (cut : Cut text parts last)
    (env : Environment) : expand env (pieces text) = fill env last parts := by
  induction cut with
  | last literal =>
    have whole := literal.pieces_append
    rw [List.append_nil, pieces, List.append_nil] at whole
    rw [whole, expand_map_char, fill]
  | @reference _ _ name _ last parts literal found _ ih =>
    rw [literal.pieces_append, expand_map_char_append, found.pieces_eq, expand, fill, ih]
    cases env (String.ofList name) with
    | none => rfl
    | some value =>
      obtain ⟨notices, failure | tail⟩ := fill env last parts
      · rfl
      · simp [Run.note]

/-- A text in which no dollar sign stands in front of an opening brace is cut
nowhere. -/
theorem literal_of_absent (absent : ¬ ['$', '{'] <:+: text) : Literal text [] := by
  rintro front back rfl _ ⟨c, rest, opened, _, _⟩
  rw [List.append_nil] at opened
  exact absent ⟨front, c :: rest, by rw [opened, List.append_assoc]; rfl⟩

theorem outcome_substitute (env : Environment) (text : String) :
    (substitute env text).outcome = (expand env (pieces text.toList)).outcome.map String.ofList := by
  rw [substitute, Run.outcome_bind]
  cases (expand env (pieces text.toList)).outcome <;> rfl

theorem map_ofList_inj {first second : Except Failure (List Char)} :
    first.map String.ofList = second.map String.ofList ↔ first = second := by
  cases first <;> cases second <;> simp [Except.map, String.ofList_inj]

/-- References are replaced as a scan from left to right does it, and a scan
ends in one way only. It fails exactly if it comes to a reference to a variable
that is not set, with the first such. A text without opening signs is not
changed, and any other is put together from the texts between its leftmost
references and the values of their variables. -/
theorem substitute_scan (env : Environment) (text : String) :
    (∀ result, Scan env text.toList result ↔ (substitute env text).outcome = result.map String.ofList) ∧
    (∀ failure, (substitute env text).outcome = .error failure ↔
      ∃ name, FirstUnset env text.toList name ∧ failure = .missingVariable (String.ofList name)) ∧
    (¬ ['$', '{'] <:+: text.toList → substitute env text = pure text) ∧
    ∃ parts last, Cut text.toList parts last ∧
      substitute env text = fill env last parts >>= fun expanded => pure (String.ofList expanded) := by
  refine ⟨fun result => ?_, fun failure => ?_, fun absent => ?_, ?_⟩
  · rw [outcome_substitute, map_ofList_inj, scan_iff]
  · rw [outcome_substitute, ← outcome_expand_eq_error_iff]
    cases (expand env (pieces text.toList)).outcome <;> simp [Except.map]
  · have cut := Cut.last (literal_of_absent absent)
    rw [substitute, cut.expand_eq env, fill, Run.pure_eq, Run.ok_bind, String.ofList_toList]
    rfl
  · obtain ⟨parts, last, cut⟩ := exists_cut text.toList
    exact ⟨parts, last, cut, by rw [substitute, cut.expand_eq env]⟩

/-- Behind an empty name the scan goes on, and a name goes up to the first
closing brace. -/
example : substitute (fun name => if name = "$\x7bA" then some "v" else none) "$\x7b\x7d$\x7b$\x7bA\x7d\x7d" =
    ⟨[.variableResolved "$\x7bA"], .ok "$\x7b\x7dv\x7d"⟩ := by cbv

end Placeholder

end Overlay
