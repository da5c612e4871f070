import GrammarKit.Proofs.Digits
import GrammarKit.Proofs.Sequence
/-!
# Literals

A literal text is looked for symbol by symbol, and so is the sequence of the parsers of its symbols.
The two agree on every input (`Parser.litString_agrees_with_lits`): what they share with the
symbols left is passed over, and then they accept if nothing of the text is left, and reject right
there if something is. How far they get is the longest common prefix of the text and the symbols
left, which a split of the two lists at the first difference makes visible.
-/

namespace GrammarKit

/-- Whether a list is the longest common prefix of two others. -/
structure LongestCommonPrefix (common first second : List Char) : Prop where
  /-- It is a prefix of the first. -/
  ofFirst : common <+: first
  /-- It is a prefix of the second. -/
  ofSecond : common <+: second
  /-- Every other common prefix is a prefix of it. -/
  longest : ∀ other, other <+: first → other <+: second → other <+: common

/-- What two lists have in common up to where they differ is their longest common prefix. -/
theorem LongestCommonPrefix.of_parting {common lefts rights : List Char}
    (differ : ∀ symbol ∈ lefts.head?, symbol ∉ rights.head?) :
    LongestCommonPrefix common (common ++ lefts) (common ++ rights) := by
  refine ⟨List.prefix_append .., List.prefix_append .., fun other left right => ?_⟩
  obtain shorter | ⟨more, rfl⟩ := List.prefix_or_prefix_of_prefix left (List.prefix_append ..)
  · exact shorter
  · rw [List.prefix_append_right_inj] at left right
    cases more with
    | nil => exact ⟨[], by simp⟩
    | cons symbol more =>
      obtain ⟨_, rfl⟩ := left
      obtain ⟨_, rfl⟩ := right
      exact absurd rfl (differ symbol rfl)

/-- Two lists have something in common, be it nothing, up to where they first differ or one of them
ends. -/
theorem exists_parting (left right : List Char) :
    ∃ common lefts rights, left = common ++ lefts ∧ right = common ++ rights ∧
      ∀ symbol ∈ lefts.head?, symbol ∉ rights.head? := by
  induction left generalizing right with
  | nil => exact ⟨[], [], right, rfl, rfl, nofun⟩
  | cons first left ih =>
    by_cases same : right.head? = some first
    · obtain ⟨right, rfl⟩ := List.head?_eq_some_iff.mp same
      obtain ⟨common, lefts, rights, rfl, rfl, differ⟩ := ih right
      exact ⟨first :: common, lefts, rights, rfl, rfl, differ⟩
    · exact ⟨[], first :: left, right, rfl, rfl, by simpa using same⟩

/-- A character is known by its code. -/
theorem CodePoint.ofChar_inj {symbol other : Char} :
    ofChar symbol = ofChar other ↔ symbol = other := by
  refine ⟨fun same => ?_, congrArg ofChar⟩
  rw [← toChar_ofChar symbol, same, toChar_ofChar]

namespace Parser

variable {input : Input}

/-- The parser of a symbol accepts just this symbol under the cursor. -/
theorem verdict_lit (wanted : Char) (input : Input) :
    (lit (.ofChar wanted) input).verdict =
      match input.peek? with
      | some symbol =>
        if symbol = wanted then .accept (.ofChar wanted) (input.past wanted)
        else .reject (input.fail ErrorKind.literalExpected
          [.text (String.singleton symbol), .text (String.singleton wanted)])
      | none => .reject (input.fail ErrorKind.unexpectedEndOfInput []) := by
  rw [lit, verdict_symbolWhen]
  cases input.peek? with
  | none => rfl
  | some symbol =>
    by_cases same : symbol = wanted
    · simp [same]
    · have other : (CodePoint.ofChar symbol == .ofChar wanted) = false :=
        beq_eq_false_iff_ne.mpr (mt CodePoint.ofChar_inj.mp same)
      simp only [other, same, Bool.false_eq_true, ↓reduceIte]
      simp [Shown.display, Shown.toHost, Host.display, CodePoint.text]

/-- A text whose first symbol is under the cursor is looked for from the next symbol on. -/
theorem verdict_litStringFrom_cons (text : String) (wanted : Char) (others : List Char)
    (input : Input) :
    (litStringFrom text (wanted :: others) input).verdict =
      match input.peek? with
      | some symbol =>
        if symbol = wanted then (litStringFrom text others (input.past wanted)).verdict
        else .reject (input.fail ErrorKind.literalExpected
          [.text (String.singleton symbol), .text text])
      | none =>
        .reject (input.fail ErrorKind.literalExpected [.text "end of input", .text text]) := by
  rw [litStringFrom]
  cases found : input.peek? with
  | none => simp only [found]
  | some symbol =>
    by_cases same : symbol = wanted
    · simp only [found, same, ↓reduceIte]
    · simp only [found, same, ↓reduceIte]

/-- The parsers of some symbols. -/
def lits (symbols : List Char) : List (Parser CodePoint) :=
  symbols.map fun symbol => lit (.ofChar symbol)

/-- Symbols that are left are passed over by the text that starts with them. -/
theorem verdict_litStringFrom_append (text : String) {common tail : List Char}
    (split : input.rest = common ++ tail) (wanted : List Char) :
    (litStringFrom text (common ++ wanted) input).verdict =
      (litStringFrom text wanted (input.advance common.length)).verdict := by
  induction common generalizing input with
  | nil => rfl
  | cons symbol common ih =>
    have found := Input.peek?_of_rest_eq_cons split
    have onwards : (input.past symbol).rest = common ++ tail :=
      (List.cons.inj ((Input.rest_eq_cons found).symm.trans split)).2
    rw [List.cons_append, verdict_litStringFrom_cons, found, List.length_cons,
      Input.advance_succ found]
    simp only [↓reduceIte]
    exact ih onwards

/-- Symbols that are left are accepted by their parsers in order. -/
theorem verdict_seq_lits {common tail : List Char} (split : input.rest = common ++ tail) :
    (seq (lits common) input).verdict =
      .accept (common.map .ofChar) (input.advance common.length) := by
  induction common generalizing input with
  | nil => rfl
  | cons symbol common ih =>
    have found := Input.peek?_of_rest_eq_cons split
    have onwards : (input.past symbol).rest = common ++ tail :=
      (List.cons.inj ((Input.rest_eq_cons found).symm.trans split)).2
    have head : (lit (.ofChar symbol) input).verdict =
        .accept (.ofChar symbol) (input.past symbol) := by
      rw [verdict_lit, found]
      simp only [↓reduceIte]
    rw [lits, List.map_cons, seq, Outcome.verdict_andThen, head]
    simp only [verdict_map]
    rw [← lits, ih onwards, List.length_cons, Input.advance_succ found]
    rfl

/-- Once they have passed over symbols, the parsers of more go on from there. -/
theorem verdict_seq_lits_append {common tail : List Char} (split : input.rest = common ++ tail)
    (wanted : List Char) :
    (seq (lits (common ++ wanted)) input).verdict =
      (seq (lits wanted) (input.advance common.length)).verdict.map
        (common.map .ofChar ++ ·) := by
  have parts : lits (common ++ wanted) = lits common ++ lits wanted := List.map_append
  rw [parts, seq_append, Outcome.verdict_andThen, verdict_seq_lits split]
  exact verdict_map ..

/-- Where the next symbol is not the one that is wanted, a literal and the parsers of its symbols
reject, both right there. -/
theorem rejects_at_parting (text : String) {wanted : Char} (others : List Char)
    (other : input.peek? ≠ some wanted) :
    (∃ args, (litStringFrom text (wanted :: others) input).verdict =
        .reject (input.fail ErrorKind.literalExpected args)) ∧
      ∃ kind args, (seq (lits (wanted :: others)) input).verdict =
        .reject (input.fail kind args) := by
  rw [verdict_litStringFrom_cons, lits, List.map_cons, seq, Outcome.verdict_andThen, verdict_lit]
  cases found : input.peek? with
  | none => exact ⟨⟨_, rfl⟩, _, _, rfl⟩
  | some symbol =>
    have differs : symbol ≠ wanted := fun same => other (by rw [found, same])
    simp only [differs, ↓reduceIte]
    exact ⟨⟨_, rfl⟩, _, _, rfl⟩

/-- A text that the symbols left start with is accepted by the literal and by the parsers of its
symbols. -/
theorem verdicts_of_prefix {text : String} (starts : text.toList <+: input.rest) :
    (litString text input).verdict = .accept text (input.advance text.toList.length) ∧
      (seq (lits text.toList) input).verdict =
        .accept (text.toList.map .ofChar) (input.advance text.toList.length) := by
  obtain ⟨tail, split⟩ := starts
  have passed := verdict_litStringFrom_append text split.symm []
  rw [List.append_nil] at passed
  exact ⟨passed, verdict_seq_lits split.symm⟩

/-- Any other text is rejected by both, after what it has in common with the symbols left. -/
theorem verdicts_of_not_prefix {text : String} (differs : ¬ text.toList <+: input.rest) :
    ∃ common, LongestCommonPrefix common text.toList input.rest ∧
      (∃ args, (litString text input).verdict =
        .reject ((input.advance common.length).fail ErrorKind.literalExpected args)) ∧
      ∃ kind args, (seq (lits text.toList) input).verdict =
        .reject ((input.advance common.length).fail kind args) := by
  obtain ⟨common, lefts, rights, left, right, parting⟩ := exists_parting text.toList input.rest
  have longest : LongestCommonPrefix common text.toList input.rest := by
    rw [left, right]
    exact .of_parting parting
  refine ⟨common, longest, ?_⟩
  cases lefts with
  | nil =>
    rw [List.append_nil] at left
    exact absurd ⟨rights, left ▸ right.symm⟩ differs
  | cons wanted others =>
    have here : (input.advance common.length).rest = rights := by
      rw [Input.rest_advance, right, List.drop_left]
    have other : (input.advance common.length).peek? ≠ some wanted := by
      rw [Input.peek?_eq_head?, here]
      exact parting wanted rfl
    obtain ⟨⟨args, literal⟩, kind, args', sequence⟩ := rejects_at_parting text others other
    rw [litString, left, verdict_litStringFrom_append text right, literal,
      verdict_seq_lits_append right, sequence]
    exact ⟨⟨args, rfl⟩, kind, args', rfl⟩

/-- A literal is the sequence of its symbols. Both accept just when the text is a prefix of the
symbols left, and both then leave the input moved past all of it. Otherwise both reject, and both
errors are located where the longest common prefix of the text and the symbols left has been passed
over; that of the literal says that the literal was expected. -/
theorem litString_agrees_with_lits (text : String) (input : Input) :
    (∀ rest,
      ((litString text).Accepts input rest ↔ (seq (lits text.toList)).Accepts input rest) ∧
      ((litString text).Accepts input rest ↔
        text.toList <+: input.rest ∧ rest = input.advance text.toList.length)) ∧
    (text.toList <+: input.rest →
      (litString text input).verdict = .accept text (input.advance text.toList.length) ∧
      (seq (lits text.toList) input).verdict =
        .accept (text.toList.map .ofChar) (input.advance text.toList.length) ∧
      (input.advance text.toList.length).cursor = input.cursor + text.toList.length) ∧
    (¬ text.toList <+: input.rest →
      ∃ common error error', LongestCommonPrefix common text.toList input.rest ∧
        (litString text input).verdict = .reject error ∧
        (seq (lits text.toList) input).verdict = .reject error' ∧
        error.kind = ErrorKind.literalExpected ∧
        error.location = (input.advance common.length).location ∧
        error'.location = (input.advance common.length).location) := by
  refine ⟨fun rest => ?accepts, fun starts => ?accepted, fun differs => ?rejected⟩
  case accepts =>
    unfold Accepts
    by_cases starts : text.toList <+: input.rest
    · obtain ⟨literal, sequence⟩ := verdicts_of_prefix starts
      rw [literal, sequence, exists_accept_eq_iff, exists_accept_eq_iff]
      exact ⟨.rfl, (and_iff_right starts).symm⟩
    · obtain ⟨common, -, ⟨args, literal⟩, kind, args', sequence⟩ := verdicts_of_not_prefix starts
      simp [literal, sequence, starts]
  case accepted =>
    have enough : text.toList.length ≤ input.remaining := by
      rw [Input.remaining_eq_length]
      exact starts.length_le
    obtain ⟨literal, sequence⟩ := verdicts_of_prefix starts
    exact ⟨literal, sequence, Input.cursor_advance enough⟩
  case rejected =>
    obtain ⟨common, longest, ⟨args, literal⟩, kind, args', sequence⟩ :=
      verdicts_of_not_prefix differs
    exact ⟨common, _, _, longest, literal, sequence, rfl, rfl, rfl⟩

/-- Of a text with a line break the part up to the second line is there, and then the source ends:
both ways to look for it reject on the second line. -/
theorem litString_agrees_with_lits_lines :
    let input := (Input.ofSymbols ['>', 'a', '\n', 'b'] {}).advance 1
    "a\nb".toList <+: input.rest ∧
      (litString "a\nb" input).verdict = .accept "a\nb" (input.advance 3) ∧
      (input.advance 3).location = ⟨4, 2, 2⟩ ∧
      ¬ "a\nbc".toList <+: input.rest ∧
      ∃ common error error', LongestCommonPrefix common "a\nbc".toList input.rest ∧
        (litString "a\nbc" input).verdict = .reject error ∧
        (seq (lits "a\nbc".toList) input).verdict = .reject error' ∧
        error.kind = ErrorKind.literalExpected ∧ error.location = error'.location ∧
        error'.kind = ErrorKind.unexpectedEndOfInput ∧ error.location = ⟨4, 2, 2⟩ := by
  intro input
  have starts : "a\nb".toList <+: input.rest := by decide
  have differs : ¬ "a\nbc".toList <+: input.rest := by decide
  have ended : (seq (lits "a\nbc".toList) input).verdict =
      .reject ((input.advance 3).fail ErrorKind.unexpectedEndOfInput []) := rfl
  obtain ⟨common, error, error', longest, literal, sequence, kind, here, there⟩ :=
    (litString_agrees_with_lits "a\nbc" input).2.2 differs
  obtain rfl := Verdict.reject.inj (ended.symm.trans sequence)
  exact ⟨starts, ((litString_agrees_with_lits "a\nb" input).2.1 starts).1, rfl, differs,
    common, error, _, longest, literal, sequence, kind, here.trans there.symm, rfl,
    here.trans there.symm⟩

end Parser

end GrammarKit
