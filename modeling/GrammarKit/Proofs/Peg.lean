import GrammarKit.Proofs.Depth
import GrammarKit.Proofs.Recognition
import Mathlib.Order.Filter.AtTopBot.Basic
/-!
# Grammars as parsing expressions

`Grammar.Derives` gives the terms of the core of the library their meaning as parsing expressions,
by rules over the symbols that are left and without cursors, values, errors or depths. A choice
tries its branches on the same symbols, a sequence hands on what is left, a repetition takes as many
runs as it can and ends with one that takes no symbols, predicates take nothing, and a reference
means the body of its rule. The parsers of plain terms are sound and complete for these rules
(`parser_recognises_iff_derives`): soundness follows the depth of rules and the term, completeness
follows the derivation, and the depth at which a derivation is found does not matter because the
bound on the depth is not felt.
-/

namespace GrammarKit

open Input (Ahead)

/-- What a parsing expression makes of some symbols. -/
inductive Recognition where
  /-- It matches as many of the first symbols. -/
  | success (count : Nat)
  /-- It does not match. -/
  | failure
deriving DecidableEq, Repr

/-- Whether a parser makes as much of an input: it accepts it and leaves it advanced by as many of
the symbols that remain, or it rejects it. -/
def Parser.Recognises {α : Type} (parser : Parser α) (input : Input) : Recognition → Prop
  | .success count => count ≤ input.remaining ∧ parser.Accepts input (input.advance count)
  | .failure => parser.Rejects input

/-- The meaning of terms as parsing expressions over the rules of a grammar. -/
inductive Grammar.Derives (grammar : Grammar) : Term → List Char → Recognition → Prop where
  -- Any symbol matches; there is none at the end.
  | oneChar {symbol : Char} {others : List Char} :
    Derives grammar .oneChar (symbol :: others) (.success 1)
  | oneCharEnd : Derives grammar .oneChar [] .failure
  -- The symbol with the code matches, and no other.
  | lit {code : CodePoint} {symbol : Char} {others : List Char}
    (same : CodePoint.ofChar symbol = code) :
    Derives grammar (.lit code) (symbol :: others) (.success 1)
  | litOther {code : CodePoint} {symbol : Char} {others : List Char}
    (different : CodePoint.ofChar symbol ≠ code) :
    Derives grammar (.lit code) (symbol :: others) .failure
  | litEnd {code : CodePoint} : Derives grammar (.lit code) [] .failure
  -- A symbol between the two codes matches, and no other.
  | range {low high : CodePoint} {symbol : Char} {others : List Char}
    (inside : low ≤ CodePoint.ofChar symbol ∧ CodePoint.ofChar symbol ≤ high) :
    Derives grammar (.range low high) (symbol :: others) (.success 1)
  | rangeOther {low high : CodePoint} {symbol : Char} {others : List Char}
    (outside : ¬ (low ≤ CodePoint.ofChar symbol ∧ CodePoint.ofChar symbol ≤ high)) :
    Derives grammar (.range low high) (symbol :: others) .failure
  | rangeEnd {low high : CodePoint} : Derives grammar (.range low high) [] .failure
  -- A text matches where it comes next.
  | litString {text : String} {symbols : List Char} (next : text.toList <+: symbols) :
    Derives grammar (.litString text) symbols (.success text.toList.length)
  | litStringOther {text : String} {symbols : List Char} (other : ¬ text.toList <+: symbols) :
    Derives grammar (.litString text) symbols .failure
  -- A value matches no symbols, and an error does not match.
  | pure {value : Host} {symbols : List Char} :
    Derives grammar (.pure value) symbols (.success 0)
  | fail {kind : String} {args : List Host} {symbols : List Char} :
    Derives grammar (.fail kind args) symbols .failure
  -- A sequence hands on what is left after each term; one that does not match ends it.
  | seqNil {symbols : List Char} : Derives grammar (.seq []) symbols (.success 0)
  | seqCons {first : Term} {others : List Term} {symbols : List Char} {count more : Nat}
    (head : Derives grammar first symbols (.success count))
    (tail : Derives grammar (.seq others) (symbols.drop count) (.success more)) :
    Derives grammar (.seq (first :: others)) symbols (.success (count + more))
  | seqHead {first : Term} {others : List Term} {symbols : List Char}
    (head : Derives grammar first symbols .failure) :
    Derives grammar (.seq (first :: others)) symbols .failure
  | seqTail {first : Term} {others : List Term} {symbols : List Char} {count : Nat}
    (head : Derives grammar first symbols (.success count))
    (tail : Derives grammar (.seq others) (symbols.drop count) .failure) :
    Derives grammar (.seq (first :: others)) symbols .failure
  -- A choice tries its terms in order, all on the same symbols.
  | firstOfNil {symbols : List Char} : Derives grammar (.firstOf []) symbols .failure
  | firstOfHead {first : Term} {others : List Term} {symbols : List Char} {count : Nat}
    (head : Derives grammar first symbols (.success count)) :
    Derives grammar (.firstOf (first :: others)) symbols (.success count)
  | firstOfTail {first : Term} {others : List Term} {symbols : List Char} {result : Recognition}
    (head : Derives grammar first symbols .failure)
    (tail : Derives grammar (.firstOf others) symbols result) :
    Derives grammar (.firstOf (first :: others)) symbols result
  -- An optional term falls back to no symbols.
  | optional {term : Term} {default : Host} {symbols : List Char} {count : Nat}
    (inner : Derives grammar term symbols (.success count)) :
    Derives grammar (.optional term default) symbols (.success count)
  | optionalNone {term : Term} {default : Host} {symbols : List Char}
    (inner : Derives grammar term symbols .failure) :
    Derives grammar (.optional term default) symbols (.success 0)
  -- A repetition goes on while its term matches symbols; a run that matches none is its last.
  | manyEnd {term : Term} {symbols : List Char} (inner : Derives grammar term symbols .failure) :
    Derives grammar (.many term) symbols (.success 0)
  | manyIdle {term : Term} {symbols : List Char}
    (inner : Derives grammar term symbols (.success 0)) :
    Derives grammar (.many term) symbols (.success 0)
  | manyMore {term : Term} {symbols : List Char} {count more : Nat} (moved : count ≠ 0)
    (inner : Derives grammar term symbols (.success count))
    (later : Derives grammar (.many term) (symbols.drop count) (.success more)) :
    Derives grammar (.many term) symbols (.success (count + more))
  -- One or more runs need the first and go on like a repetition.
  | many1End {term : Term} {symbols : List Char} (inner : Derives grammar term symbols .failure) :
    Derives grammar (.many1 term) symbols .failure
  | many1Idle {term : Term} {symbols : List Char}
    (inner : Derives grammar term symbols (.success 0)) :
    Derives grammar (.many1 term) symbols (.success 0)
  | many1More {term : Term} {symbols : List Char} {count more : Nat} (moved : count ≠ 0)
    (inner : Derives grammar term symbols (.success count))
    (later : Derives grammar (.many term) (symbols.drop count) (.success more)) :
    Derives grammar (.many1 term) symbols (.success (count + more))
  -- Predicates match no symbols.
  | lookAhead {term : Term} {symbols : List Char} {count : Nat}
    (inner : Derives grammar term symbols (.success count)) :
    Derives grammar (.lookAhead term) symbols (.success 0)
  | lookAheadFails {term : Term} {symbols : List Char}
    (inner : Derives grammar term symbols .failure) :
    Derives grammar (.lookAhead term) symbols .failure
  | not {term : Term} {symbols : List Char} (inner : Derives grammar term symbols .failure) :
    Derives grammar (.not term) symbols (.success 0)
  | notFails {term : Term} {symbols : List Char} {count : Nat}
    (inner : Derives grammar term symbols (.success count)) :
    Derives grammar (.not term) symbols .failure
  -- A term of the whole input matches where nothing is left after it.
  | entireInput {term : Term} {symbols : List Char} {count : Nat}
    (inner : Derives grammar term symbols (.success count)) (nothing : symbols.drop count = []) :
    Derives grammar (.entireInput term) symbols (.success count)
  | entireInputRest {term : Term} {symbols : List Char} {count : Nat}
    (inner : Derives grammar term symbols (.success count)) (something : symbols.drop count ≠ []) :
    Derives grammar (.entireInput term) symbols .failure
  | entireInputFails {term : Term} {symbols : List Char}
    (inner : Derives grammar term symbols .failure) :
    Derives grammar (.entireInput term) symbols .failure
  -- A reference means the body of its rule.
  | ref {name : String} {body : Term} {symbols : List Char} {result : Recognition}
    (found : grammar.rule? name = some body) (inner : Derives grammar body symbols result) :
    Derives grammar (.ref name) symbols result

/-- Whether a term is one that has a meaning as a parsing expression. -/
def Term.IsPlain : Term → Prop
  | .oneChar | .lit _ | .range .. | .litString _ | .pure _ | .fail .. | .seq _ | .firstOf _
  | .optional .. | .many _ | .many1 _ | .lookAhead _ | .not _ | .entireInput _ | .ref _ => True
  | _ => False

namespace Grammar

variable {α : Type} {grammar : Grammar} {parser : Parser α} {term : Term} {input rest : Input}

/-! ## Soundness -/

/-- Whether what a parser decides can be derived for a term from the symbols that are left. -/
structure Sound (grammar : Grammar) (parser : Parser α) (term : Term) : Prop where
  /-- What it accepts is derived to match the symbols it has moved past. -/
  accepted : ∀ {input rest}, parser.Accepts input rest →
    ∃ count ≤ input.remaining, rest = input.advance count ∧
      grammar.Derives term input.rest (.success count)
  /-- What it rejects is derived not to match. -/
  rejected : ∀ {input}, parser.Rejects input → grammar.Derives term input.rest .failure

namespace Sound

/-- A sound parser moves forward. -/
theorem forward (sound : grammar.Sound parser term) : parser.Forward := by
  intro input rest accepts
  obtain ⟨count, enough, rfl, -⟩ := sound.accepted accepts
  exact ⟨count, enough, rfl⟩

/-- The values of a sound parser do not matter. -/
theorem map {β : Type} (sound : grammar.Sound parser term) (f : α → β) :
    grammar.Sound (Parser.map f parser) term where
  accepted accepts := sound.accepted ((Parser.accepts_map f).mp accepts)
  rejected rejects := sound.rejected ((Parser.rejects_map f).mp rejects)

/-- A test of one symbol is sound for a term that matches the symbols passing it. -/
theorem symbolWhen {test : CodePoint → Bool} (kind : String) (args : List Host)
    (passes : ∀ {symbol others}, test (.ofChar symbol) = true →
      grammar.Derives term (symbol :: others) (.success 1))
    (fails : ∀ {symbol others}, test (.ofChar symbol) = false →
      grammar.Derives term (symbol :: others) .failure)
    (ended : grammar.Derives term [] .failure) :
    grammar.Sound (Parser.acceptWhen .oneChar test kind args) term where
  accepted {input rest} accepts := by
    obtain ⟨symbol, found, passed, rfl⟩ := (Parser.accepts_symbolWhen test kind args).mp accepts
    have shorter := Input.remaining_past found
    rw [Input.rest_eq_cons found]
    exact ⟨1, by omega, (Input.advance_one found).symm, passes passed⟩
  rejected {input} rejects := by
    have failed := (Parser.rejects_symbolWhen test kind args).mp rejects
    cases found : input.peek? with
    | none =>
      rw [(Input.peek?_eq_none_iff input).mp found]
      exact ended
    | some symbol =>
      rw [Input.rest_eq_cons found]
      exact fails (failed symbol found)

/-- Any symbol is sound. -/
theorem oneChar : grammar.Sound Parser.oneChar .oneChar where
  accepted {input rest} accepts := by
    obtain ⟨symbol, found, rfl⟩ := Parser.accepts_oneChar.mp accepts
    have shorter := Input.remaining_past found
    rw [Input.rest_eq_cons found]
    exact ⟨1, by omega, (Input.advance_one found).symm, .oneChar⟩
  rejected {input} rejects := by
    rw [(Input.peek?_eq_none_iff input).mp (Parser.rejects_oneChar.mp rejects)]
    exact .oneCharEnd

/-- A text is sound. -/
theorem litString (text : String) :
    grammar.Sound (Parser.litString text) (.litString text) where
  accepted {input rest} accepts := by
    obtain ⟨next, rfl⟩ := (Parser.accepts_litStringFrom text text.toList).mp accepts
    refine ⟨text.toList.length, ?_, rfl, .litString next⟩
    rw [Input.remaining_eq_length]
    exact next.length_le
  rejected rejects := .litStringOther ((Parser.rejects_litStringFrom text text.toList).mp rejects)

/-- A sequence of sound parsers is sound. -/
theorem seq {rule : String → Parser Host} {terms : List Term}
    (parts : ∀ part ∈ terms, grammar.Sound (part.parser rule) part) :
    grammar.Sound (Parser.seq (Term.parsers rule terms)) (.seq terms) := by
  induction terms with
  | nil =>
    constructor
    · intro input rest accepts
      obtain rfl := (Parser.accepts_pure []).mp accepts
      exact ⟨0, Nat.zero_le _, rfl, .seqNil⟩
    · exact fun rejects => absurd rejects (Parser.rejects_pure [])
  | cons first others ih =>
    obtain ⟨head, tail⟩ := List.forall_mem_cons.mp parts
    have tail := ih tail
    constructor
    · intro input rest accepts
      obtain ⟨middle, accepts, later⟩ := Parser.accepts_seq_cons.mp accepts
      obtain ⟨count, enough, rfl, derived⟩ := head.accepted accepts
      obtain ⟨more, enough', rfl, derived'⟩ := tail.accepted later
      rw [Input.remaining_advance] at enough'
      rw [Input.rest_advance] at derived'
      exact ⟨count + more, by omega, Input.advance_advance count more input,
        .seqCons derived derived'⟩
    · intro input rejects
      rcases Parser.rejects_seq_cons.mp rejects with rejects | ⟨middle, accepts, later⟩
      · exact .seqHead (head.rejected rejects)
      · obtain ⟨count, enough, rfl, derived⟩ := head.accepted accepts
        have derived' := tail.rejected later
        rw [Input.rest_advance] at derived'
        exact .seqTail derived derived'

/-- A choice among sound parsers is sound. -/
theorem firstOf {rule : String → Parser Host} {terms : List Term}
    (parts : ∀ part ∈ terms, grammar.Sound (part.parser rule) part) :
    grammar.Sound (Parser.firstOf (Term.parsers rule terms)) (.firstOf terms) := by
  induction terms with
  | nil =>
    constructor
    · exact fun accepts => absurd accepts Parser.accepts_firstOf_nil
    · exact fun rejects => .firstOfNil
  | cons first others ih =>
    obtain ⟨head, tail⟩ := List.forall_mem_cons.mp parts
    have tail := ih tail
    constructor
    · intro input rest accepts
      rcases Parser.accepts_firstOf_cons.mp accepts with accepts | ⟨rejects, later⟩
      · obtain ⟨count, enough, rfl, derived⟩ := head.accepted accepts
        exact ⟨count, enough, rfl, .firstOfHead derived⟩
      · obtain ⟨count, enough, rfl, derived⟩ := tail.accepted later
        exact ⟨count, enough, rfl, .firstOfTail (head.rejected rejects) derived⟩
    · intro input rejects
      obtain ⟨rejects, later⟩ := Parser.rejects_firstOf_cons.mp rejects
      exact .firstOfTail (head.rejected rejects) (tail.rejected later)

/-- A sound parser with a default is sound. -/
theorem optional (sound : grammar.Sound parser term) (default : α) (shown : Host) :
    grammar.Sound (parser.optional default) (.optional term shown) where
  accepted {input rest} accepts := by
    rcases (Parser.accepts_optional default).mp accepts with accepts | ⟨rejects, rfl⟩
    · obtain ⟨count, enough, rfl, derived⟩ := sound.accepted accepts
      exact ⟨count, enough, rfl, .optional derived⟩
    · exact ⟨0, Nat.zero_le _, rfl, .optionalNone (sound.rejected rejects)⟩
  rejected rejects := absurd rejects (Parser.rejects_optional default)

/-- Where the runs of a sound parser end is derived for the repetition. -/
theorem endsAt (sound : grammar.Sound parser term) (ends : parser.EndsAt input rest) :
    ∃ count ≤ input.remaining, rest = input.advance count ∧
      grammar.Derives (.many term) input.rest (.success count) := by
  induction ends with
  | rejected rejects => exact ⟨0, Nat.zero_le _, rfl, .manyEnd (sound.rejected rejects)⟩
  | idle accepts same =>
    obtain ⟨count, enough, rfl, derived⟩ := sound.accepted accepts
    rw [Input.cursor_advance enough] at same
    obtain rfl : count = 0 := by omega
    exact ⟨0, Nat.zero_le _, rfl, .manyIdle derived⟩
  | moved accepts different later ih =>
    obtain ⟨count, enough, rfl, derived⟩ := sound.accepted accepts
    obtain ⟨more, enough', rfl, derived'⟩ := ih
    rw [Input.cursor_advance enough] at different
    rw [Input.remaining_advance] at enough'
    rw [Input.rest_advance] at derived'
    exact ⟨count + more, by omega, Input.advance_advance count more _,
      .manyMore (by omega) derived derived'⟩

/-- Zero or more runs of a sound parser are sound. -/
theorem many (sound : grammar.Sound parser term) : grammar.Sound parser.many (.many term) where
  accepted accepts := sound.endsAt ((Parser.accepts_foldl sound.forward #[] Array.push).mp accepts)
  rejected rejects := absurd rejects (Parser.rejects_foldl #[] Array.push)

/-- One or more runs of a sound parser are sound. When the first run takes no symbols the second
runs at the same place and does the same, so it ends the repetition there. -/
theorem many1 (sound : grammar.Sound parser term) : grammar.Sound parser.many1 (.many1 term) where
  accepted {input rest} accepts := by
    obtain ⟨middle, once, ends⟩ := (Parser.accepts_many1 sound.forward).mp accepts
    obtain ⟨count, enough, rfl, derived⟩ := sound.accepted once
    by_cases idle : count = 0
    · subst idle
      rw [Input.advance_zero] at once ends
      cases ends with
      | rejected rejects => exact absurd rejects once.not_rejects
      | idle again same => exact ⟨0, enough, again.unique once, .many1Idle derived⟩
      | moved again different later =>
        rw [again.unique once] at different
        exact absurd rfl different
    · obtain ⟨more, enough', rfl, derived'⟩ := sound.endsAt ends
      rw [Input.remaining_advance] at enough'
      rw [Input.rest_advance] at derived'
      exact ⟨count + more, by omega, Input.advance_advance count more input,
        .many1More idle derived derived'⟩
  rejected rejects := .many1End (sound.rejected (Parser.rejects_many1.mp rejects))

/-- Looking ahead with a sound parser is sound. -/
theorem lookAhead (sound : grammar.Sound parser term) :
    grammar.Sound parser.lookAhead (.lookAhead term) where
  accepted {input rest} accepts := by
    obtain ⟨⟨middle, accepts⟩, rfl⟩ := Parser.accepts_lookAhead.mp accepts
    obtain ⟨count, -, -, derived⟩ := sound.accepted accepts
    exact ⟨0, Nat.zero_le _, rfl, .lookAhead derived⟩
  rejected rejects := .lookAheadFails (sound.rejected (Parser.rejects_lookAhead.mp rejects))

/-- The negation of a sound parser is sound. -/
theorem not [Shown α] (sound : grammar.Sound parser term) :
    grammar.Sound parser.not (.not term) where
  accepted {input rest} accepts := by
    obtain ⟨rejects, rfl⟩ := Parser.accepts_not.mp accepts
    exact ⟨0, Nat.zero_le _, rfl, .not (sound.rejected rejects)⟩
  rejected {input} rejects := by
    obtain ⟨middle, accepts⟩ := Parser.rejects_not.mp rejects
    obtain ⟨count, -, -, derived⟩ := sound.accepted accepts
    exact .notFails derived

/-- A sound parser of the whole input is sound. -/
theorem entireInput (sound : grammar.Sound parser term) :
    grammar.Sound parser.entireInput (.entireInput term) where
  accepted {input rest} accepts := by
    obtain ⟨accepts, nothing⟩ := Parser.accepts_entireInput.mp accepts
    obtain ⟨count, enough, rfl, derived⟩ := sound.accepted accepts
    rw [Input.rest_advance] at nothing
    exact ⟨count, enough, rfl, .entireInput derived nothing⟩
  rejected {input} rejects := by
    rcases Parser.rejects_entireInput.mp rejects with rejects | ⟨middle, accepts, something⟩
    · exact .entireInputFails (sound.rejected rejects)
    · obtain ⟨count, enough, rfl, derived⟩ := sound.accepted accepts
      rw [Input.rest_advance] at something
      exact .entireInputRest derived something

end Sound

/-- The parser of a plain term over sound rules is sound. -/
theorem sound_term {rule : String → Parser Host}
    (rules : ∀ name, grammar.Sound (rule name) (.ref name)) (plain : term.Every Term.IsPlain) :
    grammar.Sound (term.parser rule) term := by
  induction plain with
  | @intro term here inside ih =>
  have only {part : Term} (single : term.parts = [part]) :
      grammar.Sound (part.parser rule) part := ih part (by simp [single])
  cases term with
  | oneChar => exact Sound.oneChar.map _
  | lit code =>
    exact (Sound.symbolWhen _ _ (fun same => .lit (by simpa using same))
      (fun different => .litOther (by simpa using different)) .litEnd).map _
  | range low high =>
    exact (Sound.symbolWhen _ _ (fun inside => .range (by simpa using inside))
      (fun outside => .rangeOther (by simpa using outside)) .rangeEnd).map _
  | litString text => exact (Sound.litString text).map _
  | pure value =>
    constructor
    · intro input rest accepts
      obtain rfl := (Parser.accepts_pure value).mp accepts
      exact ⟨0, Nat.zero_le _, rfl, .pure⟩
    · exact fun rejects => absurd rejects (Parser.rejects_pure value)
  | fail kind args =>
    exact ⟨fun accepts => absurd accepts (Parser.accepts_fail kind args), fun _ => .fail⟩
  | seq terms => exact (Sound.seq ih).map _
  | firstOf terms => exact Sound.firstOf ih
  | optional part default => exact (only rfl).optional default default
  | many part => exact (only rfl).many.map _
  | many1 part => exact (only rfl).many1.map _
  | lookAhead part => exact (only rfl).lookAhead
  | not part => exact (only rfl).not.map _
  | entireInput part => exact (only rfl).entireInput
  | ref name => exact rules name
  | _ => exact here.elim

/-- The rules of a plain grammar are sound at every depth. -/
theorem sound_ruleParser (plain : grammar.Every Term.IsPlain) (depth : Nat) (name : String) :
    grammar.Sound (grammar.ruleParser depth name) (.ref name) := by
  induction depth generalizing name with
  | zero =>
    constructor
    · rintro input rest ⟨value, accepted⟩
      cases accepted
    · rintro input ⟨error, rejected⟩
      cases rejected
  | succ depth ih =>
    cases found : grammar.rule? name with
    | none =>
      rw [ruleParser_missing found]
      constructor
      · rintro input rest ⟨value, accepted⟩
        cases accepted
      · rintro input ⟨error, rejected⟩
        cases rejected
    | some body =>
      rw [ruleParser_succ found]
      have sound := sound_term ih (plain name body found)
      constructor
      · intro input rest accepts
        obtain ⟨count, enough, rfl, derived⟩ := sound.accepted accepts
        exact ⟨count, enough, rfl, .ref found derived⟩
      · exact fun rejects => .ref found (sound.rejected rejects)

end Grammar

/-! ## Completeness -/

namespace Parser

variable {α β : Type} {parser : Parser α} {others : List (Parser α)} {input : Input}
variable {count more : Nat} {result : Recognition}

/-- The values of a parser do not matter. -/
@[simp] theorem recognises_map (f : α → β) :
    (map f parser).Recognises input result ↔ parser.Recognises input result := by
  cases result with
  | success count => rw [Recognises, Recognises, accepts_map]
  | failure => rw [Recognises, Recognises, rejects_map]

namespace Recognises

/-- Only the verdict of a parser matters. -/
theorem congr {other : Parser α} (recognised : parser.Recognises input result)
    (same : (other input).verdict = (parser input).verdict) : other.Recognises input result := by
  cases result with
  | success count =>
    obtain ⟨enough, value, accepted⟩ := recognised
    exact ⟨enough, value, same.trans accepted⟩
  | failure =>
    obtain ⟨error, rejected⟩ := recognised
    exact ⟨error, same.trans rejected⟩

/-- What leaves the input past its next symbol is recognised as that symbol. -/
theorem past {symbol : Char} {symbols : List Char} (same : input.rest = symbol :: symbols)
    (accepts : parser.Accepts input (input.past symbol)) :
    parser.Recognises input (.success 1) := by
  have found := Input.peek?_of_rest_eq_cons same
  have shorter := Input.remaining_past found
  rw [← Input.advance_one found] at accepts
  exact ⟨by omega, accepts⟩

/-- Any symbol is recognised. -/
theorem oneChar {symbol : Char} {symbols : List Char} (same : input.rest = symbol :: symbols) :
    Parser.oneChar.Recognises input (.success 1) :=
  past same (accepts_oneChar.mpr ⟨symbol, Input.peek?_of_rest_eq_cons same, rfl⟩)

/-- A symbol that passes a test is recognised. -/
theorem symbolWhen {test : CodePoint → Bool} {symbol : Char} {symbols : List Char}
    (same : input.rest = symbol :: symbols) (passed : test (.ofChar symbol) = true) (kind : String)
    (args : List Host) :
    (acceptWhen Parser.oneChar test kind args).Recognises input (.success 1) :=
  past same ((accepts_symbolWhen test kind args).mpr
    ⟨symbol, Input.peek?_of_rest_eq_cons same, passed, rfl⟩)

/-- A symbol that fails a test is not recognised. -/
theorem symbolWhen_other {test : CodePoint → Bool} {symbol : Char} {symbols : List Char}
    (same : input.rest = symbol :: symbols) (failed : test (.ofChar symbol) = false)
    (kind : String) (args : List Host) :
    (acceptWhen Parser.oneChar test kind args).Recognises input .failure := by
  refine (rejects_symbolWhen test kind args).mpr fun other found => ?_
  rw [Input.peek?_of_rest_eq_cons same] at found
  cases found
  exact failed

/-- At the end no symbol passes a test. -/
theorem symbolWhen_end (same : input.rest = []) (test : CodePoint → Bool) (kind : String)
    (args : List Host) :
    (acceptWhen Parser.oneChar test kind args).Recognises input .failure := by
  refine (rejects_symbolWhen test kind args).mpr fun other found => ?_
  rw [(Input.peek?_eq_none_iff input).mpr same] at found
  cases found

/-- A sequence recognises what its first parser does and then what the others do. -/
theorem seq_cons (head : parser.Recognises input (.success count))
    (tail : (seq others).Recognises (input.advance count) (.success more)) :
    (seq (parser :: others)).Recognises input (.success (count + more)) := by
  obtain ⟨enough, accepts⟩ := head
  obtain ⟨enough', later⟩ := tail
  rw [Input.remaining_advance] at enough'
  rw [Input.advance_advance] at later
  exact ⟨by omega, accepts_seq_cons.mpr ⟨_, accepts, later⟩⟩

/-- A choice whose first parser rejects recognises what the others do. -/
theorem firstOf_cons (head : parser.Recognises input .failure)
    (tail : (firstOf others).Recognises input result) :
    (firstOf (parser :: others)).Recognises input result := by
  cases result with
  | success count => exact ⟨tail.1, accepts_firstOf_cons.mpr (.inr ⟨head, tail.2⟩)⟩
  | failure => exact rejects_firstOf_cons.mpr ⟨head, tail⟩

/-- A repetition is recognised by where its runs end. -/
theorem many_iff (forward : parser.Forward) :
    parser.many.Recognises input (.success count) ↔
      count ≤ input.remaining ∧ parser.EndsAt input (input.advance count) := by
  rw [Recognises, many, accepts_foldl forward]

/-- A repetition goes on after a run that takes symbols. -/
theorem many_more (forward : parser.Forward) (moved : count ≠ 0)
    (once : parser.Recognises input (.success count))
    (later : parser.many.Recognises (input.advance count) (.success more)) :
    parser.many.Recognises input (.success (count + more)) := by
  obtain ⟨enough, accepts⟩ := once
  obtain ⟨enough', ends⟩ := (many_iff forward).mp later
  have further := Input.cursor_advance enough
  rw [Input.remaining_advance] at enough'
  rw [Input.advance_advance] at ends
  exact (many_iff forward).mpr ⟨by omega, .moved accepts (by omega) ends⟩

/-- One or more runs are recognised as a run and then a repetition. -/
theorem many1 (forward : parser.Forward) (once : parser.Recognises input (.success count))
    (later : parser.many.Recognises (input.advance count) (.success more)) :
    parser.many1.Recognises input (.success (count + more)) := by
  obtain ⟨enough, accepts⟩ := once
  obtain ⟨enough', ends⟩ := (many_iff forward).mp later
  rw [Input.remaining_advance] at enough'
  rw [Input.advance_advance] at ends
  exact ⟨by omega, (accepts_many1 forward).mpr ⟨_, accepts, ends⟩⟩

end Recognises

end Parser

namespace Grammar

variable {grammar : Grammar} {term : Term} {input : Input}

/-- A term leaves inputs ahead only. -/
theorem forward_term (grammar : Grammar) (term : Term) (depth : Nat) :
    (term.parser (grammar.ruleParser depth)).Forward := by
  rintro input rest ⟨value, accepted⟩
  exact term_accept_ahead accepted

/-- What can be derived is recognised when rules are run deeply enough. -/
theorem Derives.recognises {symbols : List Char} {result : Recognition}
    (derived : grammar.Derives term symbols result) (same : input.rest = symbols) :
    ∀ᶠ depth in Filter.atTop,
      (term.parser (grammar.ruleParser depth)).Recognises input result := by
  have onwards {symbols : List Char} {input : Input} (count : Nat) (same : input.rest = symbols) :
      (input.advance count).rest = symbols.drop count := by
    rw [Input.rest_advance, same]
  induction derived generalizing input with
  | oneChar => exact .of_forall fun depth => (Parser.recognises_map _).mpr (.oneChar same)
  | oneCharEnd =>
    have ended := (Input.peek?_eq_none_iff input).mpr same
    exact .of_forall fun depth => (Parser.rejects_map _).mpr (Parser.rejects_oneChar.mpr ended)
  | lit equal =>
    exact .of_forall fun depth => (Parser.recognises_map _).mpr
      (.symbolWhen same (by simpa using equal) _ _)
  | litOther different =>
    exact .of_forall fun depth => (Parser.recognises_map _).mpr
      (.symbolWhen_other same (by simpa using different) _ _)
  | litEnd | rangeEnd =>
    exact .of_forall fun depth => (Parser.recognises_map _).mpr (.symbolWhen_end same _ _ _)
  | range inside =>
    exact .of_forall fun depth => (Parser.recognises_map _).mpr
      (.symbolWhen same (by simpa using inside) _ _)
  | rangeOther outside =>
    exact .of_forall fun depth => (Parser.recognises_map _).mpr
      (.symbolWhen_other same (by simpa using outside) _ _)
  | @litString text symbols next =>
    subst same
    have enough : text.toList.length ≤ input.remaining := by
      rw [Input.remaining_eq_length]
      exact next.length_le
    exact .of_forall fun depth => (Parser.recognises_map _).mpr
      ⟨enough, (Parser.accepts_litStringFrom text text.toList).mpr ⟨next, rfl⟩⟩
  | @litStringOther text symbols other =>
    subst same
    exact .of_forall fun depth => (Parser.rejects_map _).mpr
      ((Parser.rejects_litStringFrom text text.toList).mpr other)
  | pure => exact .of_forall fun depth => ⟨Nat.zero_le _, (Parser.accepts_pure _).mpr rfl⟩
  | fail => exact .of_forall fun depth => Parser.rejects_fail _ _
  | seqNil =>
    exact .of_forall fun depth => (Parser.recognises_map _).mpr
      ⟨Nat.zero_le _, (Parser.accepts_pure []).mpr rfl⟩
  | seqCons head tail ihHead ihTail =>
    filter_upwards [ihHead same, ihTail (onwards _ same)] with depth head tail
    exact (Parser.recognises_map _).mpr (head.seq_cons ((Parser.recognises_map _).mp tail))
  | seqHead head ih =>
    filter_upwards [ih same] with depth head
    exact (Parser.rejects_map _).mpr (Parser.rejects_seq_cons.mpr (.inl head))
  | seqTail head tail ihHead ihTail =>
    filter_upwards [ihHead same, ihTail (onwards _ same)] with depth head tail
    exact (Parser.rejects_map _).mpr
      (Parser.rejects_seq_cons.mpr (.inr ⟨_, head.2, (Parser.rejects_map _).mp tail⟩))
  | firstOfNil => exact .of_forall fun depth => Parser.rejects_firstOf_nil
  | firstOfHead head ih =>
    filter_upwards [ih same] with depth head
    exact ⟨head.1, Parser.accepts_firstOf_cons.mpr (.inl head.2)⟩
  | firstOfTail head tail ihHead ihTail =>
    filter_upwards [ihHead same, ihTail same] with depth head tail
    exact head.firstOf_cons tail
  | optional inner ih =>
    filter_upwards [ih same] with depth inner
    exact ⟨inner.1, (Parser.accepts_optional _).mpr (.inl inner.2)⟩
  | optionalNone inner ih =>
    filter_upwards [ih same] with depth inner
    exact ⟨Nat.zero_le _, (Parser.accepts_optional _).mpr (.inr ⟨inner, rfl⟩)⟩
  | manyEnd inner ih =>
    filter_upwards [ih same] with depth inner
    exact (Parser.recognises_map _).mpr ((Parser.Recognises.many_iff (forward_term _ _ _)).mpr
      ⟨Nat.zero_le _, .rejected inner⟩)
  | manyIdle inner ih =>
    filter_upwards [ih same] with depth inner
    exact (Parser.recognises_map _).mpr ((Parser.Recognises.many_iff (forward_term _ _ _)).mpr
      ⟨Nat.zero_le _, .idle inner.2 rfl⟩)
  | manyMore moved inner later ihInner ihLater =>
    filter_upwards [ihInner same, ihLater (onwards _ same)] with depth once later
    exact (Parser.recognises_map _).mpr
      (once.many_more (forward_term _ _ _) moved ((Parser.recognises_map _).mp later))
  | many1End inner ih =>
    filter_upwards [ih same] with depth inner
    exact (Parser.rejects_map _).mpr (Parser.rejects_many1.mpr inner)
  | @many1Idle term symbols inner ih =>
    -- The second run starts where the first did, so it takes no symbols either.
    filter_upwards [ih same] with depth once
    have forward := forward_term grammar term depth
    have again := (Parser.Recognises.many_iff forward).mpr ⟨Nat.zero_le _, .idle once.2 rfl⟩
    exact (Parser.recognises_map _).mpr (once.many1 forward again)
  | many1More moved inner later ihInner ihLater =>
    filter_upwards [ihInner same, ihLater (onwards _ same)] with depth once later
    exact (Parser.recognises_map _).mpr
      (once.many1 (forward_term _ _ _) ((Parser.recognises_map _).mp later))
  | lookAhead inner ih =>
    filter_upwards [ih same] with depth inner
    exact ⟨Nat.zero_le _, Parser.accepts_lookAhead.mpr ⟨⟨_, inner.2⟩, rfl⟩⟩
  | lookAheadFails inner ih =>
    filter_upwards [ih same] with depth inner
    exact Parser.rejects_lookAhead.mpr inner
  | not inner ih =>
    filter_upwards [ih same] with depth inner
    exact (Parser.recognises_map _).mpr ⟨Nat.zero_le _, Parser.accepts_not.mpr ⟨inner, rfl⟩⟩
  | notFails inner ih =>
    filter_upwards [ih same] with depth inner
    exact (Parser.rejects_map _).mpr (Parser.rejects_not.mpr ⟨_, inner.2⟩)
  | entireInput inner nothing ih =>
    filter_upwards [ih same] with depth inner
    rw [← onwards _ same] at nothing
    exact ⟨inner.1, Parser.accepts_entireInput.mpr ⟨inner.2, nothing⟩⟩
  | entireInputRest inner something ih =>
    filter_upwards [ih same] with depth inner
    rw [← onwards _ same] at something
    exact Parser.rejects_entireInput.mpr (.inr ⟨_, inner.2, something⟩)
  | entireInputFails inner ih =>
    filter_upwards [ih same] with depth inner
    exact Parser.rejects_entireInput.mpr (.inl inner)
  | ref found inner ih =>
    filter_upwards [(Filter.tendsto_sub_atTop_nat 1).eventually (ih same),
      Filter.eventually_gt_atTop 0] with depth inner positive
    obtain ⟨depth, rfl⟩ : ∃ less, depth = less + 1 := ⟨depth - 1, by omega⟩
    rw [Term.parser, ruleParser_succ found]
    exact inner

/-- A plain term over plain rules is its parsing expression: it recognises exactly what can be
derived from the symbols that are left, and whatever it accepts leaves the input advanced. -/
theorem parser_recognises_iff_derives (rules : grammar.Every Term.IsPlain)
    (plain : term.Every Term.IsPlain) (input : Input) :
    (∀ result, (grammar.parser term).Recognises input result ↔
      grammar.Derives term input.rest result) ∧
    ∀ rest, (grammar.parser term).Accepts input rest →
      ∃ count ≤ input.remaining, rest = input.advance count := by
  have sound : grammar.Sound (term.parser (grammar.ruleParser (grammar.depthOn input))) term :=
    sound_term (sound_ruleParser rules _) plain
  refine ⟨fun result => ⟨fun recognised => ?_, fun derived => ?_⟩, fun rest accepts => ?_⟩
  · cases result with
    | success count =>
      obtain ⟨enough, accepts⟩ := recognised
      obtain ⟨count', enough', same, derived⟩ := sound.accepted accepts
      have cursors := congrArg Input.cursor same
      rw [Input.cursor_advance enough, Input.cursor_advance enough'] at cursors
      obtain rfl : count = count' := by omega
      exact derived
    | failure => exact sound.rejected recognised
  · have deep := derived.recognises rfl
    obtain ⟨depth, recognised, le⟩ :=
      (deep.and (Filter.eventually_ge_atTop (grammar.depthOn input))).exists
    have same := grammar.parser_verdict_eq_of_depthOn_le term input le
    exact recognised.congr same.symm
  · obtain ⟨count, enough, same, -⟩ := sound.accepted accepts
    exact ⟨count, enough, same⟩

/-- A group is any symbol but a bracket, or groups in brackets. -/
def groups : Grammar :=
  ⟨[("group", .firstOf [.seq [.not (.range 40 41), .oneChar],
    .seq [.lit 40, .many (.ref "group"), .lit 41]])]⟩

/-- A group inside a group is derived with the brackets around it, and none is derived where the
last bracket is missing. -/
theorem parser_recognises_iff_derives_groups :
    groups.Every Term.IsPlain ∧ (Term.ref "group").Every Term.IsPlain ∧
    groups.Derives (.ref "group") ['(', 'a', '(', 'b', ')', ')', 'c'] (.success 6) ∧
    groups.Derives (.ref "group") ['(', 'a', '(', 'b', ')'] .failure := by
  have single : (Term.seq [.not (.range 40 41), .oneChar]).Every Term.IsPlain :=
    .pair rfl trivial (.single rfl trivial (.leaf rfl trivial)) (.leaf rfl trivial)
  have bracketed : (Term.seq [.lit 40, .many (.ref "group"), .lit 41]).Every Term.IsPlain :=
    .intro trivial (List.forall_mem_cons.mpr ⟨.leaf rfl trivial, List.forall_mem_cons.mpr
      ⟨.single rfl trivial (.leaf rfl trivial), List.forall_mem_singleton.mpr
        (.leaf rfl trivial)⟩⟩)
  have rules : groups.Every Term.IsPlain :=
    every_of_forall_mem (List.forall_mem_singleton.mpr (.pair rfl trivial single bracketed))
  have plain : (Term.ref "group").Every Term.IsPlain := .leaf rfl trivial
  have derives (symbols : List Char) (result : Recognition)
      (recognised : (groups.parser (.ref "group")).Recognises (Input.ofSymbols symbols {}) result) :
      groups.Derives (.ref "group") (Input.ofSymbols symbols {}).rest result :=
    ((parser_recognises_iff_derives rules plain _).1 result).mp recognised
  exact ⟨rules, plain, derives _ (.success 6) ⟨by decide, _, rfl⟩, derives _ .failure ⟨_, rfl⟩⟩

end Grammar

end GrammarKit
