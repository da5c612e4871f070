import GrammarKit.Proofs.Repetition
import Mathlib.Algebra.Group.Nat.Defs
/-!
# Runs of symbols and the numbers they write

A repetition of a parser of single symbols is greedy: it takes the longest run of symbols that pass
its test, no more and no less (`Parser.verdict_foldl_symbolWhen`). A run of decimal digits is read
by place value, and the reader of numerals gives exactly that value as long as it fits a word,
however many zeros stand in front (`Number.int64?_of_digits`). Together they say what the parser of
whole numbers makes of every input (`Parser.int_reads_digits`).
-/

namespace GrammarKit

/-- A character comes back from its code. -/
@[simp] theorem CodePoint.toChar_ofChar (symbol : Char) : (ofChar symbol).toChar = symbol := by
  have valid : symbol.toNat.isValidChar := symbol.valid
  have small : symbol.toNat < 2 ^ 31 := by
    rcases valid with low | ⟨-, high⟩ <;> omega
  have number : (ofChar symbol).toInt = symbol.toNat := Int32.toInt_ofNat_of_lt small
  have positive : 0 ≤ ofChar symbol := by
    rw [Int32.le_iff_toInt_le, number]
    exact Int.natCast_nonneg _
  unfold toChar
  rw [number, Int.toNat_natCast, if_pos ⟨positive, valid⟩, Char.ofNat_toNat]

/-- The text of the codes of some characters is made of these characters. -/
theorem CodePoint.textOf_map_ofChar (symbols : List Char) :
    textOf (symbols.map ofChar) = String.ofList symbols := by
  simp [textOf, Function.comp_def]

/-! ## Numerals -/

namespace Number

/-- A decimal digit has the value of its distance from the digit zero. -/
theorem digitValue?_ten {symbol : Char} (digit : symbol.isDigit = true) :
    digitValue? 10 symbol = some (symbol.toNat - 48) := by
  have bounds : '0' ≤ symbol ∧ symbol ≤ '9' := by
    simp only [Char.isDigit, Bool.and_eq_true, decide_eq_true_eq] at digit
    exact digit
  have number : symbol.toNat ≤ 57 := bounds.2
  rw [digitValue?, if_pos bounds]
  exact Option.filter_some_pos (by simp; omega)

/-- Further digits never make a number smaller. -/
theorem le_ofDigitChars (digits : List Char) (sofar : Nat) :
    sofar ≤ Nat.ofDigitChars 10 digits sofar := by
  rw [Nat.ofDigitChars_eq_ofDigitChars_zero]
  exact Nat.le_add_right_of_le (Nat.le_mul_of_pos_left sofar (Nat.pow_pos (by decide)))

/-- Digits are scanned to their value, unless that is past 64 bits. -/
theorem scanDigits_of_digits {digits : List Char} (all : ∀ symbol ∈ digits, symbol.isDigit = true)
    {sofar : Nat} (small : sofar < UInt64.size) :
    scanDigits sofar digits =
      if Nat.ofDigitChars 10 digits sofar < UInt64.size then
        .ok (Nat.ofDigitChars 10 digits sofar)
      else .error .outOfRange := by
  induction digits generalizing sofar with
  | nil => simp [scanDigits, small]
  | cons symbol others ih =>
    obtain ⟨digit, all⟩ := List.forall_mem_cons.mp all
    have next : sofar * 10 + (symbol.toNat - 48) = 10 * sofar + (symbol.toNat - '0'.toNat) := by
      rw [Nat.mul_comm]
      rfl
    rw [scanDigits, digitValue?_ten digit, Nat.ofDigitChars_cons]
    simp only [next]
    by_cases past : UInt64.size ≤ 10 * sofar + (symbol.toNat - '0'.toNat)
    · -- The scan stops here, and the digits to come could only make the number bigger.
      have bigger := Nat.le_trans past (le_ofDigitChars others _)
      rw [if_pos past, if_neg (Nat.not_lt.mpr bigger)]
    · rw [if_neg past, ih all (Nat.not_le.mp past)]

/-- A natural number fits a signed word when it is below half of what 64 bits hold. -/
theorem fitsInt64_natCast (number : Nat) : fitsInt64 number = decide (number < 2 ^ 63) := by
  have least : Int64.minValue.toInt ≤ number := by
    have below : Int64.minValue.toInt ≤ 0 := by decide
    omega
  have greatest : Int64.maxValue.toInt = 2 ^ 63 - 1 := by decide
  rw [fitsInt64, decide_eq_true least, Bool.true_and, greatest, decide_eq_decide]
  omega

/-- A numeral made of digits is read to their value, unless that is too big for a signed word. -/
theorem int64?_of_digits {digits : List Char} (some : digits ≠ [])
    (all : ∀ symbol ∈ digits, symbol.isDigit = true) :
    int64? (String.ofList digits) =
      if Nat.ofDigitChars 10 digits 0 < 2 ^ 63 then
        .ok (Int64.ofNat (Nat.ofDigitChars 10 digits 0))
      else .error .outOfRange := by
  have unsigned : splitSign digits = (false, digits) := by
    unfold splitSign
    split
    · exact absurd (all '-' List.mem_cons_self) (by decide)
    · exact absurd (all '+' List.mem_cons_self) (by decide)
    · rfl
  have there : digits.isEmpty = false := by simpa using some
  have scanned := scanDigits_of_digits all (by decide : 0 < UInt64.size)
  simp only [int64?, String.toList_ofList, unsigned, there, scanned]
  generalize Nat.ofDigitChars 10 digits 0 = value
  by_cases fits : value < UInt64.size
  · simp only [fits, ↓reduceIte]
    change (if fitsInt64 value = true then _ else _) = _
    rw [fitsInt64_natCast]
    simp only [decide_eq_true_eq]
    rfl
  · have beyond : ¬ value < 2 ^ 63 := fun small => fits (Nat.lt_trans small (by decide))
    simp only [fits, beyond, ↓reduceIte]
    rfl

end Number

/-! ## Runs of symbols -/

namespace Parser

open Input (Ahead)

variable {σ : Type} {input : Input}

/-- A parser of single symbols accepts the symbol under the cursor, moving past it, or rejects it
where it is. -/
theorem verdict_symbolWhen (test : CodePoint → Bool) (kind : String) (args : List Host)
    (input : Input) :
    (acceptWhen oneChar test kind args input).verdict =
      match input.peek? with
      | some symbol =>
        if test (.ofChar symbol) then .accept (.ofChar symbol) (input.past symbol)
        else .reject (input.fail kind (Shown.display (CodePoint.ofChar symbol) :: args))
      | none => .reject (input.fail ErrorKind.unexpectedEndOfInput []) := by
  rw [acceptWhen, Outcome.verdict_andThen, oneChar]
  cases input.peek? with
  | none => rfl
  | some symbol =>
    dsimp only
    split <;> rfl

/-- A parser of single symbols only moves forward. -/
theorem forward_symbolWhen (test : CodePoint → Bool) (kind : String) (args : List Host) :
    (acceptWhen oneChar test kind args).Forward := by
  intro input rest accepts
  obtain ⟨symbol, found, -, rfl⟩ := (accepts_symbolWhen test kind args).mp accepts
  exact .past found

/-- A repetition of a parser of single symbols takes the longest run of symbols that pass the
test. -/
theorem verdict_foldl_symbolWhen (test : CodePoint → Bool) (kind : String) (args : List Host)
    (state : σ) (f : σ → CodePoint → σ) (input : Input) :
    ((acceptWhen oneChar test kind args).foldl state f input).verdict =
      .accept
        (((input.rest.takeWhile fun symbol => test (.ofChar symbol)).map .ofChar).foldl f state)
        (input.advance (input.rest.takeWhile fun symbol => test (.ofChar symbol)).length) := by
  induction left : input.rest generalizing input state with
  | nil =>
    have ended := (Input.peek?_eq_none_iff input).mpr left
    rw [verdict_foldl_unroll (forward_symbolWhen test kind args), verdict_symbolWhen, ended]
    rfl
  | cons symbol others ih =>
    have found := Input.peek?_of_rest_eq_cons left
    have onwards : (input.past symbol).rest = others := by
      have split := Input.rest_eq_cons found
      rw [left] at split
      exact (List.cons.inj split).2.symm
    rw [verdict_foldl_unroll (forward_symbolWhen test kind args), verdict_symbolWhen, found]
    by_cases passed : test (.ofChar symbol) = true
    · have moved : (input.past symbol).cursor ≠ input.cursor := by
        rw [Input.past_cursor]
        exact Nat.succ_ne_self _
      simp only [passed, ↓reduceIte, moved, List.takeWhile_cons, List.map_cons, List.foldl_cons,
        List.length_cons, Input.advance_succ found]
      exact ih _ _ onwards
    · simp [passed]

/-- One or more runs of a parser of single symbols collect the longest run of symbols that pass the
test, if the first one does, and otherwise are rejected with its error. -/
theorem verdict_many1_symbolWhen (test : CodePoint → Bool) (kind : String) (args : List Host)
    (input : Input) :
    ((acceptWhen oneChar test kind args).many1 input).verdict =
      match input.peek? with
      | some symbol =>
        if test (.ofChar symbol) then
          .accept ((input.rest.takeWhile fun symbol => test (.ofChar symbol)).map .ofChar).toArray
            (input.advance (input.rest.takeWhile fun symbol => test (.ofChar symbol)).length)
        else .reject (input.fail kind (Shown.display (CodePoint.ofChar symbol) :: args))
      | none => .reject (input.fail ErrorKind.unexpectedEndOfInput []) := by
  rw [many1, Outcome.verdict_andThen, verdict_symbolWhen]
  cases found : input.peek? with
  | none => rfl
  | some symbol =>
    by_cases passed : test (.ofChar symbol) = true
    · simp only [passed, ↓reduceIte, verdict_foldl_symbolWhen, Input.rest_eq_cons found,
        List.takeWhile_cons, List.map_cons, List.length_cons, Input.advance_succ found]
      simp
    · simp [passed]

/-! ## Whole numbers -/

/-- What the parser of whole numbers makes of an input is decided by the symbol under the cursor
and, if that is a digit, by the value of the longest run of digits. -/
theorem verdict_int (input : Input) :
    (int input).verdict =
      match input.peek? with
      | some symbol =>
        if symbol.isDigit then
          if Nat.ofDigitChars 10 (input.rest.takeWhile Char.isDigit) 0 < 2 ^ 63 then
            .accept (Int64.ofNat (Nat.ofDigitChars 10 (input.rest.takeWhile Char.isDigit) 0))
              (input.advance (input.rest.takeWhile Char.isDigit).length)
          else
            .reject (input.fail ErrorKind.transformFailed
              [.text (Number.numeralReason (String.ofList (input.rest.takeWhile Char.isDigit))
                .outOfRange)])
        else .reject (input.fail ErrorKind.digitExpected [.text (String.singleton symbol)])
      | none => .reject (input.fail ErrorKind.unexpectedEndOfInput []) := by
  rw [int, mapOrRefuse, Outcome.verdict_andThen, digit, verdict_many1_symbolWhen]
  simp only [CodePoint.toChar_ofChar]
  cases found : input.peek? with
  | none => rfl
  | some symbol =>
    by_cases digit : symbol.isDigit = true
    · have some : input.rest.takeWhile Char.isDigit ≠ [] := by
        simp [Input.rest_eq_cons found, digit]
      have all : ∀ symbol ∈ input.rest.takeWhile Char.isDigit, symbol.isDigit = true :=
        List.all_eq_true.mp List.all_takeWhile
      simp only [digit, ↓reduceIte, CodePoint.textOf_map_ofChar, readInteger,
        Number.int64?_of_digits some all]
      by_cases fits : Nat.ofDigitChars 10 (input.rest.takeWhile Char.isDigit) 0 < 2 ^ 63
      · simp only [fits, ↓reduceIte]
      · simp only [fits, ↓reduceIte]
    · simp only [digit, Bool.false_eq_true, ↓reduceIte]
      simp [Shown.display, Shown.toHost, Host.display, CodePoint.text]

/-- Digits that end a source or come before something else are read together. -/
theorem verdict_int_of_digits {digits text : List Char} (split : input.rest = digits ++ text)
    (some : digits ≠ []) (all : ∀ symbol ∈ digits, symbol.isDigit = true)
    (ends : ∀ symbol ∈ text.head?, symbol.isDigit = false) :
    (int input).verdict =
      if Nat.ofDigitChars 10 digits 0 < 2 ^ 63 then
        .accept (Int64.ofNat (Nat.ofDigitChars 10 digits 0)) (input.advance digits.length)
      else
        .reject (input.fail ErrorKind.transformFailed
          [.text (Number.numeralReason (String.ofList digits) .outOfRange)]) := by
  have longest : input.rest.takeWhile Char.isDigit = digits := by
    have nothing : text.takeWhile Char.isDigit = [] := by
      cases text with
      | nil => rfl
      | cons symbol others => simp [ends symbol rfl]
    rw [split, List.takeWhile_append_of_pos all, nothing, List.append_nil]
  obtain ⟨symbol, others, rfl⟩ := List.exists_cons_of_ne_nil some
  have found : input.peek? = .some symbol := Input.peek?_of_rest_eq_cons split
  rw [verdict_int, found, longest]
  simp only [all symbol List.mem_cons_self, ↓reduceIte]

/-- Digits whose value fits a word are read as that value, and what comes after them is left. -/
theorem exists_int_of_digits {digits text : List Char} (split : input.rest = digits ++ text)
    (some : digits ≠ []) (all : ∀ symbol ∈ digits, symbol.isDigit = true)
    (ends : ∀ symbol ∈ text.head?, symbol.isDigit = false)
    (fits : Nat.ofDigitChars 10 digits 0 ≤ 2 ^ 63 - 1) :
    ∃ number : Int64, number.toInt = Nat.ofDigitChars 10 digits 0 ∧
      (int input).verdict = .accept number (input.advance digits.length) ∧
      (input.advance digits.length).rest = text := by
  have below : Nat.ofDigitChars 10 digits 0 < 2 ^ 63 := by omega
  refine ⟨_, Int64.toInt_ofNat_of_lt below, ?_, ?_⟩
  · rw [verdict_int_of_digits split some all ends, if_pos below]
  · rw [Input.rest_advance, split, List.drop_left]

/-- The parser of whole numbers reads the longest run of decimal digits. Without any digit it
rejects where it is, for want of a symbol at the end of the source and of a digit elsewhere. A run
whose value fits a word is accepted with that value, whatever zeros stand in front, and exactly the
symbols after it are left; a run whose value does not fit is rejected where it starts. So the digits
of a number that fits, in front of a text that starts with no digit, are read as that number. -/
theorem int_reads_digits (input : Input) :
    let digits := input.rest.takeWhile Char.isDigit
    let value := Nat.ofDigitChars 10 digits 0
    (input.rest = [] →
      (int input).verdict = .reject (input.fail ErrorKind.unexpectedEndOfInput [])) ∧
    (digits = [] → ∀ symbol ∈ input.rest.head?,
      (int input).verdict =
        .reject (input.fail ErrorKind.digitExpected [.text (String.singleton symbol)])) ∧
    (digits ≠ [] → value ≤ 2 ^ 63 - 1 →
      ∃ number : Int64, number.toInt = value ∧
        (int input).verdict = .accept number (input.advance digits.length) ∧
        (input.advance digits.length).rest = input.rest.dropWhile Char.isDigit) ∧
    (digits ≠ [] → 2 ^ 63 - 1 < value →
      (int input).verdict = .reject (input.fail ErrorKind.transformFailed
        [.text (Number.numeralReason (String.ofList digits) .outOfRange)])) ∧
    ∀ written ≤ 2 ^ 63 - 1, ∀ text : List Char, (∀ symbol ∈ text.head?, symbol.isDigit = false) →
      input.rest = Nat.toDigits 10 written ++ text →
      ∃ (number : Int64) (rest : Input), number.toInt = written ∧
        (int input).verdict = .accept number rest ∧ rest.rest = text := by
  intro digits value
  have split : input.rest = digits ++ input.rest.dropWhile Char.isDigit :=
    List.takeWhile_append_dropWhile.symm
  have all : ∀ symbol ∈ digits, symbol.isDigit = true := List.all_eq_true.mp List.all_takeWhile
  have ends : ∀ symbol ∈ (input.rest.dropWhile Char.isDigit).head?, symbol.isDigit = false := by
    intro symbol first
    have unread := List.head?_dropWhile_not Char.isDigit input.rest
    rwa [Option.mem_def.mp first] at unread
  refine ⟨?atEnd, ?noDigit, ?fits, ?tooBig, ?written⟩
  case atEnd =>
    intro ended
    rw [verdict_int, (Input.peek?_eq_none_iff input).mpr ended]
  case noDigit =>
    intro none symbol first
    have other : symbol.isDigit = false := by
      rw [split, none, List.nil_append] at first
      exact ends symbol first
    rw [verdict_int, Input.peek?_eq_head?, Option.mem_def.mp first]
    simp only [other, Bool.false_eq_true, ↓reduceIte]
  case fits => exact fun some => exists_int_of_digits split some all ends
  case tooBig =>
    intro some big
    have beyond : ¬ value < 2 ^ 63 := by omega
    rw [verdict_int_of_digits split some all ends, if_neg beyond]
  case written =>
    intro written fits text ends split
    have same := Nat.ofDigitChars_ten_toDigits (n := written)
    obtain ⟨number, value, accepted, left⟩ := exists_int_of_digits split Nat.toDigits_ne_nil
      (fun symbol member => Nat.isDigit_of_mem_toDigits (by decide) (by decide) member) ends
      (by rwa [same])
    rw [same] at value
    exact ⟨number, _, value, accepted, left⟩

/-- The greatest number that fits a word is read with zeros in front and a letter behind, the next
one is rejected where it starts, and so is a letter. -/
theorem int_reads_digits_greatest :
    (∃ number : Int64, number.toInt = 9223372036854775807 ∧
      (int (.ofSymbols "009223372036854775807x".toList {})).verdict =
        .accept number ((Input.ofSymbols "009223372036854775807x".toList {}).advance 21)) ∧
    (∃ error, (int (.ofSymbols "9223372036854775808".toList {})).verdict = .reject error ∧
      error.kind = "transform_failed" ∧ error.location = ⟨0, 1, 1⟩) ∧
    ∃ error, (int (.ofSymbols "x1".toList {})).verdict = .reject error ∧
      error.kind = "digit_expected" ∧ error.location = ⟨0, 1, 1⟩ := by
  have greatest := (int_reads_digits (.ofSymbols "009223372036854775807x".toList {})).2.2.1
  have next := (int_reads_digits (.ofSymbols "9223372036854775808".toList {})).2.2.2.1
  have letter := (int_reads_digits (.ofSymbols "x1".toList {})).2.1
  obtain ⟨number, same, accepted, -⟩ := greatest (by decide) (by decide)
  exact ⟨⟨number, same, accepted⟩, ⟨_, next (by decide) (by decide), rfl, rfl⟩,
    ⟨_, letter (by decide) 'x' rfl, rfl, rfl⟩⟩

end Parser

end GrammarKit
