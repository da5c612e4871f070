import GrammarKit.Input
/-!
# Moving through a source

An input moves by `past`, one symbol at a time, and by `advance`, which repeats `past` until the
source ends. This module reads both off the symbols that are left: `advance` drops symbols from
`rest`, moves the cursor by as many, and keeps the source and the surroundings. `Input.Ahead` says
that one input is reached from another by moving forward, and `Input.Placed` that line and column of
an input are those its cursor determines; moving forward keeps the second (`Placed.of_ahead`).
-/

namespace GrammarKit

namespace Input

variable {input : Input} {symbol : Char}

/-- Moving past a symbol keeps the source. -/
@[simp] theorem past_symbols (input : Input) (symbol : Char) :
    (input.past symbol).symbols = input.symbols := by
  unfold past
  split <;> rfl

/-- Moving past a symbol keeps the surroundings. -/
@[simp] theorem past_surroundings (input : Input) (symbol : Char) :
    (input.past symbol).surroundings = input.surroundings := by
  unfold past
  split <;> rfl

/-- Moving past a symbol moves the cursor by one. -/
@[simp] theorem past_cursor (input : Input) (symbol : Char) :
    (input.past symbol).cursor = input.cursor + 1 := by
  unfold past
  split <;> rfl

/-- The symbol under the cursor is the first of those left. -/
theorem peek?_eq_head? (input : Input) : input.peek? = input.rest.head? := by
  simp [peek?, rest, List.head?_drop]

/-- As many symbols remain as are left. -/
theorem remaining_eq_length (input : Input) : input.remaining = input.rest.length := by
  simp [remaining, rest]

/-- What is left is the symbol under the cursor and what is left after it. -/
theorem rest_eq_cons (found : input.peek? = some symbol) :
    input.rest = symbol :: (input.past symbol).rest := by
  obtain ⟨inside, same⟩ := Array.getElem?_eq_some_iff.mp found
  have split := List.drop_eq_getElem_cons (l := input.symbols.toList) (by simpa using inside)
  simp only [rest, past_symbols, past_cursor, split, Array.getElem_toList, same]

/-- The first of the symbols left is the one under the cursor. -/
theorem peek?_of_rest_eq_cons {symbols : List Char} (same : input.rest = symbol :: symbols) :
    input.peek? = some symbol := by
  rw [peek?_eq_head?, same, List.head?_cons]

/-- No symbol is under the cursor exactly when nothing is left. -/
theorem peek?_eq_none_iff (input : Input) : input.peek? = none ↔ input.rest = [] := by
  rw [peek?_eq_head?, List.head?_eq_none_iff]

/-- A symbol under the cursor is one that remains. -/
theorem remaining_past (found : input.peek? = some symbol) :
    input.remaining = (input.past symbol).remaining + 1 := by
  rw [remaining_eq_length, remaining_eq_length, rest_eq_cons found, List.length_cons]

/-- Moving by one more symbol moves past the symbol under the cursor first. -/
theorem advance_succ (found : input.peek? = some symbol) (count : Nat) :
    input.advance (count + 1) = (input.past symbol).advance count := by
  simp only [advance, found]

/-- Moving by one symbol moves past the symbol under the cursor. -/
theorem advance_one (found : input.peek? = some symbol) : input.advance 1 = input.past symbol :=
  advance_succ found 0

/-- Moving by no symbols stays. -/
@[simp] theorem advance_zero (input : Input) : input.advance 0 = input := rfl

/-- At the end of the source there is no moving. -/
theorem advance_of_peek?_eq_none (ended : input.peek? = none) (count : Nat) :
    input.advance count = input := by
  cases count with
  | zero => rfl
  | succ count => simp only [advance, ended]

/-- Moving keeps the source. -/
@[simp] theorem advance_symbols (count : Nat) (input : Input) :
    (input.advance count).symbols = input.symbols := by
  fun_induction advance count input with
  | case1 => rfl
  | case2 input count symbol found ih => rw [ih, past_symbols]
  | case3 => rfl

/-- Moving keeps the surroundings. -/
@[simp] theorem advance_surroundings (count : Nat) (input : Input) :
    (input.advance count).surroundings = input.surroundings := by
  fun_induction advance count input with
  | case1 => rfl
  | case2 input count symbol found ih => rw [ih, past_surroundings]
  | case3 => rfl

/-- Moving drops symbols from those that are left. -/
theorem rest_advance (count : Nat) (input : Input) :
    (input.advance count).rest = input.rest.drop count := by
  fun_induction advance count input with
  | case1 => rfl
  | case2 input count symbol found ih => rw [ih, rest_eq_cons found, List.drop_succ_cons]
  | case3 count input ended =>
    have nothing := (peek?_eq_none_iff input).mp ended
    simp [nothing]

/-- Moving takes away from the symbols that remain. -/
theorem remaining_advance (count : Nat) (input : Input) :
    (input.advance count).remaining = input.remaining - count := by
  rw [remaining_eq_length, remaining_eq_length, rest_advance, List.length_drop]

/-- Moving by no more symbols than remain moves the cursor by as many. -/
theorem cursor_advance {count : Nat} (enough : count ≤ input.remaining) :
    (input.advance count).cursor = input.cursor + count := by
  induction count generalizing input with
  | zero => rfl
  | succ count ih =>
    cases found : input.peek? with
    | none =>
      rw [remaining_eq_length, (peek?_eq_none_iff input).mp found] at enough
      simp at enough
    | some symbol =>
      have shorter := remaining_past found
      rw [advance_succ found, ih (by omega), past_cursor]
      omega

/-- Moving twice is moving by the sum. -/
theorem advance_advance (first second : Nat) (input : Input) :
    (input.advance first).advance second = input.advance (first + second) := by
  induction first generalizing input with
  | zero => simp
  | succ first ih =>
    cases found : input.peek? with
    | none => simp only [advance_of_peek?_eq_none found]
    | some symbol =>
      rw [advance_succ found, ih, Nat.add_right_comm, advance_succ found]

/-- Whether an input is reached from a start by moving forward inside the source. -/
def Ahead (start input : Input) : Prop :=
  ∃ count ≤ start.remaining, input = start.advance count

namespace Ahead

variable {start middle : Input}

/-- An input is ahead of itself. -/
theorem refl (input : Input) : Ahead input input := ⟨0, Nat.zero_le _, rfl⟩

/-- What is ahead of an input ahead is ahead. -/
theorem trans (first : Ahead start middle) (second : Ahead middle input) : Ahead start input := by
  obtain ⟨count, enough, rfl⟩ := first
  obtain ⟨more, enough', rfl⟩ := second
  rw [remaining_advance] at enough'
  exact ⟨count + more, by omega, advance_advance count more start⟩

/-- Past the symbol under the cursor is ahead. -/
theorem past (found : input.peek? = some symbol) : Ahead input (input.past symbol) := by
  have shorter := remaining_past found
  exact ⟨1, by omega, (advance_one found).symm⟩

/-- An input ahead has the same source. -/
theorem symbols_eq (ahead : Ahead start input) : input.symbols = start.symbols := by
  obtain ⟨count, -, rfl⟩ := ahead
  exact advance_symbols count start

/-- An input ahead has the same surroundings. -/
theorem surroundings_eq (ahead : Ahead start input) : input.surroundings = start.surroundings := by
  obtain ⟨count, -, rfl⟩ := ahead
  exact advance_surroundings count start

/-- Moving forward trades remaining symbols for the cursor. -/
theorem cursor_add_remaining (ahead : Ahead start input) :
    input.cursor + input.remaining = start.cursor + start.remaining := by
  obtain ⟨count, enough, rfl⟩ := ahead
  rw [cursor_advance enough, remaining_advance]
  omega

/-- The cursor of an input ahead does not come before that of the start. -/
theorem cursor_le (ahead : Ahead start input) : start.cursor ≤ input.cursor := by
  obtain ⟨count, enough, rfl⟩ := ahead
  rw [cursor_advance enough]
  omega

/-- An input ahead with the same cursor is the start itself. -/
theorem eq_of_cursor_eq (ahead : Ahead start input) (same : input.cursor = start.cursor) :
    input = start := by
  obtain ⟨count, enough, rfl⟩ := ahead
  rw [cursor_advance enough] at same
  obtain rfl : count = 0 := by omega
  exact advance_zero start

end Ahead

end Input

/-- The location after some symbols: the line counts the line breaks among them, the column the
symbols after the last line break, both from one. -/
def Location.after (passed : List Char) : Location where
  cursor := passed.length
  line := 1 + passed.count '\n'
  column := 1 + (passed.reverse.takeWhile (· ≠ '\n')).length

/-- After one more symbol the location is one symbol further: a line break starts a new line, any
other symbol widens the column. -/
theorem Location.after_concat (passed : List Char) (symbol : Char) :
    after (passed ++ [symbol]) =
      if symbol = '\n' then ⟨(after passed).cursor + 1, (after passed).line + 1, 1⟩
      else ⟨(after passed).cursor + 1, (after passed).line, (after passed).column + 1⟩ := by
  by_cases broken : symbol = '\n'
  · simp [after, broken, Int.add_assoc]
  · simp [after, broken, Int.add_assoc]

namespace Input

variable {start input : Input} {symbol : Char}

/-- Whether the cursor of an input lies inside the source and its location is the one that the
symbols before the cursor determine. -/
structure Placed (input : Input) : Prop where
  /-- The cursor is not past the end. -/
  inside : input.cursor ≤ input.symbols.size
  /-- The location follows from the symbols before the cursor. -/
  located : input.location = Location.after (input.symbols.toList.take input.cursor)

/-- The start of a source is placed. -/
theorem placed_ofSymbols (symbols : List Char) (surroundings : Surroundings) :
    (ofSymbols symbols surroundings).Placed where
  inside := Nat.zero_le _
  located := by simp [ofSymbols, location, Location.after]

/-- Moving past the symbol under the cursor keeps an input placed. -/
theorem Placed.past (placed : input.Placed) (found : input.peek? = some symbol) :
    (input.past symbol).Placed := by
  obtain ⟨inside, same⟩ := Array.getElem?_eq_some_iff.mp found
  have passed : input.symbols.toList.take (input.cursor + 1) =
      input.symbols.toList.take input.cursor ++ [symbol] := by
    rw [List.take_succ_eq_append_getElem (by simpa using inside), Array.getElem_toList, same]
  have located := placed.located
  refine ⟨by rw [past_symbols, past_cursor]; exact inside, ?_⟩
  rw [past_symbols, past_cursor, passed, Location.after_concat, ← located]
  unfold Input.past
  split <;> simp [location]

/-- Moving forward keeps an input placed. -/
theorem Placed.of_ahead (placed : start.Placed) (ahead : Ahead start input) : input.Placed := by
  obtain ⟨count, enough, rfl⟩ := ahead
  clear enough
  fun_induction advance count start with
  | case1 => exact placed
  | case2 input count symbol found ih => exact ih (placed.past found)
  | case3 => exact placed

end Input

end GrammarKit
