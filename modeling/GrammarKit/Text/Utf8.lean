import GrammarKit.Text.CodePoint
/-!
# Reading octets as text

A source may arrive as raw octets. Well-formed UTF-8 sequences give their characters, and each octet
that starts no well-formed sequence gives one replacement character, after which reading goes on
with the very next octet.
-/

namespace GrammarKit.Text.Utf8

/-- A continuation octet carries six bits below the mark `10`. -/
def tailBits? (octet : UInt8) : Option Nat :=
  if 0x80 ≤ octet ∧ octet ≤ 0xBF then some (octet.toNat % 64) else none

/-- The first character of a sequence of octets and the number of octets after the first one that it
takes, when the octets start with a well-formed sequence. -/
def first? (lead : UInt8) (rest : List UInt8) : Option (Char × Nat) := do
  let head := lead.toNat
  if head < 0x80 then
    return (Char.ofNat head, 0)
  else if 0xC2 ≤ head ∧ head ≤ 0xDF then
    let one ← rest[0]? >>= tailBits?
    return (Char.ofNat (head % 32 * 64 + one), 1)
  else if 0xE0 ≤ head ∧ head ≤ 0xEF then
    let one ← rest[0]? >>= tailBits?
    let two ← rest[1]? >>= tailBits?
    let code := (head % 16 * 64 + one) * 64 + two
    if 0x800 ≤ code ∧ code.isValidChar then return (Char.ofNat code, 2) else none
  else if 0xF0 ≤ head ∧ head ≤ 0xF4 then
    let one ← rest[0]? >>= tailBits?
    let two ← rest[1]? >>= tailBits?
    let three ← rest[2]? >>= tailBits?
    let code := ((head % 8 * 64 + one) * 64 + two) * 64 + three
    if 0x10000 ≤ code ∧ code.isValidChar then return (Char.ofNat code, 3) else none
  else none

/-- The characters of a sequence of octets, one replacement character for every octet that starts no
well-formed sequence. -/
def decode : List UInt8 → List Char
  | [] => []
  | lead :: rest =>
    match first? lead rest with
    | some (symbol, taken) => symbol :: decode (rest.drop taken)
    | none => CodePoint.replacement :: decode rest
termination_by octets => octets.length
decreasing_by all_goals simp only [List.length_drop, List.length_cons]; omega

end GrammarKit.Text.Utf8
