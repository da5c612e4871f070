/-!
# Octets in sixty-four characters

Every four characters stand for three octets. At the end one or two octets take two or three
characters, and equals signs make up the four. Line breaks do not count.
-/

namespace GrammarKit.Text.Base64

/-- The six bits that a character stands for. -/
def bits? (symbol : Char) : Option Nat :=
  let code := symbol.toNat
  if 'A' ≤ symbol ∧ symbol ≤ 'Z' then some (code - 65)
  else if 'a' ≤ symbol ∧ symbol ≤ 'z' then some (code - 71)
  else if '0' ≤ symbol ∧ symbol ≤ '9' then some (code + 4)
  else if symbol = '+' then some 62
  else if symbol = '/' then some 63
  else none

/-- The first octets of 24 bits. -/
def octets (count : Nat) (bits : Nat) : List UInt8 :=
  [UInt8.ofNat (bits / 65536), UInt8.ofNat (bits / 256), UInt8.ofNat bits].take count

/-- The 24 bits of four characters. -/
def group? (first second third fourth : Char) : Option Nat := do
  return ((← bits? first) * 64 + (← bits? second)) * 4096 +
    ((← bits? third) * 64 + (← bits? fourth))

/-- The octets of groups of four characters; bits that are left over do not count. -/
def groups? : List Char → Option (List UInt8)
  | [] => some []
  | [first, second, '=', '='] => (group? first second 'A' 'A').map (octets 1)
  | [first, second, third, '='] => (group? first second third 'A').map (octets 2)
  | first :: second :: third :: fourth :: rest => do
    return octets 3 (← group? first second third fourth) ++ (← groups? rest)
  | _ => none

/-- The octets that a text stands for. -/
def decode? (text : String) : Option (List UInt8) :=
  groups? (text.toList.filter fun symbol => symbol != '\n' && symbol != '\r')

end GrammarKit.Text.Base64
