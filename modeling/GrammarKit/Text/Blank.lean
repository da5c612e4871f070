/-!
# White space

The characters with the White_Space property. There are twenty-five of them, so the rule is written
out instead of tabulated.
-/

namespace GrammarKit.Text

/-- A character is blank when it is a tab, a line or page break, a space of any width, or one of the
line and paragraph separators. -/
def isBlank (symbol : Char) : Bool :=
  let code := symbol.toNat
  (0x09 ≤ code && code ≤ 0x0D) || code == 0x20 || code == 0x85 || code == 0xA0 || code == 0x1680 ||
    (0x2000 ≤ code && code ≤ 0x200A) || code == 0x2028 || code == 0x2029 || code == 0x202F ||
    code == 0x205F || code == 0x3000

end GrammarKit.Text
