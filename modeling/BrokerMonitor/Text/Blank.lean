/-!
# Blank characters

The characters with the white-space property, and what is left of a text without those at its ends.
-/

namespace BrokerMonitor.Text

/-- The character has the white-space property. -/
def isBlank (c : Char) : Bool :=
  let n := c.toNat
  (0x09 ≤ n && n ≤ 0x0D) || n == 0x20 || n == 0x85 || n == 0xA0 || n == 0x1680 ||
    (0x2000 ≤ n && n ≤ 0x200A) || n == 0x2028 || n == 0x2029 || n == 0x202F || n == 0x205F ||
    n == 0x3000

/-- Drops the characters at both ends that `p` holds of. -/
def trimBy (p : Char → Bool) (text : List Char) : List Char :=
  ((text.dropWhile p).reverse.dropWhile p).reverse

/-- Drops the blank characters at both ends. -/
def trim (text : List Char) : List Char := trimBy isBlank text

example : (['\t', '\n', ' ', '\u0085', '\u00a0', '\u2028', '\u3000'].all isBlank) = true := by
  decide

example : (['\u200b', '\ufeff', '\u180e'].any isBlank) = false := by decide

end BrokerMonitor.Text
