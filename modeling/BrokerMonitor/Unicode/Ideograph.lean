/-!
# Ideographs

Most of the characters that a host name may contain are unified ideographs. They stand for
themselves, run from left to right, and neither they nor the ASCII characters attach to the
character before them or are composed of others: no table lists them.
-/

namespace BrokerMonitor.Unicode

/-- A unified ideograph of the first two blocks or of the large one outside the basic plane. -/
def isIdeograph (c : Char) : Bool :=
  let n := c.toNat
  (0x3400 ≤ n && n ≤ 0x4DBF) || (0x4E00 ≤ n && n ≤ 0x9FFF) || (0x20000 ≤ n && n ≤ 0x2A6DF)

/-- A character that stands on its own: it is no mark, it is composed of no others, and no character
is composed with it as the second part. -/
def standsAlone (c : Char) : Bool := c.toNat < 0x80 || isIdeograph c

end BrokerMonitor.Unicode
