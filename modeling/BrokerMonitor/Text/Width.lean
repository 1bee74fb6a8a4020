import BrokerMonitor.Unicode.Width
/-!
# Width of a line

The columns that a line takes are those of its characters, but for characters that join into one
sign: emoji, and the ligatures of some scripts.
-/

namespace BrokerMonitor.Text

open Unicode

/-- Joins the signs at its sides. -/
def joiner : Char := '\u200d'

/-- Asks for the sign before it to show as an emoji. -/
def emojiSelector : Char := '\ufe0f'

/-- The frame of a key on a keyboard. -/
def keycap : Char := '\u20e3'

/-- A skin tone. -/
def isTone (c : Char) : Bool := 0x1F3FB ≤ c.toNat && c.toNat ≤ 0x1F3FF

/-- A letter of a flag. -/
def isFlagLetter (c : Char) : Bool := 0x1F1E6 ≤ c.toNat && c.toNat ≤ 0x1F1FF

/-- A line ends in an emoji; the line is given from its end. -/
def endsInEmoji : List Char → Bool
  | [] => false
  | c :: before =>
    if c = emojiSelector then before.head?.any fun b => emoji.has b || textEmoji.has b
    else if c = keycap then before.head? = some emojiSelector
    else if isFlagLetter c then before.head?.any isFlagLetter
    else emoji.has c || (isTone c && before.head?.any tonedEmoji.has)

/-- The consonants of Tifinagh. -/
def isTifinagh (c : Char) : Bool := (0x2D31 ≤ c.toNat && c.toNat ≤ 0x2D65) || c = '\u2d6f'

/-- Joins Tifinagh consonants. -/
def tifinaghJoiner : Char := '\u2d7f'

/-- The Khmer consonants and vowels that can be written below another one. -/
def isSubjoined (c : Char) : Bool :=
  let n := c.toNat
  0x1780 ≤ n && n ≤ 0x17AF && !([0x1783, 0x1788, 0x178D, 0x1794, 0x1799, 0x179A, 0x179E, 0x179F,
    0x17A1, 0x17A3, 0x17A4, 0x17A5, 0x17A6, 0x17A8, 0x17A9, 0x17AA, 0x17AD, 0x17AE].contains n)

/-- A character is drawn within the sign before it; the line before it is given from its end. -/
def joins (before : List Char) (c : Char) (after : List Char) : Bool :=
  if isTone c then before.head?.any tonedEmoji.has
  else if alef.has c then
    ((before.dropWhile zeroWidth.has).head?).any lam.has
  else if isSubjoined c then before.head? = some '\u17d2'
  else if c = tifinaghJoiner then before.head?.any isTifinagh && after.head?.any isTifinagh
  else match before with
    | j :: b :: earlier =>
      if j = joiner then
        (endsInEmoji (b :: earlier) &&
          (emoji.has c || (textEmoji.has c && after.head? = some emojiSelector))) ||
        (c = '\u05dc' && b = '\u05d0') || (c.toNat = 0x10C03 && b.toNat = 0x10C32) ||
        (c = '\u1a10' && b = '\u1a17' && earlier.head? = some '\u1a15') ||
        (isTifinagh c && isTifinagh b)
      else (j = tifinaghJoiner && isTifinagh c && isTifinagh b) || isLisuTone j c
    | [j] => isLisuTone j c
    | [] => false
where
  /-- Two tone letters of Lisu make one. -/
  isLisuTone (j c : Char) : Bool :=
    0xA4F8 ≤ j.toNat && j.toNat ≤ 0xA4FB && 0xA4FC ≤ c.toNat && c.toNat ≤ 0xA4FD

/-- The columns of a character in a line. -/
def widthIn (before : List Char) (c : Char) (after : List Char) : Nat :=
  if joins before c after then 0
  else if textEmoji.has c ∧ after.head? = some emojiSelector then 2
  else charWidth c

/-- The columns of a line from a character on. -/
def widthFrom (before : List Char) : List Char → Nat
  | [] => 0
  | c :: rest =>
    if c.toNat < 0x7F ∧ rest.head? ≠ some emojiSelector then 1 + widthFrom (c :: before) rest
    else widthIn before c rest + widthFrom (c :: before) rest

/-- The columns of a line. -/
def lineWidth (line : List Char) : Nat := widthFrom [] line

@[simp] theorem lineWidth_nil : lineWidth [] = 0 := rfl

end BrokerMonitor.Text
