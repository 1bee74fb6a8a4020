import BrokerMonitor.Unicode.Canonical
/-!
# Composed form

The composed normal form of a text: every character is taken apart, the marks on one base are put in
the order of their classes, and then pairs are put together again wherever nothing stands between.
Syllables of the Korean alphabet are taken apart and put together by arithmetic.
-/

namespace BrokerMonitor.Idna

open Unicode (combiningClass)

namespace Hangul

def firstSyllable : Nat := 0xAC00
def firstLead : Nat := 0x1100
def firstVowel : Nat := 0x1161
def firstTail : Nat := 0x11A7
def leads : Nat := 19
def vowels : Nat := 21
def tails : Nat := 28

/-- The letters of a syllable. -/
def decomposed? (c : Char) : Option (List Char) :=
  let n := c.toNat - firstSyllable
  if firstSyllable ≤ c.toNat ∧ n < leads * vowels * tails then
    let lead := Char.ofNat (firstLead + n / (vowels * tails))
    let vowel := Char.ofNat (firstVowel + n % (vowels * tails) / tails)
    if n % tails = 0 then some [lead, vowel]
    else some [lead, vowel, Char.ofNat (firstTail + n % tails)]
  else none

/-- The syllable of a lead and a vowel, or of an open syllable and a tail. -/
def composed? (a b : Char) : Option Char :=
  let lead := a.toNat - firstLead
  let vowel := b.toNat - firstVowel
  let syllable := a.toNat - firstSyllable
  let tail := b.toNat - firstTail
  if firstLead ≤ a.toNat ∧ lead < leads ∧ firstVowel ≤ b.toNat ∧ vowel < vowels then
    some (Char.ofNat (firstSyllable + (lead * vowels + vowel) * tails))
  else if firstSyllable ≤ a.toNat ∧ syllable < leads * vowels * tails ∧ syllable % tails = 0 ∧
      firstTail < b.toNat ∧ tail < tails then
    some (Char.ofNat (a.toNat + tail))
  else none

end Hangul

/-- Takes a character apart, its first part up to `depth` times more. -/
def decompose : Nat → Char → List Char
  | 0, c => [c]
  | depth + 1, c =>
    match Hangul.decomposed? c with
    | some letters => letters
    | none =>
      match Unicode.decomposed? c with
      | some (first :: rest) => decompose depth first ++ rest
      | _ => [c]

/-- No character is taken apart in more steps than this. -/
def maxDepth : Nat := 4

/-- Puts a mark behind the marks of its class or lower ones; the list is in reverse. -/
def insertMark (mark : Char) : List Char → List Char
  | [] => [mark]
  | c :: rest =>
    if combiningClass mark < combiningClass c then c :: insertMark mark rest else mark :: c :: rest

/-- Orders the marks on each base by class, and keeps the order within a class. -/
def orderMarks (text : List Char) : List Char :=
  (text.foldl (fun rev c => if combiningClass c = 0 then c :: rev else insertMark c rev) []).reverse

/-- The character that a pair is the same as. -/
def compose? (a b : Char) : Option Char :=
  match Hangul.composed? a b with
  | some c => some c
  | none => Unicode.composed? a b

/-- Puts pairs together. `base` is the last character that starts a cluster, `kept` holds the marks
after it that stay apart, and `top` is the class of the last of them. -/
def composeAfter (base : Char) (kept : List Char) (top : Nat) : List Char → List Char
  | [] => base :: kept
  | c :: rest =>
    let cls := combiningClass c
    match (if kept.isEmpty || decide (top < cls) then compose? base c else none) with
    | some joined => composeAfter joined kept top rest
    | none =>
      if cls = 0 then base :: kept ++ composeAfter c [] 0 rest
      else composeAfter base (kept ++ [c]) cls rest

def composePairs : List Char → List Char
  | [] => []
  | c :: rest => composeAfter c [] 0 rest

/-- The composed normal form. -/
def composedForm (text : List Char) : List Char :=
  composePairs (orderMarks (text.flatMap (decompose maxDepth)))

end BrokerMonitor.Idna
