/-!
# Punycode

A label with characters outside ASCII is written in ASCII: first its ASCII characters, then a hyphen
if there are any, then one number for each other character, which says how far to go on from the
place and the character before. Numbers are written in base 36, least digit first; a digit below a
threshold ends the number, and the thresholds adapt to the numbers met so far.
-/

namespace BrokerMonitor.Idna.Punycode

/-- Numbers of the scheme stay below this, as it is defined for 32-bit words. -/
def limit : Nat := UInt32.size

/-- The digit of a value below 36: letters first, then the decimal digits. -/
def digit (value : Nat) : Char :=
  if value < 26 then Char.ofNat ('a'.toNat + value) else Char.ofNat ('0'.toNat + (value - 26))

/-- The value of a digit; a letter counts in either case. -/
def value? (c : Char) : Option Nat :=
  if 'a' ≤ c ∧ c ≤ 'z' then some (c.toNat - 'a'.toNat)
  else if 'A' ≤ c ∧ c ≤ 'Z' then some (c.toNat - 'A'.toNat)
  else if '0' ≤ c ∧ c ≤ '9' then some (c.toNat - '0'.toNat + 26)
  else none

/-- The threshold of the digit at `place`, which counts in steps of 36 from 36. -/
def threshold (bias place : Nat) : Nat :=
  if place ≤ bias then 1 else if bias + 26 ≤ place then 26 else place - bias

theorem threshold_pos (bias place : Nat) : 1 ≤ threshold bias place := by
  unfold threshold
  split
  · omega
  · split <;> omega

theorem threshold_le (bias place : Nat) : threshold bias place ≤ 26 := by
  unfold threshold
  split
  · omega
  · split <;> omega

/-- Divides by 35 until at most 455 is left, and counts 36 for each division. -/
def shrink (delta count : Nat) : Nat × Nat :=
  if delta ≤ 455 then (delta, count) else shrink (delta / 35) (count + 36)
termination_by delta
decreasing_by exact Nat.div_lt_self (by omega) (by omega)

/-- The bias after a number: large numbers let the next one run over more digits. -/
def adapt (delta points : Nat) (first : Bool) : Nat :=
  let start := if first then delta / 700 else delta / 2
  let (rest, count) := shrink (start + start / points) 0
  count + 36 * rest / (rest + 38)

/-- The digits of a number. -/
def writeNumber (bias place n : Nat) : List Char :=
  let t := threshold bias place
  if n < t then [digit n]
  else digit (t + (n - t) % (36 - t)) :: writeNumber bias (place + 36) ((n - t) / (36 - t))
termination_by n
decreasing_by
  have h₁ := threshold_pos bias place
  have h₂ := threshold_le bias place
  calc (n - threshold bias place) / (36 - threshold bias place)
      ≤ n - threshold bias place := Nat.div_le_self _ _
    _ < n := by omega

/-- Reads a number on top of `sum`, with the weight of its next digit; gives the number and the
rest. -/
def readNumber? (bias : Nat) : (place weight sum : Nat) → List Char → Option (Nat × List Char)
  | _, _, _, [] => none
  | place, weight, sum, c :: rest => do
    let d ← value? c
    let sum := sum + d * weight
    let t := threshold bias place
    if limit ≤ sum then none
    else if d < t then some (sum, rest)
    else if limit ≤ weight * (36 - t) then none
    else readNumber? bias (place + 36) (weight * (36 - t)) sum rest

theorem length_of_readNumber? {bias : Nat} {text : List Char} :
    ∀ {place weight sum : Nat} {r : Nat × List Char},
      readNumber? bias place weight sum text = some r → r.2.length < text.length := by
  induction text with
  | nil => intro _ _ _ _ h; simp [readNumber?] at h
  | cons c rest ih =>
    intro place weight sum r h
    simp only [readNumber?, Option.bind_eq_bind, Option.bind_eq_some_iff] at h
    obtain ⟨d, -, h⟩ := h
    split at h
    · cases h
    · split at h
      · cases h; simp
      · split at h
        · cases h
        · have := ih h
          simp; omega

/-- The scalar value of a number, if it is one. -/
def char? (n : Nat) : Option Char := if n.isValidChar then some (Char.ofNat n) else none

/-- Inserts one character for each number that is left. `position` is where the search goes on from,
and `point` the character there. -/
def insertAll? (bias point position : Nat) (done text : List Char) : Option (List Char) :=
  match text with
  | [] => some done
  | c :: rest =>
    match _h : readNumber? bias 36 1 position (c :: rest) with
    | none => none
    | some (n, later) =>
      let points := done.length + 1
      match char? (point + n / points) with
      | none => none
      | some new =>
        insertAll? (adapt (n - position) points (position == 0))
          (point + n / points) (n % points + 1) (done.insertIdx (n % points) new) later
termination_by text.length
decreasing_by exact length_of_readNumber? _h

/-- Cuts a label at its last hyphen; a hyphen in front is none. -/
def cutLast (label : List Char) : List Char × List Char :=
  match label.reverse.span (· != '-') with
  | (tail, _ :: head) => if head.isEmpty then ([], label) else (head.reverse, tail.reverse)
  | (_, []) => ([], label)

/-- Labels longer than this are not read. -/
def maxRead : Nat := 2000

/-- Labels longer than this are not written. -/
def maxWritten : Nat := 1000

/-- Reads a label. -/
def decode? (label : List Char) : Option (List Char) :=
  if label.length ≤ maxRead ∧ label.all (·.toNat < 128) then
    let (basic, numbers) := cutLast label
    insertAll? 72 128 0 basic numbers
  else none

/-- Where the writer stands while it goes over the label for one character. -/
structure Writer where
  out : List Char
  delta : Nat
  bias : Nat
  /-- How many characters have been written. -/
  count : Nat

/-- Passes one character of the label while writing the occurrences of `point`. -/
def Writer.pass (basics point : Nat) (w : Writer) (c : Char) : Writer :=
  if c.toNat < point then { w with delta := w.delta + 1 }
  else if c.toNat = point then
    { out := w.out ++ writeNumber w.bias 36 w.delta
      delta := 0
      bias := adapt w.delta (w.count + 1) (w.count == basics)
      count := w.count + 1 }
  else w

/-- Writes the occurrences of each point, which are given in rising order. -/
def writeAll (label : List Char) (basics : Nat) : (next : Nat) → Writer → List Nat → List Char
  | _, w, [] => w.out
  | next, w, point :: rest =>
    let w := { w with delta := w.delta + (point - next) * (w.count + 1) }
    let w := label.foldl (Writer.pass basics point) w
    writeAll label basics (point + 1) { w with delta := w.delta + 1 } rest

/-- Adds a number to a rising list that has each number once. -/
def insertPoint (n : Nat) : List Nat → List Nat
  | [] => [n]
  | m :: rest =>
    if n < m then n :: m :: rest else if n = m then m :: rest else m :: insertPoint n rest

/-- The numbers of the characters outside ASCII, in rising order and each once. -/
def points (label : List Char) : List Nat :=
  ((label.map Char.toNat).filter (128 ≤ ·)).foldr insertPoint []

/-- Writes a label. -/
def encode? (label : List Char) : Option (List Char) :=
  if label.length ≤ maxWritten then
    let basic := label.filter (·.toNat < 128)
    let start : Writer := ⟨[], 0, 72, basic.length⟩
    let numbers := writeAll label basic.length 128 start (points label)
    some (basic ++ (if basic.isEmpty then [] else ['-']) ++ numbers)
  else none

end BrokerMonitor.Idna.Punycode
