import BrokerMonitor.Idna.Composed
import BrokerMonitor.Idna.Punycode
import BrokerMonitor.Unicode.BidiClass
import BrokerMonitor.Unicode.IdnaMapping
import BrokerMonitor.Unicode.JoiningType
import BrokerMonitor.Unicode.Mark
/-!
# Internationalised domain names

How a host name is brought into its ASCII form. Each character is mapped, the text is brought into
composed form and cut into labels. A label that begins with `xn--` is read back first. Every label
has to be valid: nothing in it changes by mapping or composing, it begins with no mark, its joiners
stand where they have an effect, and in a name with right-to-left characters each label keeps to one
direction. A label with characters outside ASCII is then written behind `xn--`.
-/

namespace BrokerMonitor.Idna

open Unicode (BidiClass bidiClass joiningType idnaStatus isMark)

/-- The start of a label that stands for characters outside ASCII. -/
def marker : List Char := ['x', 'n', '-', '-']

def isAscii (c : Char) : Bool := c.toNat < 128

/-- ASCII characters that no host name may contain. -/
def isForbidden (c : Char) : Bool :=
  c.toNat ≤ 0x20 || c.toNat == 0x7F || "%#/:<>?@[\\]^|".toList.contains c

/-- What a character of a name becomes; none if no name may contain it. -/
def mapChar? (c : Char) : Option (List Char) :=
  if isAscii c then some [c.toLower]
  else match idnaStatus c with
    | .valid => some [c]
    | .mapped image => some image
    | .ignored => some []
    | .refused => none

/-- A character that mapping leaves alone and that may stand in a host name. -/
def isValidChar (c : Char) : Bool :=
  if isAscii c then !isForbidden c && c.toLower == c && c != '.'
  else idnaStatus c == .valid

def zeroWidthNonJoiner : Char := '\u200c'
def zeroWidthJoiner : Char := '\u200d'

/-- The class of the sign that takes away a consonant's vowel. -/
def viramaClass : Nat := 9

/-- A letter before `c` joins towards it, over transparent characters; `before` is in reverse. -/
def joinsFromBefore (before : List Char) : Bool :=
  match before.find? (joiningType · != .transparent) with
  | some c => joiningType c == .left || joiningType c == .dual
  | none => false

/-- A letter after the place joins towards it, over transparent characters. -/
def joinsFromAfter (after : List Char) : Bool :=
  match after.find? (joiningType · != .transparent) with
  | some c => joiningType c == .right || joiningType c == .dual
  | none => false

/-- Each joiner stands behind a virama; the non-joiner may also keep two joining letters apart. -/
def joinersFit (before : List Char) : List Char → Bool
  | [] => true
  | c :: after =>
    let behindVirama := match before with
      | previous :: _ => Unicode.combiningClass previous == viramaClass
      | [] => false
    let fits :=
      if c = zeroWidthJoiner then behindVirama
      else if c = zeroWidthNonJoiner then
        behindVirama || (joinsFromBefore before && joinsFromAfter after)
      else true
    fits && joinersFit (c :: before) after

/-- What every label has to keep to, whatever the other labels are. -/
def isValidLabel (label : List Char) : Bool :=
  label.all isValidChar && composedForm label == label &&
    !(match label with | c :: _ => isMark c | [] => false) && joinersFit [] label

/-- The character makes its name one that is written from right to left in places. -/
def isRightToLeft (c : Char) : Bool :=
  !isAscii c && match bidiClass c with
    | .rightToLeft | .arabicLetter | .arabicNumber => true
    | _ => false

/-- The classes that a label has, which begins with a right-to-left letter. -/
def rightToLeftClasses : List BidiClass :=
  [.rightToLeft, .arabicLetter, .arabicNumber, .europeanNumber, .europeanSeparator,
    .commonSeparator, .europeanTerminator, .otherNeutral, .boundaryNeutral, .nonspacingMark]

/-- The classes that a label has, which begins with a left-to-right letter. -/
def leftToRightClasses : List BidiClass :=
  [.leftToRight, .europeanNumber, .europeanSeparator, .commonSeparator, .europeanTerminator,
    .otherNeutral, .boundaryNeutral, .nonspacingMark]

/-- The last class that is no mark is one of `allowed`. -/
def endsIn (allowed classes : List BidiClass) : Bool :=
  match classes.reverse.find? (· != .nonspacingMark) with
  | some cls => allowed.contains cls
  | none => false

/-- The label keeps to the direction that its first character sets. -/
def keepsDirection (label : List Char) : Bool :=
  let classes := label.map bidiClass
  match classes with
  | [] => true
  | .rightToLeft :: _ | .arabicLetter :: _ =>
    classes.all rightToLeftClasses.contains &&
      endsIn [.rightToLeft, .arabicLetter, .europeanNumber, .arabicNumber] classes &&
      !(classes.contains .europeanNumber && classes.contains .arabicNumber)
  | .leftToRight :: _ =>
    classes.all leftToRightClasses.contains && endsIn [.leftToRight, .europeanNumber] classes
  | _ => false

/-- The characters that a label stands for; none if it is not valid. -/
def readLabel? (label : List Char) : Option (List Char) :=
  if marker.isPrefixOf label then do
    let read ← Punycode.decode? (label.drop marker.length)
    if !read.all isAscii && isValidLabel read then some read else none
  else if label.all isAscii then
    if label.all isValidChar then some label else none
  else if isValidLabel label then some label
  else none

/-- The ASCII form of a label. -/
def writeLabel? (label : List Char) : Option (List Char) :=
  if label.all isAscii then some label
  else (Punycode.encode? label).map (marker ++ ·)

/-- Cuts a name into its labels. -/
def labels (name : List Char) : List (List Char) := Unicode.Table.cut '.' name

/-- Puts labels together into a name. -/
def joinLabels (parts : List (List Char)) : List Char := ['.'].intercalate parts

/-- The ASCII form of a host name; none if the name is not valid. -/
def toAscii? (name : List Char) : Option (List Char) := do
  let mapped ← name.mapM mapChar?
  let read ← (labels (composedForm mapped.flatten)).mapM readLabel?
  if read.any (·.any isRightToLeft) && !read.all keepsDirection then none
  else do
    let written ← read.mapM writeLabel?
    some (joinLabels written)

end BrokerMonitor.Idna
