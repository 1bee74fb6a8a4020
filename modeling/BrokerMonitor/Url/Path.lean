import BrokerMonitor.Url.Percent
/-!
# Paths

A path is a list of segments. While it is read, a segment of one dot is left out and a segment of
two dots takes away the one before it; a percent-coded dot counts as a dot. A segment that names a
drive is never taken away.
-/

namespace BrokerMonitor.Url

/-- Reads a segment as a list of dots, percent-coded or not. -/
def dots? : List Char → Option Nat
  | [] => some 0
  | '.' :: rest => (dots? rest).map (· + 1)
  | '%' :: '2' :: 'e' :: rest => (dots? rest).map (· + 1)
  | '%' :: '2' :: 'E' :: rest => (dots? rest).map (· + 1)
  | _ => none

def isSingleDot (segment : List Char) : Bool := dots? segment == some 1

def isDoubleDot (segment : List Char) : Bool := dots? segment == some 2

/-- A letter and a colon or a bar. -/
def namesDrive : List Char → Bool
  | [letter, mark] => letter.isAlpha && (mark == ':' || mark == '|')
  | _ => false

/-- Takes away the last segment. -/
def removeLast (done : List (List Char)) : List (List Char) :=
  match done.getLast? with
  | some segment => if namesDrive segment then done else done.dropLast
  | none => done

/-- Ends a segment that a slash follows. -/
def closeSegment (done : List (List Char)) (segment : List Char) : List (List Char) :=
  if isDoubleDot segment then removeLast done
  else if isSingleDot segment then done
  else done ++ [segment]

/-- Ends the last segment of a path. -/
def closeLast (done : List (List Char)) (segment : List Char) : List (List Char) :=
  if isDoubleDot segment then removeLast done ++ [[]]
  else if isSingleDot segment then done ++ [[]]
  else done ++ [segment]

/-- Reads the segments of a path; `done` holds the ones before. -/
def closeAll (done : List (List Char)) : List (List Char) → List (List Char)
  | [] => done
  | [last] => closeLast done last
  | segment :: rest => closeAll (closeSegment done segment) rest

/-- Cuts a text at slashes, and at backslashes too. -/
def cutSlashes : List Char → List (List Char)
  | [] => [[]]
  | c :: rest =>
    if c = '/' ∨ c = '\\' then [] :: cutSlashes rest
    else match cutSlashes rest with
      | [] => [[c]]
      | first :: others => (c :: first) :: others

/-- Reads a path of a special scheme; the slash in front may be missing. -/
def parsePath (text : List Char) : List String :=
  let body := match text with
    | '/' :: rest | '\\' :: rest => rest
    | _ => text
  (closeAll [] ((cutSlashes body).map (encode inPathSet))).map String.ofList

/-- Segments, each behind a slash. -/
def pathText (segments : List String) : String := String.join (segments.map ("/" ++ ·))

end BrokerMonitor.Url
