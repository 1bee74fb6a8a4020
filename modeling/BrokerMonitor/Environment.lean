import BrokerMonitor.Text.Blank
/-!
# Environment variables

The program reads its variables from an environment, which is asked for them in two ways: by an
exact name, as options ask for the variables that stand for them, and by a name in any spelling, as
settings do.
-/

namespace BrokerMonitor

/-- How a variable is asked for. -/
inductive VariableName where
  /-- By exactly this name. -/
  | exact (name : String)
  /-- By this name in any case of letters, also with blanks around it. -/
  | anyCase (name : String)
deriving DecidableEq, Repr, Inhabited

/-- The variable of a name is meant. -/
def VariableName.means : VariableName → String → Bool
  | .exact name, given => given == name
  | .anyCase name, given =>
    (Text.trim given.toList).map Char.toLower == name.toList.map Char.toLower

/-- The text of a variable, if it is set. -/
abbrev Environment := VariableName → Option String

namespace Environment

/-- The environment of a list of variables. Of several that are meant, the first one counts for an
exact name, and the last one for a name in any spelling. -/
def ofList (vars : List (String × String)) : Environment := fun name =>
  let meant := vars.filter (name.means ·.1)
  match name with
  | .exact _ => meant.head?.map (·.2)
  | .anyCase _ => meant.getLast?.map (·.2)

/-- Variables that are not meant do not matter. -/
theorem ofList_congr {name : VariableName} {vars vars' : List (String × String)}
    (h : vars'.filter (name.means ·.1) = vars.filter (name.means ·.1)) :
    ofList vars' name = ofList vars name := by
  simp only [ofList, h]

/-- Reads a line of the system's list: a name and a text with an equals sign between them. -/
def readLine? (line : String) : Option (String × String) :=
  match line.toList with
  | [] => none
  | first :: rest =>
    match rest.span (· ≠ '=') with
    | (name, '=' :: text) => some (String.ofList (first :: name), String.ofList text)
    | _ => none

/-- What the names of the program's own variables start with. -/
def scope : String := "VICTORY_ADMIN_"

/-- The text of the variable that stands for an option. -/
def own (env : Environment) (name : String) : Option String := env (.exact (scope ++ name))

/-- The text of the variable that stands for a setting. -/
def setting (env : Environment) (key : String) : Option String := env (.anyCase (scope ++ key))

end Environment

end BrokerMonitor
