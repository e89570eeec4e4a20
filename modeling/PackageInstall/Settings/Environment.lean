import PackageInstall.Decimal.Numeral
import PackageInstall.Settings.Path

/-!
Settings from the environment. A variable counts if its name begins with `STACKS_`; in the rest of
the name two underscores lead into a table. Letter case does not matter.
-/

namespace PackageInstall

def Atom.int64? (cs : List Char) : Option Int := (Numeral.int 10 cs).filter isInt64

/-- The value of a variable: a truth value, a whole number, another number or a text, whichever its
characters say first. -/
def Atom.ofVariable (s : String) : Atom :=
  let cs := s.toList
  let small := cs.map Char.toLower
  if small = "true".toList then bool true
  else if small = "false".toList then bool false
  else
    match int64? cs, Numeral.float cs with
    | some n, _ => int n
    | none, some x => float x
    | none, none => text s

namespace Settings

def variableStart : List Char := "stacks_".toList

/-- Two underscores make a step of a path. -/
def unfolded : List Char → List Char
  | '_' :: '_' :: rest => '.' :: unfolded rest
  | c :: rest => c :: unfolded rest
  | [] => []

def pathOfVariable (name : String) : Option String :=
  let cs := (Text.lower name).toList
  if variableStart.isPrefixOf cs then
    some (String.ofList (unfolded (cs.drop variableStart.length)))
  else none

def ofVariable (name value : String) : Option (String × Setting) :=
  (pathOfVariable name).map fun path => (path, .atom (some .environment) (.ofVariable value))

def setVariable (environment : List (String × String)) (name value : String) :
    List (String × String) :=
  if environment.any (·.1 = name) then
    environment.map fun v => if v.1 = name then (name, value) else v
  else environment ++ [(name, value)]

/-- What the variables of an environment set, by path. Of two values for a path the last counts. The
program lays the paths in no set order, here they come in the order of their names. -/
def ofEnvironment (environment : List (String × String)) : List (String × Setting) :=
  let named := environment.foldl (fun vs v => setVariable vs v.1 v.2) []
  (KeyMap.ofList (named.filterMap fun v => ofVariable v.1 v.2)).entries

end Settings

end PackageInstall
