import SqlRecords.Settings.Read
import SqlRecords.Settings.Variables
import SqlRecords.Text.Pieces

/-!
# Loading settings

The file of settings is named by a variable, which a file of variables may set, or lies in its
usual place.
-/

namespace SqlRecords

/-- What a program finds around it: files by their paths, and variables. Of two files at one path
the later one is there. -/
structure Surroundings where
  files : List (String × String)
  scope : Variables.Scope

namespace Surroundings

/-- The parts of a path that lead somewhere. -/
def steps (path : String) : List String :=
  (Text.split '/' path).filter fun part => part != "" && part != "."

/-- The path names a file below the place where the program runs. -/
def namesFile (path : String) : Bool :=
  !path.startsWith "/" && !path.endsWith "/" && !path.endsWith "/." && !(steps path).isEmpty

/-- The content of the file at a path. -/
def read? (s : Surroundings) (path : String) : Option String :=
  if namesFile path then
    (s.files.reverse.find? fun file => steps file.1 = steps path).map (·.2)
  else none

end Surroundings

namespace Settings

/-- The file of variables. -/
def variablesPath : String := ".env"

/-- The settings in the file at a path. -/
def fromFile (s : Surroundings) (path : String) : Except SettingsError Settings :=
  match s.read? path with
  | none => .error .unreadable
  | some text => ofText text

/-- The variables, those of the file of variables included. -/
def scopeOf (s : Surroundings) : Except SettingsError Variables.Scope :=
  match s.read? variablesPath with
  | none => .ok s.scope
  | some text =>
    match Variables.load s.scope text with
    | none => .error .malformedVariables
    | some scope => .ok scope

/-- The settings of the program. -/
def load (s : Surroundings) : Except SettingsError Settings := do
  let scope ← scopeOf s
  match scope.lookup pathVariable with
  | some path => fromFile s path
  | none =>
    if (s.read? defaultPath).isSome then fromFile s defaultPath
    else .error (.invalid .noPath)

end Settings

end SqlRecords
