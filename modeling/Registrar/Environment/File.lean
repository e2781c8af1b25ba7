import Registrar.Environment.Line

/-!
Files of variables. A file supplies the variables that have no value yet, line by line, and stops at
the first line that makes no sense; what it supplied before stays. Of the files that a process looks
for, the first that can be read to its end is the last one looked at. A line that would supply a
value which no variable can have is the end of the process.
-/

namespace Registrar.Environment

/-- Where the reading of a file ended. -/
inductive Ending
  /-- At the end of the file. -/
  | complete
  /-- At a line that makes no sense. -/
  | malformed
  /-- At a line that would supply a value which no variable can have. -/
  | impossible
  deriving DecidableEq, Repr

/-- Takes over lines, and tells where that ended. -/
def takeLines (env : Environment) (given : Given) : List (List Char) → Environment × Ending
  | [] => (env, .complete)
  | line :: lines =>
    match readLine env given line with
    | .nothing => takeLines env given lines
    | .variable name value =>
      let text := value.getD ""
      if (env.get? name).isNone && !canHold text then (env, .impossible)
      else takeLines (env.supply name text) ((name, value) :: given) lines
    | .malformed => (env, .malformed)

def takeFile (env : Environment) (text : String) : Environment × Ending :=
  takeLines env [] (text.toList.splitOn '\n')

def files : List String := [".env", ".env.local", "../.env"]

/-- Takes over the first file that can be read to its end; a file may be missing. There is no
environment if a file would supply a value which no variable can have. -/
def takeFirst (env : Environment) : List (Option String) → Option Environment
  | [] => some env
  | none :: texts => takeFirst env texts
  | some text :: texts =>
    match env.takeFile text with
    | (env, .complete) => some env
    | (env, .malformed) => takeFirst env texts
    | (_, .impossible) => none

end Registrar.Environment
