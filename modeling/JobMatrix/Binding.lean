import JobMatrix.NameMap
import JobMatrix.Text.Upper

/-!
Instances: one value for each argument name. An instance is shown as `{ 'k': v,... }` with
every single quote doubled, and handed to a shell as one assignment
`PGQ_INSTANCE_<NAME>=value` per argument, the name in full Unicode uppercase.
-/

namespace JobMatrix

/-- One value for each argument name, in name order. -/
abbrev Binding := NameMap String

namespace Binding

def doubleQuotes (s : String) : String :=
  String.ofList (s.toList.flatMap fun c => if c = '\'' then ['\'', '\''] else [c])

def entryText (entry : String × String) : String :=
  "'" ++ doubleQuotes entry.1 ++ "': " ++ doubleQuotes entry.2

/-- The instance as shown in plans and logs: entries joined by commas inside braces. -/
def display (b : Binding) : String :=
  "\x7b " ++ ",".intercalate (b.toList.map entryText) ++ " \x7d"

def displayList (bs : List Binding) : String :=
  "[ " ++ ", ".intercalate (bs.map display) ++ " ]"

def envVarName (name : String) : String :=
  "PGQ_INSTANCE_" ++ Text.toUpper name

def envEntry (entry : String × String) : String :=
  envVarName entry.1 ++ "=" ++ entry.2

def env (b : Binding) : List String :=
  b.toList.map envEntry

end Binding

end JobMatrix
