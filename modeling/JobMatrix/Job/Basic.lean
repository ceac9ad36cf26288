import JobMatrix.Text.Printable
import JobMatrix.Matrix

/-!
Jobs: a name, a matrix of arguments, and steps in the order they run. Every step runs once for
each instance of the matrix. A step has a name and either a shell command, run with the instance
as environment variables, or a query, run with the instance as numbered parameters. A step with
both or neither has no body.
-/

namespace JobMatrix

/-- A step of a job, as written: a name, and at most one of a command and a query in a well
formed step. -/
structure Step where
  name : String
  command : Option String := none
  query : Option String := none
  deriving DecidableEq, Repr, Inhabited

inductive StepBody where
  | shell (command : String)
  | query (text : String)
  deriving DecidableEq, Repr

def StepBody.text : StepBody → String
  | .shell c => c
  | .query q => q

namespace Step

def ofCommand (name command : String) : Step :=
  { name := Text.trimBlank name, command := some command }

def ofQuery (name text : String) : Step :=
  { name := Text.trimBlank name, query := some text }

/-- The body of a step: present when exactly one of command and query is set. -/
def body? (s : Step) : Option StepBody :=
  match s.command, s.query with
  | some c, none => some (.shell c)
  | none, some q => some (.query q)
  | _, _ => none

@[simp] theorem body?_ofCommand (name command : String) :
    (ofCommand name command).body? = some (.shell command) := rfl

@[simp] theorem body?_ofQuery (name text : String) :
    (ofQuery name text).body? = some (.query text) := rfl

end Step

structure Job where
  name : String := ""
  matrix : Matrix := NameMap.empty
  steps : List Step := []
  deriving Inhabited

namespace Job

def getStep? (j : Job) (name : String) : Option Step :=
  j.steps.find? (·.name == name)

def size (j : Job) : Nat := j.steps.length

def isEmpty (j : Job) : Bool := j.steps.isEmpty

end Job

end JobMatrix
