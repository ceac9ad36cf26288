import JobMatrix.Job.Plan
import JobMatrix.Text.Json

/-!
Printed plans, for a person and for a runner. The text shows a heading with the counts, then
each run after an empty line: the step, the instance's index and binding, then the
environment assignments and the command of a shell step, or the filled query and its numbered
parameters. The JSON document has the job's name, the instance count and the runs, each with
its step, index, binding and action, the action's type first.
-/

namespace JobMatrix

namespace Action

/-- The lines that show an action, each indented by two spaces. -/
def lines : Action → List String
  | .shell c env => env.map ("  " ++ ·) ++ ["  $ " ++ c]
  | .query q args =>
    ("  " ++ q) :: (args.zipIdx.map fun (a, i) => "  $" ++ toString (i + 1) ++ " = " ++ a)

def json : Action → JsonValue
  | .shell c env => .obj [("type", .str "shell"), ("command", .str c), ("env", JsonValue.strs env)]
  | .query q args => .obj [("type", .str "query"), ("query", .str q), ("args", JsonValue.strs args)]

end Action

namespace Run

/-- The lines that show a run: an empty line, the heading, then the action. -/
def lines (r : Run) : List String :=
  "" :: ("[" ++ r.step ++ " #" ++ toString r.index ++ "] " ++ r.binding.display) :: r.action.lines

def json (r : Run) : JsonValue :=
  .obj [("step", .str r.step), ("index", .nat r.index),
    ("instance", .obj (r.binding.toList.map fun (k, v) => (k, .str v))), ("action", r.action.json)]

end Run

namespace Plan

def text (p : Plan) : String :=
  let heading := "Job '" ++ p.job ++ "': " ++ toString p.instanceCount ++ " instances, " ++
    toString p.size ++ " step runs"
  String.join ((heading :: p.runs.flatMap Run.lines).map (· ++ "\n"))

def json (p : Plan) : JsonValue :=
  .obj [("job", .str p.job), ("instance_count", .nat p.instanceCount),
    ("runs", .arr (p.runs.map Run.json))]

end Plan

end JobMatrix
