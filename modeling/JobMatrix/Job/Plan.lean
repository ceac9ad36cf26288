import JobMatrix.Job.Basic
import JobMatrix.Job.Fault
import JobMatrix.Query.Fill

/-!
Plans: every step of a job rendered for every instance of its matrix, grouped by step in job
order and, within a step, by instance in matrix order. A shell step gets the instance as
environment assignments; a query step gets its query filled with numbered parameters. Nothing
runs here. A step without exactly one body fails before its instances are looked at; a query
that cannot be filled fails at the first instance.
-/

namespace JobMatrix

/-- What one run of a step does. -/
inductive Action where
  | shell (command : String) (env : List String)
  | query (text : String) (args : List String)
  deriving DecidableEq, Repr

/-- One step run with one instance. -/
structure Run where
  step : String
  index : Nat
  binding : Binding
  action : Action

/-- All the runs of a job. -/
structure Plan where
  job : String
  /-- The number of instances, which each step runs once. -/
  instanceCount : Nat
  runs : List Run

namespace Plan

def size (p : Plan) : Nat := p.runs.length

def isEmpty (p : Plan) : Bool := p.runs.isEmpty

def runsFor (p : Plan) (step : String) : List Run :=
  p.runs.filter (·.step == step)

end Plan

/-- The action of a body for one instance; a query that cannot be filled is a fault of the
named step. -/
def StepBody.action (step : String) (b : Binding) : StepBody → Except JobFault Action
  | .shell c => .ok (.shell c b.env)
  | .query q =>
    match Query.fill b q with
    | .ok f => .ok (.query f.text f.args)
    | .error e => .error (.stepQuery step e)

def Step.plan (s : Step) (instances : List Binding) : Except JobFault (List Run) :=
  match s.body? with
  | none => .error (.invalidStep s.name .bodyCount)
  | some body =>
    instances.zipIdx.mapM fun (b, i) => do
      let a ← body.action s.name b
      pure ⟨s.name, i, b, a⟩

namespace Job

/-- The plan of a job: the matrix's instances are built once, then each step is planned in
order. The job is not checked first. -/
def plan (j : Job) : Except JobFault Plan := do
  let instances := j.matrix.instances
  let runs ← j.steps.mapM fun s => s.plan instances
  pure ⟨j.name, instances.length, runs.flatten⟩

/-- The records made while one step's runs are planned: for each run, the records of filling
its query, then the run itself; nothing from a run that fails. -/
def runNotes (step : String) (body : StepBody) : List (Binding × Nat) → List Note
  | [] => []
  | (b, i) :: rest =>
    let planned : Note :=
      ⟨.debug, "Planned '" ++ step ++ "' #" ++ toString i ++ " with " ++ b.display⟩
    match body with
    | .shell _ => planned :: runNotes step body rest
    | .query q =>
      match Query.fill b q with
      | .ok f => Query.fillNotes f ++ planned :: runNotes step body rest
      | .error _ => []

def stepsNotes (instances : List Binding) : List Step → List Note
  | [] => []
  | s :: rest =>
    match s.body? with
    | none => []
    | some body =>
      runNotes s.name body instances.zipIdx ++
        if s.plan instances matches .ok _ then stepsNotes instances rest else []

/-- The records made while a job is planned: those of building the instances, the job's size,
those of each run, and the number of runs. -/
def planNotes (j : Job) : List Note :=
  let instances := j.matrix.instances
  let start : Note :=
    ⟨.info, "Planning job '" ++ j.name ++ "': " ++ toString j.steps.length ++ " steps x " ++
      toString instances.length ++ " instances"⟩
  let finish : List Note :=
    match j.plan with
    | .ok p => [⟨.info, "Planned " ++ toString p.size ++ " step runs"⟩]
    | .error _ => []
  j.matrix.instancesNotes ++ start :: stepsNotes instances j.steps ++ finish

end Job

end JobMatrix
