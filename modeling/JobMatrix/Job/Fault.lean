import JobMatrix.Basic
import JobMatrix.Yaml.Decode
import JobMatrix.Files

/-!
Why a job cannot be loaded, checked or planned. Each fault has one message; a fault caused by
a lower-level fault (a file, the YAML text, a matrix name or a query) also lists that cause.
-/

namespace JobMatrix

/-- Why a step is refused. -/
inductive StepFlaw where
  | blankName
  | bodyCount
  | blankBody
  deriving DecidableEq, Repr

def StepFlaw.reason : StepFlaw → String
  | .blankName => "step has empty or whitespace-only name"
  | .bodyCount => "exactly one of 'command' or 'query' must be set"
  | .blankBody => "step body is empty"

/-- Why a job cannot be loaded, checked or planned. -/
inductive JobFault where
  | unreadable (path : String) (cause : FileFault)
  | yaml (cause : Yaml.DecodeError)
  | noSteps
  | duplicateStep (name : String)
  | invalidStep (step : String) (flaw : StepFlaw)
  /-- A matrix argument has a name that cannot be a placeholder. -/
  | invalidMatrix (cause : ArgFault)
  | stepQuery (step : String) (cause : ArgFault)

namespace JobFault

def message : JobFault → String
  | .unreadable p c => "failed to read job file '" ++ p ++ "': " ++ c.message
  | .yaml e => "failed to parse job YAML: " ++ e.message
  | .noSteps => "job has no steps"
  | .duplicateStep n => "duplicate step name: '" ++ n ++ "'"
  | .invalidStep s f => "step '" ++ s ++ "' is invalid: " ++ f.reason
  | .invalidMatrix f => "invalid matrix: " ++ f.message
  | .stepQuery s f => "step '" ++ s ++ "': " ++ f.message

/-- The messages of the causes of a fault, nearest first. -/
def causes : JobFault → List String
  | .unreadable _ c => [c.message]
  | .yaml e => [e.message]
  | .invalidMatrix f => [f.message]
  | .stepQuery _ f => [f.message]
  | _ => []

end JobFault

end JobMatrix
