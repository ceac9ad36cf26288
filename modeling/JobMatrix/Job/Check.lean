import JobMatrix.Job.Basic
import JobMatrix.Job.Fault

/-!
Checking a job before it is planned. A job is sound when it has a step, every matrix name can
be a placeholder, and every step, in order, has a non-blank name, exactly one body, a
non-blank body, and a name no earlier step has. The first failed check is the fault.
-/

namespace JobMatrix

/-- Checks one step: a non-blank name, then exactly one body, then a non-blank body. -/
def Step.check (s : Step) : Except JobFault Unit :=
  if (Text.trimBlank s.name).isEmpty then .error (.invalidStep s.name .blankName)
  else
    match s.body? with
    | none => .error (.invalidStep s.name .bodyCount)
    | some b =>
      if (Text.trimBlank b.text).isEmpty then .error (.invalidStep s.name .blankBody)
      else .ok ()

namespace Job

/-- Checks steps in order, each against its own rules and the names seen before it. -/
def checkSteps (seen : List String) : List Step → Except JobFault Unit
  | [] => .ok ()
  | s :: rest => do
    s.check
    if seen.contains s.name then throw (.duplicateStep s.name)
    checkSteps (s.name :: seen) rest

def check (j : Job) : Except JobFault Unit := do
  if j.steps.isEmpty then throw .noSteps
  match j.matrix.validate with
  | .error f => throw (.invalidMatrix f)
  | .ok () => checkSteps [] j.steps

def passing (seen : List String) : List Step → List Step
  | [] => []
  | s :: rest =>
    if s.check matches .ok () && !seen.contains s.name then s :: passing (s.name :: seen) rest
    else []

/-- The records made while a job is checked: the job and its step count, one record per step
that passes, and a warning when a sound job has no instances. -/
def checkNotes (j : Job) : List Note :=
  let start : Note :=
    ⟨.info, "Validating job '" ++ j.name ++ "' with " ++ toString j.steps.length ++ " steps"⟩
  let stepsChecked := !j.steps.isEmpty && j.matrix.validate matches .ok ()
  let valid := if stepsChecked then passing [] j.steps else []
  let warning : List Note :=
    if j.check matches .ok () then
      if j.matrix.instanceCount == 0 then
        [⟨.warn, "Job '" ++ j.name ++ "' has an empty matrix argument, no step will run"⟩]
      else []
    else []
  start :: valid.map (fun s => ⟨.debug, "Step '" ++ s.name ++ "' is valid"⟩) ++ warning

end Job

end JobMatrix
