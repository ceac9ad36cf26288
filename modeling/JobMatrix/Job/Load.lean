import JobMatrix.Job.OfYaml
import JobMatrix.Job.Check

/-!
Loading a job: reading its YAML text, checking it, and naming it after its file when the text
gives no name. A job whose name is blank takes the stem of its file's name (`nightly.yaml`
gives `nightly`).
-/

namespace JobMatrix

namespace Job

def parse (text : String) : Except JobFault Job := do
  let j ← match ofYaml text with
    | .ok j => pure j
    | .error e => throw (.yaml e)
  j.check
  pure j

/-- The records made while a job is parsed: its size once read, then those of the check. -/
def parseNotes (text : String) : List Note :=
  match ofYaml text with
  | .error _ => []
  | .ok j =>
    ⟨.info, "Parsed job '" ++ j.name ++ "': " ++ toString j.steps.length ++ " steps, " ++
      toString j.matrix.size ++ " matrix arguments"⟩ :: j.checkNotes

/-- Names a job after a path when its own name is blank. -/
def namedAfter (j : Job) (path : String) : Job :=
  if (Text.trimBlank j.name).isEmpty then
    match fileStem? path with
    | some stem => { j with name := stem }
    | none => j
  else j

def load (path : String) (content : Except FileFault String) : Except JobFault Job := do
  let text ← match content with
    | .ok t => pure t
    | .error f => throw (.unreadable path f)
  let j ← parse text
  pure (j.namedAfter path)

/-- The records made while a job is loaded: the path, the size of the text once read, then
those of parsing it. -/
def loadNotes (path : String) (content : Except FileFault String) : List Note :=
  ⟨.info, "Loading job from: " ++ path⟩ ::
    match content with
    | .error _ => []
    | .ok text =>
      ⟨.debug, "YAML content loaded (" ++ toString text.utf8ByteSize ++ " bytes)"⟩ ::
        parseNotes text

end Job

end JobMatrix
