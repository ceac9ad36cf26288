import JobMatrix.Job.Basic
import JobMatrix.Matrix.OfYaml

/-!
Jobs written in YAML. A job is a mapping with the optional keys `name` (any scalar, as text),
`matrix` and `steps` (a sequence of steps); a step is a mapping with the key `name` and the
optional keys `command` and `query`, where null stands for absent. Other keys are skipped,
and a key given twice is refused.
-/

namespace JobMatrix

open Yaml

def duplicateField (name : String) : DecodeError :=
  .custom ("duplicate field `" ++ name ++ "`") none

def missingField (name : String) : DecodeError :=
  .custom ("missing field `" ++ name ++ "`") none

def readOptionalText (h : Here) : DecodeM (Option String) :=
  readOption (readText "a string") h

namespace Step

/-- The fields of a step read so far; `none` for a field not yet met. -/
structure Fields where
  name : Option String := none
  command : Option (Option String) := none
  query : Option (Option String) := none

def readField (st : Fields) (key : Option String) (h : Here) : DecodeM Fields := do
  let field ← readText "field identifier" h
  let v := h.valueOf key
  match field with
  | "name" =>
    if st.name.isSome then throw (duplicateField "name")
    pure { st with name := some (← readText "a string" v) }
  | "command" =>
    if st.command.isSome then throw (duplicateField "command")
    pure { st with command := some (← readOptionalText v) }
  | "query" =>
    if st.query.isSome then throw (duplicateField "query")
    pure { st with query := some (← readOptionalText v) }
  | _ =>
    skipNode h.doc
    pure st

/-- A step from its fields: the name must be given. -/
def ofFields (st : Fields) : Except DecodeError Step :=
  match st.name with
  | none => .error (missingField "name")
  | some name => .ok { name, command := st.command.getD none, query := st.query.getD none }

def read (h : Here) : DecodeM Step :=
  readMap "struct Step" {} readField ofFields h

end Step

namespace Job

structure Fields where
  name : Option String := none
  matrix : Option Matrix := none
  steps : Option (List Step) := none

def readField (st : Fields) (key : Option String) (h : Here) : DecodeM Fields := do
  let field ← readText "field identifier" h
  let v := h.valueOf key
  match field with
  | "name" =>
    if st.name.isSome then throw (duplicateField "name")
    pure { st with name := some (← readText "a string" v) }
  | "matrix" =>
    if st.matrix.isSome then throw (duplicateField "matrix")
    pure { st with matrix := some (← Matrix.read v) }
  | "steps" =>
    if st.steps.isSome then throw (duplicateField "steps")
    pure { st with steps := some (← readSeq "a sequence" Step.read v) }
  | _ =>
    skipNode h.doc
    pure st

/-- A job from its fields; every field has a default. -/
def ofFields (st : Fields) : Job :=
  { name := st.name.getD "", matrix := st.matrix.getD NameMap.empty, steps := st.steps.getD [] }

def read (h : Here) : DecodeM Job :=
  readMap "struct Job" {} readField (fun st => .ok (ofFields st)) h

def ofYaml (text : String) : Except DecodeError Job :=
  decodeText read text

end Job

end JobMatrix
