import JobMatrix.Matrix
import JobMatrix.Yaml.Value

/-!
Matrices written in YAML: a mapping from argument names to values. A value is one string, or a
sequence of strings; numbers and booleans must be quoted, since their text may not survive
reading (`1.10`, `0x1F`). A name given twice keeps its last values. The refusal of a value is
placed at the mapping that holds it.
-/

namespace JobMatrix

/-- Why the value of a matrix argument is refused. -/
inductive ValueFault where
  | noValue
  | unquoted
  /-- A mapping, a nested sequence, a tagged value, or a null item. -/
  | notText
  deriving DecidableEq, Repr

def ValueFault.message : ValueFault → String
  | .noValue => "Matrix argument has no value; use [] for an empty list"
  | .unquoted => "Matrix values must be quoted strings (e.g. \"1.10\")"
  | .notText => "Expected string matrix value"

namespace Matrix

open Yaml

def valueText : Value → Except ValueFault String
  | .string s => .ok s
  | .number _ | .bool _ => .error .unquoted
  | _ => .error .notText

/-- The values of an argument: a string alone, or each item of a sequence. -/
def argValues : Value → Except ValueFault (List String)
  | .string s => .ok [s]
  | .sequence items => items.mapM valueText
  | .null => .error .noValue
  | v => (valueText v).map fun s => [s]

def readEntry (m : Matrix) (key : Option String) (h : Here) : DecodeM Matrix := do
  let name ← readText "a string" h
  let v ← Value.readAny (h.valueOf key)
  match argValues v with
  | .ok vs => pure (m.insert name vs)
  | .error f => throw (.custom f.message none)

def read (h : Here) : DecodeM Matrix :=
  readMap "a map" NameMap.empty readEntry .ok h

def ofYaml (text : String) : Except DecodeError Matrix :=
  decodeText read text

end Matrix

end JobMatrix
