import JobMatrix.Binding
import JobMatrix.Basic

/-!
Matrices: a list of values for each argument name. The instances of a matrix are all the ways
to choose one value per name. They are built by folding the names in increasing order into the
single empty instance; each name multiplies the instances collected so far by its values, the
values forming the outer loop. So the first name varies fastest, and the last slowest.
-/

namespace JobMatrix

/-- A list of values for each argument name, in name order. -/
abbrev Matrix := NameMap (List String)

namespace Matrix

/-- Every value of one argument combined with every collected instance: the collected list
once per value, in order, each copy binding `name` to that value. -/
def explode (name : String) (values : List String) (collected : List Binding) : List Binding :=
  values.flatMap fun v => collected.map fun b => b.insert name v

/-- All instances of a matrix: the names folded in increasing order into `[{}]`. -/
def instances (m : Matrix) : List Binding :=
  m.toList.foldl (fun collected entry => explode entry.1 entry.2 collected) [NameMap.empty]

/-- The product of the lengths of the value lists, counted in a 64-bit word: past
`2 ^ 64 - 1` the count wraps around, and may come to zero. -/
def instanceCount (m : Matrix) : UInt64 :=
  (m.values.map List.length).foldr (fun n acc => n.toUInt64 * acc) 1

def firstBadName (m : Matrix) : Option String :=
  m.names.find? fun n => !ArgName.isValid n

def validate (m : Matrix) : Except ArgFault Unit :=
  match m.firstBadName with
  | some n => .error (.badName n)
  | none => .ok ()

def instancesNotes (m : Matrix) : List Note :=
  (m.toList.foldl step (1, [])).2
where
  step (acc : Nat × List Note) (entry : String × List String) : Nat × List Note :=
    let count := entry.2.length * acc.1
    let warning : List Note :=
      if entry.2.isEmpty then
        [⟨.warn, "Matrix argument '" ++ entry.1 ++ "' has no values, no instances will run"⟩]
      else []
    (count, acc.2 ++ warning ++
      [⟨.debug, "Folded matrix argument '" ++ entry.1 ++ "' (" ++ toString entry.2.length ++
        " values): " ++ toString count ++ " instances"⟩])

end Matrix

end JobMatrix
