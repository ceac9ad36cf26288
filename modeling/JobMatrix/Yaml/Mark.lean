/-!
Positions in a YAML text and the syntax faults found while reading it. A position counts
characters and bytes of UTF-8 from zero; it is shown counting lines and columns from one. A fault names the
problem and where it was found, and may name what was being read and where that began.
-/

namespace JobMatrix.Yaml

/-- A position: the character index, the byte offset in UTF-8, and the line and column, all
from zero. -/
structure Mark where
  index : Nat := 0
  offset : Nat := 0
  line : Nat := 0
  column : Nat := 0
  deriving DecidableEq, Repr, Inhabited

namespace Mark

def isStart (m : Mark) : Bool :=
  m.line == 0 && m.column == 0

def text (m : Mark) : String :=
  "line " ++ toString (m.line + 1) ++ " column " ++ toString (m.column + 1)

def samePlace (a b : Mark) : Bool :=
  a.line == b.line && a.column == b.column

end Mark

/-- A fault in the syntax of a YAML text. The byte `offset` locates faults of the character
level, which have no line and column. -/
structure SyntaxError where
  problem : String
  mark : Mark := {}
  offset : Nat := 0
  context : Option (String × Mark) := none
  deriving DecidableEq, Repr, Inhabited

namespace SyntaxError

/-- The report of a fault: the problem and where it is, then what was being read and where
that began, each place given only when it says something. -/
def message (e : SyntaxError) : String :=
  let place :=
    if !e.mark.isStart then " at " ++ e.mark.text
    else if e.offset != 0 then " at position " ++ toString e.offset
    else ""
  let during :=
    match e.context with
    | none => ""
    | some (what, m) =>
      ", " ++ what ++ (if !m.isStart && !m.samePlace e.mark then " at " ++ m.text else "")
  e.problem ++ place ++ during

end SyntaxError

end JobMatrix.Yaml
