import JobMatrix.Basic

/-!
Query templates. A query is read as a sequence of literal characters and placeholders
`:name`, where a name is as long as the run of name characters allows. Text inside quotes
(`'...'` or `"..."`, a doubled quote staying inside), line comments `-- ...` up to and
including the line break, block comments `/* ... */` (nested), and `::` casts hold no
placeholders. An unclosed quote or comment runs to the end of the query.
The depth of nested block comments is a natural number. Counted in a 32-bit signed integer it
would overflow only past 2^31 - 1 open comments, which takes a query of at least 2^32 bytes.
-/

namespace JobMatrix.Query

/-- A piece of a query: one literal character or one placeholder. -/
inductive Piece where
  | lit (c : Char)
  | hole (name : String)
  deriving DecidableEq, Repr

/-- Where the scanner stands. -/
inductive Mode where
  | code
  /-- Inside a literal opened by the quote character `q`. -/
  | quoted (q : Char)
  | line
  /-- Inside block comments nested `depth` deep. -/
  | block (depth : Nat)
  deriving DecidableEq, Repr

/-- Splits the rest of a query into pieces, starting in the given mode. -/
def scanFrom : Mode → List Char → List Piece
  | _, [] => []
  | .code, '\'' :: rest => .lit '\'' :: scanFrom (.quoted '\'') rest
  | .code, '"' :: rest => .lit '"' :: scanFrom (.quoted '"') rest
  | .code, '-' :: '-' :: rest => .lit '-' :: .lit '-' :: scanFrom .line rest
  | .code, '/' :: '*' :: rest => .lit '/' :: .lit '*' :: scanFrom (.block 1) rest
  | .code, ':' :: ':' :: rest => .lit ':' :: .lit ':' :: scanFrom .code rest
  | .code, ':' :: c :: rest =>
    if ArgName.isHead c then
      .hole (String.ofList (c :: rest.takeWhile ArgName.isTail)) ::
        scanFrom .code (rest.dropWhile ArgName.isTail)
    else
      .lit ':' :: scanFrom .code (c :: rest)
  | .code, c :: rest => .lit c :: scanFrom .code rest
  | .quoted q, c :: d :: rest =>
    if c = q then
      if d = q then .lit c :: .lit d :: scanFrom (.quoted q) rest
      else .lit c :: scanFrom .code (d :: rest)
    else
      .lit c :: scanFrom (.quoted q) (d :: rest)
  | .quoted _, [c] => [.lit c]
  | .line, c :: rest =>
    if c = '\n' then .lit c :: scanFrom .code rest else .lit c :: scanFrom .line rest
  | .block depth, '/' :: '*' :: rest => .lit '/' :: .lit '*' :: scanFrom (.block (depth + 1)) rest
  | .block depth, '*' :: '/' :: rest =>
    .lit '*' :: .lit '/' :: scanFrom (if depth ≤ 1 then .code else .block (depth - 1)) rest
  | .block depth, c :: rest => .lit c :: scanFrom (.block depth) rest
termination_by _ cs => cs.length
decreasing_by
  all_goals simp only [List.length_cons]
  all_goals grind [List.IsSuffix.length_le, List.dropWhile_suffix]

def scan (query : String) : List Piece :=
  scanFrom .code query.toList

def Piece.text : Piece → List Char
  | lit c => [c]
  | hole name => ':' :: name.toList

def render (pieces : List Piece) : String :=
  String.ofList (pieces.flatMap Piece.text)

def holes (pieces : List Piece) : List String :=
  pieces.filterMap fun
    | .hole name => some name
    | .lit _ => none

end JobMatrix.Query
