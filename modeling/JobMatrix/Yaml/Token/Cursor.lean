import JobMatrix.Yaml.Token

/-!
The state of the token scanner and its moves over the characters of a YAML text.
The scanner keeps every token it has made, in their final order, and counts how many of them
the grammar may already read: a token that could still turn out to start a key written without
`?` is held back until that is decided.
Line breaks are carriage return, line feed, both together, next line (U+0085) and the line and
paragraph separators. Past the end of the text the scanner sees the character U+0000, which
cannot occur inside it.
-/

namespace JobMatrix.Yaml

namespace Chars

def isBreak (c : Char) : Bool :=
  c == '\r' || c == '\n' || c == '\x85' || c == '\u2028' || c == '\u2029'

def isEnd (c : Char) : Bool :=
  c == '\x00'

def isBreakOrEnd (c : Char) : Bool :=
  isBreak c || isEnd c

def isBlank (c : Char) : Bool :=
  c == ' ' || c == '\t'

def isSpacing (c : Char) : Bool :=
  isBlank c || isBreakOrEnd c

/-- A character of an anchor name, a tag handle or a directive name: an ASCII letter or digit,
an underscore or a hyphen. -/
def isWord (c : Char) : Bool :=
  c.isAlphanum || c == '_' || c == '-'

def isHex (c : Char) : Bool :=
  c.isDigit || ('a' ≤ c && c ≤ 'f') || ('A' ≤ c && c ≤ 'F')

def hexValue (c : Char) : Nat :=
  if c.isDigit then c.toNat - '0'.toNat
  else if 'a' ≤ c && c ≤ 'f' then c.toNat - 'a'.toNat + 10
  else c.toNat - 'A'.toNat + 10

end Chars

/-- A place where a key written without `?` may start: the token number the key token would
take, and whether the key must be found (a block key at the current indentation). -/
structure SimpleKey where
  possible : Bool := false
  required : Bool := false
  tokenNumber : Nat := 0
  mark : Mark := {}
  deriving Inhabited

/-- The state of the token scanner. -/
structure Scanner where
  src : Array Char
  mark : Mark := {}
  tokens : Array Token := #[]
  released : Nat := 0
  indent : Int := -1
  indents : List Int := []
  flowLevel : Nat := 0
  /-- One possible simple key for each flow level, the innermost last. -/
  simpleKeys : Array SimpleKey := #[]
  simpleKeyAllowed : Bool := false
  started : Bool := false
  ended : Bool := false
  deriving Inhabited

abbrev ScanM := StateT Scanner (Except SyntaxError)

namespace Scanner

def peekAt (k : Nat) : ScanM Char := do
  let s ← get
  pure (s.src[s.mark.index + k]?.getD '\x00')

def peek : ScanM Char :=
  peekAt 0

def here : ScanM Mark := do
  pure (← get).mark

/-- An upper bound on the characters left, used to bound every loop over them. -/
def budget : ScanM Nat := do
  let s ← get
  pure (s.src.size - s.mark.index + 2)

def skip : ScanM Unit := do
  let c ← peek
  modify fun s =>
    let m := s.mark
    { s with mark := { m with index := m.index + 1, offset := m.offset + c.utf8Size,
                              column := m.column + 1 } }

def read : ScanM Char := do
  let c ← peek
  skip
  pure c

/-- Moves past a line break: two characters for a carriage return and line feed. -/
def skipLine : ScanM Unit := do
  let c ← peek
  let d ← peekAt 1
  if c == '\r' && d == '\n' then
    modify fun s =>
      let m := s.mark
      { s with mark := { index := m.index + 2, offset := m.offset + 2, line := m.line + 1,
                         column := 0 } }
  else if Chars.isBreak c then
    modify fun s =>
      let m := s.mark
      { s with mark := { index := m.index + 1, offset := m.offset + c.utf8Size,
                         line := m.line + 1, column := 0 } }

/-- Moves past a line break and returns how it reads in a scalar: a line feed, or the line or
paragraph separator itself. -/
def readLine : ScanM String := do
  let c ← peek
  if c == '\u2028' || c == '\u2029' then
    skipLine
    pure (String.singleton c)
  else if Chars.isBreak c then
    skipLine
    pure "\n"
  else
    pure ""

def skipWhile (p : Char → Bool) : ScanM Unit := do
  for _ in [0:← budget] do
    if p (← peek) then skip else break

def readWhile (p : Char → Bool) : ScanM String := do
  let mut out := ""
  for _ in [0:← budget] do
    let c ← peek
    if p c then
      skip
      out := out.push c
    else
      break
  pure out

def fail {α : Type} (context : Option String) (contextMark : Mark) (problem : String) :
    ScanM α := do
  let s ← get
  throw { problem, mark := s.mark, context := context.map fun c => (c, contextMark) }

def push (t : Token) : ScanM Unit :=
  modify fun s => { s with tokens := s.tokens.push t }

def insertAt (n : Nat) (t : Token) : ScanM Unit :=
  modify fun s =>
    if h : n ≤ s.tokens.size then { s with tokens := s.tokens.insertIdx n t h }
    else { s with tokens := s.tokens.push t }

end Scanner

end JobMatrix.Yaml
