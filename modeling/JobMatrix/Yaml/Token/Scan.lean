import JobMatrix.Yaml.Token.Scalar

/-!
Splitting a YAML text into tokens. Indentation opens block collections and closes them again
(`blockEnd`); a key written without `?` is recognised when its `:` arrives, and its `key` token,
with the `blockMappingStart` a new block mapping needs, is put in front of the key's first token
at that time. A possible key must stay on one line and within 1024 bytes; a block key at
the current indentation that never finds its `:` is a fault.

`Token.scan` returns every token made before the first fault, how many of them the grammar may
read before the fault stops it, and the fault itself. Characters outside the printable set of
YAML are a fault of the whole text, reported before any token.
-/

namespace JobMatrix.Yaml

namespace Scanner

open Chars

def keyFault (now : Mark) (key : SimpleKey) : SyntaxError :=
  { problem := "could not find expected ':'", mark := now,
    context := some ("while scanning a simple key", key.mark) }

/-- Drops the possible keys that left their line or are too long; a required one is a fault. -/
def dropStaleKeys : ScanM Unit := do
  let s ← get
  let keys ← s.simpleKeys.mapM fun k => do
    if k.possible && (k.mark.line < s.mark.line || k.mark.offset + 1024 < s.mark.offset) then
      if k.required then throw (keyFault s.mark k)
      pure { k with possible := false }
    else
      pure k
  modify fun s => { s with simpleKeys := keys }

def removeSimpleKey : ScanM Unit := do
  let s ← get
  match s.simpleKeys.back? with
  | some k =>
    if k.possible && k.required then throw (keyFault s.mark k)
    set { s with simpleKeys := s.simpleKeys.pop.push { k with possible := false } }
  | none => pure ()

def saveSimpleKey : ScanM Unit := do
  let s ← get
  if s.simpleKeyAllowed then
    let key : SimpleKey :=
      { possible := true
        required := s.flowLevel == 0 && s.indent == (s.mark.column : Int)
        tokenNumber := s.tokens.size
        mark := s.mark }
    removeSimpleKey
    modify fun s => { s with simpleKeys := s.simpleKeys.pop.push key }

def increaseFlowLevel : ScanM Unit :=
  modify fun s => { s with simpleKeys := s.simpleKeys.push {}, flowLevel := s.flowLevel + 1 }

def decreaseFlowLevel : ScanM Unit :=
  modify fun s =>
    if s.flowLevel > 0 then { s with flowLevel := s.flowLevel - 1, simpleKeys := s.simpleKeys.pop }
    else s

/-- In block context, opens a block collection at `column` if it is deeper than the current
indentation; the opening token goes last, or at position `number`. -/
def rollIndent (column : Int) (number : Option Nat) (kind : TokenKind) (mark : Mark) :
    ScanM Unit := do
  let s ← get
  if s.flowLevel == 0 && s.indent < column then
    set { s with indents := s.indent :: s.indents, indent := column }
    match number with
    | none => push ⟨kind, mark, mark⟩
    | some n => insertAt n ⟨kind, mark, mark⟩

def closeBlocks (column : Int) (mark : Mark) :
    Int → List Int → Array Token → Int × List Int × Array Token
  | indent, [], tokens => (indent, [], tokens)
  | indent, outer :: rest, tokens =>
    if indent > column then closeBlocks column mark outer rest (tokens.push ⟨.blockEnd, mark, mark⟩)
    else (indent, outer :: rest, tokens)

def unrollIndent (column : Int) : ScanM Unit := do
  let s ← get
  if s.flowLevel == 0 then
    let (indent, indents, tokens) := closeBlocks column s.mark s.indent s.indents s.tokens
    set { s with indent, indents, tokens }

/-- Moves over blanks, comments and line breaks to the next token. A tab does not count as a
blank where a block key or entry could start. -/
def skipToToken : ScanM Unit := do
  for _ in [0:← budget] do
    if (← here).column == 0 && (← peek) == '\uFEFF' then skip
    let s ← get
    let tabs := s.flowLevel > 0 || !s.simpleKeyAllowed
    skipWhile fun c => c == ' ' || (tabs && c == '\t')
    if (← peek) == '#' then skipWhile (!isBreakOrEnd ·)
    if isBreak (← peek) then
      skipLine
      if (← get).flowLevel == 0 then
        modify fun s => { s with simpleKeyAllowed := true }
    else
      break

def simpleToken (kind : TokenKind) (width : Nat) : ScanM Unit := do
  let start ← here
  for _ in [0:width] do skip
  push ⟨kind, start, ← here⟩

def fetchStreamStart : ScanM Unit := do
  modify fun s =>
    { s with indent := -1, simpleKeys := s.simpleKeys.push {}, simpleKeyAllowed := true
             started := true }
  let m ← here
  push ⟨.streamStart, m, m⟩

def fetchStreamEnd : ScanM Unit := do
  modify fun s =>
    if s.mark.column != 0 then
      let m := s.mark
      { s with mark := { m with column := 0, line := m.line + 1 } }
    else s
  unrollIndent (-1)
  removeSimpleKey
  modify fun s => { s with simpleKeyAllowed := false, ended := true }
  let m ← here
  push ⟨.streamEnd, m, m⟩

def fetchDirective : ScanM Unit := do
  unrollIndent (-1)
  removeSimpleKey
  modify fun s => { s with simpleKeyAllowed := false }
  push (← scanDirective)

def fetchDocumentIndicator (kind : TokenKind) : ScanM Unit := do
  unrollIndent (-1)
  removeSimpleKey
  modify fun s => { s with simpleKeyAllowed := false }
  simpleToken kind 3

def fetchFlowCollectionStart (kind : TokenKind) : ScanM Unit := do
  saveSimpleKey
  increaseFlowLevel
  modify fun s => { s with simpleKeyAllowed := true }
  simpleToken kind 1

def fetchFlowCollectionEnd (kind : TokenKind) : ScanM Unit := do
  removeSimpleKey
  decreaseFlowLevel
  modify fun s => { s with simpleKeyAllowed := false }
  simpleToken kind 1

def fetchFlowEntry : ScanM Unit := do
  removeSimpleKey
  modify fun s => { s with simpleKeyAllowed := true }
  simpleToken .flowEntry 1

def fetchBlockEntry : ScanM Unit := do
  let s ← get
  if s.flowLevel == 0 then
    if !s.simpleKeyAllowed then
      fail none s.mark "block sequence entries are not allowed in this context"
    rollIndent s.mark.column none .blockSequenceStart s.mark
  removeSimpleKey
  modify fun s => { s with simpleKeyAllowed := true }
  simpleToken .blockEntry 1

def fetchKey : ScanM Unit := do
  let s ← get
  if s.flowLevel == 0 then
    if !s.simpleKeyAllowed then
      fail none s.mark "mapping keys are not allowed in this context"
    rollIndent s.mark.column none .blockMappingStart s.mark
  removeSimpleKey
  modify fun s => { s with simpleKeyAllowed := s.flowLevel == 0 }
  simpleToken .key 1

def fetchValue : ScanM Unit := do
  let s ← get
  match s.simpleKeys.back? with
  | some k =>
    if k.possible then
      insertAt k.tokenNumber ⟨.key, k.mark, k.mark⟩
      rollIndent k.mark.column (some k.tokenNumber) .blockMappingStart k.mark
      modify fun s =>
        { s with simpleKeys := s.simpleKeys.pop.push { k with possible := false }
                 simpleKeyAllowed := false }
    else
      if s.flowLevel == 0 then
        if !s.simpleKeyAllowed then
          fail none s.mark "mapping values are not allowed in this context"
        rollIndent s.mark.column none .blockMappingStart s.mark
      modify fun s => { s with simpleKeyAllowed := s.flowLevel == 0 }
  | none => pure ()
  simpleToken .value 1

def fetchAnchor (isAlias : Bool) : ScanM Unit := do
  saveSimpleKey
  modify fun s => { s with simpleKeyAllowed := false }
  push (← scanAnchor isAlias)

def fetchTag : ScanM Unit := do
  saveSimpleKey
  modify fun s => { s with simpleKeyAllowed := false }
  push (← scanTag)

def fetchBlockScalar (literal : Bool) : ScanM Unit := do
  removeSimpleKey
  modify fun s => { s with simpleKeyAllowed := true }
  push (← scanBlockScalar literal)

def fetchQuoted (single : Bool) : ScanM Unit := do
  saveSimpleKey
  modify fun s => { s with simpleKeyAllowed := false }
  push (← scanQuoted single)

def fetchPlain : ScanM Unit := do
  saveSimpleKey
  modify fun s => { s with simpleKeyAllowed := false }
  push (← scanPlain)

def indicators : List Char :=
  ['-', '?', ':', ',', '[', ']', '\x7b', '\x7d', '#', '&', '*', '!', '|', '>', '\x27', '"', '%',
    '@', '\x60']

def startsPlain (flow : Bool) (c d : Char) : Bool :=
  !(isSpacing c || indicators.contains c) ||
    (c == '-' && !isBlank d) || (!flow && (c == '?' || c == ':') && !isSpacing d)

def fetchNext : ScanM Unit := do
  if !(← get).started then
    fetchStreamStart
    return
  skipToToken
  dropStaleKeys
  unrollIndent (← here).column
  let s ← get
  let column0 := s.mark.column == 0
  let flow := s.flowLevel > 0
  let c ← peekAt 0
  let d ← peekAt 1
  let e ← peekAt 2
  let f ← peekAt 3
  if isEnd c then fetchStreamEnd
  else if column0 && c == '%' then fetchDirective
  else if column0 && c == '-' && d == '-' && e == '-' && isSpacing f then
    fetchDocumentIndicator .documentStart
  else if column0 && c == '.' && d == '.' && e == '.' && isSpacing f then
    fetchDocumentIndicator .documentEnd
  else if c == '[' then fetchFlowCollectionStart .flowSequenceStart
  else if c == '{' then fetchFlowCollectionStart .flowMappingStart
  else if c == ']' then fetchFlowCollectionEnd .flowSequenceEnd
  else if c == '}' then fetchFlowCollectionEnd .flowMappingEnd
  else if c == ',' then fetchFlowEntry
  else if c == '-' && isSpacing d then fetchBlockEntry
  else if c == '?' && (flow || isSpacing d) then fetchKey
  else if c == ':' && (flow || isSpacing d) then fetchValue
  else if c == '*' then fetchAnchor true
  else if c == '&' then fetchAnchor false
  else if c == '!' then fetchTag
  else if c == '|' && !flow then fetchBlockScalar true
  else if c == '>' && !flow then fetchBlockScalar false
  else if c == '\'' then fetchQuoted true
  else if c == '"' then fetchQuoted false
  else if startsPlain flow c d then fetchPlain
  else
    fail (some "while scanning for the next token") s.mark
      "found character that cannot start any token"

/-- Whether token `n` may still become the place of a key. -/
def heldBack (s : Scanner) (n : Nat) : Bool :=
  s.simpleKeys.any fun k => k.possible && k.tokenNumber == n

/-- Counts the tokens the grammar may read: those before the first one that is missing or
held back. -/
def releaseFrom (s : Scanner) : Nat → Nat → Nat
  | 0, n => n
  | fuel + 1, n => if n < s.tokens.size && !heldBack s n then releaseFrom s fuel (n + 1) else n

def step : ScanM Unit := do
  fetchNext
  dropStaleKeys
  modify fun s => { s with released := releaseFrom s s.tokens.size s.released }

def run : Nat → Scanner → Scanner × Option SyntaxError
  | 0, s => (s, none)
  | fuel + 1, s =>
    if s.ended then (s, none)
    else
      match step.run s with
      | .ok ((), next) => run fuel next
      | .error e => (s, some e)

end Scanner

/-- The tokens of a text: all that were made before the first fault, how many of them the
grammar may read, and the fault. -/
structure TokenStream where
  tokens : Array Token
  released : Nat
  fault : Option SyntaxError
  deriving Inhabited

/-- Whether a character may appear in YAML text: tab, line feed, carriage return, printable
ASCII, next line, and the rest of Unicode but the surrogates, U+FFFE, U+FFFF and the C1
controls. -/
def isAllowedChar (c : Char) : Bool :=
  let n := c.toNat
  n == 0x09 || n == 0x0A || n == 0x0D || (0x20 ≤ n && n ≤ 0x7E) || n == 0x85 ||
    (0xA0 ≤ n && n ≤ 0xD7FF) || (0xE000 ≤ n && n ≤ 0xFFFD) || 0x10000 ≤ n

def firstDisallowed (cs : List Char) : Option Nat :=
  go cs 0
where
  go : List Char → Nat → Option Nat
    | [], _ => none
    | c :: rest, offset => if isAllowedChar c then go rest (offset + c.utf8Size) else some offset

/-- Splits a YAML text into tokens. A byte order mark is skipped where a token may start at the
beginning of a line, and counts as a column. -/
def Token.scan (text : String) : TokenStream :=
  let body := text.toList
  match firstDisallowed body with
  | some offset =>
    ⟨#[], 0, some { problem := "control characters are not allowed", offset := offset }⟩
  | none =>
    let start : Scanner := { src := body.toArray }
    let (s, fault) := Scanner.run (body.length + 3) start
    match fault with
    | some e => ⟨s.tokens, s.released, some e⟩
    | none => ⟨s.tokens, s.tokens.size, none⟩

end JobMatrix.Yaml
