import JobMatrix.Yaml.Token.Scan

/-!
Events of a YAML stream, and the grammar that makes them from tokens. Events are the start and
end of the stream, of each document and of each collection, scalars and aliases, in the order a
reader meets them; a node may carry an anchor and a tag. The grammar is a state machine that
turns the token stream into events, one event per step. The states name the place in the
grammar; a stack keeps the places to return to, and a second stack the positions where the open
collections began, for the reports of faults. A token the scanner could not make stops the
grammar with the scanner's fault.

Tags written with a handle are resolved here (`!!str` reads `tag:yaml.org,2002:str`): `!` and
`!!` have their standard prefixes, and a document may declare others with `%TAG`.
-/

namespace JobMatrix.Yaml

inductive EventKind where
  | streamStart
  | streamEnd
  | documentStart (explicit : Bool)
  | documentEnd (explicit : Bool)
  | alias (anchor : String)
  | scalar (anchor : Option String) (tag : Option TagText) (text : String) (style : ScalarStyle)
  | sequenceStart (anchor : Option String) (tag : Option TagText)
  | sequenceEnd
  | mappingStart (anchor : Option String) (tag : Option TagText)
  | mappingEnd
  deriving DecidableEq, Repr, Inhabited

structure Event where
  kind : EventKind
  start : Mark
  stop : Mark
  deriving DecidableEq, Repr, Inhabited

/-- A place in the grammar. -/
inductive ParseState where
  | streamStart
  | implicitDocumentStart
  | documentStart
  | documentContent
  | documentEnd
  | blockNode
  | blockNodeOrIndentlessSequence
  | flowNode
  | blockSequenceFirstEntry
  | blockSequenceEntry
  | indentlessSequenceEntry
  | blockMappingFirstKey
  | blockMappingKey
  | blockMappingValue
  | flowSequenceFirstEntry
  | flowSequenceEntry
  | flowSequenceEntryMappingKey
  | flowSequenceEntryMappingValue
  | flowSequenceEntryMappingEnd
  | flowMappingFirstKey
  | flowMappingKey
  | flowMappingValue
  | flowMappingEmptyValue
  | finished
  deriving DecidableEq, Repr, Inhabited

/-- The state of the grammar over a token stream. -/
structure Parser where
  stream : TokenStream
  pos : Nat := 0
  state : ParseState := .streamStart
  states : List ParseState := []
  marks : List Mark := []
  tagDirectives : List (String × TagText) := []
  deriving Inhabited

abbrev ParseM := StateT Parser (Except SyntaxError)

namespace Parser

def peekToken : ParseM Token := do
  let p ← get
  if p.pos < p.stream.released then
    match p.stream.tokens[p.pos]? with
    | some t => pure t
    | none => throw { problem := "did not find expected <stream-end>" }
  else
    throw (p.stream.fault.getD { problem := "did not find expected <stream-end>" })

def skipToken : ParseM Unit :=
  modify fun p => { p with pos := p.pos + 1 }

def pushState (s : ParseState) : ParseM Unit :=
  modify fun p => { p with states := s :: p.states }

def popState : ParseM ParseState := do
  let p ← get
  match p.states with
  | s :: rest =>
    set { p with states := rest }
    pure s
  | [] => pure .finished

def pushMark (m : Mark) : ParseM Unit :=
  modify fun p => { p with marks := m :: p.marks }

def popMark : ParseM Mark := do
  let p ← get
  match p.marks with
  | m :: rest =>
    set { p with marks := rest }
    pure m
  | [] => pure {}

def setState (s : ParseState) : ParseM Unit :=
  modify fun p => { p with state := s }

def problemAt {α : Type} (problem : String) (mark : Mark) : ParseM α :=
  throw { problem, mark }

def problemIn {α : Type} (context : String) (contextMark : Mark) (problem : String)
    (mark : Mark) : ParseM α :=
  throw { problem, mark, context := some (context, contextMark) }

/-- The empty plain scalar that stands for a missing node. -/
def emptyScalar (mark : Mark) : Event :=
  ⟨.scalar none none "" .plain, mark, mark⟩

/-- Reads the directives in front of a document, then adds the standard tag handles. -/
def processDirectives : ParseM Unit := do
  let mut version := false
  for _ in [0:(← get).stream.tokens.size + 1] do
    let t ← peekToken
    match t.kind with
    | .versionDirective major minor =>
      if version then problemAt "found duplicate %YAML directive" t.start
      if major != 1 || (minor != 1 && minor != 2) then
        problemAt "found incompatible YAML document" t.start
      version := true
    | .tagDirective handle pfx =>
      if (← get).tagDirectives.any (·.1 == handle) then
        problemAt "found duplicate %TAG directive" t.start
      modify fun p => { p with tagDirectives := p.tagDirectives ++ [(handle, pfx)] }
    | _ => break
    skipToken
  for (handle, pfx) in [("!", "!"), ("!!", "tag:yaml.org,2002:")].map
      fun (h, p) => (h, TagText.ofString p) do
    if !(← get).tagDirectives.any (·.1 == handle) then
      modify fun p => { p with tagDirectives := p.tagDirectives ++ [(handle, pfx)] }

def parseStreamStart : ParseM Event := do
  let t ← peekToken
  if t.kind != .streamStart then problemAt "did not find expected <stream-start>" t.start
  setState .implicitDocumentStart
  skipToken
  pure ⟨.streamStart, t.start, t.start⟩

def parseDocumentStart (implicit : Bool) : ParseM Event := do
  if !implicit then
    for _ in [0:(← get).stream.tokens.size + 1] do
      if (← peekToken).kind == .documentEnd then skipToken else break
  let t ← peekToken
  let isDirective := match t.kind with
    | .versionDirective .. | .tagDirective .. => true
    | _ => false
  if implicit && !isDirective && t.kind != .documentStart && t.kind != .streamEnd then
    processDirectives
    pushState .documentEnd
    setState .blockNode
    pure ⟨.documentStart false, t.start, t.start⟩
  else if t.kind != .streamEnd then
    let start := t.start
    processDirectives
    let t ← peekToken
    if t.kind != .documentStart then problemAt "did not find expected <document start>" t.start
    pushState .documentEnd
    setState .documentContent
    skipToken
    pure ⟨.documentStart true, start, t.stop⟩
  else
    setState .finished
    skipToken
    pure ⟨.streamEnd, t.start, t.stop⟩

def parseDocumentEnd : ParseM Event := do
  let t ← peekToken
  let explicit := t.kind == .documentEnd
  if explicit then skipToken
  modify fun p => { p with tagDirectives := [] }
  setState .documentStart
  pure ⟨.documentEnd explicit, t.start, if explicit then t.stop else t.start⟩

/-- The full tag of a handle and suffix, through the declared handles. -/
def resolveTag (handle : String) (suffix : TagText) (start tagMark : Mark) : ParseM TagText := do
  if handle.isEmpty then pure suffix
  else
    match (← get).tagDirectives.find? (·.1 == handle) with
    | some (_, pfx) => pure (pfx ++ suffix)
    | none => problemIn "while parsing a node" start "found undefined tag handle" tagMark

/-- A node: an alias, a scalar, the start of a collection, or an empty scalar for a node that
has only an anchor or a tag. -/
def parseNode (block indentless : Bool) : ParseM Event := do
  let t ← peekToken
  match t.kind with
  | .alias name =>
    setState (← popState)
    skipToken
    pure ⟨.alias name, t.start, t.stop⟩
  | _ =>
    let mut start := t.start
    let mut stop := t.start
    let mut anchor : Option String := none
    let mut tagParts : Option (String × TagText × Mark) := none
    let mut t := t
    match t.kind with
    | .anchor name =>
      anchor := some name
      stop := t.stop
      skipToken
      t ← peekToken
      match t.kind with
      | .tag handle suffix =>
        tagParts := some (handle, suffix, t.start)
        stop := t.stop
        skipToken
        t ← peekToken
      | _ => pure ()
    | .tag handle suffix =>
      tagParts := some (handle, suffix, t.start)
      stop := t.stop
      skipToken
      t ← peekToken
      match t.kind with
      | .anchor name =>
        anchor := some name
        stop := t.stop
        skipToken
        t ← peekToken
      | _ => pure ()
    | _ => pure ()
    let tag ← match tagParts with
      | some (handle, suffix, tagMark) => some <$> resolveTag handle suffix start tagMark
      | none => pure none
    match t.kind with
    | .blockEntry =>
      if indentless then
        setState .indentlessSequenceEntry
        return ⟨.sequenceStart anchor tag, start, t.stop⟩
    | _ => pure ()
    match t.kind with
    | .scalar text style =>
      setState (← popState)
      skipToken
      pure ⟨.scalar anchor tag text style, start, t.stop⟩
    | .flowSequenceStart =>
      setState .flowSequenceFirstEntry
      pure ⟨.sequenceStart anchor tag, start, t.stop⟩
    | .flowMappingStart =>
      setState .flowMappingFirstKey
      pure ⟨.mappingStart anchor tag, start, t.stop⟩
    | .blockSequenceStart =>
      if block then
        setState .blockSequenceFirstEntry
        pure ⟨.sequenceStart anchor tag, start, t.stop⟩
      else if anchor.isSome || tag.isSome then
        setState (← popState)
        pure ⟨.scalar anchor tag "" .plain, start, stop⟩
      else
        problemIn "while parsing a flow node" start "did not find expected node content" t.start
    | .blockMappingStart =>
      if block then
        setState .blockMappingFirstKey
        pure ⟨.mappingStart anchor tag, start, t.stop⟩
      else if anchor.isSome || tag.isSome then
        setState (← popState)
        pure ⟨.scalar anchor tag "" .plain, start, stop⟩
      else
        problemIn "while parsing a flow node" start "did not find expected node content" t.start
    | _ =>
      if anchor.isSome || tag.isSome then
        setState (← popState)
        pure ⟨.scalar anchor tag "" .plain, start, stop⟩
      else
        problemIn (if block then "while parsing a block node" else "while parsing a flow node")
          start "did not find expected node content" t.start

def parseBlockSequenceEntry (first : Bool) : ParseM Event := do
  if first then
    pushMark (← peekToken).start
    skipToken
  let t ← peekToken
  match t.kind with
  | .blockEntry =>
    let mark := t.stop
    skipToken
    let t ← peekToken
    if t.kind != .blockEntry && t.kind != .blockEnd then
      pushState .blockSequenceEntry
      parseNode true false
    else
      setState .blockSequenceEntry
      pure (emptyScalar mark)
  | .blockEnd =>
    setState (← popState)
    let _ ← popMark
    skipToken
    pure ⟨.sequenceEnd, t.start, t.stop⟩
  | _ =>
    problemIn "while parsing a block collection" (← popMark) "did not find expected '-' indicator"
      t.start

def parseIndentlessSequenceEntry : ParseM Event := do
  let t ← peekToken
  match t.kind with
  | .blockEntry =>
    let mark := t.stop
    skipToken
    let t ← peekToken
    if t.kind != .blockEntry && t.kind != .key && t.kind != .value && t.kind != .blockEnd then
      pushState .indentlessSequenceEntry
      parseNode true false
    else
      setState .indentlessSequenceEntry
      pure (emptyScalar mark)
  | _ =>
    setState (← popState)
    pure ⟨.sequenceEnd, t.start, t.start⟩

def parseBlockMappingKey (first : Bool) : ParseM Event := do
  if first then
    pushMark (← peekToken).start
    skipToken
  let t ← peekToken
  match t.kind with
  | .key =>
    let mark := t.stop
    skipToken
    let t ← peekToken
    if t.kind != .key && t.kind != .value && t.kind != .blockEnd then
      pushState .blockMappingValue
      parseNode true true
    else
      setState .blockMappingValue
      pure (emptyScalar mark)
  | .blockEnd =>
    setState (← popState)
    let _ ← popMark
    skipToken
    pure ⟨.mappingEnd, t.start, t.stop⟩
  | _ =>
    problemIn "while parsing a block mapping" (← popMark) "did not find expected key" t.start

def parseBlockMappingValue : ParseM Event := do
  let t ← peekToken
  match t.kind with
  | .value =>
    let mark := t.stop
    skipToken
    let t ← peekToken
    if t.kind != .key && t.kind != .value && t.kind != .blockEnd then
      pushState .blockMappingKey
      parseNode true true
    else
      setState .blockMappingKey
      pure (emptyScalar mark)
  | _ =>
    setState .blockMappingKey
    pure (emptyScalar t.start)

def parseFlowSequenceEntry (first : Bool) : ParseM Event := do
  if first then
    pushMark (← peekToken).start
    skipToken
  let mut t ← peekToken
  if t.kind != .flowSequenceEnd then
    if !first then
      if t.kind == .flowEntry then
        skipToken
        t ← peekToken
      else
        problemIn "while parsing a flow sequence" (← popMark) "did not find expected ',' or ']'"
          t.start
    if t.kind == .key then
      setState .flowSequenceEntryMappingKey
      skipToken
      return ⟨.mappingStart none none, t.start, t.stop⟩
    else if t.kind != .flowSequenceEnd then
      pushState .flowSequenceEntry
      return ← parseNode false false
  setState (← popState)
  let _ ← popMark
  skipToken
  pure ⟨.sequenceEnd, t.start, t.stop⟩

def parseFlowSequenceEntryMappingKey : ParseM Event := do
  let t ← peekToken
  if t.kind != .value && t.kind != .flowEntry && t.kind != .flowSequenceEnd then
    pushState .flowSequenceEntryMappingValue
    parseNode false false
  else
    setState .flowSequenceEntryMappingValue
    pure (emptyScalar t.start)

def parseFlowSequenceEntryMappingValue : ParseM Event := do
  let t ← peekToken
  if t.kind == .value then
    skipToken
    let t ← peekToken
    if t.kind != .flowEntry && t.kind != .flowSequenceEnd then
      pushState .flowSequenceEntryMappingEnd
      return ← parseNode false false
    setState .flowSequenceEntryMappingEnd
    return emptyScalar t.start
  setState .flowSequenceEntryMappingEnd
  pure (emptyScalar t.start)

def parseFlowSequenceEntryMappingEnd : ParseM Event := do
  let t ← peekToken
  setState .flowSequenceEntry
  pure ⟨.mappingEnd, t.start, t.start⟩

def parseFlowMappingKey (first : Bool) : ParseM Event := do
  if first then
    pushMark (← peekToken).start
    skipToken
  let mut t ← peekToken
  if t.kind != .flowMappingEnd then
    if !first then
      if t.kind == .flowEntry then
        skipToken
        t ← peekToken
      else
        problemIn "while parsing a flow mapping" (← popMark) "did not find expected ',' or '\x7d'"
          t.start
    if t.kind == .key then
      skipToken
      let u ← peekToken
      if u.kind != .value && u.kind != .flowEntry && u.kind != .flowMappingEnd then
        pushState .flowMappingValue
        return ← parseNode false false
      setState .flowMappingValue
      return emptyScalar u.start
    else if t.kind != .flowMappingEnd then
      pushState .flowMappingEmptyValue
      return ← parseNode false false
  setState (← popState)
  let _ ← popMark
  skipToken
  pure ⟨.mappingEnd, t.start, t.stop⟩

def parseFlowMappingValue (empty : Bool) : ParseM Event := do
  let t ← peekToken
  if empty then
    setState .flowMappingKey
    return emptyScalar t.start
  if t.kind == .value then
    skipToken
    let t ← peekToken
    if t.kind != .flowEntry && t.kind != .flowMappingEnd then
      pushState .flowMappingKey
      return ← parseNode false false
    setState .flowMappingKey
    return emptyScalar t.start
  setState .flowMappingKey
  pure (emptyScalar t.start)

def parseDocumentContent : ParseM Event := do
  let t ← peekToken
  match t.kind with
  | .versionDirective .. | .tagDirective .. | .documentStart | .documentEnd | .streamEnd =>
    setState (← popState)
    pure (emptyScalar t.start)
  | _ => parseNode true false

def next : ParseM Event := do
  match (← get).state with
  | .streamStart => parseStreamStart
  | .implicitDocumentStart => parseDocumentStart true
  | .documentStart => parseDocumentStart false
  | .documentContent => parseDocumentContent
  | .documentEnd => parseDocumentEnd
  | .blockNode => parseNode true false
  | .blockNodeOrIndentlessSequence => parseNode true true
  | .flowNode => parseNode false false
  | .blockSequenceFirstEntry => parseBlockSequenceEntry true
  | .blockSequenceEntry => parseBlockSequenceEntry false
  | .indentlessSequenceEntry => parseIndentlessSequenceEntry
  | .blockMappingFirstKey => parseBlockMappingKey true
  | .blockMappingKey => parseBlockMappingKey false
  | .blockMappingValue => parseBlockMappingValue
  | .flowSequenceFirstEntry => parseFlowSequenceEntry true
  | .flowSequenceEntry => parseFlowSequenceEntry false
  | .flowSequenceEntryMappingKey => parseFlowSequenceEntryMappingKey
  | .flowSequenceEntryMappingValue => parseFlowSequenceEntryMappingValue
  | .flowSequenceEntryMappingEnd => parseFlowSequenceEntryMappingEnd
  | .flowMappingFirstKey => parseFlowMappingKey true
  | .flowMappingKey => parseFlowMappingKey false
  | .flowMappingValue => parseFlowMappingValue false
  | .flowMappingEmptyValue => parseFlowMappingValue true
  | .finished => throw { problem := "did not find expected <stream-start>" }

end Parser

end JobMatrix.Yaml
