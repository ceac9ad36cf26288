import JobMatrix.Yaml.Token.Cursor

/-!
Reading the tokens that carry text: directives, anchors and aliases, tags, and scalars in
their five styles. Each reader starts at the token's first character and leaves the scanner
after its last.

Line folding: inside a plain or quoted scalar, a single line break between two pieces of text
reads as one space, more line breaks read as all but the first, and the blanks around them are
dropped. Block scalars keep their lines (`|`) or fold them (`>`), and their last line breaks are
kept, dropped or reduced to one by the chomping indicator.
-/

namespace JobMatrix.Yaml.Scanner

open Chars

/-- Whether the next three characters are `---` or `...` at the start of a line, followed by a
blank, a line break or the end. -/
def atDocumentMarker : ScanM Bool := do
  let m ← here
  let c0 ← peekAt 0
  let c1 ← peekAt 1
  let c2 ← peekAt 2
  let c3 ← peekAt 3
  pure (m.column == 0 && ((c0 == '-' && c1 == '-' && c2 == '-') ||
    (c0 == '.' && c1 == '.' && c2 == '.')) && isSpacing c3)

def scanAnchor (isAlias : Bool) : ScanM Token := do
  let start ← here
  skip
  let name ← readWhile isWord
  let stop ← here
  let c ← peek
  if name.isEmpty || !(isSpacing c || c == '?' || c == ':' || c == ',' || c == ']' ||
      c == '}' || c == '%' || c == '@' || c == '`') then
    fail (some (if isAlias then "while scanning an alias" else "while scanning an anchor")) start
      "did not find expected alphabetic or numeric character"
  pure ⟨if isAlias then .alias name else .anchor name, start, stop⟩

/-- A tag handle: `!`, `!!` or `!word!`; in a tag, also `!word` that turns out to be the start
of a suffix. -/
def scanTagHandle (directive : Bool) (start : Mark) : ScanM String := do
  if (← peek) != '!' then
    fail (some (if directive then "while scanning a tag directive" else "while scanning a tag"))
      start "did not find expected '!'"
  skip
  let mut handle := "!" ++ (← readWhile isWord)
  if (← peek) == '!' then
    skip
    handle := handle.push '!'
  else if directive && handle != "!" then
    fail (some "while parsing a tag directive") start "did not find expected '!'"
  pure handle

/-- A character allowed in a tag; `,`, `[` and `]` only inside `!<...>` and in `%TAG`. -/
def isUriChar (brackets : Bool) (c : Char) : Bool :=
  isWord c || ";/?:@&=+$.%!~*'()".toList.contains c ||
    (brackets && (c == ',' || c == '[' || c == ']'))

/-- One character written as `%`-escaped UTF-8 octets; the octets are kept as written, so
only their lead and trail bits are checked. -/
def scanUriEscape (directive : Bool) (start : Mark) : ScanM TagText := do
  let context := if directive then "while parsing a %TAG directive" else "while parsing a tag"
  let mut bytes : Array UInt8 := #[]
  let mut width := 0
  for _ in [0:4] do
    let c0 ← peekAt 0
    let c1 ← peekAt 1
    let c2 ← peekAt 2
    if !(c0 == '%' && isHex c1 && isHex c2) then
      fail (some context) start "did not find URI escaped octet"
    let octet := hexValue c1 * 16 + hexValue c2
    if width == 0 then
      width :=
        if octet < 0x80 then 1
        else if octet / 0x20 == 0x06 then 2
        else if octet / 0x10 == 0x0E then 3
        else if octet / 0x08 == 0x1E then 4
        else 0
      if width == 0 then
        fail (some context) start "found an incorrect leading UTF-8 octet"
    else if octet / 0x40 != 0x02 then
      fail (some context) start "found an incorrect trailing UTF-8 octet"
    bytes := bytes.push octet.toUInt8
    skip
    skip
    skip
    if bytes.size == width then break
  pure bytes.toList

/-- The suffix of a tag, or the prefix of a `%TAG` directive, up to its first zero byte. A
`head` read as a handle that was not one is put in front, less its `!`. -/
def scanTagUri (brackets directive : Bool) (head : Option String) (start : Mark) :
    ScanM TagText := do
  let mut length := (head.map String.length).getD 0
  let mut text : TagText := match head with
    | some h => TagText.ofString (String.ofList (h.toList.drop 1))
    | none => []
  for _ in [0:← budget] do
    let c ← peek
    if !isUriChar brackets c then break
    if c == '%' then
      text := text ++ (← scanUriEscape directive start)
    else
      text := text ++ TagText.ofString (String.singleton (← read))
    length := length + 1
  if length == 0 then
    fail (some (if directive then "while parsing a %TAG directive" else "while parsing a tag"))
      start "did not find expected tag URI"
  pure text.cut

def scanTag : ScanM Token := do
  let start ← here
  let (handle, suffix) ← do
    if (← peekAt 1) == '<' then
      skip
      skip
      let suffix ← scanTagUri true false none start
      if (← peek) != '>' then
        fail (some "while scanning a tag") start "did not find the expected '>'"
      skip
      pure ("", suffix)
    else
      let handle ← scanTagHandle false start
      if handle.length > 1 && handle.back == '!' then
        pure (handle, ← scanTagUri false false none start)
      else
        let suffix ← scanTagUri false false (some handle) start
        if suffix.isEmpty then pure ("", TagText.ofString "!") else pure ("!", suffix)
  let c ← peek
  if !isSpacing c && ((← get).flowLevel == 0 || c != ',') then
    fail (some "while scanning a tag") start "did not find expected whitespace or line break"
  pure ⟨.tag handle suffix, start, ← here⟩

def scanVersionNumber (start : Mark) : ScanM Nat := do
  let mut value := 0
  let mut length := 0
  for _ in [0:← budget] do
    let c ← peek
    if !c.isDigit then break
    length := length + 1
    if length > 9 then
      fail (some "while scanning a %YAML directive") start "found extremely long version number"
    value := value * 10 + (c.toNat - '0'.toNat)
    skip
  if length == 0 then
    fail (some "while scanning a %YAML directive") start "did not find expected version number"
  pure value

def scanDirective : ScanM Token := do
  let start ← here
  skip
  let name ← readWhile isWord
  if name.isEmpty then
    fail (some "while scanning a directive") start "could not find expected directive name"
  if !isSpacing (← peek) then
    fail (some "while scanning a directive") start "found unexpected non-alphabetical character"
  let kind ← do
    if name == "YAML" then
      skipWhile isBlank
      let major ← scanVersionNumber start
      if (← peek) != '.' then
        fail (some "while scanning a %YAML directive") start
          "did not find expected digit or '.' character"
      skip
      let minor ← scanVersionNumber start
      pure (TokenKind.versionDirective major minor)
    else if name == "TAG" then
      skipWhile isBlank
      let handle ← scanTagHandle true start
      if !isBlank (← peek) then
        fail (some "while scanning a %TAG directive") start "did not find expected whitespace"
      skipWhile isBlank
      let pfx ← scanTagUri true true none start
      if !isSpacing (← peek) then
        fail (some "while scanning a %TAG directive") start
          "did not find expected whitespace or line break"
      pure (TokenKind.tagDirective handle pfx)
    else
      fail (some "while scanning a directive") start "found unknown directive name"
  let stop ← here
  skipWhile isBlank
  if (← peek) == '#' then skipWhile (!isBreakOrEnd ·)
  if !isBreakOrEnd (← peek) then
    fail (some "while scanning a directive") start "did not find expected comment or line break"
  if isBreak (← peek) then skipLine
  pure ⟨kind, start, stop⟩

/-- The text that joins two pieces of a folded scalar: the blanks between them if they are on
one line; else a space for a single line break, or the line breaks after the first. -/
def joinFolded (leadingBlanks : Bool) (whitespaces leadingBreak trailingBreaks : String) :
    String :=
  if leadingBlanks then
    if leadingBreak == "\n" then
      if trailingBreaks.isEmpty then " " else trailingBreaks
    else
      leadingBreak ++ trailingBreaks
  else
    whitespaces

/-- A plain scalar: it ends before `: `, ` #`, a document marker, a line less indented than the
enclosing block, and in a flow collection before `,`, `[`, `]`, `{` and `}`. -/
def scanPlain : ScanM Token := do
  let s0 ← get
  let indent : Int := s0.indent + 1
  let start := s0.mark
  let mut stop := start
  let mut text := ""
  let mut leadingBreak := ""
  let mut trailingBreaks := ""
  let mut whitespaces := ""
  let mut leadingBlanks := false
  let fuel ← budget
  for _ in [0:fuel] do
    if ← atDocumentMarker then break
    if (← peek) == '#' then break
    for _ in [0:fuel] do
      let c ← peek
      if isSpacing c then break
      let d ← peekAt 1
      let flow := (← get).flowLevel > 0
      if flow && c == ':' && (d == ',' || d == '?' || d == '[' || d == ']' || d == '{' ||
          d == '}') then
        fail (some "while scanning a plain scalar") start "found unexpected ':'"
      if (c == ':' && isSpacing d) ||
          (flow && (c == ',' || c == '[' || c == ']' || c == '{' || c == '}')) then
        break
      if leadingBlanks || !whitespaces.isEmpty then
        text := text ++ joinFolded leadingBlanks whitespaces leadingBreak trailingBreaks
        leadingBreak := ""
        trailingBreaks := ""
        whitespaces := ""
        leadingBlanks := false
      text := text.push (← read)
      stop ← here
    let c ← peek
    if !(isBlank c || isBreak c) then break
    for _ in [0:fuel] do
      let c ← peek
      if !(isBlank c || isBreak c) then break
      if isBlank c then
        if leadingBlanks && ((← here).column : Int) < indent && c == '\t' then
          fail (some "while scanning a plain scalar") start
            "found a tab character that violates indentation"
        if leadingBlanks then skip else whitespaces := whitespaces.push (← read)
      else if leadingBlanks then
        trailingBreaks := trailingBreaks ++ (← readLine)
      else
        whitespaces := ""
        leadingBreak ← readLine
        leadingBlanks := true
    if (← get).flowLevel == 0 && ((← here).column : Int) < indent then break
  if leadingBlanks then
    modify fun s => { s with simpleKeyAllowed := true }
  pure ⟨.scalar text .plain, start, stop⟩

/-- The character written by a one-letter escape in a double-quoted scalar, or the number of
hexadecimal digits that follow `x`, `u` or `U`. -/
def escapeOf (c : Char) : Option (Char ⊕ Nat) :=
  match c with
  | '0' => some (.inl '\x00')
  | 'a' => some (.inl '\x07')
  | 'b' => some (.inl '\x08')
  | 't' => some (.inl '\t')
  | '\t' => some (.inl '\t')
  | 'n' => some (.inl '\n')
  | 'v' => some (.inl '\x0b')
  | 'f' => some (.inl '\x0c')
  | 'r' => some (.inl '\r')
  | 'e' => some (.inl '\x1b')
  | ' ' => some (.inl ' ')
  | '"' => some (.inl '"')
  | '/' => some (.inl '/')
  | '\'' => some (.inl '\'')
  | '\\' => some (.inl '\\')
  | 'N' => some (.inl '\x85')
  | '_' => some (.inl '\xa0')
  | 'L' => some (.inl '\u2028')
  | 'P' => some (.inl '\u2029')
  | 'x' => some (.inr 2)
  | 'u' => some (.inr 4)
  | 'U' => some (.inr 8)
  | _ => none

def scanQuoted (single : Bool) : ScanM Token := do
  let start ← here
  let quote := if single then '\'' else '"'
  skip
  let mut text := ""
  let mut leadingBreak := ""
  let mut trailingBreaks := ""
  let mut whitespaces := ""
  let fuel ← budget
  for _ in [0:fuel] do
    if ← atDocumentMarker then
      fail (some "while scanning a quoted scalar") start "found unexpected document indicator"
    if isEnd (← peek) then
      fail (some "while scanning a quoted scalar") start "found unexpected end of stream"
    let mut leadingBlanks := false
    for _ in [0:fuel] do
      let c ← peek
      if isSpacing c then break
      let d ← peekAt 1
      if single && c == '\'' && d == '\'' then
        text := text.push '\''
        skip
        skip
      else if c == quote then
        break
      else if !single && c == '\\' && isBreak d then
        skip
        skipLine
        leadingBlanks := true
        break
      else if !single && c == '\\' then
        match escapeOf d with
        | none =>
          fail (some "while parsing a quoted scalar") start "found unknown escape character"
        | some (.inl e) =>
          text := text.push e
          skip
          skip
        | some (.inr digits) =>
          skip
          skip
          let mut value := 0
          for k in [0:digits] do
            let h ← peekAt k
            if !isHex h then
              fail (some "while parsing a quoted scalar") start
                "did not find expected hexadecimal number"
            value := value * 16 + hexValue h
          if (0xD800 ≤ value && value ≤ 0xDFFF) || value > 0x10FFFF then
            fail (some "while parsing a quoted scalar") start
              "found invalid Unicode character escape code"
          text := text.push (Char.ofNat value)
          for _ in [0:digits] do skip
      else
        text := text.push (← read)
    if (← peek) == quote then break
    for _ in [0:fuel] do
      let c ← peek
      if !(isBlank c || isBreak c) then break
      if isBlank c then
        if leadingBlanks then skip else whitespaces := whitespaces.push (← read)
      else if leadingBlanks then
        trailingBreaks := trailingBreaks ++ (← readLine)
      else
        whitespaces := ""
        leadingBreak ← readLine
        leadingBlanks := true
    text := text ++ joinFolded leadingBlanks whitespaces leadingBreak trailingBreaks
    leadingBreak := ""
    trailingBreaks := ""
    whitespaces := ""
  skip
  pure ⟨.scalar text (if single then .singleQuoted else .doubleQuoted), start, ← here⟩

/-- The indentation and empty lines before a line of a block scalar. With `indent` still 0
the indentation is taken from the first line that has text. Returns the indentation, the line
breaks read, and the position after the last of them. -/
def scanBlockBreaks (indent : Int) (start : Mark) : ScanM (Int × String × Mark) := do
  let mut indent := indent
  let mut breaks := ""
  let mut maxIndent : Int := 0
  let mut stop ← here
  let fuel ← budget
  for _ in [0:fuel] do
    for _ in [0:fuel] do
      if (indent == 0 || ((← here).column : Int) < indent) && (← peek) == ' ' then skip
      else break
    let column : Int := (← here).column
    if column > maxIndent then maxIndent := column
    if (indent == 0 || column < indent) && (← peek) == '\t' then
      fail (some "while scanning a block scalar") start
        "found a tab character where an indentation space is expected"
    if !isBreak (← peek) then break
    breaks := breaks ++ (← readLine)
    stop ← here
  if indent == 0 then
    let outer := (← get).indent
    indent := max (max maxIndent (outer + 1)) 1
  pure (indent, breaks, stop)

def scanBlockScalar (literal : Bool) : ScanM Token := do
  let start ← here
  skip
  let mut chomping : Int := 0
  let mut increment : Nat := 0
  let c ← peek
  if c == '+' || c == '-' then
    chomping := if c == '+' then 1 else -1
    skip
    let d ← peek
    if d.isDigit then
      if d == '0' then
        fail (some "while scanning a block scalar") start
          "found an indentation indicator equal to 0"
      increment := d.toNat - '0'.toNat
      skip
  else if c.isDigit then
    if c == '0' then
      fail (some "while scanning a block scalar") start "found an indentation indicator equal to 0"
    increment := c.toNat - '0'.toNat
    skip
    let d ← peek
    if d == '+' || d == '-' then
      chomping := if d == '+' then 1 else -1
      skip
  skipWhile isBlank
  if (← peek) == '#' then skipWhile (!isBreakOrEnd ·)
  if !isBreakOrEnd (← peek) then
    fail (some "while scanning a block scalar") start
      "did not find expected comment or line break"
  if isBreak (← peek) then skipLine
  let mut indent : Int := 0
  if increment != 0 then
    let outer := (← get).indent
    indent := if outer >= 0 then outer + increment else increment
  let (firstIndent, firstBreaks, firstStop) ← scanBlockBreaks indent start
  indent := firstIndent
  let mut trailingBreaks := firstBreaks
  let mut stop := firstStop
  let mut text := ""
  let mut leadingBreak := ""
  let mut leadingBlank := false
  let fuel ← budget
  for _ in [0:fuel] do
    if !(((← here).column : Int) == indent && !isEnd (← peek)) then break
    let trailingBlank := isBlank (← peek)
    if !literal && leadingBreak == "\n" && !leadingBlank && !trailingBlank then
      if trailingBreaks.isEmpty then text := text.push ' '
    else
      text := text ++ leadingBreak
    leadingBreak := ""
    text := text ++ trailingBreaks
    trailingBreaks := ""
    leadingBlank := isBlank (← peek)
    for _ in [0:fuel] do
      if isBreakOrEnd (← peek) then break
      text := text.push (← read)
    leadingBreak ← readLine
    let (nextIndent, breaks, nextStop) ← scanBlockBreaks indent start
    indent := nextIndent
    trailingBreaks := breaks
    stop := nextStop
  if chomping != -1 then text := text ++ leadingBreak
  if chomping == 1 then text := text ++ trailingBreaks
  pure ⟨.scalar text (if literal then .literal else .folded), start, stop⟩

end JobMatrix.Yaml.Scanner
