import JobMatrix.Yaml.Document
import JobMatrix.Yaml.Scalar
import JobMatrix.Decimal.Shortest
import JobMatrix.Text.Quoted

/-!
Typed reading of a loaded document. A reader walks the entries from the first one, follows an
alias to the node its anchor names and comes back after it, and reports a wrong node as the
kind it met and the kind it expected. Every report of a reader is placed at the innermost node
being read and at its path in the document (`steps[0].name`); a report that reaches a mapping
or sequence unplaced takes that container's place.

Limits: a reader enters at most 128 nested containers, and follows at most a hundred aliases
per entry of the document. An empty document, and an empty plain scalar, read as an empty
mapping or sequence where one is expected.
-/

namespace JobMatrix.Yaml

/-- Where a node sits in the document. -/
inductive Path where
  | root
  | index (parent : Path) (i : Nat)
  | key (parent : Path) (k : String)
  /-- The node an alias at `parent` refers to; it shows as its parent. -/
  | alias (parent : Path)
  | unknownKey (parent : Path)
  deriving Inhabited

/-- The text of a path: `.` for the whole document, then keys joined by dots and indices in
brackets. -/
def Path.text : Path → String
  | .root => "."
  | .index p i => p.text ++ "[" ++ toString i ++ "]"
  | .key p k => (match p with | .root => "" | _ => p.text ++ ".") ++ k
  | .alias p => p.text
  | .unknownKey p => (match p with | .root => "" | _ => p.text ++ ".") ++ "?"

inductive Unexpected where
  | bool (b : Bool)
  | unsigned (n : Nat)
  | signed (i : Int)
  | float (x : Float)
  | str (s : String)
  | unit
  | seq
  | map
  | other (text : String)

/-- A float as a message shows it: shortest digits, never an exponent, and `.0` after an
integer. -/
def floatText (x : Float) : String :=
  if x.isNaN then "NaN"
  else if x.isInf then (if x < 0 then "-inf" else "inf")
  else
    let t := (Decimal.shortest x).plain
    if t.contains '.' then t else t ++ ".0"

def Unexpected.text : Unexpected → String
  | .bool b => "boolean `" ++ toString b ++ "`"
  | .unsigned n => "integer `" ++ toString n ++ "`"
  | .signed i => "integer `" ++ toString i ++ "`"
  | .float x => "floating point `" ++ floatText x ++ "`"
  | .str s => "string " ++ Text.quoted s
  | .unit => "unit value"
  | .seq => "sequence"
  | .map => "map"
  | .other t => t

def Reading.unexpected : Reading → Unexpected
  | .null => .unit
  | .bool b => .bool b
  | .unsigned n => .unsigned n
  | .signed i => .signed i
  | .wideUnsigned n => .other ("integer `" ++ toString n ++ "` as u128")
  | .wideSigned i => .other ("integer `" ++ toString i ++ "` as i128")
  | .float x => .float x
  | .text s => .str s

/-- Why typed reading failed. -/
inductive DecodeError where
  | malformed (e : SyntaxError)
  | custom (text : String) (place : Option (Mark × Path))
  | endOfStream
  | moreThanOneDocument
  | recursionLimit (mark : Mark)
  | repetitionLimit
  | unknownAnchor (mark : Mark)
  deriving Inhabited

namespace DecodeError

def invalidType (u : Unexpected) (expected : String) : DecodeError :=
  .custom ("invalid type: " ++ u.text ++ ", expected " ++ expected) none

def invalidValue (u : Unexpected) (expected : String) : DecodeError :=
  .custom ("invalid value: " ++ u.text ++ ", expected " ++ expected) none

def place (e : DecodeError) (m : Mark) (p : Path) : DecodeError :=
  match e with
  | .custom t none => .custom t (some (m, p))
  | e => e

def mark? : DecodeError → Option Mark
  | .custom _ (some (m, _)) => some m
  | .recursionLimit m => some m
  | .unknownAnchor m => some m
  | _ => none

def headline : DecodeError → String
  | .malformed e => e.message
  | .custom t none => t
  | .custom t (some (_, p)) =>
    let where_ := p.text
    (if where_ == "." then "" else where_ ++ ": ") ++ t
  | .endOfStream => "EOF while parsing a value"
  | .moreThanOneDocument =>
    "deserializing from YAML containing more than one document is not supported"
  | .recursionLimit _ => "recursion limit exceeded"
  | .repetitionLimit => "repetition limit exceeded"
  | .unknownAnchor _ => "unknown anchor"

/-- The full message: syntax faults as the YAML reader words them, other reports followed by
`at line L column C` unless they are placed at the very start of the text. -/
def message (e : DecodeError) : String :=
  match e with
  | .malformed s => s.message
  | _ =>
    match e.mark? with
    | some m => if m.line == 0 && m.column == 0 then e.headline else e.headline ++ " at " ++ m.text
    | none => e.headline

end DecodeError

def Entry.mismatch (e : Entry) (expected : String) : DecodeError :=
  match e with
  | .scalar tag text style =>
    match Reading.ofScalar tag text style false with
    | .ok r => .invalidType r.unexpected expected
    | .error (t, kind) => .invalidValue (.str t) kind
  | .sequenceStart _ => .invalidType .seq expected
  | .mappingStart _ => .invalidType .map expected
  | _ => .endOfStream

/-- Whether an entry reads as an empty container: an empty plain scalar, or an empty
document. -/
def Entry.isEmptyNode : Entry → Bool
  | .scalar _ t .plain => t.isEmpty
  | .void => true
  | _ => false

/-- The walk through the entries: the next entry to read and the aliases followed so far. -/
structure Walk where
  pos : Nat := 0
  jumps : Nat := 0

abbrev DecodeM := StateT Walk (Except DecodeError)

/-- What a reader knows of the node it reads: the document, how many more containers it may
enter, and the node's path. -/
structure Here where
  doc : Document
  depth : Nat
  path : Path

namespace Here

def at_ (h : Here) (p : Path) : Here := { h with path := p }

def valueOf (h : Here) (key : Option String) : Here :=
  h.at_ (match key with | some k => .key h.path k | none => .unknownKey h.path)

def inner (h : Here) : Here := { h with depth := h.depth - 1 }

end Here

def Document.endError (d : Document) : DecodeError :=
  match d.fault with
  | some (.malformed e) => .malformed e
  | some (.unknownAnchor m) => .unknownAnchor m
  | none => .endOfStream

def peekEntry (d : Document) : DecodeM (Entry × Mark) := do
  match d.entries[(← get).pos]? with
  | some e => pure e
  | none => throw d.endError

def nextEntry (d : Document) : DecodeM (Entry × Mark) := do
  let e ← peekEntry d
  modify fun w => { w with pos := w.pos + 1 }
  pure e

def placed (m : Mark) (p : Path) (k : DecodeM α) : DecodeM α :=
  tryCatch k fun e => throw (e.place m p)

def jump (d : Document) (id : Nat) (k : DecodeM α) : DecodeM α := do
  let w ← get
  let jumps := w.jumps + 1
  if jumps > d.entries.size * 100 then throw .repetitionLimit
  match d.target? id with
  | none => throw .endOfStream
  | some target =>
    set ({ pos := target, jumps } : Walk)
    let a ← k
    modify fun w' => { w' with pos := w.pos }
    pure a

/-- Reads one node with `read`, which gets the node's entry and mark and its place; an alias
is followed, and the node it names keeps the alias's path. -/
def readNode (h : Here) (read : Here → Entry → Mark → DecodeM α) : DecodeM α := do
  let (e, m) ← nextEntry h.doc
  match e with
  | .alias id => jump h.doc id do
      let (e', m') ← nextEntry h.doc
      read (h.at_ (.alias h.path)) e' m'
  | _ => read h e m

def readText (expected : String) (h : Here) : DecodeM String :=
  readNode h fun h e m => placed m h.path do
    match e with
    | .scalar _ t _ => pure t
    | _ => throw (e.mismatch expected)

def skipNode (d : Document) : DecodeM Unit := do
  let mut open_ := 0
  for _ in [0:d.entries.size + 1] do
    let (e, _) ← nextEntry d
    match e with
    | .sequenceStart _ | .mappingStart _ => open_ := open_ + 1
    | .sequenceEnd | .mappingEnd => open_ := open_ - 1
    | _ => pure ()
    if open_ == 0 then break

def readItems (element : Here → DecodeM α) (h : Here) : DecodeM (List α) := do
  let mut items : Array α := #[]
  for _ in [0:h.doc.entries.size + 1] do
    let (e, _) ← peekEntry h.doc
    match e with
    | .sequenceEnd | .void => break
    | _ => items := items.push (← element (h.at_ (.index h.path items.size)))
  pure items.toList

/-- Enters a container whose start entry has been read: fails past the nesting limit, reads
the contents one level deeper, then reads the end entry. -/
def within (h : Here) (m : Mark) (contents : Here → DecodeM α) : DecodeM α := do
  if h.depth == 0 then throw (.recursionLimit m)
  let a ← contents h.inner
  let _ ← nextEntry h.doc
  pure a

def readSeq (expected : String) (element : Here → DecodeM α) (h : Here) : DecodeM (List α) :=
  readNode h fun h e m => placed m h.path do
    match e with
    | .sequenceStart _ => within h m (readItems element)
    | _ => if e.isEmptyNode then pure [] else throw (e.mismatch expected)

/-- Reads the entries of a mapping up to its end. `entry` reads one key and its value, given
the key's text when the key is a scalar. -/
def readEntries (init : σ) (entry : σ → Option String → Here → DecodeM σ) (h : Here) :
    DecodeM σ := do
  let mut st := init
  for _ in [0:h.doc.entries.size + 1] do
    let (e, _) ← peekEntry h.doc
    match e with
    | .mappingEnd | .void => break
    | .scalar _ t _ => st ← entry st (some t) h
    | _ => st ← entry st none h
  pure st

/-- Reads a mapping: from `init`, `entry` reads each key and value, and `finish` makes the
result; its reports are placed at the mapping. -/
def readMap (expected : String) (init : σ) (entry : σ → Option String → Here → DecodeM σ)
    (finish : σ → Except DecodeError α) (h : Here) : DecodeM α :=
  readNode h fun h e m => placed m h.path do
    match e with
    | .mappingStart _ => within h m fun h' => do
        let st ← readEntries init entry h'
        liftM (m := Except DecodeError) (finish st)
    | _ =>
      if e.isEmptyNode then liftM (m := Except DecodeError) (finish init)
      else throw (e.mismatch expected)

/-- Reads an optional node: a null or empty plain scalar, or an empty document, is absent;
a scalar tagged as null must spell null; anything else is read by `inner`. -/
def readOption (inner : Here → DecodeM α) (h : Here) : DecodeM (Option α) := do
  let (e, _) ← peekEntry h.doc
  match e with
  | .alias id =>
    modify fun w => { w with pos := w.pos + 1 }
    jump h.doc id (present inner (h.at_ (.alias h.path)))
  | _ => present inner h
where
  present (inner : Here → DecodeM α) (h : Here) : DecodeM (Option α) := do
    let (e, _) ← peekEntry h.doc
    let some_ ← match e with
      | .scalar tag text style =>
        if style != .plain then pure true
        else match tag with
          | some t =>
            if t == standardTag "null" then
              if Reading.isNull text then pure false
              else throw (DecodeError.invalidValue (.str text) "null")
            else pure true
          | none => pure (!text.isEmpty && !Reading.isNull text)
      | .void => pure false
      | _ => pure true
    if some_ then some <$> inner h
    else do
      modify fun w => { w with pos := w.pos + 1 }
      pure none

/-- Reads a whole text with a reader of its first document. The reader's report comes first;
then a syntax fault of the document, then any second document. -/
def decodeText (read : Here → DecodeM α) (text : String) : Except DecodeError α :=
  let loaded := Document.load text
  let d := loaded.document
  match (read ⟨d, 128, .root⟩).run {} with
  | .error e => .error e
  | .ok (a, _) =>
    match d.fault with
    | some _ => .error d.endError
    | none => if loaded.more then .error .moreThanOneDocument else .ok a

end JobMatrix.Yaml
