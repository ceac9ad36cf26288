import JobMatrix.Yaml.Event

/-!
Documents: the node events of the first document of a YAML text, with each anchor replaced by
a number and each alias by the number of its anchor. An anchor takes the number of distinct
anchor names seen before it; a name defined again keeps the count unchanged, so a later new
name can take the same number, and the last node given a number is the one its aliases reach.

Loading stops at the first syntax fault or at an alias of an unknown anchor; the events read
until then are kept with the fault. A text with no document at all has one empty entry. The
load also tells whether anything follows the first document.
-/

namespace JobMatrix.Yaml

/-- A node event of a loaded document. -/
inductive Entry where
  | alias (id : Nat)
  | scalar (tag : Option TagText) (text : String) (style : ScalarStyle)
  | sequenceStart (tag : Option TagText)
  | sequenceEnd
  | mappingStart (tag : Option TagText)
  | mappingEnd
  /-- Stands for the missing node of an empty text. -/
  | void
  deriving Inhabited

inductive LoadFault where
  | malformed (e : SyntaxError)
  | unknownAnchor (mark : Mark)
  deriving Inhabited

structure Document where
  entries : Array (Entry × Mark) := #[]
  /-- For each anchor number, the entry it names. -/
  targets : List (Nat × Nat) := []
  fault : Option LoadFault := none
  deriving Inhabited

/-- A loaded text: its first document, and whether anything follows that document. -/
structure Loaded where
  document : Document
  more : Bool

namespace Document

def target? (d : Document) (id : Nat) : Option Nat :=
  (d.targets.find? (·.1 == id)).map (·.2)

structure Loading where
  document : Document := {}
  anchors : List (String × Nat) := []

/-- Gives an anchor its number and points the number at the next entry. -/
def Loading.anchor (l : Loading) (name : Option String) : Loading :=
  match name with
  | none => l
  | some n =>
    let id := l.anchors.length
    let anchors := if l.anchors.any (·.1 == n) then
        l.anchors.map fun (m, i) => if m == n then (m, id) else (m, i)
      else l.anchors ++ [(n, id)]
    let d := l.document
    { anchors, document := { d with targets := (id, d.entries.size) :: d.targets } }

def Loading.add (l : Loading) (e : Entry) (m : Mark) : Loading :=
  let d := l.document
  { l with document := { d with entries := d.entries.push (e, m) } }

/-- Reads the events of the first document. Returns the loading state, the grammar after the
document, and whether loading may go on past it. -/
def loadEvents : Nat → Loading → Parser → Loading × Parser × Bool
  | 0, l, p => (l, p, false)
  | fuel + 1, l, p =>
    match Parser.next.run p with
    | .error e =>
      let d := l.document
      ({ l with document := { d with fault := some (.malformed e) } }, p, false)
    | .ok (ev, p') =>
      match ev.kind with
      | .streamStart | .documentStart _ => loadEvents fuel l p'
      | .streamEnd =>
        let l := if l.document.entries.isEmpty then l.add .void ev.start else l
        (l, p', false)
      | .documentEnd _ => (l, p', true)
      | .alias name =>
        match l.anchors.find? (·.1 == name) with
        | some (_, id) => loadEvents fuel (l.add (.alias id) ev.start) p'
        | none =>
          let d := l.document
          ({ l with document := { d with fault := some (.unknownAnchor ev.start) } }, p', false)
      | .scalar anchor tag text style =>
        loadEvents fuel ((l.anchor anchor).add (.scalar tag text style) ev.start) p'
      | .sequenceStart anchor tag =>
        loadEvents fuel ((l.anchor anchor).add (.sequenceStart tag) ev.start) p'
      | .sequenceEnd => loadEvents fuel (l.add .sequenceEnd ev.start) p'
      | .mappingStart anchor tag =>
        loadEvents fuel ((l.anchor anchor).add (.mappingStart tag) ev.start) p'
      | .mappingEnd => loadEvents fuel (l.add .mappingEnd ev.start) p'

def load (text : String) : Loaded :=
  let stream := Token.scan text
  let fuel := 4 * stream.tokens.size + 8
  let (l, p, goesOn) := loadEvents fuel {} { stream }
  let more :=
    goesOn &&
      match Parser.next.run p with
      | .ok (ev, _) => ev.kind != .streamEnd
      | .error _ => true
  ⟨l.document, more⟩

end Document

end JobMatrix.Yaml
