import JobMatrix.Yaml.Decode

/-!
YAML values: any node of a document read without a type in mind. Scalars take the meaning the
core schema gives them; a mapping keeps its entries in document order and refuses a key it
already has; a node with a local tag (`!name`) is a tagged value. Integers that need 128 bits
have no value here.
-/

namespace JobMatrix.Yaml

/-- A number: a non-negative or a negative integer of 64 bits, or a float. -/
inductive Number where
  | posInt (n : Nat)
  | negInt (i : Int)
  | float (x : Float)
  deriving Inhabited

inductive Value where
  | null
  | bool (b : Bool)
  | number (n : Number)
  | string (s : String)
  | sequence (items : List Value)
  | mapping (entries : List (Value × Value))
  | tagged (tag : String) (value : Value)
  deriving Inhabited

namespace Number

/-- Equal numbers: the same integer, or floats that compare equal; all not-a-numbers are one
value. -/
def same : Number → Number → Bool
  | .posInt a, .posInt b => a == b
  | .negInt a, .negInt b => a == b
  | .float a, .float b => (a.isNaN && b.isNaN) || a == b
  | _, _ => false

/-- A number as a key is shown: integers in decimal, floats by their shortest digits with an
exponent outside `1e-5` to `1e16`, and `.nan`, `.inf`, `-.inf`. -/
def text : Number → String
  | .posInt n => toString n
  | .negInt i => toString i
  | .float x =>
    if x.isNaN then ".nan"
    else if x.isInf then (if x < 0 then "-.inf" else ".inf")
    else (Decimal.shortest x).compact

end Number

def tagCore (t : String) : String :=
  if t.startsWith "!" && t.length > 1 then (t.drop 1).toString else t

namespace Value

/-- Equal values, looking `fuel` levels deep: mappings are equal when they have the same keys
with equal values, in any order. Values read from a document nest at most 128 levels. -/
def sameTo : Nat → Value → Value → Bool
  | 0, _, _ => true
  | fuel + 1, a, b =>
    match a, b with
    | .null, .null => true
    | .bool x, .bool y => x == y
    | .number x, .number y => x.same y
    | .string x, .string y => x == y
    | .sequence xs, .sequence ys =>
      xs.length == ys.length && (xs.zip ys).all fun (x, y) => sameTo fuel x y
    | .mapping xs, .mapping ys =>
      xs.length == ys.length &&
        xs.all fun (k, v) => ys.any fun (k', v') => sameTo fuel k k' && sameTo fuel v v'
    | .tagged t x, .tagged u y => tagCore t == tagCore u && sameTo fuel x y
    | _, _ => false

def same (a b : Value) : Bool := sameTo 256 a b

def duplicateMessage (k : Value) : String :=
  "duplicate entry " ++
    match k with
    | .null => "with null key"
    | .bool b => "with key `" ++ toString b ++ "`"
    | .number n => "with key " ++ n.text
    | .string s => "with key " ++ Text.quoted s
    | _ => "in YAML map"

/-- The tag of a node read as a tagged value: a local tag without its `!` (a lone `!` stays),
if that is UTF-8. -/
def localTag (tag : Option TagText) : Option String :=
  match tag with
  | some t => if t.isLocal then TagText.toString? (if t.length == 1 then t else t.drop 1) else none
  | none => none

/-- The value of a scalar; `tagged` says its tag already names a tagged value. -/
def ofScalar (tag : Option TagText) (text : String) (style : ScalarStyle) (tagged : Bool) :
    Except DecodeError Value :=
  match Reading.ofScalar tag text style tagged with
  | .error (t, kind) => .error (.invalidValue (.str t) kind)
  | .ok r =>
    match r with
    | .null => .ok .null
    | .bool b => .ok (.bool b)
    | .unsigned n => .ok (.number (.posInt n))
    | .signed i => .ok (.number (.negInt i))
    | .float x => .ok (.number (.float x))
    | .text s => .ok (.string s)
    | r => .error (.invalidType r.unexpected "any YAML value")

def withTag (tag : Option TagText) (v : Value) : Value :=
  match localTag tag with
  | some t => .tagged t v
  | none => v

/-- Reads any node as a value; `fuel` exceeds the nesting still allowed. -/
def read : Nat → Here → DecodeM Value
  | 0, _ => throw .endOfStream
  | fuel + 1, h => readNode h fun h e m => placed m h.path do
    match e with
    | .scalar tag text style =>
      let tagged := (localTag tag).isSome
      withTag tag <$> liftM (m := Except DecodeError) (ofScalar tag text style tagged)
    | .sequenceStart tag =>
      withTag tag <$> within h m fun h' => Value.sequence <$> readItems (read fuel) h'
    | .mappingStart tag =>
      let entry (acc : List (Value × Value)) (key : Option String) (h'' : Here) :
          DecodeM (List (Value × Value)) := do
        let k ← read fuel h''
        if let some (first, _) := acc.find? fun (k', _) => k'.same k then
          throw (.custom (duplicateMessage first) none)
        let v ← read fuel (h''.valueOf key)
        pure (acc ++ [(k, v)])
      withTag tag <$> within h m fun h' => Value.mapping <$> readEntries [] entry h'
    | .void => pure .null
    | _ => throw .endOfStream

def readAny (h : Here) : DecodeM Value :=
  read (h.depth + 1) h

end Value

end JobMatrix.Yaml
