import JobMatrix.Yaml.Token

/-!
What a scalar means. A plain scalar without a tag is read by the YAML 1.2 core schema: empty,
`null`, `Null`, `NULL` and `~` are null; `true`/`false` in three spellings are booleans;
integers are decimal, or hexadecimal, octal and binary after `0x`, `0o`, `0b`, with an
optional sign; other numbers are decimal floats, and `.inf`, `-.inf` and `.nan` in three
spellings. A number written with a leading zero and digits only (`007`) is text. The tags
`!!bool`, `!!int`, `!!float` and `!!null` demand their kind; any other tag, and any quoted or
block scalar, is text.
Integers are kept apart by the width they need: 64 bits unsigned, else signed, else 128 bits.
-/

namespace JobMatrix.Yaml

def standardTag (name : String) : TagText :=
  TagText.ofString ("tag:yaml.org,2002:" ++ name)

/-- What a scalar means. -/
inductive Reading where
  | null
  | bool (b : Bool)
  /-- An integer that fits 64 bits unsigned. -/
  | unsigned (n : Nat)
  /-- A negative integer that fits 64 bits signed. -/
  | signed (i : Int)
  /-- An integer that needs 128 bits unsigned. -/
  | wideUnsigned (n : Nat)
  /-- A negative integer that needs 128 bits signed. -/
  | wideSigned (i : Int)
  | float (x : Float)
  | text (s : String)
  deriving Inhabited

namespace Reading

def isNull (s : String) : Bool :=
  s == "null" || s == "Null" || s == "NULL" || s == "~"

def bool? (s : String) : Option Bool :=
  if s == "true" || s == "True" || s == "TRUE" then some true
  else if s == "false" || s == "False" || s == "FALSE" then some false
  else none

def digitValue (radix : Nat) (c : Char) : Option Nat :=
  let v :=
    if c.isDigit then c.toNat - '0'.toNat
    else if 'a' ≤ c && c ≤ 'z' then c.toNat - 'a'.toNat + 10
    else if 'A' ≤ c && c ≤ 'Z' then c.toNat - 'A'.toNat + 10
    else radix
  if v < radix then some v else none

def digits? (radix : Nat) (cs : List Char) : Option Nat :=
  if cs.isEmpty then none
  else cs.foldlM (fun acc c => (digitValue radix c).map (acc * radix + ·)) 0

/-- An integer of a radix with an optional sign (`-` only when `signed`), within the range of
a word of `bits` bits. -/
def ofRadix? (signed : Bool) (bits : Nat) (radix : Nat) (s : String) : Option Int :=
  let inRange (v : Int) : Option Int :=
    if signed then
      if -Int.pow 2 (bits - 1) ≤ v && v < Int.pow 2 (bits - 1) then some v else none
    else if 0 ≤ v && v < Int.pow 2 bits then some v else none
  match s.toList with
  | '+' :: rest => (digits? radix rest).bind fun n => inRange n
  | '-' :: rest => if signed then (digits? radix rest).bind fun n => inRange (-(n : Int)) else none
  | cs => (digits? radix cs).bind fun n => inRange n

def leadingZeroDigits (s : String) : Bool :=
  let cs := match s.toList with
    | '-' :: rest => rest
    | '+' :: rest => rest
    | cs => cs
  match cs with
  | '0' :: rest => !rest.isEmpty && rest.all Char.isDigit
  | _ => false

def startsSigned (s : String) : Bool :=
  s.startsWith "+" || s.startsWith "-"

def unsigned? (bits : Nat) (s : String) : Option Int := do
  let u := if s.startsWith "+" then s.drop 1 |>.toString else s
  let pick (pfx : String) (radix : Nat) : Option (Option Int) :=
    if u.startsWith pfx then
      let rest := (u.drop pfx.length).toString
      if startsSigned rest then some none
      else match ofRadix? false bits radix rest with
        | some v => some (some v)
        | none => none
    else none
  match pick "0x" 16 with
  | some r => r
  | none =>
  match pick "0o" 8 with
  | some r => r
  | none =>
  match pick "0b" 2 with
  | some r => r
  | none =>
  if startsSigned u then none
  else if leadingZeroDigits s then none
  else ofRadix? false bits 10 u

def signed? (bits : Nat) (s : String) : Option Int := do
  let u ← if s.startsWith "+" then
      let rest := (s.drop 1).toString
      if startsSigned rest then none else some rest
    else some s
  let positive (pfx : String) (radix : Nat) : Option (Option Int) :=
    if u.startsWith pfx then
      let rest := (u.drop pfx.length).toString
      if startsSigned rest then some none
      else (ofRadix? true bits radix rest).map some
    else none
  let negative (pfx : String) (radix : Nat) : Option Int :=
    if s.startsWith pfx then ofRadix? true bits radix ("-" ++ (s.drop pfx.length).toString)
    else none
  match positive "0x" 16 with
  | some r => r
  | none =>
  match negative "-0x" 16 with
  | some v => some v
  | none =>
  match positive "0o" 8 with
  | some r => r
  | none =>
  match negative "-0o" 8 with
  | some v => some v
  | none =>
  match positive "0b" 2 with
  | some r => r
  | none =>
  match negative "-0b" 2 with
  | some v => some v
  | none =>
  if leadingZeroDigits s then none
  else ofRadix? true bits 10 u

/-- An integer, in the narrowest of the four word kinds that holds it. -/
def integer? (s : String) : Option Reading :=
  match unsigned? 64 s with
  | some v => some (.unsigned v.toNat)
  | none =>
  match signed? 64 s with
  | some v => some (if v < 0 then .signed v else .unsigned v.toNat)
  | none =>
  match unsigned? 128 s with
  | some v => some (.wideUnsigned v.toNat)
  | none =>
  match signed? 128 s with
  | some v => some (if v < 0 then .wideSigned v else .wideUnsigned v.toNat)
  | none => none

/-- A decimal float: an optional sign, digits with at most one point and at least one digit,
and an optional exponent. Returns the sign, the digits as a number, and the power of ten. -/
def decimal? (s : String) : Option (Bool × Nat × Int) :=
  let (negative, cs) := match s.toList with
    | '-' :: rest => (true, rest)
    | '+' :: rest => (false, rest)
    | cs => (false, cs)
  let whole := cs.takeWhile Char.isDigit
  let afterWhole := cs.dropWhile Char.isDigit
  let (fraction, afterFraction) := match afterWhole with
    | '.' :: rest => (rest.takeWhile Char.isDigit, rest.dropWhile Char.isDigit)
    | rest => ([], rest)
  if whole.isEmpty && fraction.isEmpty then none
  else
    let exponent : Option Int := match afterFraction with
      | [] => some 0
      | e :: rest =>
        if e == 'e' || e == 'E' then
          let (sign, ds) := match rest with
            | '-' :: ds => (-1, ds)
            | '+' :: ds => (1, ds)
            | ds => (1, ds)
          (digits? 10 ds).map fun n => sign * (n : Int)
        else none
    exponent.map fun x =>
      (negative, (digits? 10 (whole ++ fraction)).getD 0, x - fraction.length)

/-- The float nearest to `m · 10^e`; far out of range it is infinite or zero. -/
def floatOf (negative : Bool) (m : Nat) (e : Int) : Float :=
  let magnitude :=
    if m == 0 then 0.0
    else
      let size : Int := (Nat.repr m).length
      if e + size > 320 then 1.0 / 0.0
      else if e + size < -400 then 0.0
      else if e ≥ 0 then Float.ofScientific m false e.toNat
      else Float.ofScientific m true (-e).toNat
  if negative then -magnitude else magnitude

def float? (s : String) : Option Float :=
  let unpositive? : Option String :=
    if s.startsWith "+" then
      let rest := (s.drop 1).toString
      if startsSigned rest then none else some rest
    else some s
  match unpositive? with
  | none => none
  | some u =>
    if u == ".inf" || u == ".Inf" || u == ".INF" then some (1.0 / 0.0)
    else if s == "-.inf" || s == "-.Inf" || s == "-.INF" then some (-(1.0 / 0.0))
    else if s == ".nan" || s == ".NaN" || s == ".NAN" then some (0.0 / 0.0)
    else
      match decimal? u with
      | some (negative, m, e) =>
        let x := floatOf negative m e
        if x.isFinite then some x else none
      | none => none

def ofPlain (s : String) : Reading :=
  if s.isEmpty || isNull s then .null
  else match bool? s with
    | some b => .bool b
    | none =>
    match integer? s with
    | some r => r
    | none =>
    if leadingZeroDigits s then .text s
    else match float? s with
      | some x => .float x
      | none => .text s

/-- The meaning of a scalar with its tag and style. A tag that demands a kind the text does not
have gives the text and the kind expected. `tagged` says that the tag was already taken as the
name of a tagged value. -/
def ofScalar (tag : Option TagText) (text : String) (style : ScalarStyle) (tagged : Bool) :
    Except (String × String) Reading :=
  match tag, tagged with
  | some t, false =>
    if t == standardTag "bool" then
      match bool? text with
      | some b => .ok (.bool b)
      | none => .error (text, "a boolean")
    else if t == standardTag "int" then
      match integer? text with
      | some r => .ok r
      | none => .error (text, "an integer")
    else if t == standardTag "float" then
      match float? text with
      | some x => .ok (.float x)
      | none => .error (text, "a float")
    else if t == standardTag "null" then
      if isNull text then .ok .null else .error (text, "null")
    else if t.isLocal && style == .plain then .ok (ofPlain text)
    else .ok (.text text)
  | _, _ => if style == .plain then .ok (ofPlain text) else .ok (.text text)

end Reading

end JobMatrix.Yaml
