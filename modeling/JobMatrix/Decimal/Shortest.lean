/-!
Shortest decimal text of a binary64 float: the fewest significant digits that read back as the
same float, and of those the digits nearest to it. A finite float is `m · 2^q`; the reals that
round to it form an interval around it, whose ends belong to it when `m` is even. For one,
two, … seventeen digits the two neighbours of the value on that decimal grid are tested in
exact natural arithmetic, and the first grid with a neighbour inside wins; of two neighbours
inside, the nearer wins, and of two as near, the one with an even last digit.

Two layouts write the digits: `plain` never uses an exponent, and `compact` writes numbers
from `1e-5` below `1e16` in full and the others with an exponent.
-/

namespace JobMatrix.Decimal

/-- A finite float as `digits · 10^exponent`, with no trailing zero in `digits` (zero is
`0 · 10^0`). -/
structure Digits where
  negative : Bool
  digits : Nat
  exponent : Int
  deriving Repr, Inhabited

def fields (x : Float) : Bool × Nat × Nat :=
  let b := x.toBits.toNat
  (b / Nat.pow 2 63 == 1, (b / Nat.pow 2 52) % Nat.pow 2 11, b % Nat.pow 2 52)

/-- The significand and binary exponent of a finite float: its magnitude is `m · 2^q`. -/
def significand (e f : Nat) : Nat × Int :=
  if e == 0 then (f, -1074) else (f + Nat.pow 2 52, (e : Int) - 1075)

def atLeastPow10 (m : Nat) (q j : Int) : Bool :=
  m * Nat.pow 2 q.toNat * Nat.pow 10 (-j).toNat ≥ Nat.pow 10 j.toNat * Nat.pow 2 (-q).toNat

/-- The number of the value's digits before the point: `10^(k-1) ≤ m · 2^q < 10^k`, for
`m > 0`. The estimate from the binary exponent is off by at most one. -/
def pointPosition (m : Nat) (q : Int) : Int :=
  let guess : Int := (q + Nat.log2 m) * 30103 / 100000
  let fits (k : Int) : Bool := atLeastPow10 m q (k - 1) && !atLeastPow10 m q k
  match ((List.range 6).map fun (i : Nat) => guess - 2 + (i : Int)).find? fits with
  | some k => k
  | none => guess + 1

def trim (c : Nat) (e : Int) : Nat × Int :=
  let zeros := ((List.range 20).takeWhile fun i => c % Nat.pow 10 (i + 1) == 0).length
  if c == 0 then (0, 0) else (c / Nat.pow 10 zeros, e + zeros)

/-- The neighbour of `m · 2^q` with `n` significant digits that rounds back to it, if one
does. `narrow` says that the gap below is half the gap above. -/
def onGrid (m : Nat) (q : Int) (narrow : Bool) (k : Int) (n : Nat) : Option (Nat × Int) :=
  let e : Int := k - n
  let a : Nat := (-q).toNat + 2
  let b : Nat := (-e).toNat
  let v := m * Nat.pow 2 (q + a).toNat * Nat.pow 10 b
  let above := Nat.pow 2 (q - 1 + a).toNat * Nat.pow 10 b
  let below := (if narrow then Nat.pow 2 (q - 2 + a).toNat else Nat.pow 2 (q - 1 + a).toNat) * Nat.pow 10 b
  let g := Nat.pow 10 (e + b).toNat * Nat.pow 2 a
  let c := v / g
  let r := v % g
  let even := m % 2 == 0
  let lowIn := r < below || (even && r == below)
  let highIn := r != 0 && (g - r < above || (even && g - r == above))
  let pick :=
    if lowIn && highIn then
      if r < g - r then some c
      else if g - r < r then some (c + 1)
      else if c % 2 == 0 then some c else some (c + 1)
    else if lowIn then some c
    else if highIn then some (c + 1)
    else none
  pick.map fun d => trim d e

def shortest (x : Float) : Digits :=
  let (negative, e, f) := fields x
  let (m, q) := significand e f
  if m == 0 then ⟨negative, 0, 0⟩
  else
    let narrow := f == 0 && e > 1
    let k := pointPosition m q
    let found := (List.range 17).findSome? fun i => onGrid m q narrow k (i + 1)
    let (d, x) := found.getD (trim (m * Nat.pow 2 q.toNat / Nat.pow 2 (-q).toNat) 0)
    ⟨negative, d, x⟩

def zeros (n : Nat) : String :=
  String.ofList (List.replicate n '0')

namespace Digits

def text (d : Digits) : String :=
  toString d.digits

def sign (d : Digits) : String :=
  if d.negative then "-" else ""

/-- Positional notation with no exponent; integers have no point. -/
def plain (d : Digits) : String :=
  let ds := d.text
  if d.exponent ≥ 0 then d.sign ++ ds ++ zeros d.exponent.toNat
  else
    let point : Int := ds.length + d.exponent
    if point > 0 then
      d.sign ++ (ds.take point.toNat).toString ++ "." ++ (ds.drop point.toNat).toString
    else d.sign ++ "0." ++ zeros (-point).toNat ++ ds

/-- Positional notation, with `.0` after an integer, where `10^-5 ≤ |x| < 10^16`;
elsewhere one digit, the others after a point, `e` and the power of ten. -/
def compact (d : Digits) : String :=
  let ds := d.text
  let len : Int := ds.length
  let point := len + d.exponent
  if d.digits == 0 then d.sign ++ "0.0"
  else if 0 ≤ d.exponent && point ≤ 16 then d.sign ++ ds ++ zeros d.exponent.toNat ++ ".0"
  else if 0 < point && point ≤ 16 then
    d.sign ++ (ds.take point.toNat).toString ++ "." ++ (ds.drop point.toNat).toString
  else if -5 < point && point ≤ 0 then d.sign ++ "0." ++ zeros (-point).toNat ++ ds
  else
    let mantissa :=
      if ds.length == 1 then ds else (ds.take 1).toString ++ "." ++ (ds.drop 1).toString
    d.sign ++ mantissa ++ "e" ++ toString (point - 1)

end Digits

end JobMatrix.Decimal
