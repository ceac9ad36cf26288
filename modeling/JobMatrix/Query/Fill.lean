import JobMatrix.Query.Template
import JobMatrix.Binding

/-!
Filling a query from an instance. The placeholders of the query become numbered parameters
`$1`, `$2`, …: the bound names that the query uses are numbered in increasing order, every
occurrence of a name takes its number, and the values of those names, in number order, are
the parameters. The rest of the query is kept as it is.
A binding with a name that cannot be a placeholder fills no query, and a placeholder that no
name binds is a fault, reported as a collision when a bound name is a prefix of it.
-/

namespace JobMatrix.Query

/-- A filled query: the text with numbered parameters, and the bound entries it uses, in
number order. -/
structure Filled where
  text : String
  params : List (String × String)
  deriving DecidableEq, Repr

def Filled.args (f : Filled) : List String :=
  f.params.map Prod.snd

/-- The longest non-empty bound name that is a prefix of `name`; of two of one length, the
later. -/
def longestPrefix (names : List String) (name : String) : Option String :=
  names.foldl pick none
where
  pick (best : Option String) (k : String) : Option String :=
    if !k.isEmpty && k.toList.isPrefixOf name.toList then
      match best with
      | some b => if b.length ≤ k.length then some k else some b
      | none => some k
    else best

def unboundFault (b : Binding) (name : String) : ArgFault :=
  match longestPrefix b.names name with
  | some bound => .collision name bound
  | none => .unbound name

/-- The text of a piece once each placeholder is replaced by its parameter number. -/
def Piece.numbered (number : String → Nat) : Piece → List Char
  | .lit c => [c]
  | .hole name => '$' :: (Nat.repr (number name)).toList

/-- Fills the placeholders of a query from an instance. -/
def fill (b : Binding) (query : String) : Except ArgFault Filled :=
  match b.names.find? fun k => !ArgName.isValid k with
  | some k => .error (.badName k)
  | none =>
    let pieces := scan query
    let used := holes pieces
    match used.find? fun n => !b.contains n with
    | some n => .error (unboundFault b n)
    | none =>
      let params := b.toList.filter fun e => used.contains e.1
      let number (n : String) : Nat := (params.map Prod.fst).idxOf n + 1
      .ok ⟨String.ofList (pieces.flatMap (Piece.numbered number)), params⟩

def fillNotes (f : Filled) : List Note :=
  (List.range f.params.length).zip f.params |>.map fun (i, k, v) =>
    ⟨.debug, "Bound ':" ++ k ++ "' to $" ++ toString (i + 1) ++ " = " ++ v⟩

end JobMatrix.Query
