/-!
The vocabulary of the library. Argument names are an ASCII letter or underscore followed by
ASCII letters, digits and underscores: only such names can be written as query placeholders,
and a matrix whose names all have this form is valid. Any character outside ASCII makes a name
invalid. A placeholder can fail to name an argument, or an argument name can fail to have this
form; `ArgFault.message` words each fault. Journal records are what the library reports about
its work while it runs, each with a level of importance. An operation that reports has a
companion function that lists its records, in the order in which the operation makes them.
-/

namespace JobMatrix

namespace ArgName

def isHead (c : Char) : Bool :=
  c.isAlpha || c == '_'

def isTail (c : Char) : Bool :=
  c.isAlphanum || c == '_'

def isValidList : List Char → Bool
  | [] => false
  | c :: cs => isHead c && cs.all isTail

def isValid (s : String) : Bool :=
  isValidList s.toList

theorem isTail_of_isHead {c : Char} (h : isHead c = true) : isTail c = true := by
  simp only [isHead, isTail, Char.isAlphanum, Bool.or_eq_true] at h ⊢
  rcases h with h | h
  · exact Or.inl (Or.inl h)
  · exact Or.inr h

end ArgName

/-- Why a binding cannot fill a query, or a matrix is not valid. -/
inductive ArgFault where
  | unbound (name : String)
  /-- A placeholder names no argument, but the longest bound name `bound` is a prefix of it. -/
  | collision (placeholder bound : String)
  | badName (name : String)
  deriving DecidableEq, Repr

def ArgFault.message : ArgFault → String
  | unbound name => "placeholder ':" ++ name ++ "' is not bound by the instance arguments"
  | collision placeholder bound =>
    "placeholder ':" ++ placeholder ++ "' is not bound but collides with bound argument '" ++
      bound ++ "'"
  | badName name => "argument name '" ++ name ++ "' must match [A-Za-z_][A-Za-z0-9_]*"

/-- The importance of a record, from most to least. -/
inductive Level where
  | error
  | warn
  | info
  | debug
  deriving DecidableEq, Repr

def Level.label : Level → String
  | .error => "ERROR"
  | .warn => "WARN"
  | .info => "INFO"
  | .debug => "DEBUG"

structure Note where
  level : Level
  text : String
  deriving DecidableEq, Repr

end JobMatrix
