import JobMatrix.Yaml.Mark

/-!
Tokens of YAML text: indicators, directives, anchors, aliases, tags and scalars, each with the
positions where it starts and stops. Block structure is made explicit by tokens that open and
close block collections, so that the grammar above the tokens needs no indentation.
-/

namespace JobMatrix.Yaml

/-- The text of a tag, as bytes: `%`-escapes may spell any octets, so a tag need not be UTF-8.
A zero byte ends a tag's text. -/
abbrev TagText := List UInt8

namespace TagText

def ofString (s : String) : TagText :=
  s.toUTF8.data.toList

/-- The text up to its first zero byte. -/
def cut (t : TagText) : TagText :=
  t.takeWhile (· != 0)

def isLocal (t : TagText) : Bool :=
  t.head? == some 0x21

def toString? (t : TagText) : Option String :=
  String.fromUTF8? (ByteArray.mk t.toArray)

end TagText

inductive ScalarStyle where
  | plain
  | singleQuoted
  | doubleQuoted
  | literal
  | folded
  deriving DecidableEq, Repr, Inhabited

inductive TokenKind where
  | streamStart
  | streamEnd
  | versionDirective (major minor : Nat)
  | tagDirective (handle : String) (pfx : TagText)
  | documentStart
  | documentEnd
  | blockSequenceStart
  | blockMappingStart
  | blockEnd
  | flowSequenceStart
  | flowSequenceEnd
  | flowMappingStart
  | flowMappingEnd
  | blockEntry
  | flowEntry
  | key
  | value
  | alias (name : String)
  | anchor (name : String)
  | tag (handle : String) (suffix : TagText)
  | scalar (text : String) (style : ScalarStyle)
  deriving DecidableEq, Repr, Inhabited

structure Token where
  kind : TokenKind
  start : Mark
  stop : Mark
  deriving DecidableEq, Repr, Inhabited

end JobMatrix.Yaml
