import JobMatrix.Text.Printable

/-!
Quoted text for messages: a text between double quotes, with the quote, the backslash, the
null character, tab, carriage return and line feed written as backslash escapes, and every
character that is not printable or is a combining mark written as `\u` with its code point in
lower-case hexadecimal between braces. All other characters stand for themselves.
-/

namespace JobMatrix.Text

def hexCode (c : Char) : String :=
  String.ofList (Nat.toDigits 16 c.toNat)

/-- How one character is written between double quotes. -/
def quotedChar (c : Char) : String :=
  match c with
  | '\x00' => "\\0"
  | '\t' => "\\t"
  | '\r' => "\\r"
  | '\n' => "\\n"
  | '\\' => "\\\\"
  | '"' => "\\\""
  | c =>
    if isGraphemeExtend c || !isPrintable c then "\\u\x7b" ++ hexCode c ++ "\x7d"
    else c.toString

def quoted (s : String) : String :=
  "\"" ++ String.join (s.toList.map quotedChar) ++ "\""

end JobMatrix.Text
