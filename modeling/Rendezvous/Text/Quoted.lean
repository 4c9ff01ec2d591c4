import Rendezvous.Text.Hex
import Rendezvous.Text.Unprintable

/-!
Names as messages show them: between double quotes, with a backslash before a quote or a
backslash, short forms for tab, line feed, carriage return and NUL, and the code point of every
other character that is not printable.
-/
namespace Rendezvous.Text

def quoteChar (c : Char) : String :=
  match c with
  | '"' => "\\\""
  | '\\' => "\\\\"
  | '\t' => "\\t"
  | '\n' => "\\n"
  | '\r' => "\\r"
  | '\x00' => "\\0"
  | c => if Unprintable.contains c then "\\u\x7b" ++ hex c.toNat ++ "\x7d" else c.toString

def quoted (s : String) : String :=
  "\"" ++ String.join (s.toList.map quoteChar) ++ "\""

end Rendezvous.Text
