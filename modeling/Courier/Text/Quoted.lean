import Courier.Text.Digits
import Courier.Text.Printable

/-!
Quoted text: a text between double quotes in which every character that would be invisible or would
end the quotation is escaped.
-/

namespace Courier.Text

def escapeQuoted (c : Char) : String :=
  match c with
  | '\x00' => "\\0"
  | '\t' => "\\t"
  | '\r' => "\\r"
  | '\n' => "\\n"
  | '"' => "\\\""
  | '\\' => "\\\\"
  | c => if isPrintable c then c.toString else "\\u\x7b" ++ hex 1 c.toNat ++ "\x7d"

def quoted (s : String) : String :=
  "\"" ++ String.join (s.toList.map escapeQuoted) ++ "\""

end Courier.Text
