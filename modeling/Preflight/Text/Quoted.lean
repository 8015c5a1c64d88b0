import Preflight.Text.Hidden

/-!
# Quoted text

Text between double quotes with escapes for quotes, backslashes and everything that does not show
by itself.
-/

namespace Preflight

namespace Text

/-- One character of quoted text. -/
def quotedChar (c : Char) : String :=
  match c with
  | '"' => "\\\""
  | '\\' => "\\\\"
  | '\n' => "\\n"
  | '\r' => "\\r"
  | '\t' => "\\t"
  | '\x00' => "\\0"
  | c => if isHidden c then "\\u\x7b" ++ hexText 1 c.toNat ++ "\x7d" else c.toString

/-- Text between double quotes. -/
def quoted (s : String) : String := "\"" ++ String.join (s.toList.map quotedChar) ++ "\""

end Text

end Preflight
