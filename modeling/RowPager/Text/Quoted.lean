import RowPager.Text.GraphemeExtend
import RowPager.Text.Hex
import RowPager.Text.Printable

/-!
Text between double quotes, in which every character that could be misread is escaped.
-/

set_option autoImplicit false

namespace RowPager.Quoted

/-- Five characters have a short escape besides the quote. A character that is not printable, or
that would merge with the one before it, is written as its code point. -/
def escape (c : Char) : String :=
  match c with
  | '\x00' => "\\0"
  | '\t' => "\\t"
  | '\r' => "\\r"
  | '\n' => "\\n"
  | '\\' => "\\\\"
  | '"' => "\\\""
  | c =>
    if extendsGrapheme c || !isPrintable c then "\\u\x7b" ++ Hex.shortest c.toNat ++ "\x7d"
    else c.toString

def quote (text : String) : String :=
  "\"" ++ String.join (text.toList.map escape) ++ "\""

end RowPager.Quoted
