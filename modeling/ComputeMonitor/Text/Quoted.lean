import ComputeMonitor.Text.Numeral
import ComputeMonitor.Text.Printable

/-!
Quotation of a text inside a message: double quotes around it, a backslash before a quote or a
backslash, short forms for the common controls, and the code point in braces for everything else
that cannot be printed.
-/

set_option autoImplicit false

namespace ComputeMonitor.Text

def quotedChar (c : Char) : List Char :=
  match c with
  | '"' => ['\\', '"']
  | '\\' => ['\\', '\\']
  | '\n' => ['\\', 'n']
  | '\t' => ['\\', 't']
  | '\r' => ['\\', 'r']
  | c =>
    if c.toNat = 0 then ['\\', '0']
    else if isPrintable c then [c]
    else ['\\', 'u', '\x7b'] ++ hexDigitsOf c.toNat ++ ['\x7d']

def quoted (text : String) : String :=
  String.ofList (['"'] ++ text.toList.flatMap quotedChar ++ ['"'])

end ComputeMonitor.Text
