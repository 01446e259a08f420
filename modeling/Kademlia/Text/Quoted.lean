import Kademlia.Bytes
import Kademlia.Text.Unprintable

/-!
# Quoted text

The form in which an error shows a text it was given: between double quotes,
with escapes for quotes, backslashes and characters that do not print.
-/

namespace Kademlia.Text

/-- The least lower case hexadecimal digits of a number. -/
def hexDigits (n : Nat) : List Char :=
  if n < 16 then [Bytes.hexDigit n] else hexDigits (n / 16) ++ [Bytes.hexDigit (n % 16)]

/-- A character inside quotes. -/
def escape (c : Char) : List Char :=
  match c with
  | '"' => ['\\', '"']
  | '\\' => ['\\', '\\']
  | '\t' => ['\\', 't']
  | '\n' => ['\\', 'n']
  | '\r' => ['\\', 'r']
  | '\x00' => ['\\', '0']
  | c => if isPrintable c then [c] else ['\\', 'u', '\x7b'] ++ hexDigits c.toNat ++ ['\x7d']

/-- A text between double quotes. -/
def quoted (text : String) : String :=
  String.ofList (('"' :: text.toList.flatMap escape) ++ ['"'])

end Kademlia.Text
