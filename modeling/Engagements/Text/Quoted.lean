import Engagements.Json.Printer
import Engagements.Unicode.Current

/-!
Texts quoted for messages: what a reader could not see is written by its number.
-/
namespace Engagements.Text

/-- A character by its number in hexadecimal, between braces. -/
def numbered (c : Char) : List Char :=
  '\\' :: 'u' :: '\x7b' :: Nat.toDigits 16 c.toNat ++ ['\x7d']

def quotedChar (c : Char) : List Char :=
  match c with
  | '"' => ['\\', '"']
  | '\\' => ['\\', '\\']
  | '\n' => ['\\', 'n']
  | '\r' => ['\\', 'r']
  | '\t' => ['\\', 't']
  | c =>
    if c.toNat = 0 then ['\\', '0']
    else if Unicode.Current.isGraphemeExtend c || !Unicode.Current.isPrintable c then numbered c
    else [c]

def quoted (text : String) : String :=
  String.ofList ('"' :: text.toList.flatMap quotedChar ++ ['"'])

end Engagements.Text
