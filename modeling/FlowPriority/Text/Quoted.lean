import FlowPriority.Text.Extender
import FlowPriority.Text.Unprintable

/-!
Quoted text: a text between double quotes with everything that could not be told apart on a
terminal written as an escape.

A quote, a backslash and the common controls have short escapes. Other characters that print
nothing, or that only change the character before them, are written by their code point in
hexadecimal. All else stands for itself.
-/

namespace FlowPriority.Text

def hexadecimal (number : Nat) : List Char := Nat.toDigits 16 number

def escape (char : Char) : List Char :=
  match char with
  | '\x00' => ['\\', '0']
  | '\t' => ['\\', 't']
  | '\r' => ['\\', 'r']
  | '\n' => ['\\', 'n']
  | '"' => ['\\', '"']
  | '\\' => ['\\', '\\']
  | _ =>
    if isExtender char || isUnprintable char then
      ['\\', 'u', '\x7b'] ++ hexadecimal char.toNat ++ ['\x7d']
    else [char]

def quoted (text : String) : String :=
  String.ofList (['"'] ++ text.toList.flatMap escape ++ ['"'])

end FlowPriority.Text
