import NativeBridge.Text.Hex
import NativeBridge.Text.Unprintable

/-!
# Quoted text

How a text is shown inside a diagnostic: between double quotes, with a backslash
before every character that cannot stand for itself.  Five control characters and
the two characters of the notation have a letter of their own; any other
unprintable character is named by its code point.
-/

namespace NativeBridge.Text

/-- The letter that names a character after a backslash, for those that have one. -/
def escapeLetter? : Char → Option Char
  | '"' => some '"'
  | '\\' => some '\\'
  | '\n' => some 'n'
  | '\r' => some 'r'
  | '\t' => some 't'
  | '\x00' => some '0'
  | _ => none

/-- One character as it is written between quotes. -/
def quotedChar (char : Char) : String :=
  match escapeLetter? char with
  | some letter => String.ofList ['\\', letter]
  | none =>
    if isUnprintable char then "\\u\x7b" ++ hex char.toNat ++ "\x7d"
    else String.ofList [char]

def quoted (text : String) : String :=
  "\"" ++ String.join (text.toList.map quotedChar) ++ "\""

end NativeBridge.Text
