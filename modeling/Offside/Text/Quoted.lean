import Offside.Text.Unprintable
import Offside.Text.Extending

/-!
# Quoted text

Texts from a source are shown in messages and listings in a form that fits on one line and hides
nothing. A character is written as itself, as a backslash with a letter, or by its code point in
braces. Three conventions share this scheme and differ in what they escape:

* a quoted character escapes the single quote, a quoted text the double quote, and both write every
  character by its code point that is not seen on its own;
* the plain form has no quotes of its own, escapes both kinds, and writes all that is not printable
  ASCII by its code point.
-/

namespace Offside.Text

/-- A hexadecimal digit, in lower case. -/
def hexDigit (d : Nat) : Char := if d < 10 then Char.ofNat (48 + d) else Char.ofNat (87 + d)

/-- The hexadecimal digits of a number, without leading zeros. -/
def hexDigits (n : Nat) : List Char :=
  if n < 16 then [hexDigit n] else hexDigits (n / 16) ++ [hexDigit (n % 16)]

/-- A character by its code point: `\u`, then hexadecimal digits in braces. -/
def byCodePoint (c : Char) : List Char :=
  ['\\', 'u', '\x7b'] ++ hexDigits c.toNat ++ ['\x7d']

/-- The letter that stands for a blank or the backslash after a backslash. -/
def escapeLetter? : Char → Option Char
  | '\t' => some 't'
  | '\r' => some 'r'
  | '\n' => some 'n'
  | '\\' => some '\\'
  | _ => none

/-- A character inside the quote `quote`. -/
def quotedWithin (quote : Char) (c : Char) : List Char :=
  if c = '\x00' then ['\\', '0']
  else if c = quote then ['\\', c]
  else match escapeLetter? c with
    | some letter => ['\\', letter]
    | none => if isUnprintable c || isExtending c then byCodePoint c else [c]

/-- The character between single quotes. -/
def quotedChar (c : Char) : String := String.ofList ('\'' :: quotedWithin '\'' c ++ ['\''])

/-- The text between double quotes. -/
def quoted (text : String) : String :=
  String.ofList ('"' :: text.toList.flatMap (quotedWithin '"') ++ ['"'])

/-- A character of the plain form, which is printable ASCII throughout. -/
def plainEscape (c : Char) : List Char :=
  if c = '\'' || c = '"' then ['\\', c]
  else match escapeLetter? c with
    | some letter => ['\\', letter]
    | none => if 0x20 ≤ c.toNat && c.toNat < 0x7F then [c] else byCodePoint c

/-- The text in the plain form, without quotes around it. -/
def escaped (text : String) : String := String.ofList (text.toList.flatMap plainEscape)

end Offside.Text
