import SettingsCache.Text.Unprintable
import SettingsCache.Text.Extending

/-!
# Quoted text

A text between quotation marks, written so that every character of it can be told from the page:
the quotation mark, the backslash and the common control characters have an escape of one letter,
and every other character that is unprintable, or that would be drawn onto its neighbour, is
written by its code point.
-/

namespace SettingsCache.Text

/-- The letter of the characters that have an escape of their own. -/
def escapeLetter? : Char → Option Char
  | '\x00' => some '0'
  | '\t' => some 't'
  | '\n' => some 'n'
  | '\r' => some 'r'
  | '"' => some '"'
  | '\\' => some '\\'
  | _ => none

/-- A character written by its code point, in hexadecimal between braces. -/
def codePointEscape (c : Char) : List Char :=
  ['\\', 'u', '{'] ++ Nat.toDigits 16 c.toNat ++ ['}']

/-- One character of a quoted text. -/
def quoteChar (c : Char) : List Char :=
  match escapeLetter? c with
  | some letter => ['\\', letter]
  | none => if isExtending c || isUnprintable c then codePointEscape c else [c]

/-- A text between quotation marks, with its escapes. -/
def quoted (text : String) : String :=
  String.ofList ('"' :: text.toList.flatMap quoteChar ++ ['"'])

end SettingsCache.Text
