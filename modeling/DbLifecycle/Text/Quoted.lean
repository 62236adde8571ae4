import DbLifecycle.Text.Unprintable
import DbLifecycle.Text.Extending

/-!
# Quoted text

Text between double quotes for a reader of messages: quotes, backslashes and everything that would
not show as itself are written as escapes.

* `quoted`: a text in quotes.
* `quotedList`: a list of quoted texts in brackets.
-/

namespace DbLifecycle.Text

/-- A code point in braces after a backslash and a `u`, in lower-case hexadecimal. -/
def codePointEscape (c : Char) : List Char :=
  '\\' :: 'u' :: '{' :: Nat.toDigits 16 c.toNat ++ ['}']

/-- Whether a character is shown as itself inside quotes. -/
def isPlain (c : Char) : Bool :=
  if c.toNat < 0x80 then decide (0x20 ≤ c.toNat) && c.toNat != 0x7f
  else !isUnprintable c && !isExtending c

/-- The written form of one character of a quoted text. -/
def quotedChar (c : Char) : List Char :=
  match c with
  | '\x00' => ['\\', '0']
  | '\t' => ['\\', 't']
  | '\r' => ['\\', 'r']
  | '\n' => ['\\', 'n']
  | '"' => ['\\', '"']
  | '\\' => ['\\', '\\']
  | c => if isPlain c then [c] else codePointEscape c

/-- A text in double quotes. -/
def quoted (s : String) : String :=
  String.ofList ('"' :: s.toList.flatMap quotedChar ++ ['"'])

/-- A list of texts, each quoted, in brackets. -/
def quotedList (ss : List String) : String :=
  "[" ++ ", ".intercalate (ss.map quoted) ++ "]"

end DbLifecycle.Text
