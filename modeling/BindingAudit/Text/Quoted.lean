/-
# Quoted text

How a piece of program text is shown inside a message: between double quotes, with the quote,
the backslash and the common controls escaped by a letter and every character that could not be
seen spelled by its code point. `quoted` is used for string literals, for field tags and for the
names in unresolved-name messages, `braced` for the parts of types and of composite literals.
-/
import BindingAudit.Text.GraphemeExtend
import BindingAudit.Text.Unprintable

namespace BindingAudit.Text

/-- A code point spelled in lower-case hexadecimal between braces, as in `\u{301}`. -/
def codePointEscape (c : Char) : List Char :=
  ['\\', 'u', '{'] ++ Nat.toDigits 16 c.toNat ++ ['}']

/-- The spelling of one character inside quoted text. The single quote needs no escape, since
quoted text always stands between double quotes. -/
def quotedChar (c : Char) : List Char :=
  if c = '"' then ['\\', '"']
  else if c = '\\' then ['\\', '\\']
  else if c = '\n' then ['\\', 'n']
  else if c = '\r' then ['\\', 'r']
  else if c = '\t' then ['\\', 't']
  else if c = '\x00' then ['\\', '0']
  else if ' ' ≤ c && c ≤ '~' then [c]
  else if isGraphemeExtend c || isUnprintable c then codePointEscape c
  else [c]

/-- Text between double quotes, every character in its quoted spelling. -/
def quoted (s : String) : String :=
  String.ofList ('"' :: s.toList.flatMap quotedChar ++ ['"'])

/-- Text between braces. -/
def braced (s : String) : String := String.singleton '{' ++ s ++ String.singleton '}'

end BindingAudit.Text
