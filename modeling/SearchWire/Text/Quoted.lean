import SearchWire.Text.Visibility

/-!
# Quoted text

A text is quoted by double quotes around it. Inside, a double quote and a backslash stand behind a
backslash, four controls have a letter of their own, and any other character that would not be shown
as it is appears as its code point in hexadecimal. A single quote is left alone.
-/

namespace SearchWire.Text

/-- A character as its hexadecimal code point, without leading zeros. -/
def codePoint (c : Char) : List Char :=
  '\\' :: 'u' :: '\x7b' :: Nat.toDigits 16 c.toNat ++ ['\x7d']

/-- A character as it stands between the quotes. -/
def quotedChar (c : Char) : List Char :=
  if c = '\x00' then ['\\', '0']
  else if c = '\t' then ['\\', 't']
  else if c = '\r' then ['\\', 'r']
  else if c = '\n' then ['\\', 'n']
  else if c = '"' || c = '\\' then ['\\', c]
  else if isExtending c || isInvisible c then codePoint c
  else [c]

/-- A text between double quotes, every character of it visible. -/
def quoted (s : String) : String :=
  String.ofList ('"' :: s.toList.flatMap quotedChar ++ ['"'])

/-- A list of texts between brackets, each of them quoted. -/
def quotedList (ss : List String) : String :=
  "[" ++ ", ".intercalate (ss.map quoted) ++ "]"

end SearchWire.Text
