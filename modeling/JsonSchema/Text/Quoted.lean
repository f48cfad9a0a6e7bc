import JsonSchema.Unicode.Property

/-!
# Quoted text for people

`Quoted.text` shows a text between double quotes so that it can be read on one line: quotes,
backslashes and line breaks are escaped, and so is every character that cannot be shown on its own.
-/

namespace JsonSchema.Quoted

/-- One character between the quotes. -/
def char (c : Char) : List Char :=
  if c = '\x00' then ['\\', '0']
  else if c = '\t' then ['\\', 't']
  else if c = '\r' then ['\\', 'r']
  else if c = '\n' then ['\\', 'n']
  else if c = '"' ∨ c = '\\' then ['\\', c]
  else if 0x20 ≤ c.toNat ∧ c.toNat < 0x7F then [c]
  else if Unicode.graphemeExtend.contains c || Unicode.unprintable.contains c then
    "\\u\x7b".toList ++ Nat.toDigits 16 c.toNat ++ ['\x7d']
  else [c]

/-- A text between quotes. -/
def chars (cs : List Char) : List Char :=
  '"' :: cs.flatMap char ++ ['"']

/-- A text between quotes. -/
def text (s : String) : String :=
  String.ofList (chars s.toList)

end JsonSchema.Quoted
