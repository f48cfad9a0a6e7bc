import JsonSchema.Json.Basic

/-!
# Writing JSON texts

`Json.compact` writes a document on one line without blanks, `Json.pretty` with one member or item
a line. Strings escape the quote, the backslash and the characters below U+0020, and nothing else.
-/

namespace JsonSchema.Json

/-- The lower-case hexadecimal digit of a number below 16. -/
def hexLower (n : Nat) : Char :=
  if n < 10 then Char.ofNat ('0'.toNat + n) else Char.ofNat ('a'.toNat + (n - 10))

/-- One character inside a string. -/
def escapeChar (c : Char) : List Char :=
  if c = '"' then ['\\', '"']
  else if c = '\\' then ['\\', '\\']
  else if c = '\x08' then ['\\', 'b']
  else if c = '\x0c' then ['\\', 'f']
  else if c = '\n' then ['\\', 'n']
  else if c = '\r' then ['\\', 'r']
  else if c = '\t' then ['\\', 't']
  else if c.toNat < 0x20 then
    ['\\', 'u', '0', '0', hexLower (c.toNat / 16), hexLower (c.toNat % 16)]
  else [c]

/-- A string with its quotes. -/
def quote (s : String) : List Char :=
  '"' :: s.toList.flatMap escapeChar ++ ['"']

mutual

/-- A document on one line. -/
def compactChars : Json → List Char
  | .null => "null".toList
  | .bool true => "true".toList
  | .bool false => "false".toList
  | .num n => n.text
  | .str s => quote s
  | .arr [] => ['[', ']']
  | .arr (item :: rest) => '[' :: compactChars item ++ compactItems rest ++ [']']
  | .obj [] => ['\x7b', '\x7d']
  | .obj ((name, value) :: rest) =>
    '\x7b' :: quote name ++ ':' :: compactChars value ++ compactMembers rest ++ ['\x7d']

/-- The items after the first, each with the comma before it. -/
def compactItems : List Json → List Char
  | [] => []
  | item :: rest => ',' :: compactChars item ++ compactItems rest

/-- The members after the first, each with the comma before it. -/
def compactMembers : List (String × Json) → List Char
  | [] => []
  | (name, value) :: rest => ',' :: quote name ++ ':' :: compactChars value ++ compactMembers rest

end

/-- A document on one line. -/
def compact (v : Json) : String :=
  String.ofList (compactChars v)

/-- A new line with `depth` indents of two blanks. -/
def newLine (depth : Nat) : List Char :=
  '\n' :: List.replicate (2 * depth) ' '

mutual

/-- A document over several lines, within `depth` containers. -/
def prettyChars (depth : Nat) : Json → List Char
  | .arr [] => ['[', ']']
  | .arr (item :: rest) =>
    '[' :: newLine (depth + 1) ++ prettyChars (depth + 1) item ++ prettyItems (depth + 1) rest ++
      newLine depth ++ [']']
  | .obj [] => ['\x7b', '\x7d']
  | .obj ((name, value) :: rest) =>
    '\x7b' :: newLine (depth + 1) ++ quote name ++ ':' :: ' ' :: prettyChars (depth + 1) value ++
      prettyMembers (depth + 1) rest ++ newLine depth ++ ['\x7d']
  | .null => "null".toList
  | .bool true => "true".toList
  | .bool false => "false".toList
  | .num n => n.text
  | .str s => quote s

/-- The items after the first, each on its own line. -/
def prettyItems (depth : Nat) : List Json → List Char
  | [] => []
  | item :: rest => ',' :: newLine depth ++ prettyChars depth item ++ prettyItems depth rest

/-- The members after the first, each on its own line. -/
def prettyMembers (depth : Nat) : List (String × Json) → List Char
  | [] => []
  | (name, value) :: rest =>
    ',' :: newLine depth ++ quote name ++ ':' :: ' ' :: prettyChars depth value ++
      prettyMembers depth rest

end

/-- A document over several lines, indented by two blanks. -/
def pretty (v : Json) : String :=
  String.ofList (prettyChars 0 v)

end JsonSchema.Json
