/-!
# Parts of messages

Numbers and lists as they stand in messages.
-/

namespace JsonSchema.Text

/-- A number in decimal. -/
def decimal (n : Nat) : String :=
  String.ofList (Nat.toDigits 10 n)

/-- The items of a list with a separator between them. -/
def joined (separator : String) (items : List String) : String :=
  String.ofList (separator.toList.intercalate (items.map String.toList))

/-- A text between quotation marks, as it is. -/
def quoted (text : String) : String :=
  "\"" ++ text ++ "\""

end JsonSchema.Text
