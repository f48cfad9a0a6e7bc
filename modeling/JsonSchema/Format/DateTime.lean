import JsonSchema.Text.CharClass

/-!
# Dates and times

Two grammars of times. The strict one, `isTimestamp`, wants every field in full: four digits of the
year, two of every other field, and an offset. The lenient one reads each number after optional
blanks, with one or two digits and a year of any length after a sign; `isDate`, `isTime` and
`isUtcTime` use it. Both accept the second 60, and only days that the month has.
-/

namespace JsonSchema.DateTime

/-- A reader of the beginning of a text: a value and the text after it. -/
abbrev Reader (α : Type) := List Char → Option (α × List Char)

/-- Between `least` and `most` digits, as many as there are, as a number. -/
def digits? (least most : Nat) : Reader Nat := fun text =>
  let ds := (text.take most).takeWhile CharClass.isAsciiDigit
  if ds.length < least then none
  else (CharClass.decimal? ds).map fun n => (n, text.drop ds.length)

/-- A given character. -/
def char? (c : Char) : Reader Unit
  | d :: rest => if c = d then some ((), rest) else none
  | [] => none

/-- A number with at most two digits, after blanks. -/
def short? : Reader Nat := fun text =>
  digits? 1 2 (text.dropWhile CharClass.isBlank)

/-- A year, after blanks: at most four digits, or any number of digits after a sign. -/
def year? : Reader Int := fun text =>
  match text.dropWhile CharClass.isBlank with
  | '-' :: rest => (digits? 1 rest.length rest).map fun (n, rest) => (-(n : Int), rest)
  | '+' :: rest => (digits? 1 rest.length rest).map fun (n, rest) => ((n : Int), rest)
  | rest => (digits? 1 4 rest).map fun (n, rest) => ((n : Int), rest)

/-- The number of days of a month. -/
def daysIn (year : Int) (month : Nat) : Nat :=
  if month = 2 then
    if year % 4 = 0 ∧ (year % 100 ≠ 0 ∨ year % 400 = 0) then 29 else 28
  else if month = 4 ∨ month = 6 ∨ month = 9 ∨ month = 11 then 30
  else 31

/-- Whether a day exists, in one of the years that are counted. -/
def isDay (year : Int) (month day : Nat) : Bool :=
  -262143 ≤ year && year ≤ 262142 && 1 ≤ month && month ≤ 12 && 1 ≤ day &&
    day ≤ daysIn year month

/-- Whether a time of day exists; the second 60 does. -/
def isClock (hour minute second : Nat) : Bool :=
  hour ≤ 23 && minute ≤ 59 && second ≤ 60

/-- A day, from a year to a day of the month, given readers for the numbers. -/
def day? (year : Reader Int) (number : Reader Nat) : Reader Unit := fun text => do
  let (y, text) ← year text
  let (_, text) ← char? '-' text
  let (m, text) ← number text
  let (_, text) ← char? '-' text
  let (d, text) ← number text
  if isDay y m d then some ((), text) else none

/-- A time of day, given a reader for the numbers. -/
def clock? (number : Reader Nat) : Reader Unit := fun text => do
  let (h, text) ← number text
  let (_, text) ← char? ':' text
  let (m, text) ← number text
  let (_, text) ← char? ':' text
  let (s, text) ← number text
  if isClock h m s then some ((), text) else none

/-- A fraction of a second, if there is one. -/
def fraction? : Reader Unit
  | '.' :: rest =>
    let ds := rest.takeWhile CharClass.isAsciiDigit
    if ds = [] then none else some ((), rest.drop ds.length)
  | text => some ((), text)

/-- An offset: the letter Z, or a sign and hours and minutes below a day. -/
def offset? : Reader Unit
  | [] => none
  | c :: rest =>
    if c = 'Z' ∨ c = 'z' then some ((), rest)
    else if c = '+' ∨ c = '-' ∨ c = '−' then do
      let (h, rest) ← digits? 2 2 rest
      let (_, rest) ← char? ':' rest
      let (m, rest) ← digits? 2 2 rest
      if h ≤ 23 ∧ m ≤ 59 then some ((), rest) else none
    else none

/-- Whether a reader takes a whole text. -/
def reads {α : Type} (r : Reader α) (text : List Char) : Bool :=
  match r text with
  | some (_, []) => true
  | _ => false

/-- Whether a text is a day and a time of day with an offset, every field in full. -/
def isTimestamp : List Char → Bool :=
  reads fun text => do
    let year : Reader Int := fun text => (digits? 4 4 text).map fun (n, rest) => ((n : Int), rest)
    let (_, text) ← day? year (digits? 2 2) text
    let text ←
      match text with
      | 'T' :: rest | 't' :: rest | ' ' :: rest => some rest
      | _ => none
    let (_, text) ← clock? (digits? 2 2) text
    let (_, text) ← fraction? text
    offset? text

/-- Whether a text is a day. -/
def isDate : List Char → Bool :=
  reads (day? year? short?)

/-- Whether a text is a time of day. -/
def isTime : List Char → Bool :=
  reads (clock? short?)

/-- Whether a text is a day and a time of day with the letter Z after them. -/
def isUtcTime : List Char → Bool :=
  reads fun text => do
    let (_, text) ← day? year? short? text
    let (_, text) ← char? 'T' text
    let (_, text) ← clock? short? text
    char? 'Z' text

end JsonSchema.DateTime
