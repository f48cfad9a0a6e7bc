import JsonSchema.Json.Token

/-!
# Reading JSON texts

`Json.read` turns the bytes of a text into a document. The reader is a machine on tokens: a state
says what may come next and holds the unfinished arrays and objects around it. A repeated name in
an object keeps its first place and takes the last value.
-/

namespace JsonSchema.Json

/-- An unfinished array or object that waits for a value; finished parts are in reverse. -/
inductive Context
  | item (before : List Json)
  | member (before : List (String × Json)) (name : String)

/-- What may come next, within the containers `outer`. -/
inductive State
  /-- A value. -/
  | value (outer : List Context)
  /-- The first item of an array, or its end. -/
  | firstItem (outer : List Context)
  /-- An item after a comma. -/
  | nextItem (items : List Json) (outer : List Context)
  /-- A comma or the end of an array. -/
  | afterItem (items : List Json) (outer : List Context)
  /-- The first name of an object, or its end. -/
  | firstName (outer : List Context)
  /-- A name after a comma. -/
  | nextName (members : List (String × Json)) (outer : List Context)
  /-- The colon after a name. -/
  | colon (members : List (String × Json)) (name : String) (outer : List Context)
  /-- A comma or the end of an object. -/
  | afterMember (members : List (String × Json)) (outer : List Context)
  /-- Nothing: the document is complete. -/
  | complete (document : Json)

/-- Adds a member; a name that is there already keeps its place and takes the new value. -/
def put (name : String) (value : Json) (members : List (String × Json)) :
    List (String × Json) :=
  if members.any fun m => m.1 == name then
    members.map fun m => if m.1 == name then (name, value) else m
  else (name, value) :: members

namespace State

/-- The state after a finished value. -/
def deliver (v : Json) : List Context → State
  | [] => .complete v
  | .item before :: outer => .afterItem (v :: before) outer
  | .member before name :: outer => .afterMember (put name v before) outer

/-- The state after the first token of a value; `limit` containers may not be open at once. -/
def enter (limit : Nat) (outer : List Context) (t : Token) : Except Fault State := do
  match ← t.lexeme with
  | .scalar v => return deliver v outer
  | .str s => return deliver (.str s) outer
  | .mark =>
    if t.first = '[' ∨ t.first = '\x7b' then
      if limit ≤ outer.length + 1 then
        throw ⟨.tooDeep, t.place⟩
      return if t.first = '[' then .firstItem outer else .firstName outer
    throw ⟨.noValue, t.place⟩

/-- The state after a name. -/
def enterName (members : List (String × Json)) (outer : List Context) (t : Token) :
    Except Fault State := do
  if t.first ≠ '"' then
    throw ⟨.noName, t.place⟩
  match ← t.lexeme with
  | .str s => return .colon members s outer
  | _ => throw ⟨.noName, t.place⟩

/-- The state after one more token. -/
def step (limit : Nat) (s : State) (t : Token) : Except Fault State :=
  match s with
  | .value outer => enter limit outer t
  | .firstItem outer =>
    if t.first = ']' then .ok (deliver (.arr []) outer)
    else enter limit (.item [] :: outer) t
  | .nextItem items outer =>
    if t.first = ']' then .error ⟨.trailingComma, t.place⟩
    else enter limit (.item items :: outer) t
  | .afterItem items outer =>
    if t.first = ']' then .ok (deliver (.arr items.reverse) outer)
    else if t.first = ',' then .ok (.nextItem items outer)
    else .error ⟨.noItemSeparator, t.place⟩
  | .firstName outer =>
    if t.first = '\x7d' then .ok (deliver (.obj []) outer)
    else enterName [] outer t
  | .nextName members outer =>
    if t.first = '\x7d' then .error ⟨.trailingComma, t.place⟩
    else enterName members outer t
  | .colon members name outer =>
    if t.first = ':' then .ok (.value (.member members name :: outer))
    else .error ⟨.noColon, t.place⟩
  | .afterMember members outer =>
    if t.first = '\x7d' then .ok (deliver (.obj members.reverse) outer)
    else if t.first = ',' then .ok (.nextName members outer)
    else .error ⟨.noMemberSeparator, t.place⟩
  | .complete _ => .error ⟨.trailingCharacters, t.place⟩

/-- The document if the text ends here, or what is missing. -/
def finish : State → Except Flaw Json
  | .complete document => .ok document
  | .firstItem _ | .afterItem _ _ => .error .endInArray
  | .firstName _ | .colon _ _ _ | .afterMember _ _ => .error .endInObject
  | .value _ | .nextItem _ _ | .nextName _ _ => .error .endInValue

end State

/-- How many arrays and objects may not be open at once. -/
def depthLimit : Nat := 128

/-- Reads a text in which fewer than `limit` containers are open at once. -/
def readWithin (limit : Nat) (bytes : List UInt8) : Except Fault Json := do
  let state ← (Token.scan .start bytes).foldlM (State.step limit) (.value [])
  state.finish.mapError fun flaw => ⟨flaw, Position.start.advance bytes⟩

/-- The document that the bytes of a text write. -/
def read (bytes : List UInt8) : Except Fault Json :=
  readWithin depthLimit bytes

/-- The document that a text writes. -/
def readText (text : String) : Except Fault Json :=
  read (Utf8.encode text.toList)

end JsonSchema.Json
