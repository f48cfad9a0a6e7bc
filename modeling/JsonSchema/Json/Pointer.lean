import JsonSchema.Json.Basic
import JsonSchema.Text.CharClass
import JsonSchema.Text.Split

/-!
# JSON Pointers

A pointer is a text that is empty or a sequence of tokens, each with a `/` before it. A token names
a member of an object or, as a decimal without leading zeros, an item of an array; `~0` and `~1`
stand for `~` and `/` in names. `Json.at?` follows a pointer from a document to a value.
-/

namespace JsonSchema

namespace Pointer

/-- A name as a token. -/
def escape (name : List Char) : List Char :=
  name.flatMap fun c => if c = '~' then ['~', '0'] else if c = '/' then ['~', '1'] else [c]

/-- The name that a token stands for; a `~` without `0` or `1` after it stands for itself. -/
def unescape : List Char → List Char
  | '~' :: '1' :: rest => '/' :: unescape rest
  | '~' :: '0' :: rest => '~' :: unescape rest
  | c :: rest => c :: unescape rest
  | [] => []

/-- The pointer to the member `name` below `pointer`. -/
def child (pointer name : List Char) : List Char :=
  pointer ++ '/' :: escape name

/-- The pointer to the item `i` below `pointer`. -/
def item (pointer : List Char) (i : Nat) : List Char :=
  pointer ++ '/' :: Nat.toDigits 10 i

/-- The tokens of a pointer, unescaped; `none` if the text is no pointer. -/
def tokens? : List Char → Option (List (List Char))
  | [] => some []
  | '/' :: rest => some ((Text.split '/' rest).map unescape)
  | _ => none

/-- The array index that a token writes: a decimal without leading zeros. -/
def index? (token : List Char) : Option Nat :=
  if token.head? = some '0' ∧ token.length ≠ 1 then none else CharClass.decimal? token

theorem unescape_escape (name : List Char) : unescape (escape name) = name := by
  induction name with
  | nil => rfl
  | cons c rest ih =>
    by_cases h₀ : c = '~'
    · subst h₀
      simpa [escape, unescape] using ih
    · by_cases h₁ : c = '/'
      · subst h₁
        simpa [escape, unescape] using ih
      · have : escape (c :: rest) = c :: escape rest := by simp [escape, h₀, h₁]
        rw [this, unescape, ih]
        · intro _ h; exact absurd h h₀
        · intro _ h; exact absurd h h₀

theorem slash_notMem_escape (name : List Char) : '/' ∉ escape name := by
  induction name with
  | nil => simp [escape]
  | cons c rest ih =>
    simp only [escape, List.flatMap_cons, List.mem_append, not_or]
    refine ⟨?_, ih⟩
    split
    · decide
    · split
      · decide
      · rename_i h; simp [Ne.symm h]

end Pointer

namespace Json

/-- The value below another that an unescaped token leads to. -/
def below? (v : Json) (token : List Char) : Option Json :=
  match v with
  | .obj members => lookup (String.ofList token) members
  | .arr items => (Pointer.index? token).bind (items[·]?)
  | _ => none

/-- The value that a sequence of unescaped tokens leads to. -/
def walk? : Json → List (List Char) → Option Json
  | v, [] => some v
  | v, token :: rest => (v.below? token).bind (walk? · rest)

/-- The value that a pointer leads to. -/
def at? (v : Json) (pointer : List Char) : Option Json :=
  (Pointer.tokens? pointer).bind v.walk?

@[simp] theorem walk?_nil (v : Json) : v.walk? [] = some v := rfl

theorem walk?_append (v : Json) (ts us : List (List Char)) :
    v.walk? (ts ++ us) = (v.walk? ts).bind (·.walk? us) := by
  induction ts generalizing v with
  | nil => rfl
  | cons t rest ih =>
    simp only [List.cons_append, walk?]
    cases v.below? t with
    | none => rfl
    | some w => simp [ih]

@[simp] theorem at?_nil (v : Json) : v.at? [] = some v := rfl

end Json

end JsonSchema
