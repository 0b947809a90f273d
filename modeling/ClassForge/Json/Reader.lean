import ClassForge.Json.Token

/-!
# Reading JSON documents

A document is read token by token: the state after some tokens is a stack of the arrays and objects
that are still open, together with what may follow.

## Main definitions

- `Json.Frame`, `Json.State` — an open array or object, and the state of the reader
- `Json.State.step?` — what one token does
- `Json.read?` — the document that a text holds

## Design notes

Objects keep their members as they were written, repeated keys included. A document whose arrays
and objects nest too deeply is refused.
-/

namespace ClassForge.Json

/-- An array or object that is still open. What it holds so far is listed last first. -/
inductive Frame where
  | array (items : List Json)
  /-- An object in which the value of `key` is being read. -/
  | object (members : List (String × Json)) (key : String)

/-- What may follow, and the open arrays and objects, innermost first. -/
inductive State where
  /-- A value must follow, or the end of the array if it is `closable`. -/
  | value (closable : Bool) (stack : List Frame)
  /-- A key must follow, or the end of the object if it is `closable`. -/
  | key (closable : Bool) (members : List (String × Json)) (stack : List Frame)
  /-- The colon behind a key must follow. -/
  | colon (members : List (String × Json)) (key : String) (stack : List Frame)
  /-- A value has been read. -/
  | after (j : Json) (stack : List Frame)

/-- The greatest number of arrays and objects that may be open at once. -/
def depthLimit : Nat := 127

/-- What one token does. `none` if it may not stand here. -/
def State.step? : State → Token → Option State
  | value _ stack, .scalar j => some (after j stack)
  | value _ stack, .text s => some (after (str s) stack)
  | value _ stack, .openArray =>
    if stack.length < depthLimit then some (value true (.array [] :: stack)) else none
  | value _ stack, .openObject =>
    if stack.length < depthLimit then some (key true [] stack) else none
  | value true (.array _ :: stack), .closeArray => some (after (arr []) stack)
  | key true _ stack, .closeObject => some (after (obj []) stack)
  | key _ members stack, .text s => some (colon members s stack)
  | colon members s stack, .colon => some (value false (.object members s :: stack))
  | after j (.array items :: stack), .comma => some (value false (.array (j :: items) :: stack))
  | after j (.array items :: stack), .closeArray => some (after (arr (j :: items).reverse) stack)
  | after j (.object members s :: stack), .comma => some (key false ((s, j) :: members) stack)
  | after j (.object members s :: stack), .closeObject =>
    some (after (obj ((s, j) :: members).reverse) stack)
  | _, _ => none

def State.run? (s : State) (tokens : List Token) : Option State :=
  tokens.foldlM State.step? s

def State.start : State := value false []

/-- The document that is complete in a state. -/
def State.result? : State → Option Json
  | after j [] => some j
  | _ => none

def read? (s : List Char) : Option Json := do
  (← State.start.run? (← tokens? s)).result?

/-- Tokens act one after another. -/
theorem State.run?_append (s : State) (l r : List Token) :
    s.run? (l ++ r) = (s.run? l).bind (·.run? r) := by
  simp [State.run?, List.foldlM_append, Option.bind_eq_bind]

end ClassForge.Json
