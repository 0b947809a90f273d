import ClassForge.Binary64

/-!
# JSON documents

## Main definitions

- `Json.Number` — a number as natural, negative integer or floating-point number
- `Json` — a document tree; an object lists its members in order and may repeat a key
- `Json.induction` — induction over the items and members nested in a document
- `Json.depth` — how deeply arrays and objects nest
- `Json.sorted` — the document with sorted objects, in which no key is repeated
-/

namespace ClassForge

/-- A number of a JSON document. -/
inductive Json.Number where
  /-- An integer from zero up. -/
  | natural (n : UInt64)
  /-- An integer below zero. -/
  | negative (i : Int64)
  | float (x : Binary64)
deriving DecidableEq

/-- The integer that a number is, if 64 bits with sign hold it. -/
def Json.Number.toInt64? : Json.Number → Option Int64
  | natural n => if n.toNat < Nat.pow 2 63 then some n.toInt64 else none
  | negative i => some i
  | float _ => none

/-- The floating-point number nearest to a number. -/
def Json.Number.toBinary64 : Json.Number → Binary64
  | natural n => .ofNat n.toNat
  | negative i => .ofInt i.toInt
  | float x => x

/-- A JSON document. -/
inductive Json where
  | null
  | bool (b : Bool)
  | num (n : Json.Number)
  | str (s : String)
  | arr (items : List Json)
  | obj (members : List (String × Json))

namespace Json

instance : Inhabited Json := ⟨null⟩

/-- To show a property of all documents it is enough to derive it for an array from its items and
for an object from the values of its members. -/
@[elab_as_elim]
theorem induction {motive : Json → Prop} (null : motive .null) (bool : ∀ b, motive (.bool b))
    (num : ∀ n, motive (.num n)) (str : ∀ s, motive (.str s))
    (arr : ∀ items : List Json, (∀ j ∈ items, motive j) → motive (.arr items))
    (obj : ∀ members : List (String × Json), (∀ m ∈ members, motive m.2) → motive (.obj members))
    (j : Json) : motive j :=
  @Json.rec motive (fun items => ∀ j ∈ items, motive j) (fun members => ∀ m ∈ members, motive m.2)
    (fun m => motive m.2) null bool num str arr obj (List.forall_mem_nil _)
    (fun _ _ hd tl => List.forall_mem_cons.2 ⟨hd, tl⟩) (List.forall_mem_nil _)
    (fun _ _ hd tl => List.forall_mem_cons.2 ⟨hd, tl⟩) (fun _ _ h => h) j

mutual

/-- The number of arrays and objects around the innermost value. -/
def depth : Json → Nat
  | arr items => depthItems items + 1
  | obj members => depthMembers members + 1
  | _ => 0

/-- The largest depth among the items of an array. -/
def depthItems : List Json → Nat
  | [] => 0
  | j :: js => max (depth j) (depthItems js)

/-- The largest depth among the members of an object. -/
def depthMembers : List (String × Json) → Nat
  | [] => 0
  | (_, j) :: ms => max (depth j) (depthMembers ms)

end

/-! ### Documents that are to be of one type -/

def null? : Json → Option Unit
  | null => some ()
  | _ => none

def bool? : Json → Option Bool
  | bool b => some b
  | _ => none

/-- The integer that a document is. Integers that need 64 bits without sign are refused, and so are
floating-point numbers, whether or not they have a fraction. -/
def int64? : Json → Option Int64
  | num (.natural n) => if n.toNat ≤ Int64.maxValue.toInt.toNat then some n.toInt64 else none
  | num (.negative i) => some i
  | _ => none

/-- The floating-point number that a document is, or the one nearest to the integer that it is. -/
def binary64? : Json → Option Binary64
  | num (.natural n) => some (.ofNat n.toNat)
  | num (.negative i) => some (.ofInt i.toInt)
  | num (.float x) => some x
  | _ => none

def string? : Json → Option String
  | str s => some s
  | _ => none

/-! ### Sorted objects -/

/-- Inserts a member among members that are sorted by key, in the place of one with the same key. -/
def insertMember {α : Type} (key : String) (a : α) : List (String × α) → List (String × α)
  | [] => [(key, a)]
  | (k, b) :: rest =>
    if key < k then (key, a) :: (k, b) :: rest
    else if key = k then (key, a) :: rest
    else (k, b) :: insertMember key a rest

/-- Sorts members by key. Of those with the same key the last one counts. -/
def sortMembers {α : Type} (members : List (String × α)) : List (String × α) :=
  members.foldl (fun sorted m => insertMember m.1 m.2 sorted) []

mutual

/-- The document with the members of every object sorted by key. Of a repeated key the last member
counts. -/
def sorted : Json → Json
  | null => null
  | bool b => bool b
  | num n => num n
  | str s => str s
  | arr items => arr (sortedItems items)
  | obj members => obj (sortMembers (sortedMembers members))

/-- The sorted items of an array. -/
def sortedItems : List Json → List Json
  | [] => []
  | j :: js => sorted j :: sortedItems js

/-- The members of an object with sorted values. -/
def sortedMembers : List (String × Json) → List (String × Json)
  | [] => []
  | (key, j) :: ms => (key, sorted j) :: sortedMembers ms

end

end Json

end ClassForge
