import ClassForge.Json.Reader
import ClassForge.Proofs.Json.Written
import Mathlib.Data.List.Forall2

/-!
# Reading what was written

The compact text of a document is read back as the document, with each floating-point number as its
own text is read.

## Main definitions

- `Json.IsPlain` — all numbers in a document have a text of their own
- `Json.mapNumbers` — a document with other numbers
- `Json.tokens` — the tokens of a document
- `Json.Reads` — a text is read as some tokens, whatever follows
- `Json.Format`, `Json.Format.ReadsBack` — a writer with a reader, and that they go together

## Main statements

- `Json.text?_escape` — a string is read back
- `Json.reads_write` — the text of a document is read as its tokens
- `Json.run?_tokens` — the tokens of a document make the document
- `Json.read?_write` — the text of a document is read back
- `Json.Format.readsBack_compact` — so the writer of compact texts and the reader go together
-/

namespace ClassForge.Json

/-- All numbers in a document have a text of their own. -/
inductive IsPlain : Json → Prop where
  | null : IsPlain null
  | bool (b : Bool) : IsPlain (bool b)
  | num {n : Number} (h : n.IsPlain) : IsPlain (num n)
  | str (s : String) : IsPlain (str s)
  | arr {items : List Json} (h : ∀ j ∈ items, IsPlain j) : IsPlain (arr items)
  | obj {members : List (String × Json)} (h : ∀ m ∈ members, IsPlain m.2) : IsPlain (obj members)

mutual

/-- The document with each number replaced. -/
def mapNumbers (f : Number → Number) : Json → Json
  | null => null
  | bool b => bool b
  | num n => num (f n)
  | str s => str s
  | arr items => arr (mapNumbersItems f items)
  | obj members => obj (mapNumbersMembers f members)

/-- The items of an array with each number replaced. -/
def mapNumbersItems (f : Number → Number) : List Json → List Json
  | [] => []
  | j :: js => mapNumbers f j :: mapNumbersItems f js

/-- The members of an object with each number replaced. -/
def mapNumbersMembers (f : Number → Number) : List (String × Json) → List (String × Json)
  | [] => []
  | (s, j) :: ms => (s, mapNumbers f j) :: mapNumbersMembers f ms

end

/-- Tokens of several items, with commas between them. -/
def separated : List (List Token) → List Token
  | [] => []
  | [ts] => ts
  | ts :: rest => ts ++ .comma :: separated rest

mutual

/-- The tokens of a document. -/
def tokens : Json → List Token
  | str s => [.text s]
  | arr items => .openArray :: (separated (tokensItems items) ++ [.closeArray])
  | obj members => .openObject :: (separated (tokensMembers members) ++ [.closeObject])
  | null => [.scalar null]
  | bool b => [.scalar (bool b)]
  | num n => [.scalar (num n)]

/-- The tokens of the items of an array. -/
def tokensItems : List Json → List (List Token)
  | [] => []
  | j :: js => tokens j :: tokensItems js

/-- The tokens of the members of an object. -/
def tokensMembers : List (String × Json) → List (List Token)
  | [] => []
  | (s, j) :: ms => (.text s :: .colon :: tokens j) :: tokensMembers ms

end

/-! ### Items and members -/

theorem writeItems_eq (items : List Json) : writeItems items = items.map write := by
  induction items with
  | nil => rfl
  | cons j js ih => rw [writeItems, ih, List.map_cons]

theorem writeMembers_eq (members : List (String × Json)) :
    writeMembers members = members.map fun m => writeString m.1 ++ ':' :: write m.2 := by
  induction members with
  | nil => rfl
  | cons m ms ih => rw [writeMembers, ih, List.map_cons]

theorem mapNumbersItems_eq (f : Number → Number) (items : List Json) :
    mapNumbersItems f items = items.map (mapNumbers f) := by
  induction items with
  | nil => rfl
  | cons j js ih => rw [mapNumbersItems, ih, List.map_cons]

theorem mapNumbersMembers_eq (f : Number → Number) (members : List (String × Json)) :
    mapNumbersMembers f members = members.map fun m => (m.1, mapNumbers f m.2) := by
  induction members with
  | nil => rfl
  | cons m ms ih => rw [mapNumbersMembers, ih, List.map_cons]

theorem tokensItems_eq (items : List Json) : tokensItems items = items.map tokens := by
  induction items with
  | nil => rfl
  | cons j js ih => rw [tokensItems, ih, List.map_cons]

theorem tokensMembers_eq (members : List (String × Json)) :
    tokensMembers members = members.map fun m => .text m.1 :: .colon :: tokens m.2 := by
  induction members with
  | nil => rfl
  | cons m ms ih => rw [tokensMembers, ih, List.map_cons]

theorem depth_le_depthItems {items : List Json} {j : Json} (hj : j ∈ items) :
    j.depth ≤ depthItems items := by
  induction items with
  | nil => cases hj
  | cons i is ih =>
    rw [depthItems]
    obtain rfl | hj := List.mem_cons.1 hj
    · exact Nat.le_max_left _ _
    · exact (ih hj).trans (Nat.le_max_right _ _)

theorem depth_le_depthMembers {members : List (String × Json)} {m : String × Json}
    (hm : m ∈ members) : m.2.depth ≤ depthMembers members := by
  induction members with
  | nil => cases hm
  | cons n ns ih =>
    rw [depthMembers]
    obtain rfl | hm := List.mem_cons.1 hm
    · exact Nat.le_max_left _ _
    · exact (ih hm).trans (Nat.le_max_right _ _)

/-! ### Strings -/

theorem hexDigit?_digitChar : ∀ d < 16, hexDigit? d.digitChar = some d := by
  decide

/-- A character is read back from the way it is written. -/
theorem text?_escape_append (c : Char) (s : List Char) :
    text? (escape c ++ s) = (text? s).map fun r => (c :: r.1, r.2) := by
  unfold escape
  split
  case h_8 hquote hbackslash _ _ _ _ _ =>
    split
    next hcontrol =>
      have hhex : hex4? '0' '0' (c.toNat / 16).digitChar (c.toNat % 16).digitChar = some c.toNat := by
        have h₁ := hexDigit?_digitChar (c.toNat / 16) (by omega)
        have h₂ := hexDigit?_digitChar (c.toNat % 16) (by omega)
        have h₀ : hexDigit? '0' = some 0 := rfl
        rw [hex4?, h₀, h₁, h₂]
        exact congrArg some (by omega)
      have hhigh : isHighSurrogate c.toNat = false := by
        rw [isHighSurrogate]
        simp only [Bool.and_eq_false_iff, decide_eq_false_iff_not]
        omega
      have hlow : isLowSurrogate c.toNat = false := by
        rw [isLowSurrogate]
        simp only [Bool.and_eq_false_iff, decide_eq_false_iff_not]
        omega
      simp only [List.cons_append, List.nil_append, text?, hhex, hhigh, hlow, Char.ofNat_toNat]
      rfl
    next hprintable =>
      rw [List.singleton_append, text?.eq_def]
      split
      next heq => cases heq
      next heq => exact absurd (List.cons.inj heq).1 hquote
      next heq => exact absurd (List.cons.inj heq).1 hbackslash
      next heq => exact absurd (List.cons.inj heq).1 hbackslash
      next heq =>
        obtain ⟨rfl, rfl⟩ := List.cons.inj heq
        have hplain : ¬ (c.toNat < 0x20 || c == '\\') = true := by
          rw [Bool.or_eq_true, decide_eq_true_eq, beq_iff_eq]
          exact not_or.2 ⟨hprintable, hbackslash⟩
        rw [if_neg hplain]
  all_goals rfl

/-- A string is read back up to its closing quote. -/
theorem text?_escape (s rest : List Char) :
    text? (s.flatMap escape ++ '"' :: rest) = some (s, rest) := by
  induction s with
  | nil => rfl
  | cons c s ih =>
    rw [List.flatMap_cons, List.append_assoc, text?_escape_append, ih]
    rfl

/-! ### Tokens of a text -/

/-- A text is read as some tokens, whatever follows. -/
def Reads (s : List Char) (ts : List Token) : Prop :=
  ∀ rest, Ends rest → tokens? (s ++ rest) = (tokens? rest).map (ts ++ ·)

theorem tokens?_cons {c : Char} {s rest : List Char} {t : Token} (hblank : isBlank c = false)
    (h : token? (c :: s) = some (t, rest)) : tokens? (c :: s) = (tokens? rest).map (t :: ·) := by
  rw [tokens?, if_neg (by simp [hblank])]
  split
  next hnone => rw [h] at hnone; cases hnone
  next hsome =>
    rw [h] at hsome
    cases hsome
    rfl

/-- One token that is read wherever it ends. -/
theorem reads_token {c : Char} {s : List Char} {t : Token} (hblank : isBlank c = false)
    (h : ∀ rest, Ends rest → token? (c :: (s ++ rest)) = some (t, rest)) : Reads (c :: s) [t] :=
  fun rest hrest => tokens?_cons hblank (h rest hrest)

theorem reads_null : Reads (write null) [.scalar null] :=
  reads_token rfl fun _ _ => rfl

theorem reads_bool (b : Bool) : Reads (write (bool b)) [.scalar (bool b)] := by
  cases b <;> exact reads_token rfl fun _ _ => rfl

theorem reads_string (s : String) : Reads (writeString s) [.text s] := by
  refine reads_token rfl fun rest _ => ?_
  rw [List.append_assoc, List.singleton_append]
  show (text? (s.toList.flatMap escape ++ '"' :: rest)).map _ = _
  simp only [text?_escape, Option.map_some, String.ofList_toList]

theorem reads_number {n : Number} (hn : n.IsPlain) :
    Reads (writeNumber n) [.scalar (num (n.mapFloat readBack))] := by
  obtain ⟨l, hl, htext, hvalue⟩ := exists_literal hn
  obtain ⟨c, s, hcons, hc⟩ := exists_text_eq_cons hl
  rw [← htext, hcons]
  refine reads_token (isBlank_eq_false hc) fun rest hrest => ?_
  have h := token?_text hl hrest
  rwa [hvalue, hcons] at h

theorem ends_cons {c : Char} (hc : c = ',' ∨ c = ':' ∨ c = ']' ∨ c = '}') (s : List Char) :
    Ends (c :: s) := by
  intro d hd
  obtain rfl := Option.some.inj hd
  obtain rfl | rfl | rfl | rfl := hc <;> decide

/-- A separator or a bracket behind a text. -/
theorem Reads.append_cons {s r : List Char} {ts us : List Token} {c : Char} {t : Token}
    (hs : Reads s ts) (hc : c = ',' ∨ c = ':' ∨ c = ']' ∨ c = '}')
    (ht : ∀ rest, token? (c :: rest) = some (t, rest)) (hr : Reads r us) :
    Reads (s ++ c :: r) (ts ++ t :: us) := by
  intro rest hrest
  have hblank : isBlank c = false := by obtain rfl | rfl | rfl | rfl := hc <;> rfl
  rw [List.append_assoc, List.cons_append, hs _ (ends_cons hc _), tokens?_cons hblank (ht _),
    hr rest hrest, Option.map_map, Option.map_map]
  refine congrArg (fun f => (tokens? rest).map f) (funext fun vs => ?_)
  simp

theorem reads_nil : Reads [] [] := by
  intro rest _
  simp

theorem reads_commaSeparated {texts : List (List Char)} {tokens : List (List Token)}
    (h : List.Forall₂ Reads texts tokens) : Reads (commaSeparated texts) (separated tokens) := by
  induction h with
  | nil => exact reads_nil
  | cons hs hrest ih =>
    cases hrest with
    | nil => exact hs
    | cons hr hrest => exact hs.append_cons (.inl rfl) (fun _ => rfl) ih

/-- Brackets around a text. -/
theorem Reads.bracketed {s : List Char} {ts : List Token} {l r : Char} {t u : Token}
    (hs : Reads s ts) (hl : isBlank l = false) (hr : r = ',' ∨ r = ':' ∨ r = ']' ∨ r = '}')
    (ht : ∀ rest, token? (l :: rest) = some (t, rest))
    (hu : ∀ rest, token? (r :: rest) = some (u, rest)) :
    Reads (l :: (s ++ [r])) (t :: (ts ++ [u])) := by
  intro rest hrest
  rw [List.cons_append, tokens?_cons hl (ht _), hs.append_cons hr hu reads_nil rest hrest,
    Option.map_map]
  rfl

/-- The text of a document is read as its tokens. -/
theorem reads_write {j : Json} (hj : j.IsPlain) :
    Reads j.write (j.mapNumbers (Number.mapFloat readBack)).tokens := by
  induction hj with
  | null => exact reads_null
  | bool b => exact reads_bool b
  | num hn => exact reads_number hn
  | str s => exact reads_string s
  | @arr items hitems ih =>
    rw [write, mapNumbers, tokens, writeItems_eq, mapNumbersItems_eq, tokensItems_eq, List.map_map]
    refine (reads_commaSeparated ?_).bracketed rfl (by simp) (fun _ => rfl) fun _ => rfl
    rw [List.forall₂_map_left_iff, List.forall₂_map_right_iff, List.forall₂_same]
    exact ih
  | @obj members hmembers ih =>
    rw [write, mapNumbers, tokens, writeMembers_eq, mapNumbersMembers_eq, tokensMembers_eq,
      List.map_map]
    refine (reads_commaSeparated ?_).bracketed rfl (by simp) (fun _ => rfl) fun _ => rfl
    rw [List.forall₂_map_left_iff, List.forall₂_map_right_iff, List.forall₂_same]
    exact fun m hm => (reads_string m.1).append_cons (by simp) (fun _ => rfl) (ih m hm)

/-! ### Documents of tokens -/

theorem run?_cons (s : State) (t : Token) (ts : List Token) :
    s.run? (t :: ts) = (s.step? t).bind (·.run? ts) := by
  rw [State.run?, List.foldlM_cons, Option.bind_eq_bind]
  rfl

/-- The state after a comma or a closing bracket behind the items of an open array. -/
theorem run?_items {items : List Json} {stack : List Frame}
    (h : ∀ j ∈ items, ∀ closable (stack' : List Frame), stack'.length = stack.length + 1 →
      (State.value closable stack').run? j.tokens = some (.after j stack'))
    (hne : items ≠ []) (closable : Bool) (read : List Json) :
    (State.value closable (.array read :: stack)).run?
        (separated (tokensItems items) ++ [.closeArray]) =
      some (.after (arr (read.reverse ++ items)) stack) := by
  induction items generalizing closable read with
  | nil => exact absurd rfl hne
  | cons j js ih =>
    obtain ⟨hj, hjs⟩ := List.forall_mem_cons.1 h
    have hread := hj closable (.array read :: stack) rfl
    cases js with
    | nil =>
      rw [tokensItems, tokensItems, separated, State.run?_append, hread, Option.bind_some, run?_cons]
      simp [State.step?, State.run?]
    | cons j' js =>
      have hrest := ih hjs (List.cons_ne_nil _ _) false (j :: read)
      rw [tokensItems] at hrest
      rw [tokensItems, tokensItems, separated, List.append_assoc, State.run?_append, hread,
        Option.bind_some, List.cons_append, run?_cons]
      · simpa [State.step?] using hrest
      · exact List.cons_ne_nil _ _

theorem run?_members {members : List (String × Json)} {stack : List Frame}
    (h : ∀ m ∈ members, ∀ closable (stack' : List Frame), stack'.length = stack.length + 1 →
      (State.value closable stack').run? m.2.tokens = some (.after m.2 stack'))
    (hne : members ≠ []) (closable : Bool) (read : List (String × Json)) :
    (State.key closable read stack).run? (separated (tokensMembers members) ++ [.closeObject]) =
      some (.after (obj (read.reverse ++ members)) stack) := by
  induction members generalizing closable read with
  | nil => exact absurd rfl hne
  | cons m ms ih =>
    obtain ⟨key, j⟩ := m
    obtain ⟨hj, hms⟩ := List.forall_mem_cons.1 h
    have hread : ∀ ts, (State.key closable read stack).run? (.text key :: .colon :: (j.tokens ++ ts)) =
        (State.after j (.object read key :: stack)).run? ts := by
      intro ts
      rw [run?_cons, State.step?, Option.bind_some, run?_cons, State.step?, Option.bind_some,
        State.run?_append, hj false (.object read key :: stack) rfl, Option.bind_some]
    cases ms with
    | nil =>
      rw [tokensMembers, tokensMembers, separated, List.cons_append, List.cons_append, hread, run?_cons]
      simp [State.step?, State.run?]
    | cons m' ms =>
      have hrest := ih hms (List.cons_ne_nil _ _) false ((key, j) :: read)
      rw [tokensMembers, separated, List.append_assoc, List.cons_append, List.cons_append, hread,
        List.cons_append, run?_cons]
      · simpa [State.step?] using hrest
      · rw [tokensMembers_eq]
        exact List.cons_ne_nil _ _

/-- The tokens of a document make the document, if there is room for its arrays and objects. -/
theorem run?_tokens (j : Json) (closable : Bool) (stack : List Frame)
    (h : stack.length + j.depth ≤ depthLimit) :
    (State.value closable stack).run? j.tokens = some (.after j stack) := by
  induction j using Json.induction generalizing closable stack with
  | null | bool b | num n | str s => rfl
  | arr items ih =>
    rw [depth] at h
    have hopen : stack.length < depthLimit := by omega
    rw [tokens, run?_cons, State.step?, if_pos hopen, Option.bind_some]
    by_cases hne : items = []
    · rw [hne]
      rfl
    · refine run?_items (fun j hj closable' stack' hstack => ?_) hne true []
      have := depth_le_depthItems hj
      exact ih j hj closable' stack' (by omega)
  | obj members ih =>
    rw [depth] at h
    have hopen : stack.length < depthLimit := by omega
    rw [tokens, run?_cons, State.step?, if_pos hopen, Option.bind_some]
    by_cases hne : members = []
    · rw [hne]
      rfl
    · refine run?_members (fun m hm closable' stack' hstack => ?_) hne true []
      have := depth_le_depthMembers hm
      exact ih m hm closable' stack' (by omega)

theorem depth_mapNumbers (f : Number → Number) (j : Json) : (j.mapNumbers f).depth = j.depth := by
  induction j using Json.induction with
  | null | bool b | num n | str s => rfl
  | arr items ih =>
    have h : depthItems (mapNumbersItems f items) = depthItems items := by
      induction items with
      | nil => rfl
      | cons j js ihs =>
        obtain ⟨hj, hjs⟩ := List.forall_mem_cons.1 ih
        rw [mapNumbersItems, depthItems, depthItems, hj, ihs hjs]
    rw [mapNumbers, depth, depth, h]
  | obj members ih =>
    have h : depthMembers (mapNumbersMembers f members) = depthMembers members := by
      induction members with
      | nil => rfl
      | cons m ms ihs =>
        obtain ⟨hm, hms⟩ := List.forall_mem_cons.1 ih
        rw [mapNumbersMembers, depthMembers, depthMembers, hm, ihs hms]
    rw [mapNumbers, depth, depth, h]

/-- The text of a document that does not nest too deeply is read back, with each floating-point number
as its own text is read. -/
theorem read?_write {j : Json} (hj : j.IsPlain) (hdepth : j.depth ≤ depthLimit) :
    read? j.write = some (j.mapNumbers (Number.mapFloat readBack)) := by
  have htokens : tokens? j.write = some (j.mapNumbers (Number.mapFloat readBack)).tokens := by
    have h := reads_write hj [] ends_nil
    have hnil : tokens? [] = some [] := by rw [tokens?]
    rwa [List.append_nil, hnil, Option.map_some, List.append_nil] at h
  have hrun : State.start.run? (j.mapNumbers (Number.mapFloat readBack)).tokens =
      some (.after (j.mapNumbers (Number.mapFloat readBack)) []) := by
    refine run?_tokens _ false [] ?_
    rwa [depth_mapNumbers, List.length_nil, Nat.zero_add]
  rw [read?, htokens, Option.bind_eq_bind, Option.bind_some, hrun]
  rfl

/-! ### Formats -/

/-- A way to write documents, and one to read them. -/
structure Format where
  write : Json → String
  read? : String → Option Json

namespace Format

/-- The documents that do not nest too deeply are read back, with each floating-point number as `f`
has it. -/
def ReadsBack (F : Format) (f : Binary64 → Binary64) : Prop :=
  ∀ j : Json, j.IsPlain → j.depth ≤ depthLimit →
    F.read? (F.write j) = some (j.mapNumbers (Number.mapFloat f))

/-- Compact texts. -/
def compact : Format where
  write j := String.ofList j.write
  read? text := Json.read? text.toList

theorem readsBack_compact : compact.ReadsBack readBack := by
  intro j hj hdepth
  show Json.read? (String.ofList j.write).toList = _
  rw [String.toList_ofList, read?_write hj hdepth]

end Format

end ClassForge.Json
