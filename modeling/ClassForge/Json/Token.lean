import ClassForge.Json.Number

/-!
# JSON tokens

## Main definitions

- `Json.Token` — a bracket, a separator or a scalar value
- `Json.text?` — the characters of a string up to its closing quote
- `Json.literal?` — the number literal at the front
- `Json.tokens?` — all tokens of a text

## Design notes

A token is read together with a proof that less text is left, which ends the recursion of `tokens?`.
-/

namespace ClassForge.Json

/-- A token. Strings and numbers are decoded. -/
inductive Token where
  | openArray
  | closeArray
  | openObject
  | closeObject
  | comma
  | colon
  | scalar (j : Json)
  | text (s : String)

/-- Whether `c` may stand between tokens. -/
def isBlank (c : Char) : Bool :=
  c == ' ' || c == '\n' || c == '\t' || c == '\r'

def hexDigit? (c : Char) : Option Nat :=
  if '0' ≤ c && c ≤ '9' then some (c.toNat - '0'.toNat)
  else if 'a' ≤ c && c ≤ 'f' then some (c.toNat - 'a'.toNat + 10)
  else if 'A' ≤ c && c ≤ 'F' then some (c.toNat - 'A'.toNat + 10)
  else none

def hex4? (a b c d : Char) : Option Nat := do
  return (((← hexDigit? a) * 16 + (← hexDigit? b)) * 16 + (← hexDigit? c)) * 16 + (← hexDigit? d)

/-- The character that a backslash and a letter stand for. -/
def shortEscape? : Char → Option Char
  | '"' => some '"'
  | '\\' => some '\\'
  | '/' => some '/'
  | 'b' => some '\x08'
  | 'f' => some '\x0c'
  | 'n' => some '\n'
  | 'r' => some '\r'
  | 't' => some '\t'
  | _ => none

/-- Whether a 16-bit unit is the first of a surrogate pair. -/
def isHighSurrogate (n : Nat) : Bool :=
  0xD800 ≤ n && n ≤ 0xDBFF

/-- Whether a 16-bit unit is the second of a surrogate pair. -/
def isLowSurrogate (n : Nat) : Bool :=
  0xDC00 ≤ n && n ≤ 0xDFFF

/-- The characters of a string up to its closing quote, and what follows the quote. Control
characters must be escaped, and surrogates must come in pairs. -/
def text? : List Char → Option (List Char × List Char)
  | [] => none
  | '"' :: rest => some ([], rest)
  | '\\' :: 'u' :: a :: b :: c :: d :: rest =>
    match hex4? a b c d with
    | none => none
    | some high =>
      if isHighSurrogate high then
        match rest with
        | '\\' :: 'u' :: e :: f :: g :: h :: rest =>
          match hex4? e f g h with
          | none => none
          | some low =>
            if isLowSurrogate low then
              let n := (high - 0xD800) * 0x400 + (low - 0xDC00) + 0x10000
              (text? rest).map fun (s, rest) => (Char.ofNat n :: s, rest)
            else none
        | _ => none
      else if isLowSurrogate high then none
      else (text? rest).map fun (s, rest) => (Char.ofNat high :: s, rest)
  | '\\' :: c :: rest =>
    match shortEscape? c with
    | none => none
    | some e => (text? rest).map fun (s, rest) => (e :: s, rest)
  | c :: rest =>
    if c.toNat < 0x20 || c == '\\' then none
    else (text? rest).map fun (s, rest) => (c :: s, rest)

theorem length_lt_of_text? {s t rest : List Char} (h : text? s = some (t, rest)) :
    rest.length < s.length := by
  fun_induction text? s generalizing t rest <;> simp_all <;> grind

/-- One or more digits at the front, and the rest. -/
def digits? (s : List Char) : Option (List Char × List Char) :=
  let ds := s.takeWhile Char.isDigit
  if ds.isEmpty then none else some (ds, s.dropWhile Char.isDigit)

/-- The digits of an integer without superfluous leading zeros, and the rest. -/
def whole? (s : List Char) : Option (List Char × List Char) :=
  match s with
  | '0' :: rest => if (rest.head?.map Char.isDigit).getD false then none else some (['0'], rest)
  | s => digits? s

/-- The part behind a decimal point, if there is one. `none` for a point without digits. -/
def fraction? : List Char → Option (Option (List Char) × List Char)
  | '.' :: rest => (digits? rest).map fun (ds, rest) => (some ds, rest)
  | s => some (none, s)

/-- The sign and the digits of an exponent. -/
def exponentDigits? : List Char → Option ((Bool × List Char) × List Char)
  | '-' :: rest => (digits? rest).map fun (ds, rest) => ((true, ds), rest)
  | '+' :: rest => (digits? rest).map fun (ds, rest) => ((false, ds), rest)
  | rest => (digits? rest).map fun (ds, rest) => ((false, ds), rest)

/-- The exponent, if there is one. `none` for an exponent without digits. -/
def exponent? : List Char → Option (Option (Bool × List Char) × List Char)
  | 'e' :: rest => (exponentDigits? rest).map fun (e, rest) => (some e, rest)
  | 'E' :: rest => (exponentDigits? rest).map fun (e, rest) => (some e, rest)
  | s => some (none, s)

/-- The digits, fraction and exponent of a literal, behind its sign. -/
def unsigned? (isNegative : Bool) (s : List Char) : Option (Literal × List Char) := do
  let (whole, s) ← whole? s
  let (fraction, s) ← fraction? s
  let (exponent, s) ← exponent? s
  return (⟨isNegative, whole, fraction, exponent⟩, s)

/-- The number literal at the front, and the rest. -/
def literal? : List Char → Option (Literal × List Char)
  | '-' :: s => unsigned? true s
  | s => unsigned? false s

/-- The token at the front, which is not blank, and the rest. -/
def token? : List Char → Option (Token × List Char)
  | '[' :: s => some (.openArray, s)
  | ']' :: s => some (.closeArray, s)
  | '{' :: s => some (.openObject, s)
  | '}' :: s => some (.closeObject, s)
  | ',' :: s => some (.comma, s)
  | ':' :: s => some (.colon, s)
  | '"' :: s => (text? s).map fun (t, s) => (.text (String.ofList t), s)
  | 't' :: 'r' :: 'u' :: 'e' :: s => some (.scalar (.bool true), s)
  | 'f' :: 'a' :: 'l' :: 's' :: 'e' :: s => some (.scalar (.bool false), s)
  | 'n' :: 'u' :: 'l' :: 'l' :: s => some (.scalar .null, s)
  | s => (literal? s).bind fun (l, s) => l.value?.map fun n => (.scalar (.num n), s)

theorem length_lt_of_digits? {s ds rest : List Char} (h : digits? s = some (ds, rest)) :
    rest.length < s.length := by
  have hs := congrArg List.length (List.takeWhile_append_dropWhile (p := Char.isDigit) (l := s))
  simp only [digits?] at h
  split at h
  · simp at h
  · next hne =>
    obtain ⟨rfl, rfl⟩ := by simpa using h
    have : 0 < (s.takeWhile Char.isDigit).length := List.length_pos_iff.2 (by simpa using hne)
    simp only [List.length_append] at hs
    omega

theorem length_lt_of_whole? {s ds rest : List Char} (h : whole? s = some (ds, rest)) :
    rest.length < s.length := by
  unfold whole? at h
  split at h
  · split at h
    · simp at h
    · obtain ⟨_, rfl⟩ := by simpa using h
      simp
  · exact length_lt_of_digits? h

theorem length_le_of_fraction? {s : List Char} {f : Option (List Char)} {rest : List Char}
    (h : fraction? s = some (f, rest)) : rest.length ≤ s.length := by
  unfold fraction? at h
  split at h
  · obtain ⟨⟨ds, r⟩, hd, he⟩ := Option.map_eq_some_iff.1 h
    obtain ⟨_, rfl⟩ := Prod.mk.inj he
    have := length_lt_of_digits? hd
    simp only [List.length_cons]
    omega
  · obtain ⟨_, rfl⟩ := by simpa using h
    exact Nat.le_refl _

theorem length_lt_of_exponentDigits? {s : List Char} {e : Bool × List Char} {rest : List Char}
    (h : exponentDigits? s = some (e, rest)) : rest.length < s.length := by
  unfold exponentDigits? at h
  split at h <;>
  · obtain ⟨⟨ds, r⟩, hd, he⟩ := Option.map_eq_some_iff.1 h
    obtain ⟨_, rfl⟩ := Prod.mk.inj he
    have := length_lt_of_digits? hd
    simp only [List.length_cons] at *
    omega

theorem length_le_of_exponent? {s : List Char} {e : Option (Bool × List Char)} {rest : List Char}
    (h : exponent? s = some (e, rest)) : rest.length ≤ s.length := by
  unfold exponent? at h
  split at h
  case h_3 =>
    obtain ⟨_, rfl⟩ := by simpa using h
    exact Nat.le_refl _
  all_goals
    obtain ⟨⟨ds, r⟩, hd, he⟩ := Option.map_eq_some_iff.1 h
    obtain ⟨_, rfl⟩ := Prod.mk.inj he
    have := length_lt_of_exponentDigits? hd
    simp only [List.length_cons]
    omega

theorem length_lt_of_unsigned? {b : Bool} {s : List Char} {l : Literal} {rest : List Char}
    (h : unsigned? b s = some (l, rest)) : rest.length < s.length := by
  simp only [unsigned?, Option.bind_eq_bind, Option.bind_eq_some_iff, Option.pure_def,
    Option.some_inj] at h
  obtain ⟨⟨_, s₁⟩, h₁, ⟨_, s₂⟩, h₂, ⟨_, s₃⟩, h₃, he⟩ := h
  obtain ⟨_, rfl⟩ := Prod.mk.inj he
  have : s₁.length < s.length := length_lt_of_whole? h₁
  have : s₂.length ≤ s₁.length := length_le_of_fraction? h₂
  have : s₃.length ≤ s₂.length := length_le_of_exponent? h₃
  show s₃.length < s.length
  omega

theorem length_lt_of_literal? {s : List Char} {l : Literal} {rest : List Char}
    (h : literal? s = some (l, rest)) : rest.length < s.length := by
  unfold literal? at h
  split at h
  · have := length_lt_of_unsigned? h
    simp only [List.length_cons]
    omega
  · exact length_lt_of_unsigned? h

/-- A token takes at least one character. -/
theorem length_lt_of_token? {s : List Char} {t : Token} {rest : List Char}
    (h : token? s = some (t, rest)) : rest.length < s.length := by
  unfold token? at h
  split at h
  case h_7 =>
    obtain ⟨⟨ds, r⟩, hd, he⟩ := Option.map_eq_some_iff.1 h
    obtain ⟨_, rfl⟩ := Prod.mk.inj he
    have := length_lt_of_text? hd
    simp only [List.length_cons]
    omega
  case h_11 =>
    obtain ⟨⟨l, r⟩, hd, he⟩ := Option.bind_eq_some_iff.1 h
    obtain ⟨n, _, he⟩ := Option.map_eq_some_iff.1 he
    obtain ⟨_, rfl⟩ := Prod.mk.inj he
    exact length_lt_of_literal? hd
  all_goals
    obtain ⟨_, rfl⟩ := by simpa using h
    simp only [List.length_cons]
    omega

/-- The tokens of a text, with blanks left out. -/
def tokens? (s : List Char) : Option (List Token) :=
  match s with
  | [] => some []
  | c :: rest =>
    if isBlank c then tokens? rest
    else match _h : token? (c :: rest) with
      | none => none
      | some (t, rest') => (tokens? rest').map (t :: ·)
termination_by s.length
decreasing_by
  · exact Nat.lt_succ_self _
  · exact length_lt_of_token? _h

end ClassForge.Json
