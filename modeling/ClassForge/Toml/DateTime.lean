import ClassForge.Text.Integer

/-!
# Dates and times

The four kinds of date-time of a TOML document, their reading and their normal text.

## Main definitions

- `Toml.Date`, `Toml.Time`, `Toml.Offset`, `Toml.DateTime`
- `Toml.DateTime.read?` — the date-time that a text holds, if its parts are in range
- `Toml.DateTime.text` — the normal text

## Design notes

The normal text has a `T` between date and time, always shows the seconds, and drops the zeros at
the end of a fraction. Fractions are cut after nine digits.
-/

namespace ClassForge.Toml

/-- A day. -/
structure Date where
  year : Nat
  month : Nat
  day : Nat
deriving DecidableEq

/-- A time of day. -/
structure Time where
  hour : Nat
  minute : Nat
  second : Nat
  nanosecond : Nat
deriving DecidableEq

/-- The difference from universal time. -/
inductive Offset where
  | zulu
  /-- A difference in minutes. -/
  | minutes (n : Int)
deriving DecidableEq

/-- A date-time. -/
inductive DateTime where
  | instant (date : Date) (time : Time) (offset : Offset)
  | civil (date : Date) (time : Time)
  | date (date : Date)
  | time (time : Time)
deriving DecidableEq

/-- Whether a year has a leap day. -/
def isLeapYear (year : Nat) : Bool :=
  year % 4 == 0 && (year % 100 != 0 || year % 400 == 0)

/-- The number of days of a month. -/
def daysIn (year month : Nat) : Nat :=
  if month = 2 then if isLeapYear year then 29 else 28
  else if month = 4 ∨ month = 6 ∨ month = 9 ∨ month = 11 then 30
  else 31

def Date.isValid (d : Date) : Bool :=
  1 ≤ d.month && d.month ≤ 12 && 1 ≤ d.day && d.day ≤ daysIn d.year d.month

/-- Whether the time exists. A minute may have a leap second. -/
def Time.isValid (t : Time) : Bool :=
  t.hour ≤ 23 && t.minute ≤ 59 && t.second ≤ 60

/-- The number that exactly `n` digits at the front make, and the rest. -/
def fixedDigits? (n : Nat) (s : List Char) : Option (Nat × List Char) :=
  (Text.natural? (s.take n)).bind fun v => if n ≤ s.length then some (v, s.drop n) else none

/-- The character `c` at the front, and the rest. -/
def char? (c : Char) : List Char → Option (List Char)
  | d :: rest => if d = c then some rest else none
  | [] => none

/-- A day at the front, and the rest. -/
def Date.read? (s : List Char) : Option (Date × List Char) := do
  let (year, s) ← fixedDigits? 4 s
  let (month, s) ← fixedDigits? 2 (← char? '-' s)
  let (day, s) ← fixedDigits? 2 (← char? '-' s)
  let d : Date := ⟨year, month, day⟩
  if d.isValid then some (d, s) else none

/-- The nanoseconds of the digits behind a decimal point. -/
def nanoseconds (digits : List Char) : Nat :=
  Nat.ofDigitChars 10 ((digits ++ List.replicate 9 '0').take 9) 0

/-- The seconds and nanoseconds at the front, if there are any, and the rest. -/
def seconds? : List Char → Option ((Nat × Nat) × List Char)
  | ':' :: s => do
    let (second, s) ← fixedDigits? 2 s
    match s with
    | '.' :: s =>
      let digits := s.takeWhile Char.isDigit
      if digits.isEmpty then none
      else some ((second, nanoseconds digits), s.dropWhile Char.isDigit)
    | s => some ((second, 0), s)
  | s => some ((0, 0), s)

/-- A time of day at the front, and the rest. -/
def Time.read? (s : List Char) : Option (Time × List Char) := do
  let (hour, s) ← fixedDigits? 2 s
  let (minute, s) ← fixedDigits? 2 (← char? ':' s)
  let ((second, nanosecond), s) ← seconds? s
  let t : Time := ⟨hour, minute, second, nanosecond⟩
  if t.isValid then some (t, s) else none

/-- Hours and minutes of an offset, which are the whole text. -/
def offsetMinutes? (s : List Char) : Option Nat := do
  let (hours, s) ← fixedDigits? 2 s
  let (minutes, s) ← fixedDigits? 2 (← char? ':' s)
  if s.isEmpty && hours ≤ 23 && minutes ≤ 59 then some (hours * 60 + minutes) else none

/-- What follows a date and a time. -/
def DateTime.ofParts? (d : Date) (t : Time) : List Char → Option DateTime
  | [] => some (civil d t)
  | ['Z'] | ['z'] => some (instant d t .zulu)
  | '+' :: s => (offsetMinutes? s).map fun n => instant d t (.minutes (Int.ofNat n))
  | '-' :: s => (offsetMinutes? s).map fun n => instant d t (.minutes (-Int.ofNat n))
  | _ => none

/-- Whether `c` separates a date from a time. -/
def isTimeMark (c : Char) : Bool :=
  c == 'T' || c == 't' || c == ' '

def DateTime.read? (s : List Char) : Option DateTime :=
  match Date.read? s with
  | some (d, []) => some (.date d)
  | some (d, c :: rest) => do
    if isTimeMark c then
      let (t, rest) ← Time.read? rest
      ofParts? d t rest
    else none
  | none => do
    let (t, rest) ← Time.read? s
    if rest.isEmpty then some (.time t) else none

/-- The decimal text of a number, filled up with zeros to a width. -/
def padded (width n : Nat) : List Char :=
  let digits := Nat.toDigits 10 n
  List.replicate (width - digits.length) '0' ++ digits

def Date.text (d : Date) : List Char :=
  padded 4 d.year ++ '-' :: padded 2 d.month ++ '-' :: padded 2 d.day

/-- The text of a fraction of a second. -/
def fractionText (nanosecond : Nat) : List Char :=
  if nanosecond = 0 then []
  else '.' :: ((padded 9 nanosecond).reverse.dropWhile (· == '0')).reverse

/-- The text of a time of day. -/
def Time.text (t : Time) : List Char :=
  padded 2 t.hour ++ ':' :: padded 2 t.minute ++ ':' :: padded 2 t.second ++
    fractionText t.nanosecond

def Offset.text : Offset → List Char
  | zulu => ['Z']
  | minutes n =>
    (if n < 0 then '-' else '+') :: padded 2 (n.natAbs / 60) ++ ':' :: padded 2 (n.natAbs % 60)

def DateTime.text : DateTime → List Char
  | instant d t o => d.text ++ 'T' :: t.text ++ o.text
  | civil d t => d.text ++ 'T' :: t.text
  | date d => d.text
  | time t => t.text

end ClassForge.Toml
