import ClassForge.Manifest.Source
import ClassForge.Proofs.Text.Occurrence

/-!
# The range of a class name

The header of a class can be spelled in three ways, and its name is looked for in each of them in
turn. What is found is a range of bytes of the text that holds the name, and nothing is found only
where no spelling occurs.

## Main definitions

- `Source.Spelling` — what stands before and behind the name in a header
- `Source.IsFirstName` — the name in the leftmost header of the first spelling that occurs

## Main statements

- `Source.classHeader?_eq_none_iff` — no name is found where no header is spelled
- `Source.classHeader?_eq_some_iff` — which name is found
- `Source.IsFirstName.spells` — the range holds the name, and cuts no character
- `Source.classHeader?_range` — all of this together

## Design notes

A name may hold brackets and quotes, so that headers of one spelling overlap or look like those of
another. This makes no difference here: the text of the whole header is looked for.
-/

namespace ClassForge.Source

open Text (Span Occurs)

/-- A way to spell the header of a class: what stands before and behind its name. -/
structure Spelling where
  opening : String
  closing : String
  opening_ne : opening ≠ ""

namespace Spelling

variable {w : Spelling} {text name : String} {r : Span}

/-- The header of a class. -/
def header (w : Spelling) (name : String) : String :=
  w.opening ++ name ++ w.closing

/-- The range of the name in a header that stands in the range `h`. -/
def inside (w : Spelling) (h : Span) : Span :=
  ⟨h.start + w.opening.utf8ByteSize, h.stop - w.closing.utf8ByteSize⟩

theorem header_ne (w : Spelling) (name : String) : w.header name ≠ "" := by
  simp [header, w.opening_ne]

theorem header_behind (before after : String) :
    before ++ w.header name ++ after =
      before ++ w.opening ++ name ++ (w.closing ++ after) := by
  simp only [header, String.append_assoc]

/-- In a header, the name stands behind what opens it. -/
theorem inside_header (w : Spelling) (name : String) (n : Nat) :
    w.inside ⟨n, n + (w.header name).utf8ByteSize⟩ =
      ⟨n + w.opening.utf8ByteSize, n + w.opening.utf8ByteSize + name.utf8ByteSize⟩ := by
  have hstop : n + (w.header name).utf8ByteSize - w.closing.utf8ByteSize =
      n + w.opening.utf8ByteSize + name.utf8ByteSize := by
    simp only [header, String.utf8ByteSize_append]
    omega
  rw [inside, hstop]

theorem inside_behind (w : Spelling) (before name : String) :
    w.inside (.behind before (w.header name)) = .behind (before ++ w.opening) name := by
  rw [Span.behind, inside_header, Span.behind, String.utf8ByteSize_append]

/-- The range of the name in the leftmost header. -/
def find? (w : Spelling) (text name : String) : Option Span :=
  (Text.find? (w.header name).toList text.toList).map fun n =>
    w.inside ⟨n, n + (w.header name).utf8ByteSize⟩

theorem find?_eq_none_iff : w.find? text name = none ↔ ¬Occurs (w.header name) text := by
  rw [find?, Option.map_eq_none_iff, Text.find?_eq_none_iff_not_occurs (w.header_ne name)]

theorem find?_eq_some_iff :
    w.find? text name = some r ↔ ∃ h : Span, h.Leftmost text (w.header name) ∧ r = w.inside h := by
  rw [find?, Option.map_eq_some_iff]
  constructor
  · rintro ⟨n, hn, rfl⟩
    exact ⟨_, (Text.find?_eq_some_iff_leftmost (w.header_ne name)).1 hn, rfl⟩
  · rintro ⟨⟨n, stop⟩, hh, rfl⟩
    obtain rfl : stop = n + (w.header name).utf8ByteSize := hh.1.stop_eq
    exact ⟨n, (Text.find?_eq_some_iff_leftmost (w.header_ne name)).2 hh, rfl⟩

/-- The spelling with the name between two copies of `quote`. -/
def ofQuote (quote : List Char) : Spelling where
  opening := .ofList (headerStart ++ quote)
  closing := .ofList (quote ++ [']'])
  opening_ne := mt String.ofList_eq_empty_iff.1 (List.append_ne_nil_of_left_ne_nil (by decide) _)

theorem quotedHeader?_eq (quote : List Char) (text name : String) :
    quotedHeader? text.toList name.toList quote = (ofQuote quote).find? text name := by
  have hheader : ((ofQuote quote).header name).toList = headerText name.toList quote := by
    simp [ofQuote, header, headerText]
  have hopening : (ofQuote quote).opening.utf8ByteSize =
      Text.byteLength headerStart + Text.byteLength quote := by
    rw [ofQuote, Text.utf8ByteSize_ofList, Text.byteLength_append]
  rw [find?, hheader, quotedHeader?]
  refine congrArg (Option.map · _) (funext fun n => ?_)
  rw [inside_header, hopening, Text.byteLength_toList, Nat.add_assoc n]

end Spelling

/-- Without quotes, in double and in single quotes, in the order in which they are tried. -/
def spellings : List Spelling :=
  [⟨"[classes.", "]", by decide⟩, ⟨"[classes.\"", "\"]", by decide⟩,
    ⟨"[classes.'", "']", by decide⟩]

theorem spellings_eq : spellings = headerQuotes.map Spelling.ofQuote :=
  rfl

/-- Whether `r` is the range of the name in the leftmost header of the first spelling that occurs
in the text at all. -/
def IsFirstName (text name : String) (r : Span) : Prop :=
  ∃ earlier w later, spellings = earlier ++ w :: later ∧
    (∀ v ∈ earlier, ¬Occurs (v.header name) text) ∧
    ∃ h : Span, h.Leftmost text (w.header name) ∧ r = w.inside h

variable {s : Source} {text name : String} {r : Span}

theorem classHeader?_eq (s : Source) (name : String) :
    s.classHeader? name = spellings.findSome? fun w => w.find? s.text name := by
  rw [classHeader?, spellings_eq, List.findSome?_map]
  exact congrArg (List.findSome? · headerQuotes)
    (funext fun quote => Spelling.quotedHeader?_eq quote s.text name)

theorem classHeader?_eq_none_iff :
    s.classHeader? name = none ↔ ∀ w ∈ spellings, ¬Occurs (w.header name) s.text := by
  simp only [classHeader?_eq, List.findSome?_eq_none_iff, Spelling.find?_eq_none_iff]

theorem classHeader?_eq_some_iff :
    s.classHeader? name = some r ↔ IsFirstName s.text name r := by
  simp only [classHeader?_eq, List.findSome?_eq_some_iff, Spelling.find?_eq_none_iff,
    Spelling.find?_eq_some_iff, IsFirstName]
  exact exists_congr fun _ => exists_congr fun _ => exists_congr fun _ =>
    and_congr_right fun _ => and_comm

/-- The first name stands between two texts. -/
theorem IsFirstName.exists_append (hr : IsFirstName text name r) :
    ∃ before after, text = before ++ name ++ after ∧ r = .behind before name := by
  obtain ⟨-, w, -, -, -, h, hh, rfl⟩ := hr
  obtain ⟨before, after, rfl, rfl⟩ := (Span.spells_iff (w.header_ne name)).1 hh.1
  exact ⟨_, _, w.header_behind before after, w.inside_behind before name⟩

theorem IsFirstName.spells (hr : IsFirstName text name r) :
    r.Spells text name ∧ r.OnBoundaries text := by
  obtain ⟨before, after, rfl, rfl⟩ := hr.exists_append
  exact ⟨Span.spells_behind before name after, Span.onBoundaries_behind before name after⟩

/-- The name of a class is found unless no header of it is spelled in the text. The range that is
found lies in the text, cuts no character and holds the name, and it is that of the leftmost header
of the first spelling that occurs. -/
theorem classHeader?_range (s : Source) (name : String) :
    (s.classHeader? name = none ↔ ∀ w ∈ spellings, ¬Occurs (w.header name) s.text) ∧
      ∀ r, s.classHeader? name = some r ↔
        (r.Spells s.text name ∧ r.OnBoundaries s.text) ∧ IsFirstName s.text name r :=
  ⟨classHeader?_eq_none_iff, fun _ =>
    classHeader?_eq_some_iff.trans ⟨fun h => ⟨h.spells, h⟩, fun h => h.2⟩⟩

/-- The double quotes are found before the single ones, which come first in the text. -/
example : (Source.mk "é [classes.'ü']\n[classes.\"ü\"]" "m.toml").classHeader? "ü" =
    some ⟨28, 30⟩ := by
  decide

end ClassForge.Source
