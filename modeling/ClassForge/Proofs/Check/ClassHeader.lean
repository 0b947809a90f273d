import ClassForge.Manifest.Reader
import ClassForge.Proofs.Toml.Statements

/-!
# The class header that a check points at

The header of a class is looked for in the text and not in the document, so that a comment or a
string that looks like it may be taken for it. What is found outside of comments and strings is the
header, unless the name means something else where it stands.

## Main definitions

- `Source.ReadsAsItself` — a name that means itself between quotes of a kind, or without quotes
- `Source.Names` — a header that names a class in a range of the text

## Main statements

- `Source.exists_names_of_classHeader?` — what stands outside of comments and strings is right
- `Source.classHeader?_commented` — what is found may stand in a comment

## Design notes

In double brackets the name of a class makes an array of tables. Such a header looks like the one of
the class behind its first bracket, so that it may be found as well.
-/

namespace ClassForge

open Text (Span byteLength)

namespace Source

/-- The characters that end a name between two copies of `quote` or stand for something else. -/
def special (quote : List Char) : List Char :=
  if quote = ['"'] then ['"', '\\']
  else if quote = ['\x27'] then ['\x27']
  else ['.', ']', ' ', '\t', '"', '\x27']

/-- Whether a name is read as itself between two copies of `quote`, if it is read at all. -/
def ReadsAsItself (quote name : List Char) : Prop :=
  ∀ d ∈ name, d ∉ special quote

instance (quote : List Char) : DecidablePred (ReadsAsItself quote) := fun name =>
  name.decidableBAll _

/-- The range of a name in a header with the text `before` in front of it. -/
def nameSpan (before name quote : List Char) : Span :=
  ⟨byteLength before + byteLength headerStart + byteLength quote,
    byteLength before + byteLength headerStart + byteLength quote + byteLength name⟩

theorem exists_of_quotedHeader? {text name quote : List Char} {r : Span}
    (h : quotedHeader? text name quote = some r) :
    ∃ before after, text = before ++ (headerText name quote ++ after) ∧
      r = nameSpan before name quote := by
  obtain ⟨start, hs, rfl⟩ := Option.map_eq_some_iff.1 h
  obtain ⟨before, after, ht, rfl⟩ := Text.exists_of_find? hs
  exact ⟨before, after, by rw [ht, List.append_assoc], rfl⟩

end Source

namespace Toml

open Source (ReadsAsItself headerQuotes)

variable {total fuel limit : Nat} {name quote after n r s t u rest : List Char}

/-! ### The name of a header -/

/-- A character before the content of a string stands in front of it. -/
theorem eq_cons_of_cons? {c : Char} {r : Option (List Char × List Char)}
    (h : cons? (some c) r = some (t, rest)) : ∃ u, r = some (u, rest) ∧ t = c :: u := by
  obtain ⟨⟨u, rest'⟩, hr, h⟩ := Option.bind_eq_some_iff.1 h
  cases h
  exact ⟨u, hr, rfl⟩

theorem eq_of_basic? (hn : ReadsAsItself ['"'] name)
    (h : basic? (name ++ '"' :: u) = some (t, r)) : t = name ∧ r = u := by
  induction name generalizing t with
  | nil =>
    cases h
    exact ⟨rfl, rfl⟩
  | cons d name ih =>
    obtain ⟨hd, hn⟩ := List.forall_mem_cons.1 hn
    have hd : d ≠ '"' ∧ d ≠ '\\' := by
      constructor <;> rintro rfl <;> exact absurd hd (by decide)
    have hs : basic? (d :: (name ++ '"' :: u)) =
        if isForbidden d then none else cons? (some d) (basic? (name ++ '"' :: u)) := by
      simp [basic?, hd]
    rw [List.cons_append, hs] at h
    obtain ⟨v, hv, rfl⟩ := eq_cons_of_cons? (Option.ite_none_left_eq_some.1 h).2
    exact ⟨congrArg (d :: ·) (ih hn hv).1, (ih hn hv).2⟩

theorem eq_of_literal? (hn : ReadsAsItself ['\x27'] name)
    (h : literal? (name ++ '\x27' :: u) = some (t, r)) : t = name ∧ r = u := by
  induction name generalizing t with
  | nil =>
    cases h
    exact ⟨rfl, rfl⟩
  | cons d name ih =>
    obtain ⟨hd, hn⟩ := List.forall_mem_cons.1 hn
    have hd : d ≠ '\x27' := by
      rintro rfl
      exact absurd hd (by decide)
    have hs : literal? (d :: (name ++ '\x27' :: u)) =
        if isForbidden d then none else cons? (some d) (literal? (name ++ '\x27' :: u)) := by
      simp [literal?]
    rw [List.cons_append, hs] at h
    obtain ⟨v, hv, rfl⟩ := eq_cons_of_cons? (Option.ite_none_left_eq_some.1 h).2
    exact ⟨congrArg (d :: ·) (ih hn hv).1, (ih hn hv).2⟩

theorem eq_of_keyPart? (hu : Unquoted s) (h : keyPart? s = some (n, r)) :
    n = s.takeWhile isBareKey ∧ r = s.dropWhile isBareKey := by
  unfold keyPart? at h
  split at h
  next => exact absurd rfl (hu _ _ rfl).1
  next => exact absurd rfl (hu _ _ rfl).2
  next =>
    cases (Option.ite_none_left_eq_some.1 h).2
    exact ⟨rfl, rfl⟩

/-- A bare key ends with the name, or before a character of the name that goes on with no key. -/
theorem dropWhile_isBareKey_name (hn : ReadsAsItself [] name) :
    ((name ++ ']' :: after).takeWhile isBareKey = name ∧
      (name ++ ']' :: after).dropWhile isBareKey = ']' :: after) ∨
    ∃ d r', (name ++ ']' :: after).dropWhile isBareKey = d :: r' ∧
      isBlank d = false ∧ d ≠ '.' ∧ d ≠ ']' := by
  induction name with
  | nil => exact .inl ⟨rfl, rfl⟩
  | cons d name ih =>
    obtain ⟨hd, hn⟩ := List.forall_mem_cons.1 hn
    by_cases hb : isBareKey d = true
    · simpa [hb] using ih hn
    · refine .inr ⟨d, name ++ ']' :: after, by simp [hb], ?_⟩
      simp_all [Source.special, isBlank]

/-- The part of a key in a header is the name, or ends where no header does. -/
theorem keyPart?_name (hq : quote ∈ headerQuotes) (hn : ReadsAsItself quote name)
    (h : keyPart? (quote ++ name ++ quote ++ ']' :: after) = some (n, r)) :
    (n = name ∧ r = ']' :: after) ∨
      ∃ d r', r = d :: r' ∧ isBlank d = false ∧ d ≠ '.' ∧ d ≠ ']' := by
  simp only [headerQuotes, List.mem_cons, List.not_mem_nil, or_false] at hq
  rcases hq with rfl | rfl | rfl
  · have hu : Unquoted (name ++ ']' :: after) := by
      rintro d s' he
      cases name with
      | nil =>
        cases he
        decide
      | cons d name =>
        cases he
        have hd := hn d List.mem_cons_self
        constructor <;> rintro rfl <;> exact absurd hd (by decide)
    obtain ⟨rfl, rfl⟩ := eq_of_keyPart? hu (by simpa using h)
    exact dropWhile_isBareKey_name hn
  · exact .inl (eq_of_basic? hn (by simpa [keyPart?] using h))
  · exact .inl (eq_of_literal? hn (by simpa [keyPart?] using h))

theorem parts?_name {path : Path} (hq : quote ∈ headerQuotes) (hn : ReadsAsItself quote name)
    (h : parts? total limit (quote ++ name ++ quote ++ ']' :: after) = some (path, ']' :: rest)) :
    path = [⟨between total (quote ++ name ++ quote ++ ']' :: after) (']' :: after),
      String.ofList name⟩] ∧ rest = after := by
  cases limit with
  | zero => cases h
  | succ limit =>
    obtain ⟨⟨n, r⟩, hk, h⟩ := Option.bind_eq_some_iff.1 h
    rcases keyPart?_name hq hn hk with ⟨rfl, rfl⟩ | ⟨d, r', rfl, hb, hp, hc⟩
    · cases h
      exact ⟨rfl, rfl⟩
    · have hs : skipBlanks (d :: r') = d :: r' := List.dropWhile_cons_of_neg (by simp [hb])
      simp only [hs] at h
      split at h
      next hd => exact absurd (List.cons.inj hd).1 hp
      next =>
        cases h
        exact absurd rfl hc

theorem skipBlanks_name (hq : quote ∈ headerQuotes) (hn : ReadsAsItself quote name) :
    skipBlanks (quote ++ name ++ quote ++ ']' :: after) =
      quote ++ name ++ quote ++ ']' :: after := by
  simp only [headerQuotes, List.mem_cons, List.not_mem_nil, or_false] at hq
  rcases hq with rfl | rfl | rfl
  · cases name with
    | nil => rfl
    | cons d name =>
      have hd := hn d List.mem_cons_self
      exact List.dropWhile_cons_of_neg fun hb => by simp_all [Source.special, isBlank]
  · rfl
  · rfl

/-- The first part of a key is read off its text. -/
theorem key?_classes (s : List Char) :
    key? total ("classes.".toList ++ s) = (parts? total 79 (skipBlanks s)).bind fun (path, rest) =>
      some (⟨between total ("classes.".toList ++ s) ('.' :: s), "classes"⟩ :: path, rest) :=
  rfl

/-- Behind the first part of its key, a header has the name. -/
theorem eq_of_key?_classes {path : Path} (hq : quote ∈ headerQuotes) (hn : ReadsAsItself quote name)
    (h : key? total ("classes.".toList ++ (quote ++ name ++ quote ++ ']' :: after)) =
      some (path, ']' :: rest)) :
    ∃ span, path = [⟨span, "classes"⟩, ⟨between total (quote ++ name ++ quote ++ ']' :: after)
      (']' :: after), String.ofList name⟩] ∧ rest = after := by
  rw [key?_classes, skipBlanks_name hq hn] at h
  obtain ⟨⟨path', r⟩, hp, h⟩ := Option.bind_eq_some_iff.1 h
  cases h
  obtain ⟨rfl, rfl⟩ := parts?_name hq hn hp
  exact ⟨_, rfl, rfl⟩

/-- Whether a header that stands in front of `s` and ends before `rest` is that of a class, with the
name and `]` in front of `after`. -/
structure Header.IsOfClass (h : Header) (total : Nat) (name quote after s rest : List Char) :
    Prop where
  path : h.path.map Spanned.value = ["classes"]
  key : h.key = ⟨between total (quote ++ name ++ quote ++ ']' :: after) (']' :: after),
    String.ofList name⟩
  span : h.span = between total s rest
  suffix : rest <:+ after

/-- The ranges of the header that was found: that of the name lies in that of the key, and this one
in that of the header. -/
theorem Header.IsOfClass.spans {h : Header} {text before p : List Char}
    (hh : h.IsOfClass (byteLength text) name quote after s rest)
    (ht : text = before ++ (Source.headerText name quote ++ after)) (hp : text = p ++ s)
    (hs : byteLength (Source.headerText name quote ++ after) ≤ byteLength s) :
    (h.key.span.start ≤ (Source.nameSpan before name quote).start ∧
      (Source.nameSpan before name quote).stop ≤ h.key.span.stop) ∧
    (h.span.start ≤ h.key.span.start ∧ h.key.span.stop ≤ h.span.stop) ∧
    h.span.start = byteLength p := by
  -- Every place is known by the length of what stands behind it.
  have hrest : byteLength rest ≤ byteLength after := by
    obtain ⟨w, hw⟩ := hh.suffix
    simp [← hw]
  have hbehind : byteLength (']' :: after) = 1 + byteLength after := rfl
  have hnamed : byteLength (quote ++ name ++ quote ++ ']' :: after) =
      byteLength quote + byteLength name + byteLength quote + byteLength (']' :: after) := by
    simp only [Text.byteLength_append]
  have hfound : byteLength (Source.headerText name quote ++ after) =
      byteLength Source.headerStart + byteLength (quote ++ name ++ quote ++ ']' :: after) := by
    simp only [Source.headerText, List.append_assoc, Text.byteLength_append, List.cons_append,
      List.nil_append]
  have htext : byteLength text =
      byteLength before + byteLength (Source.headerText name quote ++ after) := by
    rw [ht, Text.byteLength_append]
  have hplace : byteLength text = byteLength p + byteLength s := by rw [hp, Text.byteLength_append]
  simp only [hh.key, hh.span, between, Source.nameSpan]
  omega

theorem exists_of_header?_classes {isArray : Bool} {st : Statement} (hq : quote ∈ headerQuotes)
    (hn : ReadsAsItself quote name)
    (h : header? total isArray s ("classes.".toList ++ (quote ++ name ++ quote ++ ']' :: after)) =
      some (st, rest)) :
    ∃ h, st = .header h ∧ h.isArray = isArray ∧ h.IsOfClass total name quote after s rest := by
  obtain ⟨path, key, hp, hl, rfl⟩ := exists_of_header? h
  have hc : closing isArray ++ rest = ']' :: ((closing isArray).tail ++ rest) := by
    cases isArray <;> rfl
  rw [hc] at hp
  obtain ⟨span, rfl, rfl⟩ := eq_of_key?_classes hq hn hp
  cases hl
  exact ⟨_, rfl, rfl, rfl, rfl, rfl, List.suffix_append _ _⟩

theorem headerText_append (name quote after : List Char) :
    Source.headerText name quote ++ after =
      '[' :: ("classes.".toList ++ (quote ++ name ++ quote ++ ']' :: after)) := by
  have hs : Source.headerStart = '[' :: "classes.".toList := by decide
  simp only [Source.headerText, hs, List.append_assoc, List.cons_append, List.nil_append]

theorem statement?_single (s : List Char) :
    statement? total fuel ('[' :: ("classes.".toList ++ s)) =
      header? total false ('[' :: ("classes.".toList ++ s)) ("classes.".toList ++ s) :=
  rfl

theorem statement?_double (s : List Char) :
    statement? total fuel ('[' :: '[' :: s) = header? total true ('[' :: '[' :: s) s :=
  rfl

/-- A statement that looks like the header of a class is one, in single or in double brackets. -/
theorem exists_of_statement?_classes {st : Statement} (hq : quote ∈ headerQuotes)
    (hn : ReadsAsItself quote name) (hs : statement? total fuel s = some (st, rest))
    (he : s = Source.headerText name quote ++ after ∨
      s = '[' :: (Source.headerText name quote ++ after)) :
    ∃ h, st = .header h ∧
      (h.isArray = true → s = '[' :: (Source.headerText name quote ++ after)) ∧
      h.IsOfClass total name quote after s rest := by
  rw [headerText_append] at he ⊢
  rcases he with rfl | rfl
  · rw [statement?_single] at hs
    obtain ⟨h, rfl, ha, hh⟩ := exists_of_header?_classes hq hn hs
    exact ⟨h, rfl, fun ha' => absurd (ha.symm.trans ha') (by decide), hh⟩
  · rw [statement?_double] at hs
    obtain ⟨h, rfl, _, hh⟩ := exists_of_header?_classes hq hn hs
    exact ⟨h, rfl, fun _ => rfl, hh⟩

end Toml

namespace Source

/-- Whether a header of the document that a text holds is that of a class and has its name in the
range `r`, behind a bracket that only blanks precede in its line. -/
structure Names (text : List Char) (name : String) (r : Span) (h : Toml.Header) : Prop where
  path : h.path.map Spanned.value = ["classes"]
  key : h.key.value = name
  in_key : h.key.span.start ≤ r.start ∧ r.stop ≤ h.key.span.stop
  in_header : h.span.start ≤ h.key.span.start ∧ h.key.span.stop ≤ h.span.stop
  stands : ∃ before s, text = before ++ '[' :: s ∧ h.span.start = byteLength before ∧
    Toml.Indented before ∧ Toml.HasStatement text ('[' :: s) (.header h)

theorem exists_read?_of_parse {text : String} {m : Manifest} (h : Manifest.parse text = .ok m) :
    ∃ root, Toml.read? text.toList = some root := by
  unfold Manifest.parse at h
  split at h
  next => cases h
  next root hr => exact ⟨root, hr⟩

theorem exists_names_of_outside {text before after quote : List Char} {name : String}
    {root : Toml.Section} (hd : Toml.read? text = some root) (hq : quote ∈ headerQuotes)
    (hn : ReadsAsItself quote name.toList)
    (ht : text = before ++ (headerText name.toList quote ++ after))
    (ho : Toml.Outside (Toml.dropMark text) (headerText name.toList quote ++ after)) :
    ∃ h, Names text name (nameSpan before name.toList quote) h ∧
      (h.isArray = true → ['['] <:+ before) := by
  have hc : ['[', 'c'] <+: headerText name.toList quote ++ after := by
    rw [Toml.headerText_append]
    exact ⟨"lasses.".toList ++ _, rfl⟩
  obtain ⟨s, st, hs, he⟩ := Toml.exists_statement_of_outside hd ho hc
  obtain ⟨rest, hr⟩ := hs.statement?
  obtain ⟨h, rfl, ha, hh⟩ := Toml.exists_of_statement?_classes hq hn hr he
  obtain ⟨p, hp, hi⟩ := hs.indented
  obtain ⟨s', rfl⟩ : ∃ s', s = '[' :: s' := by
    rw [Toml.headerText_append] at he
    rcases he with rfl | rfl <;> exact ⟨_, rfl⟩
  have hlen : byteLength (headerText name.toList quote ++ after) ≤ byteLength ('[' :: s') := by
    rcases he with he | he
    · simp only [he, Nat.le_refl]
    · obtain rfl := (List.cons.inj he).2
      exact Nat.le_add_left _ _
  obtain ⟨hkey, hspan, hstart⟩ := hh.spans ht hp hlen
  refine ⟨h, ⟨hh.path, ?_, hkey, hspan, p, s', hp, hstart, hi, hs⟩, fun harr => ?_⟩
  · rw [hh.key, String.ofList_toList]
  · have hb : before ++ (headerText name.toList quote ++ after) =
        p ++ ['['] ++ (headerText name.toList quote ++ after) := by
      rw [← ht, hp, ha harr, List.append_assoc, List.singleton_append]
    exact List.append_cancel_right hb ▸ List.suffix_append p ['[']

/-- What is found for the header of a class looks like it. Outside of comments and strings it is the
header if the name means itself there; this one is in double brackets only if another bracket stands
right before what is found. -/
theorem exists_names_of_classHeader? {s : Source} {m : Manifest} {name : String} {r : Span}
    (hm : Manifest.parse s.text = .ok m) (hr : s.classHeader? name = some r) :
    ∃ quote ∈ headerQuotes, ∃ before after,
      s.text.toList = before ++ (headerText name.toList quote ++ after) ∧
      r = nameSpan before name.toList quote ∧
      (ReadsAsItself quote name.toList →
        Toml.Outside (Toml.dropMark s.text.toList) (headerText name.toList quote ++ after) →
          ∃ h, Names s.text.toList name r h ∧ (h.isArray = true → ['['] <:+ before)) := by
  obtain ⟨root, hd⟩ := exists_read?_of_parse hm
  obtain ⟨quote, hq, hr⟩ := List.exists_of_findSome?_eq_some hr
  obtain ⟨before, after, ht, rfl⟩ := exists_of_quotedHeader? hr
  exact ⟨quote, hq, before, after, ht, rfl, fun hn => exists_names_of_outside hd hq hn ht⟩

/-- A manifest with a class whose name has a point, between comments with other classes. -/
def dotted : Source :=
  ⟨"# [classes.A]\n\t[classes.'foo.bar'] # [classes.B]\n", "m.toml"⟩

theorem names_dotted :
    (∃ m, Manifest.parse dotted.text = .ok m) ∧ dotted.classHeader? "foo.bar" = some ⟨25, 32⟩ ∧
      ∃ h, Names dotted.text.toList "foo.bar" ⟨25, 32⟩ h ∧ h.isArray = false := by
  have hp : (Manifest.parse dotted.text).isOk = true := by decide +kernel
  obtain ⟨m, hm⟩ : ∃ m, Manifest.parse dotted.text = .ok m := by
    cases hm : Manifest.parse dotted.text with
    | error e => rw [hm] at hp; cases hp
    | ok m => exact ⟨m, rfl⟩
  have hr : dotted.classHeader? "foo.bar" = some ⟨25, 32⟩ := by decide
  refine ⟨⟨m, hm⟩, hr, ?_⟩
  obtain ⟨quote, hq, before, after, ht, hs, hh⟩ := exists_names_of_classHeader? hm hr
  -- The header stands at one place only, and in single quotes.
  have hfind : ∀ quote ∈ headerQuotes, ∀ n < 50, (headerText "foo.bar".toList quote).isPrefixOf
      (dotted.text.toList.drop n) = true → quote = ['\x27'] ∧ n = 15 := by decide +kernel
  have hd : dotted.text.toList.drop before.length =
      headerText "foo.bar".toList quote ++ after := by
    rw [ht, List.drop_left]
  have hlen : before.length < 50 := by
    have : dotted.text.toList.length = 49 := by decide
    have := congrArg List.length ht
    simp only [List.length_append] at this
    omega
  obtain ⟨rfl, hn⟩ :=
    hfind quote hq _ hlen (List.isPrefixOf_iff_prefix.2 (hd ▸ List.prefix_append _ _))
  have hb : before = dotted.text.toList.take 15 := by rw [← hn, ht, List.take_left]
  rw [← hd, hn, hb] at hh
  obtain ⟨h, hnames, ha⟩ := hh (by decide) (.head rfl (.head rfl (.head rfl .refl)))
  exact ⟨h, hnames, Bool.eq_false_iff.2 fun h => absurd (ha h) (by decide)⟩

/-- A manifest that has the header of a class in a comment before. -/
def commented : Source :=
  ⟨"# [classes.A]\n[classes.A]\n", "m.toml"⟩

theorem classHeader?_commented :
    (∃ m, Manifest.parse commented.text = .ok m ∧ m.classes.contains "A" = true) ∧
      commented.classHeader? "A" = some ⟨11, 12⟩ ∧
      ¬ ∃ h, Names commented.text.toList "A" ⟨11, 12⟩ h := by
  have hp : (Manifest.parse commented.text).toOption.any (·.classes.contains "A") = true := by
    decide +kernel
  refine ⟨?_, by decide, ?_⟩
  · cases hm : Manifest.parse commented.text with
    | error e => rw [hm] at hp; cases hp
    | ok m => exact ⟨m, rfl, by simpa [hm, Except.toOption] using hp⟩
  · rintro ⟨h, hn⟩
    obtain ⟨before, s, ht, hb, hi, hs⟩ := hn.stands
    have hle : byteLength before ≤ 11 := by
      have := Nat.le_trans hn.in_header.1 hn.in_key.1
      exact hb ▸ this
    have hfind : ∀ n < 26, byteLength (commented.text.toList.take n) ≤ 11 →
        commented.text.toList[n]? = some '[' → n = 2 := by decide
    have hlen : before.length < 26 := by
      have : commented.text.toList.length = 26 := by decide
      have := congrArg List.length ht
      simp only [List.length_append, List.length_cons] at this
      omega
    have ht' : commented.text.toList.take before.length = before := by rw [ht, List.take_left]
    have hn := hfind _ hlen (by rwa [ht']) (by simp [ht])
    rw [hn] at ht'
    subst ht'
    exact absurd (hi.isBlank_of_notMem (by decide) '#' (by decide)) (by decide)

end Source

end ClassForge
