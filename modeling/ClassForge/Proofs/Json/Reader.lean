import ClassForge.Json.Reader
import ClassForge.Proofs.Binary64.Magnitude

/-!
# What the JSON reader gives

The documents that texts hold are put together from scalars, and the number of a literal is never a
NaN.

## Main definitions

- `Json.Closed` — the properties that arrays and objects take over from what they hold
- `Json.State.All` — all documents in a state of the reader have a property

## Main statements

- `Json.isNaN_of_value?` — the number of a literal
- `Json.State.All.step?`, `Json.State.All.run?` — what one token and several tokens keep
- `Json.of_read?` — a property of all documents that texts hold
-/

namespace ClassForge

namespace Json

/-! ### Numbers -/

theorem isNaN_of_scaled? {x y : Binary64} {power : Int} (hx : x.isNaN = false)
    (h : scaled? x power = some y) : y.isNaN = false := by
  fun_induction scaled? x power with
  | case1 x power hsmall hpos y' hfinite =>
    rw [← Option.some.inj h]
    exact Binary64.isNaN_of_isFinite hfinite
  | case2 => cases h
  | case3 x power hsmall hneg =>
    cases h
    exact Binary64.isNaN_ofRatio ..
  | case4 =>
    cases h
    exact hx
  | case5 => cases h
  | case6 x power hlarge hzero hneg ih => exact ih (Binary64.isNaN_ofRatio ..) h

theorem isNaN_of_float? {isNegative : Bool} {significand : Nat} {power : Int} {x : Binary64}
    (h : float? isNegative significand power = some x) : x.isNaN = false := by
  obtain ⟨y, hy, rfl⟩ := Option.map_eq_some_iff.1 h
  have hy := isNaN_of_scaled? (Binary64.isNaN_ofRatio ..) hy
  split
  · exact Binary64.isNaN_neg hy
  · exact hy

theorem isNaN_integer (isNegative : Bool) (significand : Nat) :
    (integer isNegative significand).toBinary64.isNaN = false := by
  rw [integer]
  split
  · exact Binary64.isNaN_ofRatio ..
  · split
    · exact Binary64.isNaN_neg (Binary64.isNaN_ofRatio ..)
    · exact Binary64.isNaN_ofRatio ..

/-- The number of a literal is not a NaN. -/
theorem isNaN_of_value? {l : Literal} {n : Number} (h : l.value? = some n) :
    n.toBinary64.isNaN = false := by
  have hfloat : ∀ {b s p}, (float? b s p).map .float = some n → n.toBinary64.isNaN = false := by
    intro b s p h
    obtain ⟨x, hx, rfl⟩ := Option.map_eq_some_iff.1 h
    exact isNaN_of_float? hx
  unfold Literal.value? at h
  dsimp only at h
  split at h
  · split at h
    · cases h
      exact isNaN_integer ..
    · exact hfloat h
  · split at h
    · exact hfloat h
    · split at h
      · exact hfloat h
      · split at h
        · cases h
        · exact hfloat h

/-! ### Documents -/

/-- A property that arrays and objects take over from what they hold. -/
structure Closed (P : Json → Prop) : Prop where
  str : ∀ s, P (str s)
  arr : ∀ items, (∀ j ∈ items, P j) → P (arr items)
  obj : ∀ members, (∀ m ∈ members, P m.2) → P (obj members)

variable {P : Json → Prop}

/-- All documents that an open array or object holds have a property. -/
def Frame.All (P : Json → Prop) : Frame → Prop
  | array items => ∀ j ∈ items, P j
  | object members _ => ∀ m ∈ members, P m.2

/-- All documents in a state have a property. -/
def State.All (P : Json → Prop) : State → Prop
  | value _ stack => ∀ f ∈ stack, f.All P
  | key _ members stack => (∀ m ∈ members, P m.2) ∧ ∀ f ∈ stack, f.All P
  | colon members _ stack => (∀ m ∈ members, P m.2) ∧ ∀ f ∈ stack, f.All P
  | after j stack => P j ∧ ∀ f ∈ stack, f.All P

/-- A token keeps a property of all documents in the state, if the scalar of the token has it. -/
theorem State.All.step? {s s' : State} {t : Token} (hP : Closed P) (hs : s.All P)
    (ht : ∀ j, t = .scalar j → P j) (h : s.step? t = some s') : s'.All P := by
  revert h
  -- the tokens that may follow a state, and all others in the last case
  fun_cases State.step? s t with
  | case1 closable stack j =>
    rintro ⟨⟩
    exact ⟨ht j rfl, hs⟩
  | case2 closable stack text =>
    rintro ⟨⟩
    exact ⟨hP.str text, hs⟩
  | case3 closable stack =>
    rintro ⟨⟩
    exact List.forall_mem_cons.2 ⟨List.forall_mem_nil _, hs⟩
  | case5 closable stack =>
    rintro ⟨⟩
    exact ⟨List.forall_mem_nil _, hs⟩
  | case7 items stack =>
    rintro ⟨⟩
    exact ⟨hP.arr [] (List.forall_mem_nil _), (List.forall_mem_cons.1 hs).2⟩
  | case8 members stack =>
    rintro ⟨⟩
    exact ⟨hP.obj [] (List.forall_mem_nil _), hs.2⟩
  | case9 closable members stack key =>
    rintro ⟨⟩
    exact hs
  | case10 members key stack =>
    rintro ⟨⟩
    exact List.forall_mem_cons.2 hs
  | case11 j items stack =>
    rintro ⟨⟩
    obtain ⟨hitems, hstack⟩ := List.forall_mem_cons.1 hs.2
    have hall : ∀ i ∈ j :: items, P i := List.forall_mem_cons.2 ⟨hs.1, hitems⟩
    exact List.forall_mem_cons.2 ⟨hall, hstack⟩
  | case12 j items stack =>
    rintro ⟨⟩
    obtain ⟨hitems, hstack⟩ := List.forall_mem_cons.1 hs.2
    have hall : ∀ i ∈ j :: items, P i := List.forall_mem_cons.2 ⟨hs.1, hitems⟩
    exact ⟨hP.arr _ fun i hi => hall i (List.mem_reverse.1 hi), hstack⟩
  | case13 j members key stack =>
    rintro ⟨⟩
    obtain ⟨hmembers, hstack⟩ := List.forall_mem_cons.1 hs.2
    have hall : ∀ m ∈ (key, j) :: members, P m.2 := List.forall_mem_cons.2 ⟨hs.1, hmembers⟩
    exact ⟨hall, hstack⟩
  | case14 j members key stack =>
    rintro ⟨⟩
    obtain ⟨hmembers, hstack⟩ := List.forall_mem_cons.1 hs.2
    have hall : ∀ m ∈ (key, j) :: members, P m.2 := List.forall_mem_cons.2 ⟨hs.1, hmembers⟩
    exact ⟨hP.obj _ fun m hm => hall m (List.mem_reverse.1 hm), hstack⟩
  | case4 | case6 | case15 => exact fun h => nomatch h

theorem State.All.run? {s s' : State} {tokens : List Token} (hP : Closed P) (hs : s.All P)
    (ht : ∀ j, .scalar j ∈ tokens → P j) (h : s.run? tokens = some s') : s'.All P := by
  induction tokens generalizing s with
  | nil =>
    cases h
    exact hs
  | cons t tokens ih =>
    rw [State.run?, List.foldlM_cons, Option.bind_eq_bind, Option.bind_eq_some_iff] at h
    obtain ⟨s₁, hstep, hrun⟩ := h
    have hs₁ : s₁.All P := hs.step? hP (fun j hj => ht j (hj ▸ List.mem_cons_self)) hstep
    exact ih hs₁ (fun j hj => ht j (List.mem_cons_of_mem _ hj)) hrun

/-- The scalars that are one token: null, the two truth values and the numbers of literals. -/
inductive Scalar : Json → Prop where
  | null : Scalar null
  | bool (b : Bool) : Scalar (bool b)
  | num {l : Literal} {n : Number} (h : l.value? = some n) : Scalar (num n)

theorem scalar_of_token? {s rest : List Char} {j : Json}
    (h : token? s = some (.scalar j, rest)) : Scalar j := by
  unfold token? at h
  split at h
  case h_7 =>
    obtain ⟨_, _, h⟩ := Option.map_eq_some_iff.1 h
    cases h
  case h_8 | h_9 =>
    cases h
    exact .bool _
  case h_10 =>
    cases h
    exact .null
  case h_11 =>
    obtain ⟨_, _, h⟩ := Option.bind_eq_some_iff.1 h
    obtain ⟨n, hn, h⟩ := Option.map_eq_some_iff.1 h
    cases h
    exact .num hn
  all_goals cases h

theorem scalar_of_tokens? {s : List Char} {tokens : List Token} {j : Json}
    (h : tokens? s = some tokens) (hj : .scalar j ∈ tokens) : Scalar j := by
  fun_induction tokens? s generalizing tokens with
  | case1 =>
    cases h
    cases hj
  | case2 c rest _ ih => exact ih h hj
  | case3 => cases h
  | case4 c rest _ t rest' ht ih =>
    obtain ⟨ts, hts, rfl⟩ := Option.map_eq_some_iff.1 h
    obtain rfl | hj := List.mem_cons.1 hj
    · exact scalar_of_token? ht
    · exact ih hts hj

/-- A property of the scalars that arrays and objects take over is one of all documents that texts
hold. -/
theorem of_read? {s : List Char} {j : Json} (hP : Closed P) (hscalar : ∀ j, Scalar j → P j)
    (h : read? s = some j) : P j := by
  simp only [read?, Option.bind_eq_bind, Option.bind_eq_some_iff] at h
  obtain ⟨tokens, htokens, s', hrun, hresult⟩ := h
  have hstart : State.start.All P := List.forall_mem_nil _
  have hs' : s'.All P :=
    hstart.run? hP (fun j hj => hscalar j (scalar_of_tokens? htokens hj)) hrun
  unfold State.result? at hresult
  split at hresult
  · cases hresult
    exact hs'.1
  · cases hresult

end Json

end ClassForge
