import ClassForge.Proofs.Construction.Standard
import Mathlib.Data.List.Find
import Mathlib.Data.List.Forall2
import Mathlib.Data.List.Nodup

/-!
# The body and the hook of a standard constructor

The body of a constructor with the standard plugins passes the supplied arguments through their types
and stores them. The hook then computes the defaults of the other parameters.

## Main definitions

- `Parameter.accept` — a supplied value, passed through the type of its parameter
- `Parameter.acceptAll` — the supplied values of several parameters
- `Parameter.Fills` — the defaults of omitted parameters, each computed behind those before it
- `Instance.setSlots` — several slots set in order

## Main statements

- `Statement.executeAll_body` — what the statements for some parameters do
- `Callback.callAll_fallback` — what the callbacks for some parameters do
-/

namespace ClassForge

namespace Parameter

/-- The value that a parameter holds for a supplied one, or the reason why its type rejects that. -/
def accept (p : Parameter) (v : Value) : Except String Value :=
  match p.settings.type with
  | none => .ok v
  | some type => type.check v

/-- The supplied parameters among some, with their arguments. -/
def supplied (argument? : Parameter → Option Value) (ps : List Parameter) :
    List (Parameter × Value) :=
  ps.filterMap fun p => (argument? p).map (p, ·)

section

variable {argument? other? : Parameter → Option Value} {p : Parameter} {ps : List Parameter}

theorem supplied_cons_of_none (h : argument? p = none) :
    supplied argument? (p :: ps) = supplied argument? ps :=
  List.filterMap_cons_none (by rw [h]; rfl)

theorem supplied_cons_of_some {v : Value} (h : argument? p = some v) :
    supplied argument? (p :: ps) = (p, v) :: supplied argument? ps :=
  List.filterMap_cons_some (by rw [h]; rfl)

theorem supplied_congr (h : ∀ q ∈ ps, argument? q = other? q) :
    supplied argument? ps = supplied other? ps :=
  List.filterMap_congr fun q hq => by rw [h q hq]

end

/-- The slots for supplied arguments, or the fault of the first one that its type rejects. -/
def acceptAll (className : String) :
    List (Parameter × Value) → Except Fault (List (String × Value))
  | [] => .ok []
  | (p, v) :: rest =>
    match p.accept v with
    | .ok w => (acceptAll className rest).map ((p.name, w) :: ·)
    | .error reason => .error (.typeConstraint className p.name v reason)

/-- The slots for omitted parameters: the default of each is computed from the instance in which
those before it are set. -/
inductive Fills : Instance → List Parameter → List (String × Value) → Prop
  | nil (self : Instance) : Fills self [] []
  | cons {self : Instance} {p : Parameter} {default : DefaultFn} {ps : List Parameter}
      {slots : List (String × Value)} (hd : p.settings.defaultFn = some default)
      (hs : Fills (self.setSlot p.name (default self)) ps slots) :
      Fills self (p :: ps) ((p.name, default self) :: slots)

end Parameter

def Instance.setSlots (self : Instance) (slots : List (String × Value)) : Instance :=
  { self with slots := self.slots.insertAll slots }

theorem Instance.setSlots_cons (self : Instance) (e : String × Value) (slots : List (String × Value)) :
    self.setSlots (e :: slots) = (self.setSlot e.1 e.2).setSlots slots := rfl

namespace Parameter

theorem acceptAll_eq_ok_iff {className : String} {l : List (Parameter × Value)}
    {slots : List (String × Value)} :
    acceptAll className l = .ok slots ↔
      List.Forall₂ (fun x e => e.1 = x.1.name ∧ x.1.accept x.2 = .ok e.2) l slots := by
  induction l generalizing slots with
  | nil => simp [acceptAll, eq_comm]
  | cons x l ih =>
    obtain ⟨p, v⟩ := x
    rw [acceptAll, List.forall₂_cons_left_iff]
    cases hv : p.accept v with
    | error reason => simp
    | ok w =>
      simp only [Except.map_eq_ok_iff, ih, Except.ok.injEq]
      constructor
      · rintro ⟨es, he, rfl⟩
        exact ⟨(p.name, w), es, ⟨rfl, rfl⟩, he, rfl⟩
      · rintro ⟨⟨n, w'⟩, es, ⟨rfl, rfl⟩, he, rfl⟩
        exact ⟨es, he, rfl⟩

/-- The first supplied argument in declaration order that its type rejects is at fault. -/
theorem acceptAll_supplied_eq_error_iff {className : String} {argument? : Parameter → Option Value}
    {ps : List Parameter} {f : Fault} :
    acceptAll className (supplied argument? ps) = .error f ↔
      ∃ before p after v reason, ps = before ++ p :: after ∧
        (∀ q ∈ before, ∀ u, argument? q = some u → ∃ w, q.accept u = .ok w) ∧
        argument? p = some v ∧ p.accept v = .error reason ∧
        f = .typeConstraint className p.name v reason := by
  induction ps with
  | nil => simp [supplied, acceptAll]
  | cons p ps ih =>
    -- A parameter that is not at fault itself joins those before the one that is.
    have hcons (ha : ∀ u, argument? p = some u → ∃ w, p.accept u = .ok w) :
        (∃ before q after v reason, p :: ps = before ++ q :: after ∧
          (∀ r ∈ before, ∀ u, argument? r = some u → ∃ w, r.accept u = .ok w) ∧
          argument? q = some v ∧ q.accept v = .error reason ∧
          f = .typeConstraint className q.name v reason) ↔
        acceptAll className (supplied argument? ps) = .error f := by
      rw [ih]
      constructor
      · rintro ⟨before, q, after, v, reason, hsplit, hb, hq, hr, hf⟩
        cases before with
        | nil =>
          obtain ⟨rfl, rfl⟩ := List.cons.inj hsplit
          obtain ⟨w, hw⟩ := ha v hq
          cases hw.symm.trans hr
        | cons b before =>
          obtain ⟨rfl, rfl⟩ := List.cons.inj hsplit
          exact ⟨before, q, after, v, reason, rfl,
            fun r hr => hb r (List.mem_cons_of_mem _ hr), hq, hr, hf⟩
      · rintro ⟨before, q, after, v, reason, rfl, hb, hq, hr, hf⟩
        exact ⟨p :: before, q, after, v, reason, rfl, List.forall_mem_cons.2 ⟨ha, hb⟩, hq, hr, hf⟩
    cases hl : argument? p with
    | none => rw [supplied_cons_of_none hl, hcons (by simp [hl])]
    | some v =>
      rw [supplied_cons_of_some hl, acceptAll]
      cases hv : p.accept v with
      | ok w =>
        rw [hcons (by simp [hl, hv])]
        exact Except.map_eq_error_iff
      | error reason =>
        constructor
        · intro h
          exact ⟨[], p, ps, v, reason, rfl, by simp, hl, hv, (Except.error.inj h).symm⟩
        · rintro ⟨before, q, after, u, reason', hsplit, hb, hq, hr, rfl⟩
          cases before with
          | nil =>
            obtain ⟨rfl, rfl⟩ := List.cons.inj hsplit
            obtain rfl : v = u := Option.some.inj (hl.symm.trans hq)
            rw [Except.error.inj (hv.symm.trans hr)]
          | cons b before =>
            obtain ⟨rfl, rfl⟩ := List.cons.inj hsplit
            obtain ⟨w, hw⟩ := hb p List.mem_cons_self v hl
            cases hw.symm.trans hv

end Parameter

/-! ### Statements -/

namespace Statement

/-- Nothing is done for an omitted parameter whose slot is not set. -/
theorem executeAll_body_of_omitted {p : Parameter} {f : Frame} (hl : f.local? p.name = none)
    (hs : p.name ∉ f.self.slots.keys) : executeAll p.body f = .ok f := by
  have hu : f.self.unsetSlot p.name = f.self := by
    rw [Instance.unsetSlot, OrderedMap.erase_of_not_mem hs]
  have ha : executeAll [.assign p.name] f = .ok f := by
    simp [executeAll, execute, hl, hu, pure, Except.pure]
  rw [Parameter.body]
  cases ht : p.settings.type with
  | none => exact ha
  | some type =>
    show ((coerce p.name type).execute f >>= executeAll [.assign p.name]) = _
    rw [execute, hl]
    exact ha

/-- A supplied argument is passed through the type, bound and stored. -/
theorem executeAll_body_of_supplied {p : Parameter} {f : Frame} {v : Value}
    (hl : f.local? p.name = some v) :
    executeAll p.body f =
      match p.accept v with
      | .ok w => .ok ⟨f.locals.insert p.name w, f.self.setSlot p.name w⟩
      | .error reason => .error (.typeConstraint f.className p.name v reason) := by
  have ha : ∀ (g : Frame) (w : Value), g.local? p.name = some w →
      executeAll [.assign p.name] g = .ok { g with self := g.self.setSlot p.name w } := by
    intro g w hg
    simp [executeAll, execute, hg, pure, Except.pure]
  rw [Parameter.body, Parameter.accept]
  cases ht : p.settings.type with
  | none =>
    have hb : f.locals.insert p.name v = f.locals := OrderedMap.insert_of_get? hl
    show executeAll [.assign p.name] f = .ok ⟨f.locals.insert p.name v, f.self.setSlot p.name v⟩
    rw [hb]
    exact ha f v hl
  | some type =>
    show ((coerce p.name type).execute f >>= executeAll [.assign p.name]) = _
    rw [execute, hl]
    cases hc : type.check v with
    | error reason => simp only [hc, Except.error_bind]
    | ok w =>
      simp only [hc, Except.ok_bind]
      refine ha (f.bind p.name w) w ?_
      rw [Frame.local?, Frame.bind, OrderedMap.get?_insert, if_pos rfl]

/-- The statements for some parameters store the supplied arguments, in declaration order, up to the
first one that its type rejects. -/
theorem executeAll_body {ps : List Parameter} (hd : (ps.map Parameter.name).Nodup) {f : Frame}
    (hs : ∀ p ∈ ps, p.name ∉ f.self.slots.keys) :
    (executeAll (ps.flatMap Parameter.body) f).map Frame.self =
      (Parameter.acceptAll f.className (Parameter.supplied (f.local? ·.name) ps)).map
        f.self.setSlots := by
  -- What is bound and stored for one parameter is not seen by those with other names.
  induction ps generalizing f with
  | nil => rfl
  | cons p ps ih =>
    rw [List.map_cons, List.nodup_cons] at hd
    obtain ⟨hp, hd⟩ := hd
    have hne : ∀ q ∈ ps, q.name ≠ p.name := fun q hq e => hp (e ▸ List.mem_map_of_mem hq)
    have hsplit : executeAll ((p :: ps).flatMap Parameter.body) f =
        executeAll p.body f >>= executeAll (ps.flatMap Parameter.body) := by
      rw [List.flatMap_cons, executeAll, List.foldlM_append]
      rfl
    rw [hsplit]
    cases hl : f.local? p.name with
    | none =>
      rw [executeAll_body_of_omitted hl (hs p List.mem_cons_self),
        Parameter.supplied_cons_of_none hl]
      exact ih hd fun q hq => hs q (List.mem_cons_of_mem p hq)
    | some v =>
      rw [executeAll_body_of_supplied hl, Parameter.supplied_cons_of_some hl, Parameter.acceptAll]
      cases p.accept v with
      | error reason => rfl
      | ok w =>
        let g : Frame := ⟨f.locals.insert p.name w, f.self.setSlot p.name w⟩
        have hs' : ∀ q ∈ ps, q.name ∉ g.self.slots.keys := by
          intro q hq hk
          rcases OrderedMap.mem_keys_insert.1 hk with hk | hk
          · exact hs q (List.mem_cons_of_mem p hq) hk
          · exact hne q hq hk
        have hl' : ∀ q ∈ ps, g.local? q.name = f.local? q.name := fun q hq =>
          (OrderedMap.get?_insert ..).trans (if_neg (hne q hq))
        have h := ih hd hs'
        rw [Parameter.supplied_congr hl'] at h
        refine h.trans ?_
        show (Parameter.acceptAll f.className _).map _ = _
        simp only
        cases Parameter.acceptAll f.className (Parameter.supplied (f.local? ·.name) ps) <;> rfl

end Statement

/-! ### Callbacks -/

namespace Callback

open Parameter (Fills)

/-- The callbacks for some parameters set the slots of those that are not set, in declaration order,
if these have defaults. -/
theorem callAll_fallback {ps : List Parameter} (hd : (ps.map Parameter.name).Nodup)
    {self : Instance} (hs : ∀ p ∈ ps, self.isSet p.name = false → p.hasDefault = true) :
    ∃ slots, Fills self (ps.filter (!self.isSet ·.name)) slots ∧
      callAll (ps.filterMap Parameter.fallback?) self = .ok (self.setSlots slots) := by
  induction ps generalizing self with
  | nil => exact ⟨[], .nil self, rfl⟩
  | cons p ps ih =>
    rw [List.map_cons, List.nodup_cons] at hd
    obtain ⟨hp, hd⟩ := hd
    have hs' := fun q hq => hs q (List.mem_cons_of_mem p hq)
    cases hset : self.isSet p.name with
    | true =>
      obtain ⟨slots, hf, hc⟩ := ih hd hs'
      rw [List.filter_cons_of_neg (by simp [hset])]
      refine ⟨slots, hf, ?_⟩
      cases hdef : p.settings.defaultFn with
      | none => rwa [List.filterMap_cons_none (by simp [Parameter.fallback?, hdef])]
      | some default =>
        rw [List.filterMap_cons_some (by rw [Parameter.fallback?, hdef]; rfl)]
        have hcall : (Plugin.fillSlot p.name default).call self = .ok self := by
          simp [Plugin.fillSlot, call, hset]
        rw [callAll, List.foldlM_cons, hcall]
        exact hc
    | false =>
      obtain ⟨default, hdef⟩ := Option.isSome_iff_exists.1 (hs p List.mem_cons_self hset)
      -- The slot that is set now belongs to none of the parameters still to come.
      have hkeep : ∀ q ∈ ps, (self.setSlot p.name (default self)).isSet q.name =
          self.isSet q.name := by
        intro q hq
        have hne : q.name ≠ p.name := fun e => hp (e ▸ List.mem_map_of_mem hq)
        simp only [Instance.isSet, OrderedMap.contains_eq_isSome_get?, Instance.setSlot,
          OrderedMap.get?_insert, if_neg hne]
      have hs'' : ∀ q ∈ ps, (self.setSlot p.name (default self)).isSet q.name = false →
          q.hasDefault = true := fun q hq h => hs' q hq (hkeep q hq ▸ h)
      obtain ⟨slots, hf, hc⟩ := ih hd hs''
      refine ⟨(p.name, default self) :: slots, ?_, ?_⟩
      · rw [List.filter_cons_of_pos (by simp [hset])]
        refine .cons hdef ?_
        rwa [List.filter_congr fun q hq => congrArg (!·) (hkeep q hq)] at hf
      · rw [List.filterMap_cons_some (by rw [Parameter.fallback?, hdef]; rfl)]
        have hcall : (Plugin.fillSlot p.name default).call self =
            .ok (self.setSlot p.name (default self)) := by
          simp [Plugin.fillSlot, call, hset]
        rw [callAll, List.foldlM_cons, hcall]
        exact hc

end Callback

end ClassForge
