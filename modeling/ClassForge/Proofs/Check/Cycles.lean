import Mathlib.Data.List.Basic
import ClassForge.Proofs.Check.Accepts

/-!
# The cycles that a check reports

The check follows the parents of each class in turn. Here is where that ends, and what is known of the
class that it names.

## Main definitions

- `Manifest.Follows` — following parents one after another, with the classes met on the way
- `Manifest.LeadsToCycle` — whether the parents of a class never end
- `Manifest.NamedForCycle` — what holds of the class that a check names

## Main statements

- `Manifest.follows_iff` — following parents comes to an end, and to one only
- `Manifest.closing?_eq_none_iff` — the parents of a class end unless it leads to a cycle
- `Manifest.namedForCycle_of_check` — the class that is named is the first one that leads to a cycle

## Design notes

The class that is named need not lie on the cycle. It does exactly when the parent that the report
points at is the class itself.
-/

namespace ClassForge

theorem ParameterDecl.check_ne_inheritanceCycle {p : ParameterDecl} {name : String}
    {span : Text.Span} : p.check ≠ .error (.inheritanceCycle name span) := by
  rw [check]
  cases isParameterName p.name.value with
  | false => simp [Except.throw_eq_error]
  | true =>
    cases p.type with
    | none =>
      cases p.isOptional && p.constant.isSome <;> simp [Except.throw_eq_error, Except.pure_eq_ok]
    | some type =>
      cases h : Capability.lookup? type.value <;> cases p.isOptional && p.constant.isSome <;>
        simp [h, Except.throw_eq_error, Except.pure_eq_ok]

namespace Manifest

open Relation (ReflTransGen TransGen)

/-- The parents of `start` are followed and have come to `current`; `seen` are the classes before it.
The outcome is the range of the parent at which `start`, or a class met before, comes up again. -/
inductive Follows (m : Manifest) (start : String) :
    String → List String → Option Text.Span → Prop
  | ends {current : String} {seen : List String} (last : m.parent? current = none) :
      Follows m start current seen none
  | closes {current : String} {seen : List String} {parent : Spanned String}
      (next : m.parent? current = some parent) (again : current ∈ seen ∨ parent.value = start) :
      Follows m start current seen (some parent.span)
  | step {current : String} {seen : List String} {parent : Spanned String} {r : Option Text.Span}
      (next : m.parent? current = some parent) (fresh : current ∉ seen)
      (away : parent.value ≠ start) (rest : Follows m start parent.value (current :: seen) r) :
      Follows m start current seen r

/-- Following the parents of a class comes to one that lies on a cycle. -/
def LeadsToCycle (m : Manifest) (name : String) : Prop :=
  ∃ a, ReflTransGen m.Extends name a ∧ TransGen m.Extends a a

/-- A class is the first one from which parents do not end. The range is that of the parent of a class
on the cycle, and the named class lies on that cycle only if it is this parent itself. -/
structure NamedForCycle (m : Manifest) (name : String) (span : Text.Span) : Prop where
  closes : ∃ a s, ReflTransGen m.Extends name a ∧ TransGen m.Extends a a ∧
    m.parent? a = some s ∧ s.span = span ∧ (TransGen m.Extends name name ↔ s.value = name)
  first : ∃ before after, m.classes.keys = before ++ name :: after ∧
    ∀ b ∈ before, ¬ m.LeadsToCycle b

variable {m : Manifest} {start current name : String} {seen : List String}

/-! ### The walk -/

/-- The walk that strikes off the classes it meets is the one that remembers them. -/
theorem follows_closingFrom? {unseen : List String} (hnodup : unseen.Nodup)
    (hunseen : ∀ n, n ∈ unseen ↔ n ∈ m.classes.keys ∧ n ∉ seen) :
    m.Follows start current seen (m.closingFrom? start current unseen) := by
  fun_induction closingFrom? m start current unseen generalizing seen with
  | case1 current unseen hp => exact .ends hp
  | case2 current unseen s hp h ih =>
    refine .step hp ((hunseen current).1 h.1).2 h.2 (ih (hnodup.erase _) ?_)
    intro n
    rw [hnodup.mem_erase_iff, hunseen, List.mem_cons, not_or]
    exact and_left_comm
  | case3 current unseen s hp h =>
    refine .closes hp ?_
    refine Decidable.byContradiction fun hc => ?_
    obtain ⟨hfresh, haway⟩ := not_or.1 hc
    exact h ⟨(hunseen current).2 ⟨mem_keys_of_parent? hp, hfresh⟩, haway⟩

theorem Follows.unique {r r' : Option Text.Span} (h : m.Follows start current seen r)
    (h' : m.Follows start current seen r') : r = r' := by
  induction h with
  | ends last => cases h' <;> simp_all
  | closes next again => cases h' <;> simp_all
  | step next fresh away rest ih =>
    cases h' with
    | ends last => simp_all
    | closes next' again => simp_all
    | step next' _ _ rest' =>
      obtain rfl := Option.some.inj (next.symm.trans next')
      exact ih rest'

/-- Following the parents of a class, declared or not, comes to an end, and to one only. -/
theorem follows_iff {r : Option Text.Span} :
    m.Follows name name [] r ↔ m.closing? name = r := by
  have hend : m.Follows name name [] (m.closing? name) :=
    follows_closingFrom? m.classes.distinct (by simp)
  constructor
  · intro h
    exact hend.unique h
  · rintro rfl
    exact hend

/-! ### Where it ends -/

/-- What is known when the walk has come to `current`: no class before it has `start` as parent. -/
structure Walked (m : Manifest) (start current : String) (seen : List String) : Prop where
  reached : ReflTransGen m.Extends start current
  behind : ∀ n ∈ seen, TransGen m.Extends n current
  onward : ∀ n ∈ seen, ∀ p, m.Extends n p → p ≠ start ∧ (p ∈ seen ∨ p = current)
  origin : start ∈ seen ∨ start = current

namespace Walked

theorem refl (start : String) : m.Walked start start [] :=
  ⟨.refl, by simp, by simp, .inr rfl⟩

theorem step {p : String} (h : m.Walked start current seen) (hx : m.Extends current p)
    (haway : p ≠ start) : m.Walked start p (current :: seen) where
  reached := h.reached.tail hx
  behind := by
    intro n hn
    obtain rfl | hn := List.mem_cons.1 hn
    · exact .single hx
    · exact (h.behind n hn).tail hx
  onward := by
    intro n hn q hq
    obtain rfl | hn := List.mem_cons.1 hn
    · obtain rfl := hx.right_unique hq
      exact ⟨haway, .inr rfl⟩
    · obtain ⟨hne, hmem | rfl⟩ := h.onward n hn q hq
      · exact ⟨hne, .inl (List.mem_cons_of_mem _ hmem)⟩
      · exact ⟨hne, .inl List.mem_cons_self⟩
  origin := by
    obtain hmem | rfl := h.origin
    · exact .inl (List.mem_cons_of_mem _ hmem)
    · exact .inl List.mem_cons_self

/-- A walk that comes back to a class it met never comes back to where it started. -/
theorem not_transGen (h : m.Walked start current seen) (hc : current ∈ seen) :
    ¬ TransGen m.Extends start start := by
  -- The classes that were met are closed under parents, and `start` is the parent of none of them.
  have hclosed : ∀ x, ReflTransGen m.Extends start x → x ∈ seen := by
    intro x hx
    induction hx with
    | refl =>
      obtain hmem | rfl := h.origin
      · exact hmem
      · exact hc
    | tail _ hq ih =>
      obtain ⟨-, hmem | rfl⟩ := h.onward _ ih _ hq
      · exact hmem
      · exact hc
  intro hcycle
  obtain ⟨x, hx, hlast⟩ := TransGen.tail'_iff.1 hcycle
  exact (h.onward x (hclosed x hx) start hlast).1 rfl

end Walked

/-- Where the walk closes there is a cycle, and `start` lies on it if it is what closes it. -/
theorem Follows.closes_cycle {r : Option Text.Span} (h : m.Follows start current seen r)
    (hw : m.Walked start current seen) {span : Text.Span} (hr : r = some span) :
    ∃ a s, ReflTransGen m.Extends start a ∧ TransGen m.Extends a a ∧
      m.parent? a = some s ∧ s.span = span ∧
      (TransGen m.Extends start start ↔ s.value = start) := by
  induction h with
  | ends => cases hr
  | @closes current seen s next again =>
    obtain rfl := Option.some.inj hr
    have hx : m.Extends current s.value := extends_iff.2 ⟨s, next, rfl⟩
    refine ⟨current, s, hw.reached, ?_, next, rfl, ?_⟩
    · obtain hmem | hback := again
      · exact hw.behind current hmem
      · exact .head' (hback ▸ hx) hw.reached
    · constructor
      · intro hcycle
        obtain hmem | hback := again
        · exact absurd hcycle (hw.not_transGen hmem)
        · exact hback
      · intro hback
        exact .tail' hw.reached (hback ▸ hx)
  | step next _ away _ ih => exact ih (hw.step (extends_iff.2 ⟨_, next, rfl⟩) away) hr

theorem Follows.not_leadsToCycle {r : Option Text.Span} (h : m.Follows start current seen r)
    (hr : r = none) : ¬ m.LeadsToCycle current := by
  induction h with
  | @ends current seen last =>
    have hnone : ∀ b, ¬ m.Extends current b := by
      intro b hb
      obtain ⟨s, hs, _⟩ := extends_iff.1 hb
      rw [last] at hs
      cases hs
    rintro ⟨a, ha, hcycle⟩
    obtain rfl | ⟨b, hb, -⟩ := ReflTransGen.cases_head_iff.1 ha
    · obtain ⟨b, hb, -⟩ := TransGen.head'_iff.1 hcycle
      exact hnone b hb
    · exact hnone b hb
  | closes => cases hr
  | @step current seen s r next _ _ _ ih =>
    have hx : m.Extends current s.value := extends_iff.2 ⟨s, next, rfl⟩
    rintro ⟨a, ha, hcycle⟩
    obtain rfl | ⟨b, hb, hba⟩ := ReflTransGen.cases_head_iff.1 ha
    · -- A cycle through the class goes through its parent too.
      have hback := Relation.reflTransGen_iff_eq_or_transGen.2 (hx.transGen_iff.1 hcycle)
      exact ih hr ⟨s.value, .refl, .tail' hback hx⟩
    · obtain rfl := hx.right_unique hb
      exact ih hr ⟨a, hba, hcycle⟩

theorem closing?_eq_none_iff : m.closing? name = none ↔ ¬ m.LeadsToCycle name := by
  constructor
  · intro h
    exact (follows_iff.2 h).not_leadsToCycle rfl
  · intro h
    cases hc : m.closing? name with
    | none => rfl
    | some span =>
      obtain ⟨a, _, ha, hcycle, _⟩ := (follows_iff.2 hc).closes_cycle (.refl name) rfl
      exact absurd ⟨a, ha, hcycle⟩ h

/-! ### The class that is named -/

theorem closing?_of_checkClass {source : Source} {d : ClassDecl} {a : String} {span : Text.Span}
    (h : m.checkClass source name d = .error (.inheritanceCycle a span)) :
    name = a ∧ m.closing? name = some span := by
  have hparameters : forM d.parameters ParameterDecl.check ≠ .error (.inheritanceCycle a span) := by
    intro hp
    obtain ⟨_, p, _, _, _, hcheck⟩ := Except.exists_of_forM_eq_error hp
    exact ParameterDecl.check_ne_inheritanceCycle hcheck
  revert h
  rw [checkClass]
  cases isIdentifier name with
  | false => simp [Except.throw_eq_error]
  | true =>
    cases d.parent with
    | none => cases m.closing? name <;> simp [Except.throw_eq_error, hparameters]
    | some parent =>
      cases hc : m.classes.contains parent.value <;> cases m.closing? name <;>
        simp [Except.throw_eq_error, hc, hparameters]

/-- The class that a check names is the first one in the manifest whose parents do not end, and the
range is that of a parent on the cycle. -/
theorem namedForCycle_of_check {source : Source} {span : Text.Span}
    (h : m.check source = .error (.inheritanceCycle name span)) : m.NamedForCycle name span := by
  rw [check, List.forM_eq_forM] at h
  obtain ⟨before, ⟨a, d⟩, after, hsplit, hbefore, hclass⟩ := Except.exists_of_forM_eq_error h
  obtain ⟨rfl, hclosing⟩ := closing?_of_checkClass hclass
  refine ⟨(follows_iff.2 hclosing).closes_cycle (.refl _) rfl,
    before.map Prod.fst, after.map Prod.fst, ?_, ?_⟩
  · rw [← OrderedMap.map_fst_toList, hsplit, List.map_append, List.map_cons]
  · intro b hb
    obtain ⟨⟨b, e⟩, he, rfl⟩ := List.mem_map.1 hb
    exact closing?_eq_none_iff.1 (checkClass_eq_ok_iff.1 (hbefore _ he)).2.2.1

/-- The class `B` extends itself, and `A` in front of it extends `B`. -/
def tailed : Manifest :=
  ⟨.ofList [("A", .extending ⟨⟨22, 25⟩, "B"⟩), ("B", .extending ⟨⟨49, 52⟩, "B"⟩)]⟩

theorem toList_tailed :
    tailed.classes.toList =
      [("A", .extending ⟨⟨22, 25⟩, "B"⟩), ("B", .extending ⟨⟨49, 52⟩, "B"⟩)] := rfl

theorem check_tailed (source : Source) :
    tailed.check source = .error (.inheritanceCycle "A" ⟨49, 52⟩) := by
  have hkeys : tailed.classes.keys = ["A", "B"] := rfl
  have hA : tailed.parent? "A" = some ⟨⟨22, 25⟩, "B"⟩ := rfl
  have hB : tailed.parent? "B" = some ⟨⟨49, 52⟩, "B"⟩ := rfl
  have hclosing : tailed.closing? "A" = some ⟨49, 52⟩ := by
    simp [closing?, closingFrom?, hkeys, hA, hB]
  have hclass : tailed.checkClass source "A" (.extending ⟨⟨22, 25⟩, "B"⟩) =
      .error (.inheritanceCycle "A" ⟨49, 52⟩) := by
    have hname : isIdentifier "A" = true := by decide
    have hparent : tailed.classes.contains "B" = true := rfl
    simp [checkClass, ClassDecl.extending, hname, hparent, hclosing, Except.throw_eq_error]
  rw [check, toList_tailed, List.forM_eq_forM, List.forM_cons, hclass]
  rfl

/-- The class that only leads to a cycle is named, as it comes first. -/
theorem named_off_cycle_tailed :
    tailed.check ⟨"", "classes.toml"⟩ = .error (.inheritanceCycle "A" ⟨49, 52⟩) ∧
      ¬ TransGen tailed.Extends "A" "A" := by
  refine ⟨check_tailed _, ?_⟩
  intro hcycle
  obtain ⟨b, _, d, s, hd, hs, hA⟩ := TransGen.tail'_iff.1 hcycle
  rw [OrderedMap.get?_eq_some_iff, toList_tailed] at hd
  -- No class has `A` as its parent.
  have hB : s.value = "B" := by
    obtain hd | hd := List.mem_pair.1 hd <;> obtain ⟨rfl, rfl⟩ := Prod.mk.inj hd <;>
      exact congrArg Spanned.value (Option.some.inj hs.symm)
  rw [hB] at hA
  revert hA
  decide

/-- The range points at `B`, which is another class than the one that is named. -/
theorem namedForCycle_tailed :
    tailed.check ⟨"", "classes.toml"⟩ = .error (.inheritanceCycle "A" ⟨49, 52⟩) ∧
      tailed.NamedForCycle "A" ⟨49, 52⟩ :=
  ⟨check_tailed _, namedForCycle_of_check (check_tailed ⟨"", "classes.toml"⟩)⟩

end Manifest

end ClassForge
