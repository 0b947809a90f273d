import ClassForge.Fragment
import Mathlib.Data.Option.Basic

/-!
# What the pieces of a constructor do

What each form of statement makes of the state of a running constructor, and how the pieces of one
kind run one after another where both kinds are mixed.

## Main definitions

- `Statement.Does`, `Callback.Does` — what a piece makes of the state that it finds
- `Fragment.Runs` — the run of the pieces of one kind among some fragments

## Main statements

- `Statement.execute_eq_iff`, `Callback.call_eq_iff` — the pieces do just that
- `Fragment.runs_statement_iff`, `Fragment.runs_callback_iff` — so do loops over all of one kind
-/

namespace ClassForge

/-- What a statement makes of a frame. -/
inductive Statement.Does : Statement → Frame → Except Fault Frame → Prop
  /-- A bound argument is stored in the slot of its name. -/
  | stores {name : String} {f : Frame} {v : Value} (bound : f.locals.get? name = some v) :
      Does (.assign name) f
        (.ok { f with self := { f.self with slots := f.self.slots.insert name v } })
  /-- The slot of an omitted argument is unset. -/
  | clears {name : String} {f : Frame} (omitted : f.locals.get? name = none) :
      Does (.assign name) f (.ok { f with self := { f.self with slots := f.self.slots.erase name } })
  /-- A type has nothing to say about an omitted argument. -/
  | passes {name : String} {type : Capability} {f : Frame} (omitted : f.locals.get? name = none) :
      Does (.coerce name type) f (.ok f)
  /-- What the type makes of a bound argument is bound in its place. -/
  | replaces {name : String} {type : Capability} {f : Frame} {v w : Value}
      (bound : f.locals.get? name = some v) (accepted : type.check v = .ok w) :
      Does (.coerce name type) f (.ok { f with locals := f.locals.insert name w })
  /-- The type rejects a bound argument. -/
  | refuses {name : String} {type : Capability} {f : Frame} {v : Value} {reason : String}
      (bound : f.locals.get? name = some v) (rejected : type.check v = .error reason) :
      Does (.coerce name type) f (.error (.typeConstraint f.self.className name v reason))
  /-- A step of another plugin does what it says. -/
  | custom {source : String} {run : Frame → Except Fault Frame} {f : Frame} {r : Except Fault Frame}
      (runs : run f = r) : Does (.custom source run) f r

/-- What a callback makes of an instance. -/
def Callback.Does (c : Callback) (self : Instance) (r : Except Fault Instance) : Prop :=
  c.run self = r

/-- The pieces of one kind among some fragments run one after another, up to the first fault. -/
inductive Fragment.Runs {τ σ : Type} (piece : τ → Fragment)
    (Does : τ → σ → Except Fault σ → Prop) : List Fragment → σ → Except Fault σ → Prop
  | done {s : σ} : Runs piece Does [] s (.ok s)
  | skip {a : Fragment} {as : List Fragment} {s : σ} {r : Except Fault σ}
      (other : ∀ t, a ≠ piece t) (rest : Runs piece Does as s r) : Runs piece Does (a :: as) s r
  | step {t : τ} {as : List Fragment} {s s' : σ} {r : Except Fault σ}
      (does : Does t s (.ok s')) (rest : Runs piece Does as s' r) :
      Runs piece Does (piece t :: as) s r
  | fail {t : τ} {as : List Fragment} {s : σ} {f : Fault} (does : Does t s (.error f)) :
      Runs piece Does (piece t :: as) s (.error f)

/-! ### Single pieces -/

theorem Statement.does_execute (s : Statement) (f : Frame) : s.Does f (s.execute f) := by
  cases s with
  | assign name =>
    rw [execute]
    split
    next v bound => exact .stores bound
    next omitted => exact .clears omitted
  | coerce name type =>
    rw [execute]
    split
    next omitted => exact .passes omitted
    next v bound =>
      split
      next w accepted => exact .replaces bound accepted
      next reason rejected => exact .refuses bound rejected
  | custom source run => exact .custom rfl

theorem Statement.execute_of_does {s : Statement} {f : Frame} {r : Except Fault Frame}
    (h : s.Does f r) : s.execute f = r := by
  cases h with
  | stores bound => rw [execute, Frame.local?, bound]; rfl
  | clears omitted => rw [execute, Frame.local?, omitted]; rfl
  | passes omitted => rw [execute, Frame.local?, omitted]
  | replaces bound accepted => simp only [execute, Frame.local?, bound, accepted, Frame.bind]
  | refuses bound rejected => simp only [execute, Frame.local?, bound, rejected, Frame.className]
  | custom runs => exact runs

theorem Statement.execute_eq_iff {s : Statement} {f : Frame} {r : Except Fault Frame} :
    s.execute f = r ↔ s.Does f r :=
  ⟨fun h => h ▸ s.does_execute f, execute_of_does⟩

theorem Callback.call_eq_iff {c : Callback} {self : Instance} {r : Except Fault Instance} :
    c.call self = r ↔ c.Does self r :=
  Iff.rfl

namespace Fragment

theorem statement?_eq_some_iff {a : Fragment} {s : Statement} :
    a.statement? = some s ↔ a = .statement s := by
  cases a <;> simp [statement?]

theorem callback?_eq_some_iff {a : Fragment} {c : Callback} :
    a.callback? = some c ↔ a = .callback c := by
  cases a <;> simp [callback?]

/-! ### All pieces of one kind -/

variable {τ σ : Type} {piece : τ → Fragment} {Does : τ → σ → Except Fault σ → Prop}
  {as : List Fragment} {s : σ} {r : Except Fault σ}

/-- A loop over the pieces of one kind, which are picked out first, is a run of them. -/
theorem runs_iff {piece? : Fragment → Option τ} {act : τ → σ → Except Fault σ}
    (hpiece : ∀ {a t}, piece? a = some t ↔ a = piece t) (hact : ∀ {t s r}, act t s = r ↔ Does t s r) :
    Runs piece Does as s r ↔ (as.filterMap piece?).foldlM (fun s t => act t s) s = r := by
  constructor
  · intro h
    induction h with
    | done => rfl
    | skip other _ ih =>
      have hother := Option.eq_none_iff_forall_ne_some.2 fun t ht => other t (hpiece.1 ht)
      rwa [List.filterMap_cons_none hother]
    | step does _ ih =>
      rw [List.filterMap_cons_some (hpiece.2 rfl), List.foldlM_cons, hact.2 does]
      exact ih
    | fail does =>
      rw [List.filterMap_cons_some (hpiece.2 rfl), List.foldlM_cons, hact.2 does]
      rfl
  · rintro rfl
    induction as generalizing s with
    | nil => exact .done
    | cons a as ih =>
      cases ha : piece? a with
      | none =>
        have hother : ∀ t, a ≠ piece t := fun t ht => by
          rw [hpiece.2 ht] at ha
          cases ha
        rw [List.filterMap_cons_none ha]
        exact .skip hother ih
      | some t =>
        rw [List.filterMap_cons_some ha, List.foldlM_cons]
        obtain rfl := hpiece.1 ha
        cases ht : act t s with
        | ok s' => exact .step (hact.1 ht) ih
        | error f => exact .fail (hact.1 ht)

theorem runs_statement_iff {f : Frame} {r : Except Fault Frame} :
    Runs .statement Statement.Does as f r ↔
      Statement.executeAll (as.filterMap (·.statement?)) f = r :=
  runs_iff statement?_eq_some_iff Statement.execute_eq_iff

theorem runs_callback_iff {self : Instance} {r : Except Fault Instance} :
    Runs .callback Callback.Does as self r ↔
      Callback.callAll (as.filterMap (·.callback?)) self = r :=
  runs_iff callback?_eq_some_iff Callback.call_eq_iff

/-- A fault comes from one of the pieces. -/
theorem Runs.exists_of_error {f : Fault} (h : Runs piece Does as s (.error f)) :
    ∃ t s', piece t ∈ as ∧ Does t s' (.error f) := by
  generalize hr : (Except.error f : Except Fault σ) = r at h
  induction h with
  | done => cases hr
  | skip _ _ ih | step _ _ ih =>
    obtain ⟨t, s', ht, does⟩ := ih hr
    exact ⟨t, s', List.mem_cons_of_mem _ ht, does⟩
  | fail does =>
    cases hr
    exact ⟨_, _, List.mem_cons_self, does⟩

end Fragment

end ClassForge
