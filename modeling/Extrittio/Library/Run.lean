import Mathlib

/-!
Runs of a machine whose steps may be guarded. A property is proved of every run
by proving that one enabled step preserves it.
-/
namespace Transition

universe u v

/-- A step is taken only where it is enabled; its effect is a function. -/
structure Machine (State : Type u) (Step : Type v) where
  enabled : State → Step → Prop
  apply : State → Step → State

namespace Machine

variable {State : Type u} {Step : Type v} {M : Machine State Step}

inductive Run (M : Machine State Step) : State → List Step → State → Prop
  | nil (s : State) : Run M s [] s
  | cons {s t : State} {a : Step} {as : List Step} (enabled : M.enabled s a)
      (rest : Run M (M.apply s a) as t) : Run M s (a :: as) t

def Reachable (M : Machine State Step) (s t : State) : Prop := ∃ steps, M.Run s steps t

namespace Run

variable {s t u : State} {a : Step} {as bs : List Step}

/-- What every enabled step preserves, a whole run preserves. -/
theorem invariant {I : State → Prop} (step : ∀ s a, I s → M.enabled s a → I (M.apply s a))
    (h : M.Run s as t) (hs : I s) : I t := by
  induction h with
  | nil => exact hs
  | cons ha _ ih => exact ih (step _ _ hs ha)

/-- A reflexive and transitive relation between the ends of every step holds
between the ends of a run, under an invariant of the run. -/
theorem relation {I : State → Prop} {R : State → State → Prop} (refl : ∀ s, R s s)
    (trans : ∀ s t u, R s t → R t u → R s u)
    (step : ∀ s a, I s → M.enabled s a → I (M.apply s a) ∧ R s (M.apply s a))
    (h : M.Run s as t) (hs : I s) : R s t := by
  induction h with
  | nil => exact refl _
  | cons ha _ ih =>
    obtain ⟨hi, hr⟩ := step _ _ hs ha
    exact trans _ _ _ hr (ih hi)

theorem append (h : M.Run s as t) (h' : M.Run t bs u) : M.Run s (as ++ bs) u := by
  induction h with
  | nil => exact h'
  | cons ha _ ih => exact .cons ha (ih h')

theorem of_append (h : M.Run s (as ++ bs) u) :
    M.Run s as (as.foldl M.apply s) ∧ M.Run (as.foldl M.apply s) bs u := by
  induction as generalizing s with
  | nil => exact ⟨.nil s, h⟩
  | cons a as ih =>
    cases h with
    | cons ha h =>
      obtain ⟨hfirst, hrest⟩ := ih h
      exact ⟨.cons ha hfirst, hrest⟩

theorem of_enabled (h : ∀ s, ∀ a ∈ as, M.enabled s a) (s : State) : M.Run s as (as.foldl M.apply s) := by
  induction as generalizing s with
  | nil => exact .nil s
  | cons a as ih =>
    exact .cons (h s a List.mem_cons_self) (ih (fun s b hb => h s b (List.mem_cons_of_mem a hb)) _)

theorem single (h : M.enabled s a) : M.Run s [a] (M.apply s a) := .cons h (.nil _)

/-- A second machine that keeps up with every enabled step keeps up with a run. -/
theorem simulates {State' : Type*} {R : State → State' → Prop} {f : State' → Step → State'}
    {s' : State'} (step : ∀ s s' a, R s s' → M.enabled s a → R (M.apply s a) (f s' a))
    (h : M.Run s as t) (hs : R s s') : R t (as.foldl f s') := by
  induction h generalizing s' with
  | nil => exact hs
  | cons ha _ ih => exact ih (step _ _ _ hs ha)

/-- A projection under which some steps act on the projected state and the others
do not show: the projection of a run is determined by the steps that show. -/
theorem project {State' : Type*} {I : State → Prop} {π : State → State'} {f : State' → Step → State'}
    {visible : Step → Bool} (inv : ∀ s a, I s → M.enabled s a → I (M.apply s a))
    (shows : ∀ s a, I s → M.enabled s a → visible a → π (M.apply s a) = f (π s) a)
    (hides : ∀ s a, I s → M.enabled s a → visible a = false → π (M.apply s a) = π s)
    (h : M.Run s as t) (hs : I s) : π t = (as.filter visible).foldl f (π s) := by
  induction h with
  | nil => rfl
  | cons ha _ ih =>
    rw [ih (inv _ _ hs ha)]
    cases hv : visible _ with
    | true => rw [List.filter_cons_of_pos hv, List.foldl_cons, shows _ _ hs ha hv]
    | false => rw [List.filter_cons_of_neg (by simp [hv]), hides _ _ hs ha hv]

end Run

/-- The machine under an additional guard on its steps. -/
def restrict (M : Machine State Step) (guard : State → Step → Prop) : Machine State Step where
  enabled s a := M.enabled s a ∧ guard s a
  apply := M.apply

theorem Run.of_restrict {s t : State} {as : List Step} {guard : State → Step → Prop}
    (h : (M.restrict guard).Run s as t) : M.Run s as t := by
  induction h with
  | nil => exact .nil _
  | cons ha _ ih => exact .cons ha.1 ih

theorem Reachable.refl (s : State) : M.Reachable s s := ⟨[], .nil s⟩

theorem Reachable.invariant {s t : State} {I : State → Prop}
    (step : ∀ s a, I s → M.enabled s a → I (M.apply s a)) (h : M.Reachable s t) (hs : I s) : I t := by
  obtain ⟨_, hrun⟩ := h
  exact hrun.invariant step hs

end Machine

end Transition
