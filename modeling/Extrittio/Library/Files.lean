import Mathlib

/-!
Files under their names, and actions that may fail. What an action has done before it fails
stays done, so an action is described by what it leaves behind in either case.
-/
namespace FileSystem

abbrev Files (Name Content : Type) := Name → Option Content

namespace Files

variable {Name Content : Type} [DecidableEq Name] {files : Files Name Content} {name source target : Name}

/-- The file moves; a file that has the new name already is replaced. -/
def rename (files : Files Name Content) (source target : Name) : Files Name Content := fun name =>
  if name = target then files source else if name = source then none else files name

@[simp] theorem rename_target : files.rename source target target = files source := by
  simp [rename]

theorem rename_source (h : source ≠ target) : files.rename source target source = none := by
  simp [rename, h]

theorem rename_other (hs : name ≠ source) (ht : name ≠ target) :
    files.rename source target name = files name := by
  simp [rename, hs, ht]

end Files

/-- An action on a state, which ends with a value or an error and leaves a state either way. -/
abbrev Action (ε State α : Type) := ExceptT ε (StateM State) α

namespace Action

variable {ε State α β : Type} {x : Action ε State α} {f : α → Action ε State β}
  {handler : ε → Action ε State α} {s t u : State} {a : α} {b : β} {e : ε}

theorem bind_of_ok (h : x s = (.ok a, t)) : (x >>= f) s = f a t := by
  simp only [bind, ExceptT.bind, ExceptT.mk, StateT.bind, h]
  rfl

theorem bind_of_error (h : x s = (.error e, t)) : (x >>= f) s = (.error e, t) := by
  simp only [bind, ExceptT.bind, ExceptT.mk, StateT.bind, h]
  rfl

theorem tryCatch_of_ok (h : x s = (.ok a, t)) : tryCatch x handler s = (.ok a, t) := by
  simp only [tryCatch, tryCatchThe, MonadExceptOf.tryCatch, ExceptT.tryCatch, ExceptT.mk, bind,
    StateT.bind, h]
  rfl

theorem tryCatch_of_error (h : x s = (.error e, t)) : tryCatch x handler s = handler e t := by
  simp only [tryCatch, tryCatchThe, MonadExceptOf.tryCatch, ExceptT.tryCatch, ExceptT.mk, bind,
    StateT.bind, h]

theorem bind_eq_ok : (x >>= f) s = (.ok b, u) ↔ ∃ a t, x s = (.ok a, t) ∧ f a t = (.ok b, u) := by
  rcases hx : x s with ⟨result, t⟩
  cases result with
  | ok a =>
    rw [bind_of_ok hx]
    refine ⟨fun h => ⟨a, t, rfl, h⟩, ?_⟩
    rintro ⟨_, _, heq, h⟩
    cases heq
    exact h
  | error e =>
    rw [bind_of_error hx]
    refine ⟨nofun, ?_⟩
    rintro ⟨_, _, heq, -⟩
    cases heq

theorem of_tryCatch_eq_ok (hhandler : ∀ e s a t, handler e s ≠ (.ok a, t))
    (h : tryCatch x handler s = (.ok a, t)) : x s = (.ok a, t) := by
  rcases hx : x s with ⟨result, u⟩
  cases result with
  | ok b =>
    rw [tryCatch_of_ok hx] at h
    exact h
  | error e =>
    rw [tryCatch_of_error hx] at h
    exact absurd h (hhandler e u a t)

/-- However the action ends, the state it leaves is related to the state it found. -/
def Leaves (x : Action ε State α) (R : State → State → Prop) : Prop := ∀ s, R s (x s).2

section

variable {R : State → State → Prop}

theorem leaves_pure (refl : ∀ s, R s s) (a : α) : Leaves (pure a : Action ε State α) R := refl

theorem leaves_throw (refl : ∀ s, R s s) (e : ε) : Leaves (throw e : Action ε State α) R := refl

theorem Leaves.bind (trans : ∀ s t u, R s t → R t u → R s u) (hx : Leaves x R)
    (hf : ∀ a, Leaves (f a) R) : Leaves (x >>= f) R := by
  intro s
  have hfirst := hx s
  rcases h : x s with ⟨result, t⟩
  rw [h] at hfirst
  cases result with
  | ok a =>
    rw [bind_of_ok h]
    exact trans _ _ _ hfirst (hf a t)
  | error e =>
    rw [bind_of_error h]
    exact hfirst

theorem Leaves.tryCatch (trans : ∀ s t u, R s t → R t u → R s u) (hx : Leaves x R)
    (hh : ∀ e, Leaves (handler e) R) : Leaves (tryCatch x handler) R := by
  intro s
  have hfirst := hx s
  rcases h : x s with ⟨result, t⟩
  rw [h] at hfirst
  cases result with
  | ok a =>
    rw [tryCatch_of_ok h]
    exact hfirst
  | error e =>
    rw [tryCatch_of_error h]
    exact trans _ _ _ hfirst (hh e t)

end

end Action

end FileSystem
