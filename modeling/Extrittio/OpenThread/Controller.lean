import Mathlib.Tactic

/-!
Changes of the Thread network. The border router is its active dataset, empty if there is none,
and whether its interface is enabled; a call that fails may leave it in any state.
-/
namespace Extrittio

structure BorderRouter where
  dataset : List UInt8
  enabled : Bool

namespace OpenThread

/-- The router, and how the next calls end: none for a success, or the error and the state
that it leaves. -/
abbrev World := BorderRouter × List (Option (String × BorderRouter))

abbrev Action (ε α : Type) := World → Except ε α × World

abbrev Call := BorderRouter → BorderRouter

def detach (r : BorderRouter) : BorderRouter := { r with enabled := false }

def setActiveDatasetTlvs (dataset : List UInt8) (r : BorderRouter) : BorderRouter := { r with dataset }

def attachCurrentDataset (r : BorderRouter) : BorderRouter := { r with enabled := true }

def factoryReset (_ : BorderRouter) : BorderRouter := ⟨[], false⟩

def activeDatasetTlvsIfPresent (r : BorderRouter) : Option (List UInt8) :=
  if r.dataset = [] then none else some r.dataset

/-- Control calls, up to the first one that fails. -/
def control : List Call → Action String Unit
  | [], w => (.ok (), w)
  | call :: calls, (r, answers) =>
    match answers.head?.join with
    | some (e, after) => (.error e, after, answers.tail)
    | none => control calls (call r, answers.tail)

/-- A read, which changes nothing. -/
def read {α : Type} (f : BorderRouter → Except String α) : Action String α
  | (r, answers) =>
    match answers.head?.join with
    | some (e, _) => (.error e, r, answers.tail)
    | none => (f r, r, answers.tail)

def restoreDataset (previous : Option (List UInt8)) (wasEnabled : Bool) :
    Action String Unit :=
  control (detach :: match previous with
    | some dataset =>
      if dataset ≠ [] then
        setActiveDatasetTlvs dataset :: if wasEnabled then [attachCurrentDataset] else []
      else [factoryReset]
    | none => [factoryReset])

inductive OpenThreadError where
  | refused (message : String)
  | restored (original : String)
  | notRestored (original rollback : String)

def OpenThreadError.message : OpenThreadError → String
  | .refused message => message
  | .restored original => s!"{original}; the previous Thread network was restored"
  | .notRestored original rollback =>
    s!"{original}; restoring the previous Thread network also failed: {rollback}"

def rollbackError (original : String) (previous : Option (List UInt8)) (wasEnabled : Bool) :
    Action OpenThreadError Unit := fun w =>
  match restoreDataset previous wasEnabled w with
  | (.ok (), w) => (.error (.restored original), w)
  | (.error rollback, w) => (.error (.notRestored original rollback), w)

/-- Control calls and a check of what they led to, undone if either fails. -/
def changeNetwork (calls : List Call) (check : BorderRouter → Except String Unit) :
    Action OpenThreadError Unit := fun w =>
  match read (fun r => .ok (activeDatasetTlvsIfPresent r)) w with
  | (.error e, w) => (.error (.refused e), w)
  | (.ok previous, w) =>
    match read (fun r => .ok r.enabled) w with
    | (.error e, w) => (.error (.refused e), w)
    | (.ok wasEnabled, w) =>
      match control calls w with
      | (.error e, w) => rollbackError e previous wasEnabled w
      | (.ok (), w) =>
        match read check w with
        | (.error e, w) => rollbackError e previous wasEnabled w
        | (.ok (), w) => (.ok (), w)

/-- The router makes up the dataset of a new network; `verify` is `verify_created_network`. -/
def createNetwork (created : List UInt8) (verify : BorderRouter → Except String Unit) :
    Action OpenThreadError Unit :=
  changeNetwork [fun _ => ⟨created, true⟩] verify

def importActiveDataset (dataset : List UInt8) : Action OpenThreadError Unit :=
  changeNetwork [detach, setActiveDatasetTlvs dataset, attachCurrentDataset] fun r =>
    match activeDatasetTlvsIfPresent r with
    | none => .error "the local Thread network has no Active Operational Dataset"
    | some active =>
      if active = dataset then .ok ()
      else .error "OTBR did not activate the imported operational dataset"

theorem control_ok {calls : List Call} {w w' : World}
    (h : control calls w = (.ok (), w')) : w'.1 = calls.foldl (fun r call => call r) w.1 := by
  induction calls generalizing w with
  | nil => rw [← (Prod.mk.inj h).2, List.foldl_nil]
  | cons call calls ih =>
    unfold control at h
    split at h
    · cases h
    · exact ih h

theorem read_router {α : Type} (f : BorderRouter → Except String α) (w : World) :
    (read f w).2.1 = w.1 ∧ ((read f w).1 = f w.1 ∨ ∃ e, (read f w).1 = .error e) := by
  obtain ⟨r, answers⟩ := w
  cases h : answers.head?.join with
  | none => simp [read, h]
  | some failure => simp [read, h]

/-- What a change has done when it is over. -/
theorem changeNetwork_cases {calls : List Call} {check : BorderRouter → Except String Unit}
    {w w' : World} {result : Except OpenThreadError Unit} (h : changeNetwork calls check w = (result, w')) :
    (∃ e, result = .error (.refused e) ∧ w'.1 = w.1) ∨
    (∃ e v, rollbackError e (activeDatasetTlvsIfPresent w.1) w.1.enabled v = (result, w')) ∨
    result = .ok () ∧ check w'.1 = .ok () := by
  unfold changeNetwork at h
  obtain ⟨hfirst, hread⟩ := read_router (fun r => .ok (activeDatasetTlvsIfPresent r)) w
  split at h
  next e v heq =>
    rw [heq] at hfirst
    cases h
    exact .inl ⟨e, rfl, hfirst⟩
  next previous v heq =>
    rw [heq] at hfirst hread
    obtain rfl : previous = activeDatasetTlvsIfPresent w.1 := by simpa using hread
    obtain ⟨hsecond, henabled⟩ := read_router (fun r => .ok r.enabled) v
    split at h
    next e u hu =>
      rw [hu] at hsecond
      cases h
      exact .inl ⟨e, rfl, hsecond.trans hfirst⟩
    next wasEnabled u hu =>
      rw [hu, hfirst] at henabled
      obtain rfl : wasEnabled = w.1.enabled := by simpa using henabled
      split at h
      next e t _ => exact .inr (.inl ⟨e, t, h⟩)
      next t _ =>
        obtain ⟨hlast, hcheck⟩ := read_router check t
        split at h
        next e t' _ => exact .inr (.inl ⟨e, t', h⟩)
        next t' ht =>
          rw [ht] at hlast hcheck
          cases h
          rw [hlast]
          exact .inr (.inr ⟨rfl, by simpa [eq_comm] using hcheck⟩)

/-- Wherever a creation or an import fails, a rollback that succeeds brings the dataset back and
attaches the interface if there is one and it was enabled; an import that succeeds leaves the
dataset it was given. -/
theorem change_undone (w : World) :
    (∀ operation, (∃ created verify, operation = createNetwork created verify) ∨
        (∃ dataset, operation = importActiveDataset dataset) →
      (∀ e w', operation w = (.error (.refused e), w') → w'.1 = w.1) ∧
      ∀ original w', operation w = (.error (.restored original), w') →
        w'.1.dataset = w.1.dataset ∧ (w'.1.enabled = true ↔ w.1.dataset ≠ [] ∧ w.1.enabled = true)) ∧
    ∀ dataset w', importActiveDataset dataset w = (.ok (), w') → w'.1.dataset = dataset := by
  constructor
  · intro operation hoperation
    obtain ⟨calls, check, rfl⟩ : ∃ calls check, operation = changeNetwork calls check := by
      rcases hoperation with ⟨created, verify, rfl⟩ | ⟨dataset, rfl⟩ <;> exact ⟨_, _, rfl⟩
    refine ⟨fun e w' h => ?_, fun original w' h => ?_⟩
    · rcases changeNetwork_cases h with ⟨-, -, hkept⟩ | ⟨e', v, hrollback⟩ | ⟨⟨⟩, -⟩
      · exact hkept
      · unfold rollbackError at hrollback
        split at hrollback <;> cases hrollback
    · rcases changeNetwork_cases h with ⟨-, ⟨⟩, -⟩ | ⟨e', v, hrollback⟩ | ⟨⟨⟩, -⟩
      unfold rollbackError at hrollback
      split at hrollback <;> cases hrollback
      next hrestore =>
        rw [control_ok hrestore]
        by_cases hnone : w.1.dataset = [] <;> cases henabled : w.1.enabled <;>
          simp [activeDatasetTlvsIfPresent, hnone, factoryReset, detach, setActiveDatasetTlvs,
            attachCurrentDataset]
  · intro dataset w' h
    rcases changeNetwork_cases h with ⟨-, ⟨⟩, -⟩ | ⟨e, v, hrollback⟩ | ⟨-, hcheck⟩
    · unfold rollbackError at hrollback
      split at hrollback <;> cases hrollback
    · unfold activeDatasetTlvsIfPresent at hcheck
      by_cases hempty : w'.1.dataset = []
      · simp [hempty] at hcheck
      · simpa [hempty] using hcheck

end OpenThread

end Extrittio
