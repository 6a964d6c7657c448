import Mathlib.Tactic

/-!
The ESP32 client over a bootloader that rolls an unverified image back at the next restart.
`main` marks the running image valid at once, long before `confirm` does.
-/
namespace Extrittio

open List

/-- Images are numbered as they are installed; `marked` and `confirmed` record the images for
which `main` and `confirm` came to their calls. -/
structure Esp32 where
  installed : ℕ
  running : ℕ
  valid : Bool
  fallback : ℕ
  next : Option ℕ
  pending : Bool
  started : Bool
  armed : Bool
  healthy : Bool
  uptime : ℕ
  marked : List ℕ
  confirmed : List ℕ

namespace Esp32

/-- The factory image needs no confirmation. -/
def factory : Esp32 := ⟨0, 0, true, 0, none, false, false, false, false, 0, [], [0]⟩

def restart (d : Esp32) : Esp32 :=
  let off := { d with next := none, started := false, armed := false, healthy := false, uptime := 0 }
  let kept := if d.valid then d.running else d.fallback
  match d.next with
  | some image => { off with running := image, valid := false, fallback := kept }
  | none => { off with running := kept, valid := true }

inductive Step where
  | install | main | wait (seconds : ℕ) | confirm | watchdog | crash

def apply (d : Esp32) : Step → Esp32
  | .install =>
    if d.started then
      { d with installed := d.installed + 1, next := some (d.installed + 1), pending := true }
    else d
  | .main =>
    { d with started := true, armed := d.pending, valid := true, marked := d.running :: d.marked }
  | .wait seconds => { d with uptime := d.uptime + seconds }
  | .confirm =>
    if d.started ∧ 30 ≤ d.uptime then
      { d with valid := true, healthy := true, pending := false, confirmed := d.running :: d.confirmed }
    else d
  | .watchdog => if d.armed ∧ 120 ≤ d.uptime ∧ !d.healthy then d.restart else d
  | .crash => d.restart

def run (steps : List Step) : Esp32 := steps.foldl apply factory

abbrev vouched (d : Esp32) : List ℕ := d.marked ++ d.confirmed

structure Booted (d : Esp32) : Prop where
  valid : d.valid ↔ d.running ∈ d.vouched
  fallback : d.fallback ∈ d.vouched
  next : ∀ image ∈ d.next, image ≤ d.installed ∧ ∀ i ∈ d.running :: d.vouched, i < image
  installed : ∀ i ∈ d.running :: d.vouched, i ≤ d.installed

theorem booted_restart {d : Esp32} (h : Booted d) : Booted d.restart := by
  obtain ⟨hvalid, hfallback, hnext, hinstalled⟩ := h
  cases hcase : d.next with
  | none => cases hv : d.valid <;> constructor <;> simp only [restart, hcase, hv] <;> grind
  | some image =>
    have := hnext image hcase
    cases hv : d.valid <;> constructor <;> simp only [restart, hcase, hv] <;> grind

theorem booted_apply {d : Esp32} (h : Booted d) (step : Step) : Booted (d.apply step) := by
  cases step with
  | crash => exact booted_restart h
  | watchdog =>
    simp only [apply]
    split_ifs
    exacts [booted_restart h, h]
  | wait | main | confirm | install =>
    obtain ⟨hvalid, hfallback, hnext, hinstalled⟩ := h
    constructor <;> simp only [apply] <;> grind

theorem booted_run (steps : List Step) : Booted (run steps) := by
  induction steps using List.reverseRecOn with
  | nil => constructor <;> simp [run, factory]
  | append_singleton steps step ih =>
    rw [run, foldl_concat]
    exact booted_apply ih step

end Esp32

end Extrittio
