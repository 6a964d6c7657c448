import Extrittio.Library.OrderedMap

/-!
The rate limiter, called by one request at a time: what is dropped from it has expired.
-/
namespace Extrittio

open List OrderedMap

structure RateLimit where
  (maxRequests window : ℕ)

/-- `clock` is the last time read and `allowed` has the times of the allowed checks of a key. -/
structure RateLimiter (c : RateLimit) where
  state : OrderedMap String (List ℕ) := ∅
  clock : ℕ := 0
  allowed : String → List ℕ := fun _ => []

namespace RateLimiter

def maxRateLimitKeys : ℕ := 100000

variable {c : RateLimit} (l : RateLimiter c) (key : String) (now : ℕ)

def timestamps : List ℕ := (l.state.get? key).getD []

def isFull : Bool := maxRateLimitKeys ≤ l.state.entries.length

def cleanup : RateLimiter c :=
  { l with
    clock := now
    state := l.state.filter fun entry => entry.2.getLast?.any (now - · < c.window) }

def allow : RateLimiter c × Bool :=
  let trimmed := (l.timestamps key).dropWhile (c.window ≤ now - ·)
  if c.maxRequests ≤ trimmed.length then ({ l with state := l.state.insert key trimmed }, false)
  else
    ({ l with
        state := l.state.insert key (trimmed ++ [now])
        allowed := Function.update l.allowed key (l.allowed key ++ [now]) }, true)

/-- The clock is read again for a cleanup. -/
def check (later : ℕ) : RateLimiter c × Bool :=
  if l.state.get? key = none ∧ l.isFull then
    if (l.cleanup later).isFull then (l.cleanup later, false) else (l.cleanup later).allow key now
  else { l with clock := now }.allow key now

/-- The time that passes before each reading of the clock. -/
inductive Call where
  | check (key : String) (before during : ℕ)
  | cleanup (before : ℕ)

def apply : Call → RateLimiter c
  | .check key before during => (l.check key (l.clock + before) (l.clock + before + during)).1
  | .cleanup before => l.cleanup (l.clock + before)

def run (c : RateLimit) (calls : List Call) : RateLimiter c := calls.foldl apply {}

/-- How many of the times are in the window that ends at `now`. -/
def inWindow (c : RateLimit) (times : List ℕ) : ℕ :=
  times.countP fun t => now < t + c.window ∧ t ≤ now

/-- What a queue has lost of the allowed times had expired by `now`. -/
structure Tracks (c : RateLimit) (allowed queue : List ℕ) : Prop where
  queued : ∃ lost, allowed = lost ++ queue ∧ ∀ t ∈ lost, t + c.window ≤ now
  sorted : allowed.Pairwise (· ≤ ·)
  past : ∀ t ∈ allowed, t ≤ now
  bounded : ∀ t, inWindow t c allowed ≤ c.maxRequests

variable {l key now} {later : ℕ} {allowed queue : List ℕ}

namespace Tracks

variable (h : Tracks now c allowed queue)
include h

theorem mono (hle : now ≤ later) : Tracks later c allowed queue := by
  obtain ⟨⟨lost, heq, hlost⟩, hsorted, hpast, hbounded⟩ := h
  exact ⟨⟨lost, heq, by grind⟩, hsorted, by grind, hbounded⟩

theorem ordered : queue.Pairwise (· ≤ ·) ∧ ∀ t ∈ queue, t ≤ now := by
  obtain ⟨⟨lost, heq, hlost⟩, hsorted, hpast, -⟩ := h
  grind

theorem dropWhile : Tracks now c allowed (queue.dropWhile (c.window ≤ now - ·)) := by
  obtain ⟨lost, heq, hlost⟩ := h.queued
  refine { h with queued := ⟨lost ++ queue.takeWhile (c.window ≤ now - ·), by simp [heq], ?_⟩ }
  intro t ht
  have hpast := h.ordered.2 t
  grind [takeWhile_subset, → mem_takeWhile_imp]

/-- No time of a queue is later than its last. -/
theorem nil (hlast : ¬queue.getLast?.any (now - · < c.window)) : Tracks now c allowed [] := by
  have hnil : queue.dropWhile (c.window ≤ now - ·) = [] := by
    rw [dropWhile_eq_nil_iff]
    intro t ht
    have hle := h.ordered.1.rel_getLast ht
    simp [getLast?_eq_some_getLast (ne_nil_of_mem ht)] at hlast ⊢
    omega
  exact hnil ▸ h.dropWhile

theorem inWindow_eq : inWindow now c allowed = (queue.dropWhile (c.window ≤ now - ·)).length := by
  obtain ⟨lost, heq, hlost⟩ := h.dropWhile.queued
  rw [heq, inWindow, countP_append, countP_eq_zero.mpr (by grind), countP_eq_length.mpr, zero_add]
  intro t ht
  have hpast := h.dropWhile.ordered.2 t ht
  have hfirst := h.dropWhile.ordered.1.rel_head ht
  have hlive := head_dropWhile_not _ (ne_nil_of_mem ht)
  grind

theorem push (hlt : inWindow now c allowed < c.maxRequests) :
    Tracks now c (allowed ++ [now]) (queue ++ [now]) := by
  obtain ⟨⟨lost, heq, hlost⟩, hsorted, hpast, hbounded⟩ := h
  refine ⟨⟨lost, by simp [heq], hlost⟩, by grind, by grind, fun t => ?_⟩
  -- What is in the window of a later `t` was in the window of `now`.
  have hmono (hle : now ≤ t) : inWindow t c allowed ≤ inWindow now c allowed :=
    countP_mono_left (by grind)
  grind [inWindow]

end Tracks

def Sound (l : RateLimiter c) : Prop := ∀ key, Tracks l.clock c (l.allowed key) (l.timestamps key)

theorem sound_cleanup (h : Sound l) (hle : l.clock ≤ now) : Sound (l.cleanup now) := by
  intro key
  have hkey := (h key).mono hle
  rcases hget : l.state.get? key with _ | queue <;>
    simp only [timestamps, cleanup, get?_filter, hget, Option.filter] at hkey ⊢
  · exact hkey
  · split_ifs with hlast
    exacts [hkey, hkey.nil hlast]

theorem sound_allow (h : Sound l) (hle : now ≤ l.clock)
    (hkey : Tracks now c (l.allowed key) (l.timestamps key)) : Sound (l.allow key now).1 ∧
      ((l.allow key now).2 ↔ inWindow now c (l.allowed key) < c.maxRequests) := by
  rw [hkey.inWindow_eq, allow]
  split_ifs with hfull <;> refine ⟨fun other => ?_, by simpa using hfull⟩ <;>
    by_cases hother : other = key <;> simp [hother, timestamps, get?_insert]
  · exact hkey.dropWhile.mono hle
  · exact h other
  · exact (hkey.dropWhile.push (hkey.inWindow_eq ▸ not_le.mp hfull)).mono hle
  · exact h other

theorem sound_check (h : Sound l) (hnow : l.clock ≤ now) (hlater : now ≤ later) :
    Sound (l.check key now later).1 ∧ ((l.check key now later).2 ↔
      inWindow now c (l.allowed key) < c.maxRequests ∧
        ¬(l.state.get? key = none ∧ l.isFull ∧ (l.cleanup later).isFull)) := by
  have hclean := sound_cleanup h (hnow.trans hlater)
  unfold check
  split_ifs with hnew hstill
  · exact ⟨hclean, by simp [hnew, hstill]⟩
  · have hkey : (l.cleanup later).timestamps key = l.timestamps key := by
      simp [timestamps, cleanup, get?_filter, hnew.1]
    rw [and_iff_left fun hfull => hstill hfull.2.2]
    exact sound_allow hclean hlater (hkey ▸ (h key).mono hnow)
  · rw [and_iff_left fun hfull => hnew ⟨hfull.1, hfull.2.1⟩]
    exact sound_allow (fun other => (h other).mono hnow) le_rfl ((h key).mono hnow)

theorem sound_run (calls : List Call) : Sound (run c calls) := by
  induction calls using reverseRecOn with
  | nil => exact fun key => ⟨⟨[], rfl, by simp⟩, .nil, by simp [run], by simp [run, inWindow]⟩
  | append_singleton calls call ih =>
    rw [run, foldl_append, ← run, foldl_cons, foldl_nil]
    cases call with
    | check => exact (sound_check ih (by omega) (by omega)).1
    | cleanup => exact sound_cleanup ih (by omega)

/-- No window has more checks than the maximum, and one is refused only for a full window or map. -/
theorem check_iff_inWindow_lt (c : RateLimit) (calls : List Call) (key : String) :
    let l := run c calls
    (∀ now, inWindow now c (l.allowed key) ≤ c.maxRequests) ∧
      ∀ now later, l.clock ≤ now → now ≤ later → ((l.check key now later).2 ↔
        inWindow now c (l.allowed key) < c.maxRequests ∧
          ¬(l.state.get? key = none ∧ l.isFull ∧ (l.cleanup later).isFull)) :=
  ⟨(sound_run calls key).bounded, fun _ _ hnow hle => (sound_check (sound_run calls) hnow hle).2⟩

end RateLimiter

end Extrittio
