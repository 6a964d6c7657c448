import Extrittio.Presence.System

/-!
How a status is spelled. A heartbeat may write a known status in any letter case. The status
is stored as it was written, and all later comparisons are exact.
-/
namespace Extrittio.DeviceIngressApplication

open DeviceColumns

def isKnownStatus (reported : String) : Bool :=
  ["online", "offline", "warning"].any (eqIgnoreAsciiCase · reported)

theorem storedStatus_of_isKnownStatus {reported : String} (h : isKnownStatus reported) :
    storedStatus reported = reported := if_pos h

/-- What a heartbeat decides: whether the status of the device changed, what status rules do
about it, and whether a sweep with a cutoff takes the device afterwards. -/
def heartbeatDecisions (p : Platform) (context : DeviceIngressContext) (columns : DeviceColumns)
    (snapshot : RuleCache) (runtime : DeviceRuleRuntime) (observedAt cutoff : ℤ) (reported : String) :
    Except ApplicationError (Bool × List PendingAction × Bool) :=
  (prepareEvaluation context (storedStatus reported) (.ok snapshot) observedAt).map fun plan =>
    (plan.isSome, plan.toList.flatMap fun plan => plan.actions p (plan.runtimeCache runtime),
      stale cutoff { columns with
        status := storedStatus reported
        lastSeen := some (timestampMicros observedAt) })

theorem changed_of_heartbeatDecisions {p : Platform} {context : DeviceIngressContext}
    {columns : DeviceColumns} {snapshot : RuleCache} {runtime : DeviceRuleRuntime}
    {observedAt cutoff : ℤ} {reported : String} :
    (heartbeatDecisions p context columns snapshot runtime observedAt cutoff reported).map Prod.fst =
      .ok (decide (context.status ≠ storedStatus reported)) := by
  unfold heartbeatDecisions prepareEvaluation
  split_ifs with hsame <;> simp [Except.map, hsame]

/-- A sweep tells the lower-case `offline` from every other spelling of a status. -/
theorem stale_iff_of_spelling {first second : String} :
    (∀ (columns : DeviceColumns) (cutoff : ℤ), stale cutoff { columns with status := first } =
      stale cutoff { columns with status := second }) ↔
    (first = "offline" ↔ second = "offline") := by
  constructor
  · intro h
    have hseen := h ⟨"online", "", 0, some 0, 0⟩ 1000000
    simp only [stale, timestampMicros, Option.any_some] at hseen
    by_cases hfirst : first = "offline" <;> by_cases hsecond : second = "offline" <;>
      simp_all
  · intro h columns cutoff
    simp only [stale, ne_eq, h]

/-- Two known statuses that differ in letter case at most have the same effect on every device
under every set of rules exactly if they are spelled the same. Sweeps alone do not tell them
apart unless one of them is the lower-case `offline`. -/
theorem spelling_ignored_iff (p : Platform) {first second : String}
    (hfirst : isKnownStatus first = true) (hsecond : isKnownStatus second = true)
    (_ : eqIgnoreAsciiCase first second = true) :
    ((∀ context columns snapshot runtime observedAt cutoff,
      heartbeatDecisions p context columns snapshot runtime observedAt cutoff first =
        heartbeatDecisions p context columns snapshot runtime observedAt cutoff second) ↔
      first = second) ∧
    ((∀ (columns : DeviceColumns) (cutoff : ℤ),
      stale cutoff { columns with status := storedStatus first } =
        stale cutoff { columns with status := storedStatus second }) ↔
      (first = "offline" ↔ second = "offline")) := by
  rw [storedStatus_of_isKnownStatus hfirst, storedStatus_of_isKnownStatus hsecond]
  refine ⟨?_, stale_iff_of_spelling⟩
  constructor
  · intro h
    -- a device that has the first status already
    have hsame := congrArg (Except.map Prod.fst) (h ⟨"", "", none, none, first⟩ ⟨"", "", 0, none, 0⟩
      (RuleSnapshotRecords.compile ⟨[], fun _ => none⟩) ⟨[], fun _ => none, fun _ => none, fun _ => none⟩
      0 0)
    rw [changed_of_heartbeatDecisions, changed_of_heartbeatDecisions,
      storedStatus_of_isKnownStatus hfirst, storedStatus_of_isKnownStatus hsecond] at hsame
    simpa using hsame
  · rintro rfl context columns snapshot runtime observedAt cutoff
    rfl

theorem spelling_ignored_iff_warning :
    (∀ context columns snapshot runtime observedAt cutoff,
      heartbeatDecisions default context columns snapshot runtime observedAt cutoff "Warning" =
        heartbeatDecisions default context columns snapshot runtime observedAt cutoff "warning") ↔
      "Warning" = "warning" :=
  (spelling_ignored_iff default (by decide) (by decide) (by decide)).1

/-- The decisions for the sample device under a rule that raises an alert on `offline`, with
a sweep two minutes later. -/
def offlineDecisions (stored reported : String) : Except ApplicationError (Bool × List PendingAction × Bool) :=
  heartbeatDecisions default ⟨"tenant", "device", none, none, stored⟩ ⟨stored, "1.0", 0, none, 0⟩
    (RuleSnapshotRecords.compile ⟨[RuleSystem.offlineRule 0 [RuleSystem.alertAction]], fun _ => none⟩)
    ⟨["rule"], fun _ => none, fun _ => none, fun _ => none⟩ 0 120000000000 reported

/-- `offline` after `offline` is no change; `Offline` is one, raises no alert where `offline`
does, and leaves the device to the next sweep. -/
theorem offline_spellings_differ :
    eqIgnoreAsciiCase "offline" "Offline" = true ∧
    offlineDecisions "offline" "offline" = .ok (false, [], false) ∧
    offlineDecisions "offline" "Offline" = .ok (true, [], true) ∧
    (offlineDecisions "online" "offline").map (fun d => (d.2.1.length, d.2.2)) = .ok (2, false) ∧
    (offlineDecisions "online" "Offline").map (fun d => (d.2.1.length, d.2.2)) = .ok (0, true) := by
  refine ⟨by decide, ?_, ?_, ?_, ?_⟩
  all_goals rfl

end Extrittio.DeviceIngressApplication
