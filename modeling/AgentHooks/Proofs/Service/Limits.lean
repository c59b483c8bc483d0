import AgentHooks.Proofs.Service.Deletion
import AgentHooks.Proofs.Settings.WellFormed

/-! Limits that hold. Settings that a document means are well formed, and so the monitors work in range, whatever the
host reports: no session's window is empty, and no roster outgrows its limit. -/

namespace AgentHooks

structure Usage.InRange (default : Nat) (u : Usage) : Prop where
  window : 1 ≤ u.window default
  ratio : u.ratio default = .ofNat u.used / .ofNat (u.window default)

namespace World

structure InRange (settings : Settings) (w : World) : Prop where
  context : ∀ session m, w.context.get? session = some m →
    m.usage.InRange settings.context.defaultContextLimitTokens
  compaction : ∀ session m, w.compaction.get? session = some m →
    m.usage.InRange settings.compaction.defaultContextLimitTokens
  pressureSize : w.pressure.size ≤ settings.pressure.maxSessionStateEntries
  contextSize : w.context.size ≤ settings.context.maxSessionStateEntries
  compactionSize : w.compaction.size ≤ settings.compaction.maxSessionStateEntries

theorem Sound.inRange {settings : Settings} {w : World} (sound : w.Sound settings) (formed : settings.WellFormed) :
    w.InRange settings := by
  have positive : ∀ {n}, n ∈ settings.positiveCounts → 1 ≤ n := fun member => formed.positive _ member
  have inRange : ∀ {u : Usage} {default : Nat}, u.Roomy → 1 ≤ default → u.InRange default :=
    fun roomy above => ⟨roomy.one_le_window above, Usage.ratio_of_window (roomy.one_le_window above)⟩
  refine ⟨fun session m found => ?_, fun session m found => ?_, ?_, ?_, ?_⟩
  · exact inRange (sound.context.get? found) (positive (by simp [Settings.positiveCounts]))
  · exact inRange (sound.compaction.get? found) (positive (by simp [Settings.positiveCounts]))
  · exact sound.pressure.size_le (positive (by simp [Settings.positiveCounts]))
  · exact sound.context.size_le (positive (by simp [Settings.positiveCounts]))
  · exact sound.compaction.size_le (positive (by simp [Settings.positiveCounts]))

end World

namespace Service

theorem occur_sound {settings : Settings} {w : World} (sound : w.Sound settings) (o : Occurrence) :
    (occur settings w o).1.Sound settings := by
  cases o with
  | dispatch a conduct =>
    have meets : { w with disturbance := conduct.disturbance }.Sound settings := sound.of_rosters rfl
    exact (dispatch_sound meets a.event a.output).of_rosters rfl
  | tell context => exact sound.of_rosters rfl
  | rewrite node => exact sound.of_rosters rfl
  | clock now => exact sound.of_rosters rfl

/-- Whatever a document says, the settings that it means are well formed: limits that belong together are in order,
counts that must not be zero are not, shares are shares, texts are trimmed and hooks are ordered once. So in every state
that the service can come to, and over every run from there, whatever the host reports, every window is at least one
token wide, the used share of it is a quotient, and no roster holds more sessions than it may. -/
theorem normal_settings_in_range (raw : Json) :
    let settings := Settings.ofJson raw
    settings.WellFormed ∧
      ∀ w, Reachable settings w → ∀ run : List Occurrence, (after settings w run).InRange settings := by
  intro settings
  have formed := Settings.ofJson_wellFormed raw
  refine ⟨formed, fun w reached run => ?_⟩
  have sound : (after settings w run).Sound settings :=
    after_keeps (fun o _ _ sound => occur_sound sound o) reached.sound
  exact sound.inRange formed

/-- A host reports windows of no size, for more sessions than the context monitor may know. -/
theorem normal_settings_in_range_emptied :
    let raw : Json := .object [("preemptiveCompaction", .object [("enabled", .bool false)]),
      ("contextWindowMonitor", .object [("maxSessionStateEntries", .int 1)])]
    let settings := Settings.ofJson raw
    let report := fun session => Occurrence.dispatch ⟨.lifecycle ⟨"message.updated", .object [("info", .object
      [("role", .string "assistant"), ("sessionID", .string session), ("contextLimit", .int 0),
        ("tokens", .object [("input", .int 500)])])]⟩, ()⟩ .calm
    let start := World.start settings ⟨"/project"⟩ ⟨["project"], []⟩ ⟨2024, 5, 1, 12, 0, 0, 0⟩ ⟨[], 0⟩
    let w := after settings start [report "s", report "t"]
    let m : ContextMemory := ⟨⟨some 500, 0, none, 0⟩, none, none⟩
    settings.WellFormed ∧ w.context.values = [("t", m)] ∧ w.context.size ≤ 1 ∧
      1 ≤ m.usage.window settings.context.defaultContextLimitTokens := by
  intro raw settings report start w m
  obtain ⟨formed, inRange⟩ := normal_settings_in_range raw
  have reached : Reachable settings start := .start _ _ _ _
  have held := inRange start reached [report "s", report "t"]
  have hooks : (dispatcher settings).hooks = [StopPolicy.hook settings, ContinuationPolicy.hook settings,
      PressurePolicy.hook settings, ContextPolicy.hook settings] := by
    rw [hooks_of_unordered rfl rfl]
    rfl
  have known : w.context.values = [("t", m)] := by
    simp only [w, after, report, List.foldl, occur, dispatch_state, hooks]
    decide +kernel
  have found : w.context.get? "t" = some m := by
    rw [Roster.get?, known]
    rfl
  exact ⟨formed, known, held.contextSize, (held.context "t" m found).window⟩

end Service

end AgentHooks
