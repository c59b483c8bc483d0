import AgentHooks.Proofs.Settings.Slots

/-! Settings that a document means are well formed, whatever the document is: the limits that belong together are in
order, a count that must not be zero is not, a share is one, a text is trimmed, and no hook is ordered twice. -/

namespace AgentHooks

namespace Text

/-- A text with something in it and no blank at either end. -/
structure Trimmed (s : String) : Prop where
  filled : s ≠ ""
  front : ∀ c ∈ s.toList.head?, isBlank c = false
  back : ∀ c ∈ s.toList.getLast?, isBlank c = false

theorem trimmed_iff (s : String) : Trimmed s ↔
    s ≠ "" ∧ s.toList.head?.all (!isBlank ·) = true ∧ s.toList.getLast?.all (!isBlank ·) = true := by
  simp only [Option.all_eq_true, Bool.not_eq_true']
  exact ⟨fun ⟨filled, front, back⟩ => ⟨filled, front, back⟩, fun ⟨filled, front, back⟩ => ⟨filled, front, back⟩⟩

instance (s : String) : Decidable (Trimmed s) :=
  decidable_of_iff' _ (trimmed_iff s)

theorem not_blank_of_head? {cs : List Char} {c : Char} (first : c ∈ (cs.dropWhile isBlank).head?) :
    isBlank c = false := by
  have started := List.head?_dropWhile_not isBlank cs
  rw [Option.mem_def] at first
  rwa [first] at started

theorem trimmed_trim {s : String} (filled : trim s ≠ "") : Trimmed (trim s) := by
  refine ⟨filled, fun c first => ?_, fun c last => ?_⟩
  · rw [toList_trim, ← dropWhile_trimBlank] at first
    exact not_blank_of_head? first
  · rw [toList_trim, trimBlank, dropEnd, List.getLast?_reverse] at last
    exact not_blank_of_head? last

end Text

namespace Leaf

variable (record : Json) (key : String)

/-- What holds of the default and of all that is read holds of a leaf. -/
theorem leaf_holds {α : Type} {read : Json → Option α} {P : α → Prop} {default : α} (absent : P default)
    (present : ∀ j value, read j = some value → P value) : P (leaf read record key default) := by
  rw [leaf]
  cases found : (record.member? key).bind read with
  | none => exact absent
  | some value =>
    obtain ⟨j, -, kept⟩ := Option.bind_eq_some_iff.1 found
    exact present j value kept

theorem one_le_positive {default : Nat} (absent : 1 ≤ default) : 1 ≤ positive record key default := by
  refine leaf_holds record key absent fun j n kept => ?_
  simpa [Nat.one_le_iff_ne_zero] using (Option.filter_eq_some_iff.1 kept).2

theorem ratio_share {default : Float} (absent : 0 < default ∧ default ≤ 1) :
    0 < ratio record key default ∧ ratio record key default ≤ 1 := by
  refine leaf_holds record key (P := fun x => 0 < x ∧ x ≤ 1) absent fun j x kept => ?_
  have inside := (Option.filter_eq_some_iff.1 kept).2
  simp only [Bool.and_eq_true, decide_eq_true_eq] at inside
  exact ⟨inside.1.2, inside.2⟩

theorem trimmed_of_nonblank? {j : Json} {s : String} (kept : nonblank? j = some s) : Text.Trimmed s := by
  obtain ⟨text, filled⟩ := Option.filter_eq_some_iff.1 kept
  obtain ⟨t, -, rfl⟩ := Option.map_eq_some_iff.1 text
  exact Text.trimmed_trim (by simpa using filled)

theorem text_trimmed {default : String} (absent : Text.Trimmed default) :
    Text.Trimmed (text record key default) :=
  leaf_holds record key absent fun _ _ kept => trimmed_of_nonblank? kept

theorem texts_trimmed {default : List String} (absent : ∀ s ∈ default, Text.Trimmed s) :
    ∀ s ∈ texts record key default, Text.Trimmed s := by
  refine leaf_holds record key (P := fun entries => ∀ s ∈ entries, Text.Trimmed s) absent fun j entries kept => ?_
  obtain ⟨items, -, rfl⟩ := Option.map_eq_some_iff.1 kept
  intro s member
  obtain ⟨item, -, read⟩ := List.mem_filterMap.1 member
  exact trimmed_of_nonblank? read

end Leaf

namespace Settings

open Leaf

def positiveCounts (s : Settings) : List Nat :=
  [s.pressure.warningMaxRssMb, s.pressure.criticalMaxRssMb, s.pressure.warningOpencodeProcesses,
    s.pressure.criticalEscalationWindowToolCalls, s.pressure.criticalPauseAfterEvents,
    s.pressure.criticalEscalationAfterEvents, s.pressure.maxSessionStateEntries, s.pressure.samplerTimeoutMs,
    s.context.defaultContextLimitTokens, s.context.maxSessionStateEntries,
    s.compaction.defaultContextLimitTokens, s.compaction.maxSessionStateEntries]

def shares (s : Settings) : List Float :=
  [s.context.warningThreshold, s.compaction.warningThreshold]

def wordings (s : Settings) : List String :=
  [s.audit.path, s.autopilot.stateFile, s.autopilot.defaultCompletionPromise] ++ s.disabled.names ++ s.order ++
    s.stopGuard.commandNames ++ s.stopGuard.legacyCommandNames ++ s.stopGuard.slashCommandTools ++
    s.pressure.processPatterns

structure WellFormed (s : Settings) : Prop where
  memory : s.pressure.warningMaxRssMb ≤ s.pressure.criticalMaxRssMb
  events : s.pressure.criticalPauseAfterEvents ≤ s.pressure.criticalEscalationAfterEvents
  positive : ∀ n ∈ s.positiveCounts, 1 ≤ n
  share : ∀ x ∈ s.shares, 0 < x ∧ x ≤ 1
  trimmed : ∀ t ∈ s.wordings, Text.Trimmed t
  unrepeated : s.order.Nodup

theorem WellFormed.window {s : Settings} (formed : s.WellFormed) :
    1 ≤ s.pressure.criticalEscalationWindowToolCalls :=
  formed.positive _ (by simp [positiveCounts])

theorem WellFormed.pause {s : Settings} (formed : s.WellFormed) : 1 ≤ s.pressure.criticalPauseAfterEvents :=
  formed.positive _ (by simp [positiveCounts])

theorem WellFormed.escalation {s : Settings} (formed : s.WellFormed) :
    1 ≤ s.pressure.criticalEscalationAfterEvents :=
  formed.positive _ (by simp [positiveCounts])

/-- A pair of which the second falls back together with the first is in order, if the defaults are. -/
theorem pair_ordered {low high low' high' : Nat} (default : low' ≤ high') :
    (if high < low then low' else low) ≤ if high < low then high' else high := by
  split
  next inverted => exact default
  next straight => exact Nat.not_lt.1 straight

theorem one_le_paired {inverted : Prop} [Decidable inverted] {own default : Nat} (kept : 1 ≤ own)
    (fallen : 1 ≤ default) : 1 ≤ if inverted then default else own := by
  split
  · exact fallen
  · exact kept

theorem memory_ordered (j : Json) :
    (PressureSettings.ofJson j).warningMaxRssMb ≤ (PressureSettings.ofJson j).criticalMaxRssMb := by
  rw [pressure_ofJson]
  exact pair_ordered (by decide)

theorem events_ordered (j : Json) :
    (PressureSettings.ofJson j).criticalPauseAfterEvents ≤
      (PressureSettings.ofJson j).criticalEscalationAfterEvents := by
  rw [pressure_ofJson]
  exact pair_ordered (by decide)

theorem one_le_of_mem_positiveCounts (raw : Json) : ∀ n ∈ (Settings.ofJson raw).positiveCounts, 1 ≤ n := by
  have single : ∀ (j : Json) (key : String) {default : Nat}, 1 ≤ default → 1 ≤ positive j key default :=
    fun j key _ above => one_le_positive j key above
  simp only [positiveCounts, Settings.ofJson, pressure_ofJson, List.forall_mem_cons]
  refine ⟨one_le_paired (single _ _ (by decide)) (by decide), one_le_paired (single _ _ (by decide)) (by decide),
    single _ _ (by decide), single _ _ (by decide), one_le_paired (single _ _ (by decide)) (by decide),
    one_le_paired (single _ _ (by decide)) (by decide), single _ _ (by decide), single _ _ (by decide),
    single _ _ (by decide), single _ _ (by decide), single _ _ (by decide), single _ _ (by decide), by simp⟩

theorem share_of_mem_shares (raw : Json) : ∀ x ∈ (Settings.ofJson raw).shares, 0 < x ∧ x ≤ 1 := by
  intro x member
  simp only [shares, List.mem_cons, List.not_mem_nil, or_false] at member
  rcases member with rfl | rfl
  · exact ratio_share _ _ (by decide)
  · exact ratio_share _ _ (by decide)

theorem trimmed_of_mem_wordings (raw : Json) : ∀ t ∈ (Settings.ofJson raw).wordings, Text.Trimmed t := by
  intro t member
  simp only [wordings, List.mem_append, List.mem_cons, List.not_mem_nil, or_false] at member
  rcases member with (((((((rfl | rfl | rfl) | disabled) | order) | command) | legacy) | tool) | pattern)
  · exact text_trimmed _ _ (by decide)
  · exact text_trimmed _ _ (by decide)
  · exact text_trimmed _ _ (by decide)
  · exact texts_trimmed _ _ (by decide) t (NameSet.mem_ofList.1 disabled)
  · exact texts_trimmed _ _ (by decide) t (List.mem_eraseDups.1 order)
  · exact texts_trimmed _ _ (by decide) t command
  · exact texts_trimmed _ _ (by decide) t legacy
  · exact texts_trimmed _ _ (by decide) t tool
  · rw [Settings.ofJson, pressure_ofJson] at pattern
    exact texts_trimmed _ _ (by decide) t pattern

/-- Whatever a document says, the settings that it means are well formed. -/
theorem ofJson_wellFormed (raw : Json) : (Settings.ofJson raw).WellFormed where
  memory := memory_ordered _
  events := events_ordered _
  positive := one_le_of_mem_positiveCounts raw
  share := share_of_mem_shares raw
  trimmed := trimmed_of_mem_wordings raw
  unrepeated := nodup_eraseDups _

end Settings

end AgentHooks
