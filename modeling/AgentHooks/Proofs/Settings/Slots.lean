import AgentHooks.Proofs.Settings.Leaves

/-! The settings as a table of leaves: where each leaf stands, what it can hold, and which of them are judged in pairs.
Reading a document is looking up each leaf in it, and the leaves are all there is to settings. -/

namespace AgentHooks

namespace Settings

open Leaf

/-- Where a leaf stands in a document: under a key, or under a key of a record. -/
inductive Place where
  | top (key : String)
  | inside (record key : String)
  deriving DecidableEq

def Place.at? (document : Json) : Place → Option Json
  | top key => document.member? key
  | inside record key => (part document record).member? key

/-- A leaf of the settings. -/
structure Slot where
  place : Place
  kind : Kind
  deriving DecidableEq

section Table

def recordSlots (record : String) (leaves : List (String × Kind)) : List Slot :=
  leaves.map fun leaf => ⟨.inside record leaf.1, leaf.2⟩

def topSlots : List Slot :=
  [⟨.top "enabled", .flag⟩, ⟨.top "disabled", .names⟩, ⟨.top "order", .sequence⟩]

def auditSlots : List Slot :=
  recordSlots "audit" [("enabled", .flag), ("path", .text)]

def stopSlots : List Slot :=
  recordSlots "stopContinuationGuard"
    [("enabled", .flag), ("commandNames", .texts), ("legacyCommandNames", .texts), ("slashCommandTools", .texts)]

def autopilotSlots : List Slot :=
  recordSlots "autopilot"
    [("enabled", .flag), ("stateFile", .text), ("defaultMaxIterations", .count), ("defaultCompletionMode", .mode),
      ("defaultCompletionPromise", .text), ("maxIgnoredCompletionCycles", .count), ("notifyOnStop", .flag)]

def pressureSlots : List Slot :=
  recordSlots "processPressure"
    [("enabled", .flag), ("sampleCooldownToolCalls", .count), ("warningOpencodeProcesses", .positive),
      ("reminderCooldownToolCalls", .count), ("criticalReminderCooldownToolCalls", .count),
      ("criticalEscalationWindowToolCalls", .positive), ("autoPause", .flag), ("maxSessionStateEntries", .positive),
      ("samplerTimeoutMs", .positive), ("processPatterns", .texts)]

def warningMemory : Slot :=
  ⟨.inside "processPressure" "warningMaxRssMb", .positive⟩

def criticalMemory : Slot :=
  ⟨.inside "processPressure" "criticalMaxRssMb", .positive⟩

def pauseEvents : Slot :=
  ⟨.inside "processPressure" "criticalPauseAfterEvents", .positive⟩

def escalationEvents : Slot :=
  ⟨.inside "processPressure" "criticalEscalationAfterEvents", .positive⟩

def contextSlots : List Slot :=
  recordSlots "contextWindowMonitor"
    [("enabled", .flag), ("warningThreshold", .ratio), ("defaultContextLimitTokens", .positive),
      ("reminderCooldownToolCalls", .count), ("minTokenDeltaForReminder", .count), ("maxSessionStateEntries", .positive)]

def compactionSlots : List Slot :=
  recordSlots "preemptiveCompaction"
    [("enabled", .flag), ("warningThreshold", .ratio), ("defaultContextLimitTokens", .positive),
      ("compactionCooldownToolCalls", .count), ("maxSessionStateEntries", .positive)]

def slots : List Slot :=
  topSlots ++ auditSlots ++ stopSlots ++ autopilotSlots ++ pressureSlots ++
    [warningMemory, criticalMemory, pauseEvents, escalationEvents] ++ contextSlots ++ compactionSlots

def pairs : List (Slot × Slot) :=
  [(warningMemory, criticalMemory), (pauseEvents, escalationEvents)]

end Table

namespace Slot

def default (slot : Slot) : Json :=
  (slot.place.at? ({} : Settings).toJson).getD .null

/-- What a document means at a leaf, the other leaves apart. -/
def alone (document : Json) (slot : Slot) : Json :=
  ((slot.place.at? document).bind slot.kind.read).getD slot.default

def amount (document : Json) (slot : Slot) : Nat :=
  ((slot.alone document).nat?).getD 0

def isSwapped (document : Json) (slot : Slot) : Bool :=
  pairs.any fun pair => (slot == pair.1 || slot == pair.2) && pair.2.amount document < pair.1.amount document

def settled (document : Json) (slot : Slot) : Json :=
  if slot.isSwapped document then slot.default else slot.alone document

end Slot

section Written

/-! What is kept of a leaf, written out. -/

variable (record : Json) (key : String)

theorem write_leaf {α : Type} (write : α → Json) (read : Json → Option α) (default : α) :
    write (leaf read record key default) =
      ((record.member? key).bind fun j => (read j).map write).getD (write default) := by
  rw [leaf]
  cases record.member? key with
  | none => rfl
  | some j =>
    rw [Option.bind_some, Option.bind_some]
    cases read j with
    | none => rfl
    | some value => rfl

@[simp] theorem write_flag (default : Bool) : Json.bool (flag record key default) =
    ((record.member? key).bind (Kind.read .flag)).getD (.bool default) :=
  write_leaf record key Json.bool Json.bool? default

@[simp] theorem write_count (default : Nat) : Json.ofNat (count record key default) =
    ((record.member? key).bind (Kind.read .count)).getD (.ofNat default) :=
  write_leaf record key Json.ofNat Json.nat? default

@[simp] theorem write_positive (default : Nat) : Json.ofNat (positive record key default) =
    ((record.member? key).bind (Kind.read .positive)).getD (.ofNat default) :=
  write_leaf record key Json.ofNat _ default

@[simp] theorem write_ratio (default : Float) : Json.float (ratio record key default) =
    ((record.member? key).bind (Kind.read .ratio)).getD (.float default) :=
  write_leaf record key Json.float _ default

@[simp] theorem write_text (default : String) : Json.string (text record key default) =
    ((record.member? key).bind (Kind.read .text)).getD (.string default) :=
  write_leaf record key Json.string nonblank? default

@[simp] theorem write_texts (default : List String) : Json.ofTexts (texts record key default) =
    ((record.member? key).bind (Kind.read .texts)).getD (.ofTexts default) :=
  write_leaf record key Json.ofTexts _ default

@[simp] theorem write_mode (default : CompletionMode) : Json.string (mode record key default).name =
    ((record.member? key).bind (Kind.read .mode)).getD (.string default.name) :=
  write_leaf record key (fun m : CompletionMode => Json.string m.name) _ default

@[simp] theorem write_names : Json.ofTexts (NameSet.ofList (texts record key [])).names =
    ((record.member? key).bind (Kind.read .names)).getD (.ofTexts NameSet.empty.names) :=
  write_leaf record key (fun names => Json.ofTexts (NameSet.ofList names).names) _ []

@[simp] theorem write_sequence (default : List String) : Json.ofTexts (texts record key default).eraseDups =
    ((record.member? key).bind (Kind.read .sequence)).getD (.ofTexts default.eraseDups) :=
  write_leaf record key (fun names => Json.ofTexts names.eraseDups) _ default

end Written

def Meant (raw : Json) (leaves : List Slot) : Prop :=
  ∀ slot ∈ leaves, slot.place.at? (Settings.ofJson raw).toJson = some (slot.settled raw)

theorem settled_of_apart {slot : Slot} (apart : ∀ pair ∈ pairs, slot ≠ pair.1 ∧ slot ≠ pair.2) (raw : Json) :
    slot.settled raw = slot.alone raw := by
  have straight : slot.isSwapped raw = false := by
    rw [Slot.isSwapped, List.any_eq_false]
    intro pair member
    have others := apart pair member
    simp [others.1, others.2]
  rw [Slot.settled, straight]
  rfl

theorem meant_of_alone {raw : Json} {leaves : List Slot}
    (apart : ∀ slot ∈ leaves, ∀ pair ∈ pairs, slot ≠ pair.1 ∧ slot ≠ pair.2)
    (alone : ∀ slot ∈ leaves, slot.place.at? (Settings.ofJson raw).toJson = some (slot.alone raw)) :
    Meant raw leaves := by
  intro slot member
  rw [settled_of_apart (apart slot member)]
  exact alone slot member

theorem meant_top (raw : Json) : Meant raw topSlots := by
  apply meant_of_alone (by decide)
  simp [topSlots, Place.at?, Slot.alone, Slot.default, toJson, ofJson, List.lookup_cons, Json.member?]

theorem meant_audit (raw : Json) : Meant raw auditSlots := by
  apply meant_of_alone (by decide)
  simp [auditSlots, recordSlots, Place.at?, Slot.alone, Slot.default, toJson, ofJson, List.lookup_cons, Json.member?, Json.ofOption, part,
    AuditSettings.toJson, AuditSettings.ofJson]

theorem meant_stopGuard (raw : Json) : Meant raw stopSlots := by
  apply meant_of_alone (by decide)
  simp [stopSlots, recordSlots, Place.at?, Slot.alone, Slot.default, toJson, ofJson, List.lookup_cons, Json.member?, Json.ofOption, part,
    StopSettings.toJson, StopSettings.ofJson]

theorem meant_autopilot (raw : Json) : Meant raw autopilotSlots := by
  apply meant_of_alone (by decide)
  simp [autopilotSlots, recordSlots, Place.at?, Slot.alone, Slot.default, toJson, ofJson, List.lookup_cons, Json.member?, Json.ofOption, part,
    AutopilotSettings.toJson, AutopilotSettings.ofJson]

theorem meant_context (raw : Json) : Meant raw contextSlots := by
  apply meant_of_alone (by decide)
  simp [contextSlots, recordSlots, Place.at?, Slot.alone, Slot.default, toJson, ofJson, List.lookup_cons, Json.member?, Json.ofOption, part,
    ContextSettings.toJson, ContextSettings.ofJson]

theorem meant_compaction (raw : Json) : Meant raw compactionSlots := by
  apply meant_of_alone (by decide)
  simp [compactionSlots, recordSlots, Place.at?, Slot.alone, Slot.default, toJson, ofJson, List.lookup_cons, Json.member?, Json.ofOption, part,
    CompactionSettings.toJson, CompactionSettings.ofJson]

/-- Putting the pairs in order changes the pairs that are the wrong way round, each as a whole, and nothing else. -/
theorem pressure_ofJson (j : Json) :
    let p := PressureSettings.ofLeaves j
    let d : PressureSettings := {}
    let memory := p.criticalMaxRssMb < p.warningMaxRssMb
    let events := p.criticalEscalationAfterEvents < p.criticalPauseAfterEvents
    PressureSettings.ofJson j = { p with
      warningMaxRssMb := if memory then d.warningMaxRssMb else p.warningMaxRssMb
      criticalMaxRssMb := if memory then d.criticalMaxRssMb else p.criticalMaxRssMb
      criticalPauseAfterEvents := if events then d.criticalPauseAfterEvents else p.criticalPauseAfterEvents
      criticalEscalationAfterEvents :=
        if events then d.criticalEscalationAfterEvents else p.criticalEscalationAfterEvents } := by
  intro p d memory events
  change p.orderMemory.orderEvents = _
  by_cases swapped : memory
  · have first : p.orderMemory = { p with
        warningMaxRssMb := d.warningMaxRssMb, criticalMaxRssMb := d.criticalMaxRssMb } := if_pos swapped
    rw [first, PressureSettings.orderEvents, if_pos swapped, if_pos swapped]
    by_cases swapped' : events
    · rw [if_pos swapped', if_pos swapped', if_pos swapped']
    · rw [if_neg swapped', if_neg swapped', if_neg swapped']
  · have first : p.orderMemory = p := if_neg swapped
    rw [first, PressureSettings.orderEvents, if_neg swapped, if_neg swapped]
    by_cases swapped' : events
    · rw [if_pos swapped', if_pos swapped', if_pos swapped']
    · rw [if_neg swapped', if_neg swapped', if_neg swapped']

theorem meant_pressure (raw : Json) : Meant raw pressureSlots := by
  apply meant_of_alone (by decide)
  simp [pressureSlots, recordSlots, Place.at?, Slot.alone, Slot.default, toJson, ofJson, List.lookup_cons, Json.member?, Json.ofOption, part,
    PressureSettings.toJson, pressure_ofJson, PressureSettings.ofLeaves]

theorem alone_of_positive {key : String} {default : Nat}
    (here : Slot.default ⟨.inside "processPressure" key, .positive⟩ = .ofNat default) (raw : Json) :
    Slot.alone raw ⟨.inside "processPressure" key, .positive⟩ =
      .ofNat (positive (part raw "processPressure") key default) := by
  rw [write_positive, Slot.alone, here]
  rfl

theorem pair_mem_slots : ∀ pair ∈ pairs, pair.1 ∈ slots ∧ pair.2 ∈ slots := by
  decide

theorem isSwapped_of_pair (raw : Json) : ∀ pair ∈ pairs,
    pair.1.isSwapped raw = decide (pair.2.amount raw < pair.1.amount raw) ∧
      pair.2.isSwapped raw = decide (pair.2.amount raw < pair.1.amount raw) := by
  simp +decide [Slot.isSwapped, pairs]

/-- A leaf in a pair is read as it should be when it has its default exactly if the pair is the wrong way round. -/
theorem meant_of_paired {raw : Json} {slot : Slot} {swapped : Prop} [Decidable swapped] {own default : Nat}
    (alone : slot.alone raw = .ofNat own) (absent : slot.default = .ofNat default)
    (judged : slot.isSwapped raw = decide swapped)
    (kept : slot.place.at? (Settings.ofJson raw).toJson = some (.ofNat (if swapped then default else own))) :
    slot.place.at? (Settings.ofJson raw).toJson = some (slot.settled raw) := by
  rw [kept, Slot.settled, judged, alone, absent]
  by_cases this : swapped
  · rw [if_pos this, if_pos (decide_eq_true this)]
  · rw [if_neg this, if_neg (by simpa using this)]

theorem meant_pairs (raw : Json) : Meant raw [warningMemory, criticalMemory, pauseEvents, escalationEvents] := by
  let p := PressureSettings.ofLeaves (part raw "processPressure")
  have warning : warningMemory.alone raw = .ofNat p.warningMaxRssMb := alone_of_positive rfl raw
  have critical : criticalMemory.alone raw = .ofNat p.criticalMaxRssMb := alone_of_positive rfl raw
  have pause : pauseEvents.alone raw = .ofNat p.criticalPauseAfterEvents := alone_of_positive rfl raw
  have escalation : escalationEvents.alone raw = .ofNat p.criticalEscalationAfterEvents := alone_of_positive rfl raw
  have memory := isSwapped_of_pair raw (warningMemory, criticalMemory) (by simp [pairs])
  have events := isSwapped_of_pair raw (pauseEvents, escalationEvents) (by simp [pairs])
  simp only [Slot.amount, warning, critical] at memory
  simp only [Slot.amount, pause, escalation] at events
  have read := pressure_ofJson (part raw "processPressure")
  simp only [Meant, List.forall_mem_cons]
  refine ⟨?_, ?_, ?_, ?_, by simp⟩
  · apply meant_of_paired warning rfl memory.1
    exact congrArg (some ∘ Json.ofNat ∘ PressureSettings.warningMaxRssMb) read
  · apply meant_of_paired critical rfl memory.2
    exact congrArg (some ∘ Json.ofNat ∘ PressureSettings.criticalMaxRssMb) read
  · apply meant_of_paired pause rfl events.1
    exact congrArg (some ∘ Json.ofNat ∘ PressureSettings.criticalPauseAfterEvents) read
  · apply meant_of_paired escalation rfl events.2
    exact congrArg (some ∘ Json.ofNat ∘ PressureSettings.criticalEscalationAfterEvents) read

/-- What a document means is what it means at each leaf. -/
theorem at?_ofJson (raw : Json) : Meant raw slots := by
  intro slot member
  simp only [slots, List.mem_append] at member
  rcases member with ((((((top | audit) | stop) | autopilot) | pressure) | pair) | context) | compaction
  · exact meant_top raw slot top
  · exact meant_audit raw slot audit
  · exact meant_stopGuard raw slot stop
  · exact meant_autopilot raw slot autopilot
  · exact meant_pressure raw slot pressure
  · exact meant_pairs raw slot pair
  · exact meant_context raw slot context
  · exact meant_compaction raw slot compaction

attribute [ext] AuditSettings StopSettings AutopilotSettings PressureSettings ContextSettings CompactionSettings Settings

theorem ofTexts_inj {names names' : List String} : Json.ofTexts names = .ofTexts names' ↔ names = names' := by
  constructor
  · intro same
    exact (List.map_injective_iff.2 fun _ _ => Json.string.inj) (Json.array.inj same)
  · exact congrArg Json.ofTexts

theorem name_inj {m m' : CompletionMode} : m.name = m'.name ↔ m = m' := by
  cases m <;> cases m' <;> decide

theorem names_inj {s s' : NameSet} : s.names = s'.names ↔ s = s' := by
  cases s
  cases s'
  simp

theorem ofNat_inj {n n' : Nat} : Json.ofNat n = .ofNat n' ↔ n = n' := by
  rw [Json.ofNat, Json.ofNat, Json.int.injEq]
  exact Int.ofNat_inj

/-- The leaves are all there is to settings. -/
theorem eq_of_slots {s s' : Settings}
    (same : ∀ slot ∈ slots, slot.place.at? s.toJson = slot.place.at? s'.toJson) : s = s' := by
  simp [slots, topSlots, auditSlots, stopSlots, autopilotSlots, pressureSlots, contextSlots, compactionSlots, recordSlots,
    warningMemory, criticalMemory, pauseEvents, escalationEvents, Place.at?, toJson, List.lookup_cons, Json.member?, Json.ofOption, part,
    AuditSettings.toJson, StopSettings.toJson, AutopilotSettings.toJson, PressureSettings.toJson, ContextSettings.toJson,
    CompactionSettings.toJson, ofTexts_inj, name_inj, names_inj, ofNat_inj] at same
  ext <;> simp [same]

end Settings

end AgentHooks
