import AgentHooks.Proofs.Json.Canonical
import AgentHooks.Proofs.Wire.Reading
import AgentHooks.Proofs.Wire.Schema

/-! Codecs that read back what they have read. A value may be written in another form than it was read from,
with its fields named as they should be, in their order and with their defaults; reading that form gives the
same value again. Codecs put together from such codecs are of the same kind. -/

namespace AgentHooks

theorem map_eq_ok {ε α β : Type} {x : Except ε α} {f : α → β} {b : β} :
    x.map f = .ok b ↔ ∃ a, x = .ok a ∧ f a = b := by
  cases x with
  | error e => simp [Except.map]
  | ok a => simp [Except.map]

namespace Codec

variable {α : Type} {codec : Codec α}

def Stable (codec : Codec α) : Prop :=
  ∀ j a, codec.read j = .ok a → codec.Keeps a

def recode (codec : Codec α) (j : Json) : Decoded Json :=
  (codec.read j).map codec.write

theorem string_stable : string.Stable :=
  fun _ s _ => string_keeps s

theorem bool_stable : bool.Stable :=
  fun _ b _ => bool_keeps b

theorem below_stable (bound : Nat) (name : String) : (below bound name).Stable :=
  fun _ _ read => below_keeps name (below_reads read)

theorem timestamp_stable : timestamp.Stable :=
  fun _ _ read => timestamp_keeps (timestamp_reads read)

theorem json_stable : json.Stable := by
  intro j a read
  simp only [json] at read
  split at read
  next readable =>
    cases read
    simp only [Keeps, json, Json.readable_canonical j readable, if_true, Json.canonical_canonical]
  · cases read

theorem mapM_reads {ι β : Type} {f : ι → Decoded β} {items : List ι} {values : List β}
    (read : items.mapM f = .ok values) : ∀ a ∈ values, ∃ j ∈ items, f j = .ok a := by
  induction items generalizing values with
  | nil =>
    cases read
    exact fun a member => absurd member List.not_mem_nil
  | cons item rest ih =>
    rw [List.mapM_cons] at read
    obtain ⟨first, own, read⟩ := bind_eq_ok.1 read
    obtain ⟨others, later, same⟩ := bind_eq_ok.1 read
    cases same
    intro a member
    rcases List.mem_cons.1 member with rfl | inside
    · exact ⟨item, List.mem_cons_self, own⟩
    · obtain ⟨j, stands, taken⟩ := ih later a inside
      exact ⟨j, List.mem_cons_of_mem item stands, taken⟩

theorem mapM_keeps {ι β : Type} {f : ι → Decoded β} {write : β → ι} {values : List β}
    (keeps : ∀ a ∈ values, f (write a) = .ok a) : (values.map write).mapM f = .ok values := by
  induction values with
  | nil => rfl
  | cons first rest ih =>
    obtain ⟨own, others⟩ := List.forall_mem_cons.1 keeps
    rw [List.map_cons, List.mapM_cons, own, ih others]
    rfl

theorem list_keeps {values : List α} (keeps : ∀ a ∈ values, codec.Keeps a) : (list codec).Keeps values :=
  mapM_keeps keeps

theorem list_stable (stable : codec.Stable) : (list codec).Stable := by
  intro j values read
  cases j with
  | array items =>
    refine list_keeps fun a member => ?_
    obtain ⟨item, -, own⟩ := mapM_reads read a member
    exact stable item a own
  | _ => cases read

theorem table_keeps {entries : List (String × α)} (ascending : Ascending entries)
    (keeps : ∀ e ∈ entries, codec.Keeps e.2) : (table codec).Keeps entries := by
  have read : (entries.map fun e => (e.1, codec.write e.2)).mapM
      (fun m => (codec.read m.2).map fun a => (m.1, a)) = .ok entries := by
    refine mapM_keeps fun e member => ?_
    have own : codec.read (codec.write e.2) = .ok e.2 := keeps e member
    simp only [own, Except.map]
  simp only [Keeps, table, read, bind, Except.bind]
  exact congrArg Except.ok (sortEntries_of_ascending ascending)

theorem table_stable (stable : codec.Stable) : (table codec).Stable := by
  intro j entries read
  cases j with
  | object members =>
    obtain ⟨found, taken, same⟩ := bind_eq_ok.1 read
    cases same
    refine table_keeps (ascending_sortEntries found) fun e member => ?_
    obtain ⟨m, -, own⟩ := mapM_reads taken e (mem_of_mem_sortEntries member)
    obtain ⟨a, value, rfl⟩ := map_eq_ok.1 own
    exact stable m.2 a value
  | _ => cases read

/-- A variant is found again by its name, unless another one has it. -/
theorem variantBy_keeps {passage : Passage} {variants : List (String × α)} {nameOf : α → String} {a : α}
    (named : variants.lookup (nameOf a) = some a) : (variantBy passage variants nameOf).Keeps a := by
  simp only [Keeps, variantBy, variantNamed, named]

end Codec

namespace Field

variable {α : Type} {codec : Codec α} {name : String}

def Stable (f : Field α) : Prop :=
  ∀ a, f.Gives a → f.Keeps a

theorem required_stable (stable : codec.Stable) : (required name codec).Stable := by
  rintro a (⟨j, read⟩ | absent)
  · exact stable j a read
  · cases absent

theorem defaulted_stable {absent : α} (stable : codec.Stable) (default' : codec.Keeps absent) :
    (defaulted name codec absent).Stable := by
  rintro a (⟨j, read⟩ | unsaid)
  · exact stable j a read
  · cases unsaid
    exact default'

/-- A value that is written as null could not be told from none. -/
theorem optional_keeps {a : α} (keeps : codec.Keeps a) (filled : codec.write a ≠ .null) :
    (optional name codec).Keeps (some a) := by
  change (optional name codec).read (codec.write a) = .ok (some a)
  unfold Codec.Keeps at keeps
  simp only [optional, keeps]
  rfl

theorem optional_stable (stable : codec.Stable) (filled : ∀ a, codec.write a ≠ .null) :
    (optional name codec).Stable := by
  rintro a (⟨j, read⟩ | unsaid)
  · cases a with
    | none => exact rfl
    | some a =>
      refine optional_keeps ?_ (filled a)
      simp only [optional] at read
      split at read
      · cases read
      · obtain ⟨_, own, same⟩ := map_eq_ok.1 read
        cases same
        exact stable _ a own
  · cases unsaid
    exact rfl

theorem orNamed_stable {f : Field α} (other : String) (stable : f.Stable) : (f.orNamed other).Stable :=
  stable

end Field

namespace Schema

variable {τ : Type}

def Stable : {α : Type} → Schema α → Prop
  | _, done => True
  | _, field f rest => f.Stable ∧ rest.Stable

theorem Stable.keeps {s : Schema τ} (stable : s.Stable) {a : τ} (gives : s.Gives a) : s.Keeps a := by
  induction s with
  | done => trivial
  | field f rest ih => exact ⟨stable.1 a.1 gives.1, ih stable.2 gives.2⟩

/-! Members that no field answers to. -/

def answersTo : {α : Type} → Schema α → String → Bool
  | _, done, _ => false
  | _, field f rest, key => f.answersTo key || rest.answersTo key

theorem visit_eq_none {s : Schema τ} {draft : s.Draft} {key : String} {value : Json}
    (passed : s.visit draft key value = .ok none) : s.answersTo key = false := by
  induction s with
  | done => rfl
  | field f rest ih =>
    obtain ⟨slot, more⟩ := draft
    simp only [visit, Draft.split] at passed
    split at passed
    · split at passed
      · cases passed
      · obtain ⟨_, -, taken⟩ := map_eq_ok.1 passed
        cases taken
    next stranger =>
      obtain ⟨visited, later, none'⟩ := map_eq_ok.1 passed
      have own : f.answersTo key = false := Bool.eq_false_iff.2 stranger
      rw [answersTo, own, ih (Option.map_eq_none_iff.1 none' ▸ later), Bool.or_false]

theorem visit_stranger {s : Schema τ} (draft : s.Draft) {key : String} (value : Json)
    (stranger : s.answersTo key = false) : s.visit draft key value = .ok none := by
  induction s with
  | done => rfl
  | field f rest ih =>
    obtain ⟨slot, more⟩ := draft
    obtain ⟨own, others⟩ := Bool.or_eq_false_iff.1 stranger
    simp only [visit, Draft.split, own, Bool.false_eq_true, if_false, ih more others]
    rfl

theorem Collects.strangers {s : Schema τ} {draft final : s.Draft} {members others : List (String × Json)}
    (pass : s.Collects draft members final others) : ∀ m ∈ others, s.answersTo m.1 = false := by
  induction pass with
  | nil => exact fun m member => absurd member List.not_mem_nil
  | taken _ _ ih => exact ih
  | left passed _ ih => exact List.forall_mem_cons.2 ⟨visit_eq_none passed, ih⟩

theorem collect_strangers {s : Schema τ} (draft : s.Draft) {members : List (String × Json)}
    (strangers : ∀ m ∈ members, s.answersTo m.1 = false) :
    s.collect draft members = .ok (draft, members) := by
  induction members with
  | nil => rfl
  | cons member rest ih =>
    obtain ⟨own, others⟩ := List.forall_mem_cons.1 strangers
    simp only [collect, visit_stranger draft member.2 own, ih others, bind, Except.bind]

theorem collect_append {s : Schema τ} {draft middle final : s.Draft}
    {members more others : List (String × Json)} (own : s.collect draft members = .ok (middle, []))
    (onwards : s.collect middle more = .ok (final, others)) :
    s.collect draft (members ++ more) = .ok (final, others) := by
  induction members generalizing draft with
  | nil =>
    cases own
    exact onwards
  | cons member rest ih =>
    obtain ⟨visited, seen, own⟩ := bind_eq_ok.1 own
    cases visited with
    | some next => exact bind_eq_ok.2 ⟨some next, seen, ih own⟩
    | none =>
      obtain ⟨_, -, same⟩ := bind_eq_ok.1 own
      cases same

end Schema

namespace Codec

variable {τ α : Type} {s : Schema τ} {fields : α → τ}

theorem recordBy_stable {make : τ → α} (passage : Passage) (name : String)
    (again : ∀ values, fields (make values) = values) (distinct : s.Distinct) (stable : s.Stable) :
    (recordBy passage name s make fields).Stable := by
  intro j a read
  obtain ⟨values, gives, rfl⟩ := recordBy_gives read
  refine recordBy_keeps passage name (by rw [again]) distinct ?_
  rw [again]
  exact stable.keeps gives

theorem record_stable {make : τ → α} (name : String) (again : ∀ values, fields (make values) = values)
    (distinct : s.Distinct) (stable : s.Stable) : (record name s make fields).Stable :=
  recordBy_stable .direct name again distinct stable

/-- The members that a record does not name stand behind its fields, and no field takes them for its own. -/
theorem openRecord_stable {make : τ → List (String × Json) → α} {others : α → List (String × Json)}
    (name : String) (again : ∀ values extra, fields (make values extra) = values)
    (kept : ∀ values extra, others (make values extra) = extra) (distinct : s.Distinct)
    (stable : s.Stable) : (openRecord name s make fields others).Stable := by
  intro j a read
  cases j with
  | object members =>
    obtain ⟨⟨draft, rest⟩, collected, judged⟩ := bind_eq_ok.1 read
    dsimp only at judged
    split at judged
    next readable =>
      obtain ⟨values, finished, rfl⟩ := map_eq_ok.1 judged
      have pass := Schema.collects_of_collect collected
      have gives := Schema.finish_gives (pass.hasRead s.hasRead_blank) finished
      obtain ⟨draft', written, finished'⟩ := Schema.collect_writeMembers distinct (stable.keeps gives)
      let extra := Json.tidyMembers rest
      have strangers : ∀ m ∈ extra, s.answersTo m.1 = false := by
        intro m member
        obtain ⟨value, stands, -⟩ := Json.mem_of_mem_tidyMembers member
        exact pass.strangers (m.1, value) stands
      have found : s.collect s.blank (s.writeMembers values ++ extra) = .ok (draft', extra) :=
        Schema.collect_append written (Schema.collect_strangers draft' strangers)
      have tidy : Json.sortMembers (Json.canonicalMembers extra) = extra :=
        Json.tidyMembers_tidyMembers rest
      change (openRecord name s make fields others).read (.object
        (s.writeMembers (fields (make values extra)) ++ others (make values extra))) =
          .ok (make values extra)
      rw [again, kept]
      have plain : Json.readableMembers extra = true := Json.readable_tidyMembers readable
      simp only [openRecord, found, bind, Except.bind, plain, if_true, finished', Except.map, tidy]
    · cases judged
  | _ => cases read

end Codec

end AgentHooks
