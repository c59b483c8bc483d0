import AgentHooks.Proofs.Timestamp.Reading
import AgentHooks.Wire.Schema

/-! What can be said of a value because it was read. Each part of a record was read by the codec of its
field, or it is what the field takes when nothing is said of it. -/

namespace AgentHooks

namespace Codec

theorem below_reads {bound n : Nat} {name : String} {j : Json} (read : (below bound name).read j = .ok n) :
    n < bound := by
  cases j with
  | int m =>
    simp only [below] at read
    split at read
    next inside =>
      cases read
      omega
    · cases read
  | _ => cases read

theorem timestamp_reads {t : Timestamp} {j : Json} (read : timestamp.read j = .ok t) : t.Valid := by
  cases j with
  | string s =>
    simp only [timestamp] at read
    cases parsed : Timestamp.ofText? s with
    | ok instant =>
      rw [parsed] at read
      cases read
      exact Timestamp.ofText?_valid parsed
    | error e =>
      rw [parsed] at read
      cases read
  | _ => cases read

end Codec

def Field.Gives {α : Type} (f : Field α) (a : α) : Prop :=
  (∃ j, f.read j = .ok a) ∨ f.absent = some a

namespace Schema

variable {α β τ : Type}

def Gives : {α : Type} → Schema α → α → Prop
  | _, done, _ => True
  | _, field f rest, (a, b) => f.Gives a ∧ rest.Gives b

def HasRead : {α : Type} → (s : Schema α) → s.Draft → Prop
  | _, done, _ => True
  | _, field f rest, draft => (∀ a ∈ draft.split.1, ∃ j, f.read j = .ok a) ∧ rest.HasRead draft.split.2

theorem hasRead_blank (s : Schema τ) : s.HasRead s.blank := by
  induction s with
  | done => trivial
  | field f rest ih =>
    refine ⟨?_, ih⟩
    rintro a ⟨⟩

theorem hasRead_visit {s : Schema τ} {draft draft' : s.Draft} {key : String} {value : Json}
    (held : s.HasRead draft) (visited : s.visit draft key value = .ok (some draft')) :
    s.HasRead draft' := by
  induction s with
  | done => cases visited
  | field f rest ih =>
    obtain ⟨slot, more⟩ := draft
    obtain ⟨first, others⟩ := held
    simp only [visit, Draft.split] at visited
    split at visited
    · split at visited
      · cases visited
      · cases taken : f.read value with
        | error e =>
          rw [taken] at visited
          cases visited
        | ok a =>
          rw [taken] at visited
          cases visited
          refine ⟨?_, others⟩
          rintro _ ⟨⟩
          exact ⟨value, taken⟩
    · cases later : rest.visit more key value with
      | error e =>
        rw [later] at visited
        cases visited
      | ok result =>
        rw [later] at visited
        cases result with
        | none => cases visited
        | some more' =>
          cases visited
          exact ⟨first, ih others later⟩

/-- A pass over the members: each goes to a field or is left. -/
inductive Collects (s : Schema τ) :
    s.Draft → List (String × Json) → s.Draft → List (String × Json) → Prop where
  | nil (draft : s.Draft) : Collects s draft [] draft []
  | taken {draft next last : s.Draft} {key : String} {value : Json} {rest others : List (String × Json)}
      (visited : s.visit draft key value = .ok (some next)) (later : Collects s next rest last others) :
      Collects s draft ((key, value) :: rest) last others
  | left {draft last : s.Draft} {key : String} {value : Json} {rest others : List (String × Json)}
      (passed : s.visit draft key value = .ok none) (later : Collects s draft rest last others) :
      Collects s draft ((key, value) :: rest) last ((key, value) :: others)

theorem collects_of_collect {s : Schema τ} {members others : List (String × Json)} {draft draft' : s.Draft}
    (collected : s.collect draft members = .ok (draft', others)) :
    s.Collects draft members draft' others := by
  induction members generalizing draft draft' others with
  | nil =>
    cases collected
    exact .nil _
  | cons member rest ih =>
    obtain ⟨key, value⟩ := member
    obtain ⟨visited, seen, collected⟩ := bind_eq_ok.1 collected
    cases visited with
    | some next => exact .taken seen (ih collected)
    | none =>
      obtain ⟨⟨last, more⟩, later, same⟩ := bind_eq_ok.1 collected
      cases same
      exact .left seen (ih later)

theorem Collects.hasRead {s : Schema τ} {members others : List (String × Json)} {draft draft' : s.Draft}
    (pass : s.Collects draft members draft' others) (held : s.HasRead draft) : s.HasRead draft' := by
  induction pass with
  | nil => exact held
  | taken visited _ ih => exact ih (hasRead_visit held visited)
  | left _ _ ih => exact ih held

theorem finish_gives {s : Schema τ} {draft : s.Draft} {a : τ} (held : s.HasRead draft)
    (finished : s.finish draft = .ok a) : s.Gives a := by
  induction s with
  | done => trivial
  | field f rest ih =>
    obtain ⟨slot, more⟩ := draft
    obtain ⟨first, others⟩ := held
    simp only [finish, Draft.split] at finished
    split at finished
    · cases finished
    next x filled =>
      cases later : rest.finish more with
      | error e =>
        rw [later] at finished
        cases finished
      | ok b =>
        rw [later] at finished
        cases finished
        refine ⟨?_, ih others later⟩
        rcases Option.or_eq_some_iff.1 filled with taken | ⟨-, default'⟩
        · exact .inl (first x taken)
        · exact .inr default'

theorem readMembers_gives {s : Schema τ} {members : List (String × Json)} {a : τ}
    (read : s.readMembers members = .ok a) : s.Gives a := by
  obtain ⟨⟨draft, others⟩, collected, finished⟩ := bind_eq_ok.1 read
  exact finish_gives ((collects_of_collect collected).hasRead s.hasRead_blank) finished

theorem readFrom_gives {tooShort : Nat → DecodeError} {position : Nat} {s : Schema τ}
    {items others : List Json} {a : τ} (read : s.readFrom tooShort position items = .ok (a, others)) :
    s.Gives a := by
  induction s generalizing position items others with
  | done => trivial
  | field f rest ih =>
    cases items with
    | nil =>
      simp only [readFrom] at read
      split at read
      · cases read
      next x default' =>
        cases later : rest.readFrom tooShort (position + 1) [] with
        | error e =>
          rw [later] at read
          cases read
        | ok result =>
          rw [later] at read
          cases read
          exact ⟨.inr default', ih later⟩
    | cons item items =>
      obtain ⟨x, taken, read⟩ := bind_eq_ok.1 read
      obtain ⟨⟨b, left⟩, later, same⟩ := bind_eq_ok.1 read
      cases same
      exact ⟨.inl ⟨item, taken⟩, ih later⟩

theorem readPositions_gives {s : Schema τ} {passage : Passage} {name : String} {items : List Json} {a : τ}
    (read : s.readPositions passage name items = .ok a) : s.Gives a := by
  obtain ⟨⟨values, others⟩, found, judged⟩ := bind_eq_ok.1 read
  dsimp only at judged
  split at judged
  · cases judged
    exact readFrom_gives found
  · cases judged

end Schema

/-- Whatever a record is read from, each of its parts comes from its field. -/
theorem Codec.recordBy_gives {τ α : Type} {passage : Passage} {name : String} {s : Schema τ}
    {make : τ → α} {fields : α → τ} {j : Json} {a : α}
    (read : (Codec.recordBy passage name s make fields).read j = .ok a) :
    ∃ values, s.Gives values ∧ make values = a := by
  cases j with
  | object members =>
    cases found : s.readMembers members with
    | error e =>
      simp [recordBy, found, Except.map] at read
    | ok values =>
      simp only [recordBy, found, Except.map] at read
      cases read
      exact ⟨values, Schema.readMembers_gives found, rfl⟩
  | array items =>
    cases found : s.readPositions passage ("struct " ++ name) items with
    | error e =>
      simp [recordBy, found, Except.map] at read
    | ok values =>
      simp only [recordBy, found, Except.map] at read
      cases read
      exact ⟨values, Schema.readPositions_gives found, rfl⟩
  | _ => cases read

theorem Codec.record_gives {τ α : Type} {name : String} {s : Schema τ} {make : τ → α} {fields : α → τ}
    {j : Json} {a : α} (read : (Codec.record name s make fields).read j = .ok a) :
    ∃ values, s.Gives values ∧ make values = a :=
  recordBy_gives read

end AgentHooks
