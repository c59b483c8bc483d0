import AgentHooks.Proofs.Timestamp.Text
import AgentHooks.Wire.Schema

/-! Values that are read back as they were written. A record is read back if each of its fields is and no
field answers to the name of another one. -/

namespace AgentHooks

namespace Codec

def Keeps {α : Type} (codec : Codec α) (a : α) : Prop :=
  codec.read (codec.write a) = .ok a

theorem string_keeps (s : String) : string.Keeps s := rfl

theorem bool_keeps (b : Bool) : bool.Keeps b := rfl

theorem below_keeps {bound n : Nat} (name : String) (small : n < bound) : (below bound name).Keeps n := by
  have inside : (0 : Int) ≤ n ∧ (n : Int) < bound := ⟨Int.natCast_nonneg n, Int.ofNat_lt.2 small⟩
  exact if_pos inside

theorem timestamp_keeps {t : Timestamp} (valid : t.Valid) : timestamp.Keeps t := by
  simp only [Keeps, timestamp, Timestamp.ofText?_text valid]
  rfl

end Codec

namespace Field

/-- A value that comes back from what is written of it, or from nothing if nothing is. -/
def Keeps {α : Type} (f : Field α) (a : α) : Prop :=
  match f.write a with
  | some value => f.read value = .ok a
  | none => f.absent = some a

theorem required_keeps {α : Type} {codec : Codec α} {a : α} (name : String) (keeps : codec.Keeps a) :
    (required name codec).Keeps a := keeps

theorem defaulted_keeps {α : Type} {codec : Codec α} {a : α} (name : String) (absent : α)
    (keeps : codec.Keeps a) : (defaulted name codec absent).Keeps a := keeps

end Field

namespace Schema

variable {α β τ : Type}

def names : {α : Type} → Schema α → List String
  | _, done => []
  | _, field f rest => f.name :: rest.names

/-- No field answers to the name of a later one, and each answers to its own. -/
def Distinct : {α : Type} → Schema α → Prop
  | _, done => True
  | _, field f rest => (∀ key ∈ rest.names, f.answersTo key = false) ∧ rest.Distinct

instance decidableDistinct : {α : Type} → (s : Schema α) → Decidable s.Distinct
  | _, done => .isTrue trivial
  | _, field _ rest =>
    have := decidableDistinct rest
    inferInstanceAs (Decidable (_ ∧ _))

def Keeps : {α : Type} → Schema α → α → Prop
  | _, done, _ => True
  | _, field f rest, (a, b) => f.Keeps a ∧ rest.Keeps b

theorem names_of_mem_writeMembers {s : Schema τ} {a : τ} {member : String × Json}
    (written : member ∈ s.writeMembers a) : member.1 ∈ s.names := by
  induction s with
  | done => cases written
  | field f rest ih =>
    simp only [writeMembers] at written
    split at written
    · rcases List.mem_cons.1 written with rfl | later
      · exact List.mem_cons_self
      · exact List.mem_cons_of_mem _ (ih later)
    · exact List.mem_cons_of_mem _ (ih written)

theorem answersTo_name (f : Field α) : f.answersTo f.name = true := by
  simp [Field.answersTo]

theorem collect_field {f : Field α} {rest : Schema β} (slot : Option α)
    {members : List (String × Json)} (strangers : ∀ m ∈ members, f.answersTo m.1 = false)
    (draft : rest.Draft) :
    (field f rest).collect (Draft.join slot draft) members =
      (rest.collect draft members).map fun result => (Draft.join slot result.1, result.2) := by
  induction members generalizing draft with
  | nil => rfl
  | cons member others ih =>
    obtain ⟨key, value⟩ := member
    have stranger : f.answersTo key = false := strangers (key, value) (by simp)
    have later := ih fun m turn => strangers m (List.mem_cons_of_mem _ turn)
    have passed : (field f rest).visit (Draft.join slot draft) key value =
        (rest.visit draft key value).map fun visited => visited.map (Draft.join slot ·) := by
      simp only [visit, Draft.split, Draft.join, stranger, Bool.false_eq_true, if_false]
    simp only [collect, passed]
    cases rest.visit draft key value with
    | error e => rfl
    | ok visited =>
      cases visited with
      | some next => exact later next
      | none =>
        simp only [Except.map, Option.map_none, bind, Except.bind]
        rw [later draft]
        cases rest.collect draft others with
        | error e => rfl
        | ok result => rfl

theorem collect_writeMembers {s : Schema τ} {a : τ} (distinct : s.Distinct) (keeps : s.Keeps a) :
    ∃ draft, s.collect s.blank (s.writeMembers a) = .ok (draft, []) ∧ s.finish draft = .ok a := by
  induction s with
  | done => exact ⟨(), rfl, rfl⟩
  | @field α β f rest ih =>
    rcases a with ⟨x, y⟩
    obtain ⟨own, others⟩ := keeps
    obtain ⟨draft, collected, finished⟩ := ih distinct.2 others
    have strangers : ∀ m ∈ rest.writeMembers y, f.answersTo m.1 = false :=
      fun m written => distinct.1 m.1 (names_of_mem_writeMembers written)
    have passed : ∀ slot, (field f rest).collect (Draft.join slot rest.blank) (rest.writeMembers y) =
        .ok (Draft.join slot draft, []) := by
      intro slot
      rw [collect_field slot strangers, collected]
      rfl
    unfold Field.Keeps at own
    unfold writeMembers
    cases written : f.write x with
    | some value =>
      simp only [written] at own
      refine ⟨Draft.join (some x) draft, ?_, ?_⟩
      · have taken : (field f rest).visit (field f rest).blank f.name value =
            .ok (some (Draft.join (some x) rest.blank)) := by
          simp only [visit, blank, Draft.split, answersTo_name, if_true, own, Except.map]
        simp only [collect, taken, bind, Except.bind]
        exact passed (some x)
      · simp only [finish, Draft.split, Draft.join, Option.some_or, finished, Except.map]
    | none =>
      simp only [written] at own
      refine ⟨Draft.join none draft, passed none, ?_⟩
      simp only [finish, Draft.split, Draft.join, Option.none_or, own, finished, Except.map]

theorem readMembers_writeMembers {s : Schema τ} {a : τ} (distinct : s.Distinct) (keeps : s.Keeps a) :
    s.readMembers (s.writeMembers a) = .ok a := by
  obtain ⟨draft, collected, finished⟩ := collect_writeMembers distinct keeps
  simp only [readMembers, collected, bind, Except.bind]
  exact finished

end Schema

/-- A record is read back from the object that it is written as. -/
theorem Codec.recordBy_keeps {τ α : Type} (passage : Passage) (name : String) {s : Schema τ}
    {make : τ → α} {fields : α → τ} {a : α} (same : make (fields a) = a) (distinct : s.Distinct)
    (keeps : s.Keeps (fields a)) : (Codec.recordBy passage name s make fields).Keeps a := by
  simp only [Codec.Keeps, Codec.recordBy, Schema.readMembers_writeMembers distinct keeps, Except.map, same]

theorem Codec.record_keeps {τ α : Type} (name : String) {s : Schema τ} {make : τ → α} {fields : α → τ}
    {a : α} (same : make (fields a) = a) (distinct : s.Distinct) (keeps : s.Keeps (fields a)) :
    (Codec.record name s make fields).Keeps a :=
  recordBy_keeps .direct name same distinct keeps

end AgentHooks
