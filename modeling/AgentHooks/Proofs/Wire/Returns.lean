import AgentHooks.Proofs.Wire.Stable

/-! What comes back of a document that is read and written again. A single value and a document that is kept as
it is come back whole, a list item by item. A record brings back what its fields were read from, each under the
field's own name; of the members that no field answers to nothing comes back, unless the record is open. -/

namespace AgentHooks

abbrev Return := Json → Json → Prop

namespace Return

def whole : Return :=
  fun sent back => back = sent

def list (item : Return) : Return :=
  fun sent back => ∃ items backs, sent = .array items ∧ back = .array backs ∧ List.Forall₂ item items backs

/-- A field of a record: the name under which its value comes back, other names under which it may be sent,
and what comes back for it, if anything does. -/
structure Member where
  name : String
  aliases : List String
  back : Json → Option Json → Prop

namespace Member

def always (name : String) (value : Return) : Member :=
  ⟨name, [], fun sent back => ∃ b, back = some b ∧ value sent b⟩

def unlessNull (name : String) (value : Return) : Member where
  name := name
  aliases := []
  back
    | .null, back => back = none
    | sent, back => ∃ b, back = some b ∧ value sent b

def orNamed (m : Member) (other : String) : Member :=
  { m with aliases := other :: m.aliases }

def keys (m : Member) : List String :=
  m.name :: m.aliases

/-- What a record says of its field at `position`: under one of the field's names if it is an object, at this
position if it is an array. -/
def Sent (m : Member) (position : Nat) (value : Json) : Json → Prop
  | .object members => ∃ key ∈ m.keys, members.lookup key = some value
  | .array items => items[position]? = some value
  | _ => False

end Member

def record (members : List Member) : Return :=
  fun sent back => ∀ (position : Nat) (m : Member) (value : Json), members[position]? = some m →
    m.Sent position value sent → m.back value (back.member? m.name)

def openRecord (members : List Member) : Return :=
  fun sent back => record members sent back ∧
    ∀ key value, (∀ m ∈ members, key ∉ m.keys) → sent.member? key = some value →
      back.member? key = some value

theorem names_sublist_keys (members : List Member) :
    (members.map (·.name)).Sublist (members.flatMap (·.keys)) := by
  induction members with
  | nil => exact .slnil
  | cons m others ih =>
    rw [List.map_cons, List.flatMap_cons, Member.keys, List.cons_append]
    exact (ih.trans (List.sublist_append_right _ _)).cons_cons m.name

theorem Member.Sent.isValue {m : Member} {position : Nat} {value sent : Json} (said : m.Sent position value sent)
    (whole : sent.IsValue) : value.IsValue := by
  cases sent with
  | object members =>
    obtain ⟨key, -, stands⟩ := said
    exact whole.member (key, value) (mem_of_lookup stands)
  | array items => exact whole.item value (List.mem_of_getElem? said)
  | _ => cases said

end Return

namespace Codec

variable {α : Type} {codec : Codec α}

/-- Of whatever the codec reads, this comes back. -/
def Returns (codec : Codec α) (r : Return) : Prop :=
  ∀ sent a, sent.IsValue → codec.read sent = .ok a → r sent (codec.write a)

theorem string_returns : string.Returns .whole := by
  intro sent s _ read
  cases sent with
  | string text =>
    cases read
    rfl
  | _ => cases read

theorem json_keeps {j : Json} (value : j.IsValue) : json.Keeps j := by
  simp only [Keeps, json, value.readable, if_true, value.canonical]

theorem json_returns : json.Returns .whole := by
  intro sent a value read
  cases (json_keeps value).symm.trans read
  rfl

theorem mapM_returns {r : Return} (returns : codec.Returns r) {items : List Json} {values : List α}
    (each : ∀ j ∈ items, j.IsValue) (read : items.mapM codec.read = .ok values) :
    List.Forall₂ r items (values.map codec.write) := by
  induction items generalizing values with
  | nil =>
    cases read
    exact .nil
  | cons item rest ih =>
    obtain ⟨value, each⟩ := List.forall_mem_cons.1 each
    rw [List.mapM_cons] at read
    obtain ⟨first, own, read⟩ := bind_eq_ok.1 read
    obtain ⟨others, later, same⟩ := bind_eq_ok.1 read
    cases same
    exact .cons (returns item first value own) (ih each later)

theorem list_returns {r : Return} (returns : codec.Returns r) : (list codec).Returns (.list r) := by
  intro sent values value read
  cases sent with
  | array items => exact ⟨items, _, rfl, rfl, mapM_returns returns value.item read⟩
  | _ => cases read

end Codec

namespace Field

variable {α : Type} {codec : Codec α} {r : Return}

/-- The field goes by the member's names and brings back what the member says. -/
structure Returns (f : Field α) (m : Return.Member) : Prop where
  name : f.name = m.name
  aliases : f.aliases = m.aliases
  back : ∀ sent a, sent.IsValue → f.read sent = .ok a → m.back sent (f.write a)

theorem required_returns (name : String) (returns : codec.Returns r) :
    (required name codec).Returns (.always name r) :=
  ⟨rfl, rfl, fun sent a value read => ⟨_, rfl, returns sent a value read⟩⟩

theorem defaulted_returns (name : String) (absent : α) (returns : codec.Returns r) :
    (defaulted name codec absent).Returns (.always name r) :=
  ⟨rfl, rfl, fun sent a value read => ⟨_, rfl, returns sent a value read⟩⟩

theorem optional_returns (name : String) (returns : codec.Returns r) :
    (optional name codec).Returns (.unlessNull name r) := by
  refine ⟨rfl, rfl, fun sent a value read => ?_⟩
  cases sent with
  | null =>
    cases read
    rfl
  | _ =>
    obtain ⟨x, own, same⟩ := map_eq_ok.1 read
    cases same
    exact ⟨_, rfl, returns _ x value own⟩

theorem orNamed_returns {f : Field α} {m : Return.Member} (other : String) (returns : f.Returns m) :
    (f.orNamed other).Returns (m.orNamed other) :=
  ⟨returns.name, congrArg (other :: ·) returns.aliases, returns.back⟩

theorem Returns.answersTo_iff {f : Field α} {m : Return.Member} (returns : f.Returns m) (key : String) :
    f.answersTo key = true ↔ key ∈ m.keys := by
  simp [answersTo, Return.Member.keys, returns.name, returns.aliases]

end Field

namespace Schema

variable {τ : Type} {s : Schema τ} {fields : List Return.Member}

def Returns : {α : Type} → Schema α → List Return.Member → Prop
  | _, done, [] => True
  | _, field f rest, m :: others => f.Returns m ∧ rest.Returns others
  | _, _, _ => False

theorem Returns.eq_nil (returns : done.Returns fields) : fields = [] := by
  cases fields with
  | nil => rfl
  | cons m others => exact returns.elim

theorem Returns.split {α β : Type} {f : Field α} {rest : Schema β} (returns : (field f rest).Returns fields) :
    ∃ m others, fields = m :: others ∧ f.Returns m ∧ rest.Returns others := by
  cases fields with
  | nil => exact returns.elim
  | cons m others => exact ⟨m, others, rfl, returns⟩

def ReadAt : {α : Type} → Schema α → α → Nat → Json → Prop
  | _, done, _, _, _ => False
  | _, field f _, (a, _), 0, sent => f.read sent = .ok a
  | _, field _ rest, (_, b), n + 1, sent => rest.ReadAt b n sent

def HoldsAt : {α : Type} → (s : Schema α) → s.Draft → Nat → Json → Prop
  | _, done, _, _, _ => False
  | _, field f _, draft, 0, sent => ∃ a, draft.split.1 = some a ∧ f.read sent = .ok a
  | _, field _ rest, draft, n + 1, sent => rest.HoldsAt draft.split.2 n sent

def positionOf : {α : Type} → Schema α → String → Option Nat
  | _, done, _ => none
  | _, field f rest, key => if f.answersTo key then some 0 else (rest.positionOf key).map (· + 1)

theorem positionOf_eq_none {key : String} (stranger : s.answersTo key = false) : s.positionOf key = none := by
  induction s with
  | done => rfl
  | field f rest ih =>
    obtain ⟨own, others⟩ := Bool.or_eq_false_iff.1 stranger
    simp only [positionOf, own, Bool.false_eq_true, if_false, ih others, Option.map_none]

theorem positionOf_eq (returns : s.Returns fields) (apart : (fields.flatMap (·.keys)).Nodup) {position : Nat}
    {m : Return.Member} {key : String} (listed : fields[position]? = some m) (named : key ∈ m.keys) :
    s.positionOf key = some position := by
  induction s generalizing fields position with
  | done =>
    cases returns.eq_nil
    cases listed
  | field f rest ih =>
    obtain ⟨first, others, rfl, own, later⟩ := returns.split
    rw [List.flatMap_cons, List.nodup_append] at apart
    obtain ⟨-, apart, separate⟩ := apart
    cases position with
    | zero =>
      cases listed
      simp only [positionOf, (own.answersTo_iff key).2 named, if_true]
    | succ n =>
      have after : key ∈ others.flatMap (·.keys) :=
        List.mem_flatMap.2 ⟨m, List.mem_of_getElem? listed, named⟩
      have elsewhere : ¬f.answersTo key = true := by
        intro taken
        exact separate key ((own.answersTo_iff key).1 taken) key after rfl
      simp only [positionOf, if_neg elsewhere, ih later apart listed, Option.map_some]

theorem answersTo_eq_false (returns : s.Returns fields) {key : String} (unnamed : ∀ m ∈ fields, key ∉ m.keys) :
    s.answersTo key = false := by
  induction s generalizing fields with
  | done => rfl
  | field f rest ih =>
    obtain ⟨first, others, rfl, own, later⟩ := returns.split
    obtain ⟨foreign, unnamed⟩ := List.forall_mem_cons.1 unnamed
    have passed : f.answersTo key = false :=
      Bool.eq_false_iff.2 fun taken => foreign ((own.answersTo_iff key).1 taken)
    rw [answersTo, passed, ih later unnamed, Bool.or_false]

theorem names_eq (returns : s.Returns fields) : s.names = fields.map (·.name) := by
  induction s generalizing fields with
  | done =>
    cases returns.eq_nil
    rfl
  | field f rest ih =>
    obtain ⟨first, others, rfl, own, later⟩ := returns.split
    rw [names, own.name, ih later, List.map_cons]

theorem not_mem_names {key : String} (stranger : s.answersTo key = false) : key ∉ s.names := by
  induction s with
  | done => exact List.not_mem_nil
  | field f rest ih =>
    obtain ⟨own, others⟩ := Bool.or_eq_false_iff.1 stranger
    intro named
    rcases List.mem_cons.1 named with rfl | later
    · cases (answersTo_name f).symm.trans own
    · exact ih others later

theorem size_eq (returns : s.Returns fields) : s.size = fields.length := by
  induction s generalizing fields with
  | done =>
    cases returns.eq_nil
    rfl
  | field f rest ih =>
    obtain ⟨first, others, rfl, own, later⟩ := returns.split
    rw [size, ih later, List.length_cons]

theorem names_nodup (returns : s.Returns fields) (apart : (fields.flatMap (·.keys)).Nodup) : s.names.Nodup := by
  rw [names_eq returns]
  exact apart.sublist (Return.names_sublist_keys fields)

theorem lookup_writeMembers_eq_none {a : τ} {key : String} (unnamed : key ∉ s.names) :
    (s.writeMembers a).lookup key = none := by
  refine List.lookup_eq_none_iff.2 fun member written => bne_iff_ne.2 ?_
  rintro rfl
  exact unnamed (names_of_mem_writeMembers written)

theorem back_of_readAt (returns : s.Returns fields) (distinct : s.names.Nodup) {a : τ} {position : Nat}
    {m : Return.Member} {sent : Json} (listed : fields[position]? = some m) (value : sent.IsValue)
    (read : s.ReadAt a position sent) : m.back sent ((s.writeMembers a).lookup m.name) := by
  induction s generalizing fields position with
  | done => cases read
  | field f rest ih =>
    obtain ⟨first, others, rfl, own, later⟩ := returns.split
    obtain ⟨x, y⟩ := a
    obtain ⟨foreign, distinct⟩ := List.nodup_cons.1 distinct
    cases position with
    | zero =>
      cases listed
      have back := own.back sent x value read
      simp only [writeMembers]
      cases written : f.write x with
      | some back' =>
        rw [written] at back
        rwa [← own.name, List.lookup_cons_self]
      | none =>
        rw [written] at back
        rwa [← own.name, lookup_writeMembers_eq_none foreign]
    | succ n =>
      have named : m.name ∈ rest.names := by
        rw [names_eq later]
        exact List.mem_map_of_mem (List.mem_of_getElem? listed)
      have differs : (m.name == f.name) = false := beq_false_of_ne fun same => foreign (same ▸ named)
      have back := ih later distinct listed read
      simp only [writeMembers]
      split
      · rwa [List.lookup_cons, differs]
      · exact back

/-! Reading from an object. -/

theorem visit_takes {draft draft' : s.Draft} {key : String} {sent : Json}
    (visited : s.visit draft key sent = .ok (some draft')) :
    ∃ position, s.positionOf key = some position ∧ s.HoldsAt draft' position sent := by
  induction s with
  | done => cases visited
  | field f rest ih =>
    obtain ⟨slot, more⟩ := draft
    simp only [visit, Draft.split] at visited
    split at visited
    next own =>
      split at visited
      · cases visited
      · obtain ⟨_, read, same⟩ := map_eq_ok.1 visited
        cases same
        exact ⟨0, if_pos own, _, rfl, read⟩
    next other =>
      obtain ⟨result, later, same⟩ := map_eq_ok.1 visited
      obtain ⟨more', rfl, rfl⟩ := Option.map_eq_some_iff.1 same
      obtain ⟨position, found, holds⟩ := ih later
      refine ⟨position + 1, ?_, holds⟩
      simp only [positionOf, if_neg other, found, Option.map_some]

/-- What a draft holds stays in it: a second member for the same field is an error. -/
theorem visit_keeps {draft draft' : s.Draft} {key : String} {value sent : Json} {position : Nat}
    (holds : s.HoldsAt draft position sent) (visited : s.visit draft key value = .ok (some draft')) :
    s.HoldsAt draft' position sent := by
  induction s generalizing position with
  | done => cases visited
  | field f rest ih =>
    obtain ⟨slot, more⟩ := draft
    simp only [visit, Draft.split] at visited
    split at visited
    · split at visited
      · cases visited
      next empty =>
        obtain ⟨_, -, same⟩ := map_eq_ok.1 visited
        cases same
        cases position with
        | zero =>
          obtain ⟨a, filled, -⟩ := holds
          cases filled
        | succ n => exact holds
    · obtain ⟨result, later, same⟩ := map_eq_ok.1 visited
      obtain ⟨more', rfl, rfl⟩ := Option.map_eq_some_iff.1 same
      cases position with
      | zero => exact holds
      | succ n => exact ih holds later

theorem Collects.keeps {draft draft' : s.Draft} {members others : List (String × Json)} {sent : Json}
    {position : Nat} (holds : s.HoldsAt draft position sent) (pass : s.Collects draft members draft' others) :
    s.HoldsAt draft' position sent := by
  induction pass with
  | nil => exact holds
  | taken visited _ ih => exact ih (visit_keeps holds visited)
  | left _ _ ih => exact ih holds

theorem Collects.takes {draft draft' : s.Draft} {members others : List (String × Json)} {key : String}
    {sent : Json} (pass : s.Collects draft members draft' others) (member : (key, sent) ∈ members) :
    (∃ position, s.positionOf key = some position ∧ s.HoldsAt draft' position sent) ∨ (key, sent) ∈ others := by
  induction pass with
  | nil => cases member
  | taken visited later ih =>
    rcases List.mem_cons.1 member with same | behind
    · cases same
      obtain ⟨position, found, holds⟩ := visit_takes visited
      exact .inl ⟨position, found, later.keeps holds⟩
    · exact ih behind
  | left _ _ ih =>
    rcases List.mem_cons.1 member with same | behind
    · exact .inr (List.mem_cons.2 (.inl same))
    · exact (ih behind).imp_right (List.mem_cons_of_mem _)

theorem Collects.sublist {draft draft' : s.Draft} {members others : List (String × Json)}
    (pass : s.Collects draft members draft' others) : others.Sublist members := by
  induction pass with
  | nil => exact .slnil
  | taken _ _ ih => exact ih.cons _
  | left _ _ ih => exact ih.cons_cons _

theorem Collects.leaves {draft draft' : s.Draft} {members others : List (String × Json)} {key : String}
    {sent : Json} (pass : s.Collects draft members draft' others) (stranger : s.answersTo key = false)
    (member : (key, sent) ∈ members) : (key, sent) ∈ others := by
  rcases pass.takes member with ⟨position, found, -⟩ | left
  · cases found.symm.trans (positionOf_eq_none stranger)
  · exact left

theorem finish_readAt {draft : s.Draft} {a : τ} {position : Nat} {sent : Json}
    (holds : s.HoldsAt draft position sent) (finished : s.finish draft = .ok a) : s.ReadAt a position sent := by
  induction s generalizing position with
  | done => cases holds
  | field f rest ih =>
    obtain ⟨slot, more⟩ := draft
    simp only [finish, Draft.split] at finished
    split at finished
    · cases finished
    next x filled =>
      obtain ⟨y, later, same⟩ := map_eq_ok.1 finished
      cases same
      cases position with
      | zero =>
        obtain ⟨x', held, read⟩ := holds
        cases held
        cases filled
        exact read
      | succ n => exact ih holds later

theorem readAt_of_member (returns : s.Returns fields) (apart : (fields.flatMap (·.keys)).Nodup)
    {draft : s.Draft} {members others : List (String × Json)} {a : τ} {position : Nat} {m : Return.Member}
    {key : String} {sent : Json} (pass : s.Collects s.blank members draft others)
    (finished : s.finish draft = .ok a) (listed : fields[position]? = some m) (named : key ∈ m.keys)
    (stands : members.lookup key = some sent) : s.ReadAt a position sent := by
  have found := positionOf_eq returns apart listed named
  rcases pass.takes (mem_of_lookup stands) with ⟨position', found', holds⟩ | left
  · rw [found] at found'
    cases found'
    exact finish_readAt holds finished
  · have unanswered := positionOf_eq_none (pass.strangers (key, sent) left)
    cases found.symm.trans unanswered

/-! Reading from an array. -/

theorem readFrom_readAt {tooShort : Nat → DecodeError} {start position : Nat} {items others : List Json} {a : τ}
    {sent : Json} (within : position < s.size) (read : s.readFrom tooShort start items = .ok (a, others))
    (stands : items[position]? = some sent) : s.ReadAt a position sent := by
  induction s generalizing start position items others with
  | done => cases within
  | field f rest ih =>
    cases items with
    | nil => cases stands
    | cons item items =>
      obtain ⟨x, own, read⟩ := bind_eq_ok.1 read
      obtain ⟨⟨y, left⟩, later, same⟩ := bind_eq_ok.1 read
      cases same
      cases position with
      | zero =>
        cases stands
        exact own
      | succ n => exact ih (Nat.lt_of_succ_lt_succ within) later stands

/-- A record brings back what its fields were read from, whatever stands behind them that none answers to. -/
theorem record_of_readAt (returns : s.Returns fields) (apart : (fields.flatMap (·.keys)).Nodup) {sent : Json}
    (value : sent.IsValue) {a : τ} {more : List (String × Json)}
    (strangers : ∀ e ∈ more, s.answersTo e.1 = false)
    (read : ∀ (position : Nat) (m : Return.Member) (v : Json), fields[position]? = some m →
      m.Sent position v sent → s.ReadAt a position v) :
    Return.record fields sent (.object (s.writeMembers a ++ more)) := by
  intro position m v listed said
  have named : m.name ∈ s.names := by
    rw [names_eq returns]
    exact List.mem_map_of_mem (List.mem_of_getElem? listed)
  have nothing : more.lookup m.name = none := by
    refine List.lookup_eq_none_iff.2 fun e behind => bne_iff_ne.2 fun same => ?_
    exact not_mem_names (strangers e behind) (same ▸ named)
  have back := back_of_readAt returns (names_nodup returns apart) listed (said.isValue value)
    (read position m v listed said)
  rwa [Json.member?, List.lookup_append, nothing, Option.or_none]

end Schema

namespace Codec

variable {τ α : Type} {s : Schema τ} {make : τ → α} {fields : α → τ} {listed : List Return.Member}

theorem recordBy_returns (passage : Passage) (name : String) (again : ∀ values, fields (make values) = values)
    (apart : (listed.flatMap (·.keys)).Nodup) (returns : s.Returns listed) :
    (recordBy passage name s make fields).Returns (.record listed) := by
  intro sent a value read
  change Return.record listed sent (.object (s.writeMembers (fields a)))
  rw [← List.append_nil (s.writeMembers (fields a))]
  refine Schema.record_of_readAt returns apart value (by simp) fun position m v standing said => ?_
  cases sent with
  | object members =>
    obtain ⟨values, found, rfl⟩ := map_eq_ok.1 read
    obtain ⟨⟨draft, others⟩, collected, finished⟩ := bind_eq_ok.1 found
    obtain ⟨key, named, stands⟩ := said
    rw [again]
    have pass := Schema.collects_of_collect collected
    exact Schema.readAt_of_member returns apart pass finished standing named stands
  | array items =>
    obtain ⟨values, found, rfl⟩ := map_eq_ok.1 read
    obtain ⟨⟨values', others⟩, taken, judged⟩ := bind_eq_ok.1 found
    dsimp only at judged
    split at judged
    · cases judged
      have within : position < s.size := by
        rw [Schema.size_eq returns]
        exact (List.getElem?_eq_some_iff.1 standing).1
      rw [again]
      exact Schema.readFrom_readAt within taken said
    · cases judged
  | _ => cases said

theorem record_returns (name : String) (again : ∀ values, fields (make values) = values)
    (apart : (listed.flatMap (·.keys)).Nodup) (returns : s.Returns listed) :
    (record name s make fields).Returns (.record listed) :=
  recordBy_returns .direct name again apart returns

/-- The members that no field answers to stand in order already and are put behind the fields. -/
theorem openRecord_returns {make : τ → List (String × Json) → α} {others : α → List (String × Json)}
    (name : String) (again : ∀ values extra, fields (make values extra) = values)
    (kept : ∀ values extra, others (make values extra) = extra)
    (apart : (listed.flatMap (·.keys)).Nodup) (returns : s.Returns listed) :
    (openRecord name s make fields others).Returns (.openRecord listed) := by
  intro sent a value read
  cases sent with
  | object members =>
    obtain ⟨⟨draft, left⟩, collected, judged⟩ := bind_eq_ok.1 read
    dsimp only at judged
    split at judged
    next =>
      obtain ⟨values, finished, rfl⟩ := map_eq_ok.1 judged
      have pass := Schema.collects_of_collect collected
      have ascending : Ascending left := value.ascending.sublist pass.sublist
      have tidy : Json.tidyMembers left = left :=
        Json.tidyMembers_of_ascending ascending fun m member => (value.member m (pass.sublist.subset member)).canonical
      change Return.openRecord listed (.object members) (.object
        (s.writeMembers (fields (make values (Json.tidyMembers left))) ++ others (make values (Json.tidyMembers left))))
      rw [again, kept, tidy]
      refine ⟨Schema.record_of_readAt returns apart value pass.strangers fun position m v standing said => ?_,
        fun key v unnamed stands => ?_⟩
      · obtain ⟨key, named, stands⟩ := said
        exact Schema.readAt_of_member returns apart pass finished standing named stands
      · have unanswered := Schema.answersTo_eq_false returns unnamed
        have notOwn := Schema.not_mem_names unanswered
        rw [Json.member?, List.lookup_append, Schema.lookup_writeMembers_eq_none notOwn, Option.none_or]
        exact ascending.lookup (pass.leaves unanswered (mem_of_lookup stands))
    · cases judged
  | _ => cases read

end Codec

end AgentHooks
