import AgentHooks.Proofs.Loop.Marker
import AgentHooks.Settings.Normalize
import AgentHooks.Settings.Printer
import Mathlib.Data.List.DropRight

/-! The leaves of settings. What settings keep of a leaf's value is a value that they would keep as it is: a trimmed text
has no blanks to lose, a set of names is written in order, a list of names repeats none. -/

namespace AgentHooks

namespace Text

theorem dropEnd_eq_rdropWhile (p : Char → Bool) (cs : List Char) : dropEnd p cs = cs.rdropWhile p :=
  rfl

theorem dropWhile_trimBlank (cs : List Char) : (trimBlank cs).dropWhile isBlank = trimBlank cs := by
  let started := cs.dropWhile isBlank
  rw [List.dropWhile_eq_self_iff]
  intro some'
  have inside : dropEnd isBlank started <+: started := List.rdropWhile_prefix isBlank started
  have long : 0 < started.length := Nat.lt_of_lt_of_le some' inside.length_le
  have same : (dropEnd isBlank started)[0] = started[0] := inside.getElem some'
  change ¬isBlank (dropEnd isBlank started)[0] = true
  rw [same]
  exact List.dropWhile_get_zero_not isBlank cs long

theorem trimBlank_trimBlank (cs : List Char) : trimBlank (trimBlank cs) = trimBlank cs := by
  change dropEnd isBlank ((trimBlank cs).dropWhile isBlank) = trimBlank cs
  rw [dropWhile_trimBlank, trimBlank, dropEnd_eq_rdropWhile, dropEnd_eq_rdropWhile, List.rdropWhile_idempotent]

theorem trimBlank_of_allBlank {cs : List Char} (blank : AllBlank cs) : trimBlank cs = [] := by
  have nothing : cs.dropWhile isBlank = [] := List.dropWhile_eq_nil_iff.2 blank
  rw [trimBlank, nothing]
  rfl

theorem trim_trim (s : String) : trim (trim s) = trim s := by
  rw [trim, toList_trim, trimBlank_trimBlank]
  rfl

end Text

namespace NameSet

def Ordered (names : List String) : Prop :=
  names.Pairwise (· < ·)

theorem ordered_insertInto {names : List String} (ordered : Ordered names) (name : String) :
    Ordered (insertInto name names) := by
  induction names with
  | nil => exact List.pairwise_singleton _ _
  | cons head rest ih =>
    have tail : Ordered rest := (List.pairwise_cons.1 ordered).2
    have below : ∀ other ∈ rest, head < other := (List.pairwise_cons.1 ordered).1
    simp only [insertInto]
    split
    next first =>
      apply List.pairwise_cons.2 ⟨_, ordered⟩
      intro other member
      rcases List.mem_cons.1 member with rfl | later
      · exact first
      · exact String.lt_trans first (below other later)
    next notFirst =>
      split
      next same => exact ordered
      next other =>
        apply List.pairwise_cons.2 ⟨_, ih tail⟩
        intro later member
        rcases (mem_insertInto name later rest).1 member with rfl | member
        · apply String.not_le.1
          intro back
          exact other (String.le_antisymm back (String.not_lt.1 notFirst))
        · exact below later member

theorem insertInto_last {names : List String} {name : String} (above : ∀ other ∈ names, other < name) :
    insertInto name names = names ++ [name] := by
  induction names with
  | nil => rfl
  | cons head rest ih =>
    have smaller : head < name := above head List.mem_cons_self
    have apart : ¬name = head := fun same => String.lt_irrefl head (same ▸ smaller)
    rw [insertInto, if_neg (String.lt_asymm smaller), if_neg apart,
      ih fun other member => above other (List.mem_cons_of_mem head member), List.cons_append]

theorem ordered_foldl_insert {s : NameSet} (ordered : Ordered s.names) (names : List String) :
    Ordered (names.foldl insert s).names := by
  induction names generalizing s with
  | nil => exact ordered
  | cons name rest ih => exact ih (ordered_insertInto ordered name)

theorem ordered_ofList (names : List String) : Ordered (ofList names).names :=
  ordered_foldl_insert List.Pairwise.nil names

theorem foldl_insert_of_ordered {early late : List String} (ordered : Ordered (early ++ late)) :
    late.foldl insert ⟨early⟩ = ⟨early ++ late⟩ := by
  induction late generalizing early with
  | nil => rw [List.append_nil, List.foldl_nil]
  | cons name rest ih =>
    have above : ∀ other ∈ early, other < name := fun other member =>
      (List.pairwise_append.1 ordered).2.2 other member name List.mem_cons_self
    have onwards : Ordered ((early ++ [name]) ++ rest) := by
      rw [List.append_assoc]
      exact ordered
    have put : insert ⟨early⟩ name = ⟨early ++ [name]⟩ := by
      rw [insert, insertInto_last above]
    rw [List.foldl_cons, put, ih onwards, List.append_assoc]
    rfl

theorem ofList_names (names : List String) : ofList (ofList names).names = ofList names :=
  foldl_insert_of_ordered (ordered_ofList names)

theorem mem_ofList {names : List String} {name : String} : name ∈ (ofList names).names ↔ name ∈ names := by
  have among : ∀ s : NameSet, name ∈ (names.foldl insert s).names ↔ name ∈ s.names ∨ name ∈ names := by
    induction names with
    | nil => simp
    | cons first rest ih =>
      intro s
      rw [List.foldl_cons, ih, insert, mem_insertInto, List.mem_cons]
      tauto
  rw [ofList, among]
  simp [empty]

end NameSet

section Repetitions

variable {α : Type} [DecidableEq α]

theorem nodup_eraseDups (xs : List α) : xs.eraseDups.Nodup := by
  match xs with
  | [] => exact List.nodup_nil
  | x :: rest =>
    rw [List.eraseDups_cons]
    have shorter : (rest.filter fun y => !y == x).length < rest.length + 1 :=
      Nat.lt_succ_of_le (List.length_filter_le _ rest)
    apply List.nodup_cons.2 ⟨_, nodup_eraseDups _⟩
    intro again
    have kept := List.mem_filter.1 (List.mem_eraseDups.1 again)
    simp at kept
termination_by xs.length

theorem eraseDups_of_nodup {xs : List α} (nodup : xs.Nodup) : xs.eraseDups = xs := by
  induction xs with
  | nil => rfl
  | cons x rest ih =>
    have others : (rest.filter fun y => !y == x) = rest := by
      rw [List.filter_eq_self]
      intro y member
      have apart : y ≠ x := fun same => (List.nodup_cons.1 nodup).1 (same ▸ member)
      simp [apart]
    rw [List.eraseDups_cons, others, ih (List.nodup_cons.1 nodup).2]

theorem eraseDups_eraseDups (xs : List α) : xs.eraseDups.eraseDups = xs.eraseDups :=
  eraseDups_of_nodup (nodup_eraseDups xs)

end Repetitions

namespace Settings

open Leaf

inductive Kind where
  | flag
  | count
  /-- A count that is not zero. -/
  | positive
  /-- A share of a whole. -/
  | ratio
  | text
  | texts
  | mode
  /-- Names whose order does not matter. -/
  | names
  /-- Names of which the first place counts. -/
  | sequence
  deriving DecidableEq

namespace Kind

def texts? (j : Json) : Option (List String) :=
  j.items?.map (·.filterMap nonblank?)

/-- What settings keep of a value, written as they write it; none where the value is no better than no value. -/
def read : Kind → Json → Option Json
  | flag, j => j.bool?.map .bool
  | count, j => j.nat?.map .ofNat
  | positive, j => (j.nat?.filter (· ≠ 0)).map .ofNat
  | ratio, j => (j.float?.filter fun x => x.isFinite && 0 < x && x ≤ 1).map .float
  | text, j => (nonblank? j).map .string
  | texts, j => (texts? j).map .ofTexts
  | mode, j => (j.string?.bind CompletionMode.ofText?).map fun m => .string m.name
  | names, j => (texts? j).map fun names => .ofTexts (NameSet.ofList names).names
  | sequence, j => (texts? j).map fun names => .ofTexts names.eraseDups

def Malformed : Kind → Json → Prop
  | flag, j => ∀ b, j ≠ .bool b
  | count, j => ∀ n : Nat, j ≠ .int n
  | positive, j => ∀ n : Nat, 0 < n → j ≠ .int n
  | ratio, j => ∀ x, j.float? = some x → ¬(x.isFinite ∧ 0 < x ∧ x ≤ 1)
  | text, j => ∀ s, j = .string s → Text.AllBlank s.toList
  | mode, j => ∀ s, j = .string s → ∀ m : CompletionMode, Text.lower (Text.trim s) ≠ m.name
  | texts, j | names, j | sequence, j => ∀ items, j ≠ .array items

theorem nonblank?_of_nonblank? {j : Json} {s : String} (read : nonblank? j = some s) :
    nonblank? (.string s) = some s := by
  rw [nonblank?, Option.filter_eq_some_iff] at read ⊢
  obtain ⟨text, -, rfl⟩ := Option.map_eq_some_iff.1 read.1
  refine ⟨?_, read.2⟩
  rw [Json.string?, Option.map_some, Text.trim_trim]

def Clean (names : List String) : Prop :=
  ∀ name ∈ names, nonblank? (.string name) = some name

theorem clean_of_texts? {j : Json} {names : List String} (read : texts? j = some names) : Clean names := by
  obtain ⟨items, -, rfl⟩ := Option.map_eq_some_iff.1 read
  intro name member
  obtain ⟨item, -, kept⟩ := List.mem_filterMap.1 member
  exact nonblank?_of_nonblank? kept

theorem texts?_ofTexts {names : List String} (clean : Clean names) : texts? (.ofTexts names) = some names := by
  have kept : (names.map Json.string).filterMap nonblank? = names := by
    have each : names.filterMap (nonblank? ∘ Json.string) = names.filterMap some := List.filterMap_congr clean
    rw [List.filterMap_map, each, List.filterMap_some]
  rw [texts?, Json.ofTexts, Json.items?, Option.map_some, kept]

theorem ofText?_name (m : CompletionMode) : CompletionMode.ofText? m.name = some m := by
  cases m <;> decide +kernel

/-- What settings keep of a value they keep as it is. -/
theorem read_of_read {kind : Kind} {j value : Json} (kept : kind.read j = some value) :
    kind.read value = some value := by
  cases kind with
  | flag =>
    obtain ⟨b, -, rfl⟩ := Option.map_eq_some_iff.1 kept
    rfl
  | count =>
    obtain ⟨n, -, rfl⟩ := Option.map_eq_some_iff.1 kept
    rfl
  | positive =>
    obtain ⟨n, good, rfl⟩ := Option.map_eq_some_iff.1 kept
    have nonzero := (Option.filter_eq_some_iff.1 good).2
    change ((some n).filter (· ≠ 0)).map Json.ofNat = some (Json.ofNat n)
    rw [Option.filter_some, if_pos nonzero, Option.map_some]
  | ratio =>
    obtain ⟨x, good, rfl⟩ := Option.map_eq_some_iff.1 kept
    have inside := (Option.filter_eq_some_iff.1 good).2
    change ((some x).filter fun x => x.isFinite && 0 < x && x ≤ 1).map Json.float = some (Json.float x)
    rw [Option.filter_some, if_pos inside, Option.map_some]
  | text =>
    obtain ⟨s, good, rfl⟩ := Option.map_eq_some_iff.1 kept
    rw [read, nonblank?_of_nonblank? good, Option.map_some]
  | texts =>
    obtain ⟨names, good, rfl⟩ := Option.map_eq_some_iff.1 kept
    rw [read, texts?_ofTexts (clean_of_texts? good), Option.map_some]
  | mode =>
    obtain ⟨m, -, rfl⟩ := Option.map_eq_some_iff.1 kept
    rw [read, Json.string?, Option.bind_some, ofText?_name, Option.map_some]
  | names =>
    obtain ⟨names, good, rfl⟩ := Option.map_eq_some_iff.1 kept
    have clean : Clean (NameSet.ofList names).names := fun name member =>
      clean_of_texts? good name (NameSet.mem_ofList.1 member)
    rw [read, texts?_ofTexts clean, Option.map_some, NameSet.ofList_names]
  | sequence =>
    obtain ⟨names, good, rfl⟩ := Option.map_eq_some_iff.1 kept
    have clean : Clean names.eraseDups := fun name member =>
      clean_of_texts? good name (List.mem_eraseDups.1 member)
    rw [read, texts?_ofTexts clean, Option.map_some, eraseDups_eraseDups]

theorem nat?_eq_some_iff {j : Json} {n : Nat} : j.nat? = some n ↔ j = .int n := by
  cases j with
  | int m =>
    cases m with
    | ofNat m =>
      rw [Json.nat?, Option.some_inj, Json.int.injEq]
      exact Int.ofNat_inj.symm
    | negSucc m => simp [Json.nat?]
  | _ => simp [Json.nat?]

theorem string?_eq_some_iff {j : Json} {s : String} : j.string? = some s ↔ j = .string s := by
  cases j <;> simp [Json.string?]

theorem ofText?_eq_some_iff {s : String} {m : CompletionMode} :
    CompletionMode.ofText? s = some m ↔ Text.lower (Text.trim s) = m.name := by
  unfold CompletionMode.ofText?
  split
  next promise => cases m <;> simp [promise, CompletionMode.name]
  next objective => cases m <;> simp [objective, CompletionMode.name]
  next promise objective =>
    cases m with
    | promise => simpa [CompletionMode.name] using promise
    | objective => simpa [CompletionMode.name] using objective

theorem texts?_eq_none_iff {j : Json} : texts? j = none ↔ ∀ items, j ≠ .array items := by
  rw [texts?, Option.map_eq_none_iff]
  cases j <;> simp [Json.items?]

/-- Malformed values, and no others, are no better than no value. -/
theorem read_eq_none_iff {kind : Kind} {j : Json} : kind.read j = none ↔ kind.Malformed j := by
  cases kind with
  | flag =>
    rw [read, Option.map_eq_none_iff, Malformed]
    cases j <;> simp [Json.bool?]
  | count =>
    rw [read, Option.map_eq_none_iff, Option.eq_none_iff_forall_ne_some, Malformed]
    simp only [ne_eq, nat?_eq_some_iff]
  | positive =>
    rw [read, Option.map_eq_none_iff, Option.filter_eq_none_iff, Malformed]
    simp only [nat?_eq_some_iff, ne_eq, decide_not, Bool.not_eq_true', decide_eq_false_iff_not]
    constructor
    · intro zero n above same
      exact zero n same (Nat.ne_of_gt above)
    · intro never n same nonzero
      exact never n (Nat.pos_of_ne_zero nonzero) same
  | ratio =>
    rw [read, Option.map_eq_none_iff, Option.filter_eq_none_iff, Malformed]
    simp only [Bool.and_eq_true, decide_eq_true_eq, and_assoc]
  | text =>
    rw [read, Option.map_eq_none_iff, nonblank?, Option.filter_eq_none_iff, Malformed]
    simp only [Option.map_eq_some_iff, string?_eq_some_iff]
    constructor
    · intro empty s same
      have blank : Text.trim s = "" := by simpa using empty _ ⟨s, same, rfl⟩
      exact Text.allBlank_of_trimBlank ((Text.trim_eq_empty_iff s).1 blank)
    · rintro blank _ ⟨s, same, rfl⟩
      have empty : Text.trim s = "" := (Text.trim_eq_empty_iff s).2 (Text.trimBlank_of_allBlank (blank s same))
      simp [empty]
  | mode =>
    rw [read, Option.map_eq_none_iff, Option.bind_eq_none_iff, Malformed]
    simp only [string?_eq_some_iff, Option.eq_none_iff_forall_ne_some, ne_eq, ofText?_eq_some_iff]
  | texts => rw [read, Option.map_eq_none_iff, texts?_eq_none_iff, Malformed]
  | names => rw [read, Option.map_eq_none_iff, texts?_eq_none_iff, Malformed]
  | sequence => rw [read, Option.map_eq_none_iff, texts?_eq_none_iff, Malformed]

end Kind

end Settings

end AgentHooks
