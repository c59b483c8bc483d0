import AgentHooks.Proofs.Files.Way
import AgentHooks.Proofs.Loop.Cell

/-! What becomes of a loop that is to be put into the cell. Where there is a file, only the cell's path says whether
a loop can be put in its place, so what an update does is told by what the file holds; where there is none, nothing
happens to the files. -/

namespace AgentHooks.LoopCell

open FileTree

variable {cell : LoopCell} {t : FileTree} {content : Content} {l : Loop} {e : FileError}

def draftName (cell : LoopCell) : String :=
  "." ++ cell.path.fileName?.getD "loop-state" ++ "." ++ draftMark ++ ".tmp"

/-- Whether a loop can be put in the place of a file: the path ends in a name, and with the draft's name in its
place it is still a path, its name not too long. -/
def admits (cell : LoopCell) : Bool :=
  cell.path.fileName?.isSome && !cell.path.endsInDots && !cell.path.endsInSlash &&
    (check cell.draft).isOk && cell.draftName.utf8ByteSize ≤ maxNameBytes

theorem endsInDots_of_nameless {p : Path} (nameless : p.fileName? = none) : p.endsInDots = true := by
  cases ended : p.walk.getLast? with
  | none => simp only [Path.endsInDots, ended]
  | some step =>
    simp only [Path.endsInDots, ended]
    by_cases idle : step = "."
    · simp [idle]
    · have last : p.names.getLast? = some step := by
        obtain ⟨others, walked⟩ := List.getLast?_eq_some_iff.1 ended
        rw [Path.names_eq_walk, walked, List.filter_append, List.filter_cons, if_pos (by simpa using idle)]
        simp
      have back : step = ".." := by simpa [Path.fileName?, last] using nameless
      simp [back]

theorem slash_not_mem_fileName {p : Path} {name : String} (named : p.fileName? = some name) :
    '/' ∉ name.toList := by
  obtain ⟨last, -⟩ := Option.filter_eq_some_iff.1 named
  exact Path.slash_not_mem_of_mem_pieces (List.mem_filter.1 (List.mem_of_getLast? last)).1

theorem slash_not_mem_draftName (cell : LoopCell) : '/' ∉ cell.draftName.toList := by
  have name : '/' ∉ (cell.path.fileName?.getD "loop-state").toList := by
    cases named : cell.path.fileName? with
    | none => decide
    | some name => exact slash_not_mem_fileName named
  simp only [draftName, String.toList_append, List.mem_append, not_or]
  exact ⟨⟨⟨⟨by decide, name⟩, by decide⟩, by decide⟩, by decide⟩

/-! Putting a loop in. -/

theorem destination_of_resolve {p : Path} {place : Place} (resolved : t.resolve p = .ok place) :
    t.destination p =
      if p.endsInDots then .error .busy else if p.endsInSlash then .error .notADirectory else .ok place := by
  simp only [destination, check_of_resolve resolved, walk_of_resolve resolved, bind, Except.bind]

theorem draft_of_named {name : String} (named : cell.path.fileName? = some name) :
    cell.draft = cell.path.parent.join cell.draftName := by
  simp only [draft, draftName, Path.withName, named, Option.isSome_some, if_true]

/-- The draft stands beside the file, so there is room for it unless its name does not do. -/
theorem resolve_draft {name : String} {place : Place} (named : cell.path.fileName? = some name)
    (resolved : t.resolve cell.path = .ok place) :
    (∃ there, t.resolve cell.draft = .ok there) ↔
      (check cell.draft).isOk = true ∧ cell.draftName.utf8ByteSize ≤ maxNameBytes := by
  have plain := slash_not_mem_draftName cell
  have some' : cell.draftName ≠ "" := by
    intro blank
    have none' := String.toList_eq_nil_iff.2 blank
    simp [draftName] at none'
  obtain ⟨last, -⟩ := Option.filter_eq_some_iff.1 named
  obtain ⟨mid, walked, standing⟩ := walk_parent_of_resolve resolved last
  have origin : t.origin cell.draft = t.origin cell.path := by
    simp only [FileTree.origin, draft_of_named named, Path.isAbsolute_join plain, Path.isAbsolute_parent]
  have steps : cell.draft.steps = cell.path.parent.walk ++ [cell.draftName] := by
    rw [draft_of_named named, Path.steps_join plain _ some']
  have onwards : t.walk (t.origin cell.draft) cell.draft.steps =
      if maxNameBytes < cell.draftName.utf8ByteSize then .error .nameTooLong
      else .ok (stepFrom mid cell.draftName) := by
    rw [origin, steps, walk_append, walked]
    simp only [Except.bind, walk, standing]
  simp only [FileTree.resolve, bind, Except.bind, onwards]
  cases check cell.draft with
  | error e => simp [Except.isOk, Except.toBool]
  | ok =>
    by_cases long : maxNameBytes < cell.draftName.utf8ByteSize
    · simp [long]
    · simp [long, Nat.not_lt.1 long, Except.isOk, Except.toBool]

theorem replace_of_resolve {place : Place} (resolved : t.resolve cell.path = .ok place)
    (free : t.node? place ≠ some .directory) (new : String) :
    (cell.admits = true ∧ t.replace cell.draft cell.path new = .ok (t.set place (.file new))) ∨
    (cell.admits = false ∧ ∃ e, t.replace cell.draft cell.path new = .error e) := by
  have destined := destination_of_resolve resolved
  by_cases barred : cell.path.endsInDots = true ∨ cell.path.endsInSlash = true
  · right
    have refused : ∃ e, t.destination cell.path = .error e := by
      rw [destined]
      split
      · exact ⟨_, rfl⟩
      · split
        · exact ⟨_, rfl⟩
        next open' open'' => exact absurd barred (not_or.2 ⟨open', open''⟩)
    obtain ⟨e, refused⟩ := refused
    refine ⟨?_, ?_⟩
    · rcases barred with dots | slash
      · simp [admits, dots]
      · simp [admits, slash]
    · simp only [replace, refused, bind, Except.bind]
      split
      · exact ⟨_, rfl⟩
      · exact ⟨_, rfl⟩
  · obtain ⟨noDots, noSlash⟩ := not_or.1 barred
    rw [if_neg noDots, if_neg noSlash] at destined
    cases named : cell.path.fileName? with
    | none => exact absurd (endsInDots_of_nameless named) noDots
    | some name =>
      have admits : cell.admits = true ↔ ∃ there, t.resolve cell.draft = .ok there := by
        rw [resolve_draft named resolved]
        simp [admits, named, noDots, noSlash]
      simp only [replace, destined, bind, Except.bind]
      cases drafted : t.resolve cell.draft with
      | ok there =>
        left
        exact ⟨admits.2 ⟨there, drafted⟩, rfl⟩
      | error e =>
        right
        refine ⟨eq_false_of_ne_true fun room => ?_, e, rfl⟩
        obtain ⟨there, drafted'⟩ := admits.1 room
        cases drafted.symm.trans drafted'

theorem save_of_fetch (found : t.fetch cell.path = .ok content) (l : Loop) :
    cell.admits = true ∧
        cell.save l t = (.ok (), t.set (t.placeOf cell.path) (.file (cell.render l))) ∨
      cell.admits = false ∧ ∃ fault, cell.save l t = (.error fault, t) := by
  have parents := makeParents_of_resolve (placeOf_of_fetch found)
  have stands := content?_eq_some.1 (content_of_fetch found)
  unfold save
  simp only [parents]
  rcases replace_of_resolve (placeOf_of_fetch found) (by simp [stands]) (cell.render l) with ⟨admits, replaced⟩ | ⟨closed, e, replaced⟩
  · exact .inl ⟨admits, by simp only [replaced]⟩
  · exact .inr ⟨closed, .io e.message, by simp only [replaced]⟩

/-! Putting a loop in the place of another. -/

section Update

variable {α : Type} (f : Loop → Option Loop × α)

theorem update_of_unread (unread : t.fetch cell.path = .error e) :
    cell.update f t = (if e = .notFound then .ok none else .error (cell.readFault e), t) := by
  unfold update
  rw [load_of_unread unread]
  by_cases missing : e = .notFound
  · simp only [if_pos missing]
  · simp only [if_neg missing]

theorem update_of_unheld (found : t.fetch cell.path = .ok content) (unheld : cell.loopIn? content = none) :
    cell.update f t = (.error (cell.faultOf content), t) := by
  unfold update
  rw [load_of_fetch found, unheld]

theorem update_of_ended {a : α} (found : t.fetch cell.path = .ok content) (held : cell.loopIn? content = some l)
    (ended : f l = (none, a)) : cell.update f t = (.ok (some a), t.erase (t.placeOf cell.path)) := by
  unfold update
  rw [load_of_fetch found, held]
  simp only [ended, clear_of_fetch found, Except.map]

theorem update_of_next {next : Loop} {a : α} (found : t.fetch cell.path = .ok content)
    (held : cell.loopIn? content = some l) (goesOn : f l = (some next, a)) :
    cell.admits = true ∧
        cell.update f t = (.ok (some a), t.set (t.placeOf cell.path) (.file (cell.render next))) ∨
      cell.admits = false ∧ ∃ fault, cell.update f t = (.error fault, t) := by
  unfold update
  rw [load_of_fetch found, held]
  simp only [goesOn]
  rcases save_of_fetch found next with ⟨admits, saved⟩ | ⟨closed, fault, failed⟩
  · exact .inl ⟨admits, by simp only [saved, Except.map]⟩
  · exact .inr ⟨closed, fault, by simp only [failed, Except.map]⟩

end Update

end AgentHooks.LoopCell
