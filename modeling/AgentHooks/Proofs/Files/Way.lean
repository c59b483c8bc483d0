import AgentHooks.Proofs.Files.Frame
import AgentHooks.Proofs.Files.Path

/-! The way that a path takes through a tree. Operations look at nothing but the places on it, so trees of one
shape there cannot be told apart by them; and where a path leads somewhere, the directory that its last name
stands in has been made. -/

namespace AgentHooks.FileTree

/-- What a walk asks about a place: whether there is something, and whether that is a directory. -/
def shape? (t : FileTree) (place : Place) : Option Bool :=
  (t.node? place).map fun
    | .directory => true
    | .file _ => false

def way (here : Place) : List String → List Place
  | [] => [here]
  | name :: rest => here :: way (stepFrom here name) rest

def wayOf (t : FileTree) (p : Path) : List Place :=
  way (t.origin p) p.names

variable {t t' : FileTree} {here place : Place} {p : Path} {steps : List String}

theorem mem_way_self (here : Place) (steps : List String) : here ∈ way here steps := by
  cases steps <;> simp [way]

theorem way_append_subset (here : Place) (steps more : List String) : way here steps ⊆ way here (steps ++ more) := by
  induction steps generalizing here with
  | nil => simpa [way] using mem_way_self here more
  | cons name rest ih => exact List.cons_subset_cons here (ih _)

theorem way_subset_names (here : Place) (steps : List String) :
    way here steps ⊆ way here (steps.filter (· ≠ ".")) := by
  induction steps generalizing here with
  | nil => exact List.Subset.refl _
  | cons name rest ih =>
    by_cases idle : name = "."
    · subst idle
      have stays : stepFrom here "." = here := rfl
      rw [way, stays]
      exact List.cons_subset.2 ⟨mem_way_self here _, by simpa using ih here⟩
    · rw [List.filter_cons, if_pos (by simpa using idle)]
      exact List.cons_subset_cons here (ih _)

theorem way_names_subset (here : Place) (steps : List String) :
    way here (steps.filter (· ≠ ".")) ⊆ way here steps := by
  induction steps generalizing here with
  | nil => exact List.Subset.refl _
  | cons name rest ih =>
    by_cases idle : name = "."
    · subst idle
      have others : way here (rest.filter (· ≠ ".")) ⊆ here :: way here rest :=
        List.Subset.trans (ih here) (List.subset_cons_self here _)
      simpa [way, stepFrom] using others
    · rw [List.filter_cons, if_pos (by simpa using idle)]
      exact List.cons_subset_cons here (ih _)

theorem way_steps_subset (t : FileTree) (p : Path) : way (t.origin p) p.steps ⊆ t.wayOf p := by
  rw [wayOf, ← Path.steps_filter]
  exact way_subset_names _ _

theorem way_parent_subset (t : FileTree) (p : Path) : t.wayOf p.parent ⊆ t.wayOf p := by
  have origin : t.origin p.parent = t.origin p := by rw [FileTree.origin, FileTree.origin, Path.isAbsolute_parent]
  rw [wayOf, wayOf, origin]
  cases last : p.names.getLast? with
  | none =>
    have unnamed : p.parent.names = [] := by
      rw [Path.names_eq_walk, Path.walk_parent, Path.above_of_unnamed (List.getLast?_eq_none_iff.1 last)]
      rfl
    rw [unnamed, List.getLast?_eq_none_iff.1 last]
    exact List.Subset.refl _
  | some name =>
    obtain ⟨rest, onwards, -⟩ := Path.walk_eq_parent last
    rw [Path.names_eq_walk p, onwards, List.filter_append, ← Path.names_eq_walk]
    exact way_append_subset _ _ _

/-! Shapes. -/

theorem shape?_eq_none : t.shape? place = none ↔ t.node? place = none := by
  simp [shape?]

theorem shape?_eq_directory : t.shape? place = some true ↔ t.node? place = some .directory := by
  cases found : t.node? place with
  | none => simp [shape?, found]
  | some node => cases node <;> simp [shape?, found]

theorem shape?_eq_file : t.shape? place = some false ↔ ∃ content, t.node? place = some (.file content) := by
  cases found : t.node? place with
  | none => simp [shape?, found]
  | some node => cases node <;> simp [shape?, found]

theorem walk_congr (same : ∀ place ∈ way here steps, t'.shape? place = t.shape? place) :
    t'.walk here steps = t.walk here steps := by
  induction steps generalizing here with
  | nil => rfl
  | cons name rest ih =>
    have first := same here (mem_way_self here _)
    have others := ih fun place member => same place (List.mem_cons_of_mem here member)
    simp only [walk]
    cases found : t.node? here with
    | none => rw [shape?_eq_none.1 (first.trans (shape?_eq_none.2 found))]
    | some node =>
      cases node with
      | directory => rw [shape?_eq_directory.1 (first.trans (shape?_eq_directory.2 found)), others]
      | file content =>
        obtain ⟨content', found'⟩ := shape?_eq_file.1 (first.trans (shape?_eq_file.2 ⟨content, found⟩))
        rw [found']

theorem resolve_congr (here : t'.here = t.here)
    (same : ∀ place ∈ t.wayOf p, t'.shape? place = t.shape? place) : t'.resolve p = t.resolve p := by
  simp only [resolve, origin_eq here,
    walk_congr fun place member => same place (way_steps_subset t p member)]

/-- Where making directories changes nothing, it changes nothing in another tree of the same shape. -/
theorem makeSteps_congr {made : Bool} {r : Except FileError Unit} {names : List String}
    (same : ∀ place ∈ way here names, t'.shape? place = t.shape? place)
    (done : t.makeSteps made here names = (r, t)) : t'.makeSteps made here names = (r, t') := by
  induction names generalizing made here with
  | nil =>
    cases done
    rfl
  | cons name rest ih =>
    have others : ∀ place ∈ way (stepFrom here name) rest, t'.shape? place = t.shape? place :=
      fun place member => same place (List.mem_cons_of_mem here member)
    have first := others _ (mem_way_self _ rest)
    simp only [makeSteps] at done ⊢
    split at done
    next long =>
      rw [if_pos long]
      cases done
      rfl
    next short =>
      rw [if_neg short]
      split at done
      next absent =>
        -- A directory would have been made.
        have vacant : t.node? (stepFrom here name) ≠ some .directory := by simp [absent]
        have spared := makeSteps_spares (t.set (stepFrom here name) .directory) [] true (stepFrom here name) rest
        have stands := spared.directories (stepFrom here name)
          (node?_set_self t .directory (inside_of_node?_ne vacant))
        rw [done, absent] at stands
        cases stands
      next standing =>
        rw [shape?_eq_directory.1 (first.trans (shape?_eq_directory.2 standing))]
        exact ih others done
      next content found =>
        obtain ⟨content', found'⟩ := shape?_eq_file.1 (first.trans (shape?_eq_file.2 ⟨content, found⟩))
        rw [found']
        cases done
        rfl

theorem makeParents_congr {r : Except FileError Unit} (here : t'.here = t.here)
    (same : ∀ place ∈ t.wayOf p, t'.shape? place = t.shape? place) (done : t.makeParents p = (r, t)) :
    t'.makeParents p = (r, t') := by
  simp only [makeParents, makeDirectory] at done ⊢
  split at done
  next refused =>
    cases done
    rfl
  next fine =>
    rw [origin_eq here]
    exact makeSteps_congr (fun place member => same place (way_parent_subset t p member)) done

/-! The directory that the last name stands in. -/

theorem walk_append (t : FileTree) (here : Place) (steps more : List String) :
    t.walk here (steps ++ more) = (t.walk here steps).bind fun mid => t.walk mid more := by
  induction steps generalizing here with
  | nil => rfl
  | cons name rest ih =>
    simp only [List.cons_append, walk, ih]
    split
    · rfl
    · rfl
    · split <;> rfl

theorem directory_of_walk (walked : t.walk here steps = .ok place)
    (ends : steps = [] → t.node? here = some .directory) : t.node? here = some .directory := by
  cases steps with
  | nil => exact ends rfl
  | cons name rest =>
    simp only [walk] at walked
    split at walked
    · cases walked
    · cases walked
    next standing => exact standing

theorem directory_of_way (walked : t.walk here steps = .ok place) {there : Place} (member : there ∈ way here steps)
    (elsewhere : there ≠ place) : t.node? there = some .directory := by
  induction steps generalizing here with
  | nil =>
    cases walked
    exact absurd (List.mem_singleton.1 member) elsewhere
  | cons name rest ih =>
    have first : t.node? here = some .directory := directory_of_walk walked (by simp)
    rcases List.mem_cons.1 member with rfl | later
    · exact first
    · refine ih ?_ later
      simp only [walk, first] at walked
      split at walked
      · cases walked
      · exact walked

theorem makeSteps_of_walk (made : Bool) (walked : t.walk here steps = .ok place)
    (standing : t.node? place = some .directory) :
    t.makeSteps made here (steps.filter (· ≠ ".")) = (.ok (), t) := by
  induction steps generalizing here with
  | nil => rfl
  | cons name rest ih =>
    simp only [walk] at walked
    split at walked
    · cases walked
    · cases walked
    · split at walked
      · cases walked
      next short =>
        by_cases idle : name = "."
        · subst idle
          exact ih walked
        · have next' : t.node? (stepFrom here name) = some .directory := by
            refine directory_of_walk walked ?_
            rintro rfl
            cases walked
            exact standing
          rw [List.filter_cons, if_pos (by simpa using idle)]
          simp only [makeSteps, if_neg short, next']
          exact ih walked

theorem check_parent (fine : check p = .ok ()) : check p.parent = .ok () := by
  obtain ⟨rest, spelled⟩ := p.text_eq_parent
  simp only [check] at fine ⊢
  rw [spelled, String.toList_append, String.utf8ByteSize_append] at fine
  split at fine
  · cases fine
  next clean =>
    split at fine
    · cases fine
    next short =>
      rw [if_neg, if_neg]
      · omega
      · simp only [List.contains_eq_mem, List.mem_append, decide_eq_true_eq, not_or] at clean ⊢
        exact clean.1

theorem check_of_resolve (resolved : t.resolve p = .ok place) : check p = .ok () := by
  simp only [resolve, bind, Except.bind] at resolved
  split at resolved
  · cases resolved
  next fine => exact fine

theorem walk_steps_of_resolve (resolved : t.resolve p = .ok place) : t.walk (t.origin p) p.steps = .ok place := by
  simpa only [resolve, check_of_resolve resolved, bind, Except.bind] using resolved

theorem walk_of_resolve (resolved : t.resolve p = .ok place) : t.walk (t.origin p) p.walk = .ok place := by
  have walked := walk_steps_of_resolve resolved
  rw [Path.steps, walk_append] at walked
  cases reached : t.walk (t.origin p) p.walk with
  | error e =>
    rw [reached] at walked
    cases walked
  | ok mid =>
    rw [reached] at walked
    simp only [Except.bind] at walked
    split at walked
    · simp only [walk] at walked
      split at walked
      · cases walked
      · cases walked
      · split at walked
        · cases walked
        · exact walked
    · exact walked

/-- The way to the directory that the last name stands in. -/
theorem walk_parent_of_resolve {name : String} (resolved : t.resolve p = .ok place)
    (last : p.names.getLast? = some name) :
    ∃ mid, t.walk (t.origin p) p.parent.walk = .ok mid ∧ t.node? mid = some .directory := by
  obtain ⟨rest, onwards, more⟩ := Path.walk_eq_parent last
  have walked := walk_of_resolve resolved
  rw [onwards, walk_append] at walked
  cases reached : t.walk (t.origin p) p.parent.walk with
  | error e =>
    rw [reached] at walked
    cases walked
  | ok mid =>
    rw [reached] at walked
    exact ⟨mid, rfl, directory_of_walk walked fun nothing => absurd nothing more⟩

theorem directory_of_wayOf (resolved : t.resolve p = .ok place) {there : Place} (member : there ∈ t.wayOf p)
    (elsewhere : there ≠ place) : t.node? there = some .directory := by
  refine directory_of_way (walk_steps_of_resolve resolved) ?_ elsewhere
  rw [wayOf, ← Path.steps_filter] at member
  exact way_names_subset _ _ member

/-- Where a path leads somewhere, nothing has to be made on its way. -/
theorem makeParents_of_resolve (resolved : t.resolve p = .ok place) : t.makeParents p = (.ok (), t) := by
  have origin : t.origin p.parent = t.origin p := by rw [FileTree.origin, FileTree.origin, Path.isAbsolute_parent]
  simp only [makeParents, makeDirectory, check_parent (check_of_resolve resolved), origin]
  rw [Path.names_eq_walk]
  cases last : p.names.getLast? with
  | none =>
    rw [Path.walk_parent, Path.above_of_unnamed (List.getLast?_eq_none_iff.1 last)]
    rfl
  | some name =>
    obtain ⟨mid, walked, standing⟩ := walk_parent_of_resolve resolved last
    exact makeSteps_of_walk false walked standing

end AgentHooks.FileTree
