import AgentHooks.Files.Tree

/-! What operations on a tree leave alone. Directories never go away by themselves, and an operation
that works on one file keeps every other one, so a path that led to a file leads there for
as long as nobody takes the file away. -/

namespace AgentHooks.FileTree

/-- What the file at a place holds; a directory holds nothing. -/
def content? (t : FileTree) (place : Place) : Option Content :=
  match t.node? place with
  | some (.file content) => some content
  | _ => none

def placeOf (t : FileTree) (p : Path) : Place :=
  p.steps.foldl stepFrom (t.origin p)

structure Grows (before after : FileTree) : Prop where
  here : after.here = before.here
  directories : ∀ place, before.node? place = some .directory → after.node? place = some .directory

/-- Directories stay, and so does the file at one place, or its absence. -/
structure Spares (place : Place) (before after : FileTree) : Prop extends Grows before after where
  content : after.content? place = before.content? place

variable {t t' later : FileTree} {place there : Place}

theorem Grows.refl (t : FileTree) : Grows t t :=
  ⟨rfl, fun _ there => there⟩

theorem Grows.trans (first : Grows t t') (second : Grows t' later) : Grows t later :=
  ⟨second.here.trans first.here,
    fun place standing => second.directories place (first.directories place standing)⟩

theorem Spares.refl (place : Place) (t : FileTree) : Spares place t t :=
  ⟨.refl t, rfl⟩

theorem Spares.trans (first : Spares place t t') (second : Spares place t' later) :
    Spares place t later :=
  ⟨first.toGrows.trans second.toGrows, second.content.trans first.content⟩

theorem origin_eq (same : t'.here = t.here) (p : Path) : t'.origin p = t.origin p := by
  simp only [origin, same]

theorem placeOf_eq (same : t'.here = t.here) (p : Path) : t'.placeOf p = t.placeOf p := by
  simp only [placeOf, origin_eq same]

theorem content?_eq_some {content : Content} : t.content? place = some content ↔ t.node? place = some (.file content) := by
  unfold content?
  split
  next old found => simp [found]
  next absent =>
    constructor
    · intro impossible
      cases impossible
    · intro found
      exact absurd found (absent content)

theorem content?_of_directory (found : t.node? place = some .directory) : t.content? place = none := by
  simp only [content?, found]

theorem inside_of_node?_ne (free : t.node? place ≠ some .directory) : place ≠ [] := by
  rintro rfl
  exact free rfl

theorem content?_set_self {content : Content} (free : t.node? place ≠ some .directory) :
    (t.set place (.file content)).content? place = some content :=
  content?_eq_some.2 (node?_set_self t _ (inside_of_node?_ne free))

theorem content?_set_other (node : Node) (apart : place ≠ there) :
    (t.set there node).content? place = t.content? place := by
  simp only [content?, node?_set_other t node apart]

theorem grows_set (node : Node) (free : t.node? there ≠ some .directory) : Grows t (t.set there node) := by
  refine ⟨rfl, fun place standing => ?_⟩
  have apart : place ≠ there := by
    rintro rfl
    exact free standing
  rw [node?_set_other t node apart]
  exact standing

theorem spares_set_directory (place : Place) (free : t.node? there = none) :
    Spares place t (t.set there .directory) := by
  have vacant : t.node? there ≠ some .directory := by simp [free]
  refine ⟨grows_set _ vacant, ?_⟩
  by_cases same : place = there
  · subst same
    rw [content?_of_directory (node?_set_self t _ (inside_of_node?_ne vacant))]
    simp only [content?, free]
  · exact content?_set_other _ same

theorem spares_set_file (content : Content) (free : t.node? there ≠ some .directory)
    (apart : place ≠ there) : Spares place t (t.set there (.file content)) :=
  ⟨grows_set _ free, content?_set_other _ apart⟩

/-! A file's place after the file was taken away. -/

theorem node?_erase_self (inside : place ≠ []) : (t.erase place).node? place = none := by
  simp only [node?, erase, if_neg inside]
  refine List.lookup_eq_none_iff.2 fun entry member => ?_
  have apart : entry.1 ≠ place := by simpa using (List.mem_filter.1 member).2
  exact bne_iff_ne.2 apart.symm

/-! Walks. -/

theorem walk_eq_foldl {here : Place} {steps : List String} (walked : t.walk here steps = .ok place) :
    place = steps.foldl stepFrom here := by
  induction steps generalizing here with
  | nil => exact (Except.ok.inj walked).symm
  | cons name rest ih =>
    simp only [walk] at walked
    split at walked
    · cases walked
    · cases walked
    · split at walked
      · cases walked
      · exact ih walked

/-- A walk succeeds for as long as the directories on its way stand. -/
theorem Grows.walk (grows : Grows t later) {here : Place} {steps : List String}
    (walked : t.walk here steps = .ok place) : later.walk here steps = .ok place := by
  induction steps generalizing here with
  | nil => exact walked
  | cons name rest ih =>
    simp only [FileTree.walk] at walked ⊢
    split at walked
    · cases walked
    · cases walked
    next standing =>
      rw [grows.directories here standing]
      split at walked
      · cases walked
      next short =>
        simp only [if_neg short]
        exact ih walked

theorem Grows.resolve (grows : Grows t later) {p : Path} (resolved : t.resolve p = .ok place) :
    later.resolve p = .ok place := by
  simp only [FileTree.resolve, bind, Except.bind] at resolved ⊢
  split at resolved
  · cases resolved
  · rw [origin_eq grows.here]
    exact grows.walk resolved

theorem resolve_eq_placeOf {p : Path} (resolved : t.resolve p = .ok place) : place = t.placeOf p := by
  simp only [resolve, bind, Except.bind] at resolved
  split at resolved
  · cases resolved
  · exact walk_eq_foldl resolved

/-! Reading and taking away. -/

/-- A path that a file can be moved to leads to the same place when the file is looked up. -/
theorem resolve_of_destination {p : Path} {place : Place} (found : t.destination p = .ok place) :
    t.resolve p = .ok place := by
  simp only [destination, resolve, bind, Except.bind] at found ⊢
  split at found
  · cases found
  · split at found
    · cases found
    next reached =>
      split at found
      · cases found
      · split at found
        · cases found
        next file =>
          cases found
          have steps : p.steps = p.walk := by simp [Path.steps, file]
          rw [steps]
          exact reached

theorem Grows.destination (grows : Grows t t') {p : Path} {place : Place}
    (found : t.destination p = .ok place) : t'.destination p = .ok place := by
  simp only [FileTree.destination, bind, Except.bind] at found ⊢
  split at found
  · cases found
  · split at found
    · cases found
    next reached =>
      rw [origin_eq grows.here, grows.walk reached]
      exact found

theorem fetch_of_content {p : Path} {content : Content} (resolved : t.resolve p = .ok (t.placeOf p))
    (stands : t.content? (t.placeOf p) = some content) : t.fetch p = .ok content := by
  simp only [fetch, resolved, bind, Except.bind, content?_eq_some.1 stands]

theorem content_of_fetch {p : Path} {content : Content} (found : t.fetch p = .ok content) :
    t.content? (t.placeOf p) = some content := by
  simp only [fetch, bind, Except.bind] at found
  split at found
  · cases found
  next place resolved =>
    rw [← resolve_eq_placeOf resolved, content?_eq_some]
    split at found
    · cases found
    · cases found
    next node =>
      cases found
      exact node

theorem read_of_fetch {p : Path} {content : Content} (found : t.fetch p = .ok content) :
    t.read p = content.text?.elim (.error .notText) .ok := by
  simp only [read, found, bind, Except.bind]
  cases content <;> rfl

theorem read_of_unfetched {p : Path} {e : FileError} (unread : t.fetch p = .error e) : t.read p = .error e := by
  simp only [read, unread, bind, Except.bind]

theorem fetch_of_absent {p : Path} (absent : t.content? (t.placeOf p) = none) : ∃ e, t.fetch p = .error e := by
  simp only [fetch, bind, Except.bind]
  split
  next e _ => exact ⟨e, rfl⟩
  next place resolved =>
    rw [resolve_eq_placeOf resolved]
    split
    · exact ⟨_, rfl⟩
    · exact ⟨_, rfl⟩
    next content found =>
      rw [content?_eq_some.2 found] at absent
      cases absent

theorem remove_of_fetch_error {p : Path} {e : FileError} (unread : t.fetch p = .error e) :
    t.remove p = .error e := by
  simp only [fetch, remove, bind, Except.bind] at unread ⊢
  split at unread
  · cases unread
    rfl
  · split at unread
    · cases unread
      rfl
    · cases unread
      rfl
    · cases unread

theorem placeOf_of_fetch {p : Path} {content : Content} (found : t.fetch p = .ok content) :
    t.resolve p = .ok (t.placeOf p) := by
  simp only [fetch, bind, Except.bind] at found
  split at found
  · cases found
  next place resolved => rw [resolved, resolve_eq_placeOf resolved]

theorem remove_eq_ok {p : Path} :
    t.remove p = .ok t' ↔ ∃ content, t.fetch p = .ok content ∧ t' = t.erase (t.placeOf p) := by
  constructor
  · intro removed
    cases found : t.fetch p with
    | error e =>
      rw [remove_of_fetch_error found] at removed
      cases removed
    | ok content =>
      simp only [remove, placeOf_of_fetch found, bind, Except.bind,
        content?_eq_some.1 (content_of_fetch found)] at removed
      cases removed
      exact ⟨content, rfl, rfl⟩
  · rintro ⟨content, found, rfl⟩
    simp only [remove, placeOf_of_fetch found, bind, Except.bind, content?_eq_some.1 (content_of_fetch found)]

/-- A text that was put into place stands where the path leads, and no directory made way for it. -/
theorem place_of_replace {draft p : Path} {text : String} (done : t.replace draft p text = .ok t') :
    ∃ place, t.destination p = .ok place ∧ t.node? place ≠ some .directory ∧
      t' = t.set place (.file text) := by
  simp only [replace, bind, Except.bind] at done
  split at done
  · cases done
  · split at done
    · cases done
    next place destined =>
      split at done
      · cases done
      next free =>
        cases done
        exact ⟨place, destined, free, rfl⟩

theorem Spares.fetch {p : Path} {content : Content} (spared : Spares (t.placeOf p) t t')
    (found : t.fetch p = .ok content) : t'.fetch p = .ok content := by
  have resolved := spared.toGrows.resolve (placeOf_of_fetch found)
  rw [← placeOf_eq spared.here] at resolved
  apply fetch_of_content resolved
  rw [placeOf_eq spared.here, spared.content]
  exact content_of_fetch found

/-! Making directories. -/

theorem makeSteps_spares (t : FileTree) (place : Place) (made : Bool) (here : Place)
    (names : List String) : Spares place t (t.makeSteps made here names).2 := by
  induction names generalizing t made here with
  | nil => exact .refl place t
  | cons name rest ih =>
    simp only [makeSteps]
    split
    · exact .refl place t
    · split
      next absent => exact (spares_set_directory place absent).trans (ih _ true _)
      next => exact ih t made _
      next => exact .refl place t

theorem makeDirectory_spares (t : FileTree) (place : Place) (p : Path) :
    Spares place t (t.makeDirectory p).2 := by
  unfold makeDirectory
  split
  · exact .refl place t
  · exact makeSteps_spares t place false _ _

theorem makeParents_spares (t : FileTree) (place : Place) (p : Path) :
    Spares place t (t.makeParents p).2 :=
  makeDirectory_spares t place p.parent

theorem makeSteps_again {made again : Bool} {here : Place} {names : List String}
    (done : t.makeSteps made here names = (.ok (), t')) (grows : Grows t' later) :
    later.makeSteps again here names = (.ok (), later) := by
  induction names generalizing t made again here with
  | nil => rfl
  | cons name rest ih =>
    simp only [makeSteps] at done ⊢
    split at done
    · cases done
    next short =>
      rw [if_neg short]
      split at done
      next absent =>
        have vacant : t.node? (stepFrom here name) ≠ some .directory := by simp [absent]
        have new : (t.set (stepFrom here name) .directory).node? (stepFrom here name) =
            some .directory := node?_set_self t _ (inside_of_node?_ne vacant)
        have kept : Grows (t.set (stepFrom here name) .directory) t' := by
          have spared := makeSteps_spares (t.set (stepFrom here name) .directory) [] true
            (stepFrom here name) rest
          rw [done] at spared
          exact spared.toGrows
        rw [grows.directories _ (kept.directories _ new)]
        exact ih done
      next standing =>
        have kept : Grows t t' := by
          have spared := makeSteps_spares t [] made (stepFrom here name) rest
          rw [done] at spared
          exact spared.toGrows
        rw [grows.directories _ (kept.directories _ standing)]
        exact ih done
      · cases done

theorem makeParents_again {p : Path} (done : t.makeParents p = (.ok (), t')) (grows : Grows t' later) :
    later.makeParents p = (.ok (), later) := by
  have kept : Grows t t' := by
    have spared := makeParents_spares t [] p
    rw [done] at spared
    exact spared.toGrows
  simp only [makeParents, makeDirectory] at done ⊢
  split at done
  · cases done
  · rw [origin_eq (grows.here.trans kept.here)]
    exact makeSteps_again done grows

/-! Adding to a file. -/

theorem append_spares {p : Path} {text : String} (apart : place ≠ t.placeOf p)
    (done : t.append p text = .ok t') : Spares place t t' := by
  simp only [append, bind, Except.bind] at done
  split at done
  · cases done
  next at' resolved =>
    rw [← resolve_eq_placeOf resolved] at apart
    split at done
    · cases done
    next old found =>
      cases done
      exact spares_set_file _ (by simp [found]) apart
    next absent =>
      cases done
      exact spares_set_file _ (by simp [absent]) apart

/-! The working directory, which no operation changes. -/

theorem makeParents_here (t : FileTree) (p : Path) : (t.makeParents p).2.here = t.here :=
  (makeParents_spares t [] p).here

theorem append_here {p : Path} {text : String} (done : t.append p text = .ok t') : t'.here = t.here := by
  simp only [append, bind, Except.bind] at done
  split at done
  · cases done
  · split at done <;> cases done <;> rfl

theorem replace_here {draft p : Path} {text : String} (done : t.replace draft p text = .ok t') :
    t'.here = t.here := by
  simp only [replace, bind, Except.bind] at done
  split at done
  · cases done
  · split at done
    · cases done
    · split at done <;> cases done
      rfl

theorem remove_here {p : Path} (done : t.remove p = .ok t') : t'.here = t.here := by
  simp only [remove, bind, Except.bind] at done
  split at done
  · cases done
  · split at done <;> cases done
    rfl

theorem overwrite_here (t : FileTree) (p : Path) (node : Option Node) :
    (t.overwrite p node).here = t.here := by
  unfold overwrite
  split
  · rfl
  · rfl
  · have made := makeParents_here t p
    split
    next failed =>
      rw [failed] at made
      exact made
    next done =>
      rw [done] at made
      split
      · exact made
      · split <;> exact made

end AgentHooks.FileTree
