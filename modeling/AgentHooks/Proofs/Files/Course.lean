import AgentHooks.Proofs.Files.Ink

/-! What a file at a path comes to, as a reader sees it, and the moments that putting a text in its place goes
through: directories are made, the text is written to a draft beside the file, and the draft is moved. With a draft
whose name nobody uses, all this comes to the one change that `replace` makes, or to none. -/

namespace AgentHooks.FileTree

variable {t t' later : FileTree} {here place : Place} {p draft : Path} {content : Content} {text : String}

/-- Directories were made at some of these places, where nothing had been. -/
structure Makes (places : List Place) (t t' : FileTree) : Prop where
  here : t'.here = t.here
  node : ∀ place, t'.node? place = t.node? place ∨
    place ∈ places ∧ t.node? place = none ∧ t'.node? place = some .directory

namespace Makes

variable {places : List Place}

theorem refl (places : List Place) (t : FileTree) : Makes places t t :=
  ⟨rfl, fun _ => .inl rfl⟩

theorem trans (first : Makes places t t') (second : Makes places t' later) : Makes places t later := by
  refine ⟨second.here.trans first.here, fun place => ?_⟩
  rcases first.node place with same | ⟨listed, absent, standing⟩
  · rcases second.node place with same' | ⟨listed, absent, standing⟩
    · exact .inl (same'.trans same)
    · exact .inr ⟨listed, same ▸ absent, standing⟩
  · rcases second.node place with same' | ⟨-, absent', -⟩
    · exact .inr ⟨listed, absent, same'.trans standing⟩
    · rw [standing] at absent'
      cases absent'

theorem mono {more : List Place} (makes : Makes places t t') (subset : places ⊆ more) : Makes more t t' := by
  refine ⟨makes.here, fun place => ?_⟩
  rcases makes.node place with same | ⟨listed, made⟩
  · exact .inl same
  · exact .inr ⟨subset listed, made⟩

theorem node_off (makes : Makes places t t') (off : place ∉ places) : t'.node? place = t.node? place :=
  (makes.node place).resolve_right fun made => off made.1

end Makes

theorem inside_of_absent (absent : t.node? place = none) : place ≠ [] := by
  rintro rfl
  cases absent

theorem makes_set_directory (absent : t.node? place = none) : Makes [place] t (t.set place .directory) := by
  have inside : place ≠ [] := inside_of_absent absent
  refine ⟨rfl, fun other => ?_⟩
  rw [node?_set t _ inside]
  split
  next same => exact .inr ⟨by simp [same], same ▸ absent, rfl⟩
  · exact .inl rfl

theorem makeSteps_makes (t : FileTree) (made : Bool) (here : Place) (names : List String) :
    Makes (way here names) t (t.makeSteps made here names).2 := by
  induction names generalizing t made here with
  | nil => exact .refl _ t
  | cons name rest ih =>
    have onwards : way (stepFrom here name) rest ⊆ way here (name :: rest) := List.subset_cons_self _ _
    simp only [makeSteps]
    split
    · exact .refl _ t
    · split
      next absent =>
        have first := (makes_set_directory absent).mono (List.cons_subset.2 ⟨mem_way_self _ rest, List.nil_subset _⟩)
        exact (first.trans (ih _ true _)).mono onwards
      next => exact (ih t made _).mono onwards
      next => exact .refl _ t

/-- Missing parents are all that is made. -/
theorem makeParents_makes (t : FileTree) (p : Path) : Makes (t.wayOf p.parent) t (t.makeParents p).2 := by
  simp only [makeParents, makeDirectory]
  split
  · exact .refl _ t
  · exact makeSteps_makes t false _ _

/-! What a reader sees. -/

def seen (t : FileTree) (p : Path) : Option Content :=
  (t.fetch p).toOption

def Shows (t : FileTree) (p : Path) : Prop :=
  t.fetch p = .error .notFound → t.content? (t.placeOf p) = none

theorem seen_of_fetch (found : t.fetch p = .ok content) : t.seen p = some content := by
  rw [seen, found]
  rfl

theorem fetch_of_seen (seen : t.seen p = some content) : t.fetch p = .ok content := by
  rw [FileTree.seen] at seen
  cases read : t.fetch p with
  | error e =>
    rw [read] at seen
    cases seen
  | ok content =>
    rw [read] at seen
    cases seen
    rfl

theorem seen_of_unread {e : FileError} (unread : t.fetch p = .error e) : t.seen p = none := by
  rw [seen, unread]
  rfl

theorem shows_of_fetch (found : t.fetch p = .ok content) : t.Shows p := by
  intro missing
  rw [found] at missing
  cases missing

theorem shows_of_absent (absent : t.content? (t.placeOf p) = none) : t.Shows p ∧ t.seen p = none := by
  obtain ⟨e, unread⟩ := fetch_of_absent absent
  exact ⟨fun _ => absent, seen_of_unread unread⟩

theorem shows_of_erase (found : t.fetch p = .ok content) :
    (t.erase (t.placeOf p)).Shows p ∧ (t.erase (t.placeOf p)).seen p = none := by
  have stands := content?_eq_some.1 (content_of_fetch found)
  apply shows_of_absent
  have own : (t.erase (t.placeOf p)).placeOf p = t.placeOf p := placeOf_eq rfl _
  have free : t.node? (t.placeOf p) ≠ some .directory := by simp [stands]
  rw [own]
  simp only [content?, node?_erase_self (inside_of_node?_ne free)]

theorem shows_of_state (state : t.node? (t.placeOf p) = none ∨ t.node? (t.placeOf p) = some .directory ∨
    (∃ content, t.fetch p = .ok content) ∨ t.fetch p = .error .notADirectory) : t.Shows p := by
  rcases state with absent | standing | ⟨content, found⟩ | barred
  · exact fun _ => by simp only [content?, absent]
  · exact fun _ => content?_of_directory standing
  · exact shows_of_fetch found
  · intro missing
    rw [barred] at missing
    cases missing

theorem Makes.spares {places : List Place} (makes : Makes places t t') (place : Place) : Spares place t t' := by
  refine ⟨⟨makes.here, fun other standing => ?_⟩, ?_⟩
  · rcases makes.node other with same | ⟨-, absent, -⟩
    · exact same.trans standing
    · rw [absent] at standing
      cases standing
  · rcases makes.node place with same | ⟨-, absent, standing⟩
    · simp only [content?, same]
    · simp only [content?, absent, standing]

/-- What bars a way, other than that something is missing, goes on barring it when directories are made. -/
theorem Makes.walk_barred {places : List Place} (makes : Makes places t t') {steps : List String} {e : FileError}
    (barred : t.walk here steps = .error e) (there : e ≠ .notFound) : t'.walk here steps = .error e := by
  induction steps generalizing here with
  | nil => cases barred
  | cons name rest ih =>
    have kept := makes.node here
    simp only [walk] at barred ⊢
    split at barred
    · cases barred
      exact absurd rfl there
    next found =>
      have same := kept.resolve_right fun made => by simp [found] at made
      rw [same, found]
      exact barred
    next found =>
      have same := kept.resolve_right fun made => by simp [found] at made
      rw [same, found]
      split at barred
      next long => simpa only [if_pos long] using barred
      next short => simpa only [if_neg short] using ih barred

/-- Directories that are made change nothing about what is read, unless nothing was found. -/
theorem Makes.fetch {places : List Place} (makes : Makes places t t') (found : t.fetch p ≠ .error .notFound) :
    t'.fetch p = t.fetch p := by
  cases read : t.fetch p with
  | ok content => exact (makes.spares _).fetch read
  | error e =>
    have there : e ≠ .notFound := by
      rintro rfl
      exact found read
    cases resolved : t.resolve p with
    | ok place =>
      have resolved' := (makes.spares place).toGrows.resolve resolved
      simp only [FileTree.fetch, resolved, bind, Except.bind] at read
      simp only [FileTree.fetch, resolved', bind, Except.bind]
      split at read
      · cases read
        exact absurd rfl there
      next standing =>
        rw [(makes.spares place).directories place standing]
        exact read
      · cases read
    | error e' =>
      simp only [FileTree.fetch, resolved, bind, Except.bind] at read
      cases read
      have resolved' : t'.resolve p = .error e := by
        simp only [FileTree.resolve, bind, Except.bind, origin_eq makes.here] at resolved ⊢
        split at resolved
        · exact resolved
        · exact makes.walk_barred resolved there
      simp only [FileTree.fetch, resolved', bind, Except.bind]

theorem Makes.seen {places : List Place} (makes : Makes places t t') (shown : t.Shows p) :
    t'.Shows p ∧ t'.seen p = t.seen p := by
  by_cases missing : t.fetch p = .error .notFound
  · rw [seen_of_unread missing]
    apply shows_of_absent
    rw [placeOf_eq makes.here, (makes.spares _).content]
    exact shown missing
  · have same := makes.fetch missing
    refine ⟨fun missing' => absurd (same.symm.trans missing') missing, ?_⟩
    rw [FileTree.seen, same, FileTree.seen]

/-! The steps. -/

def write (t : FileTree) (p : Path) (content : Content) : Except FileError FileTree := do
  let place ← t.resolve p
  match t.node? place with
  | some .directory => .error .isADirectory
  | _ => .ok (t.set place (.file content))

theorem fetch_of_write (written : t.write p content = .ok t') : t'.fetch p = .ok content := by
  simp only [write, bind, Except.bind] at written
  split at written
  · cases written
  next place resolved =>
    split at written
    · cases written
    next free =>
      cases written
      have resolved' := (grows_set (.file content) free).resolve resolved
      simp only [fetch, resolved', bind, Except.bind, node?_set_self t _ (inside_of_node?_ne free)]

def move (t : FileTree) (draft p : Path) : Except FileError FileTree := do
  let source ← t.resolve draft
  let place ← t.destination p
  match t.node? source, t.node? place with
  | none, _ => .error .notFound
  | some .directory, _ => .error .notADirectory
  | some (.file _), some .directory => .error .isADirectory
  | some (.file content), _ => .ok ((t.erase source).set place (.file content))

/-- Puts a text into place step by step; with the answer, the tree after each step. A draft that cannot be moved is
removed. -/
def replaceSteps (t : FileTree) (draft p : Path) (text : String) : Except FileError Unit × List FileTree :=
  match t.write draft text with
  | .error e => (.error e, [])
  | .ok written =>
    match written.move draft p with
    | .ok moved => (.ok (), [written, moved])
    | .error e =>
      match written.remove draft with
      | .ok cleaned => (.error e, [written, cleaned])
      | .error _ => (.error e, [written])

/-! The name of the draft. -/

/-- Names that differ in nothing that a file system looks at: each is one name, as long as the other. -/
structure Alike (name other : String) : Prop where
  plain : '/' ∉ name.toList
  plain' : '/' ∉ other.toList
  some : name ≠ ""
  some' : other ≠ ""
  nul : '\x00' ∈ name.toList ↔ '\x00' ∈ other.toList
  size : name.utf8ByteSize = other.utf8ByteSize

theorem Alike.check_join {name other : String} (alike : Alike name other) (q : Path) :
    check (q.join name) = check (q.join other) := by
  obtain ⟨before, spelled⟩ := Path.text_join q
  simp only [check, spelled alike.plain, spelled alike.plain', String.toList_append, String.utf8ByteSize_append,
    List.contains_eq_mem, List.mem_append, alike.nul, alike.size]

theorem Alike.resolve_join {name other : String} (alike : Alike name other) (t : FileTree) (q : Path) :
    (t.resolve (q.join name)).map (fun _ => ()) = (t.resolve (q.join other)).map fun _ => () := by
  have origin : ∀ {name : String}, '/' ∉ name.toList → t.origin (q.join name) = t.origin q := by
    intro name plain
    simp only [FileTree.origin, Path.isAbsolute_join plain]
  simp only [resolve, alike.check_join q, Path.steps_join alike.plain q alike.some,
    Path.steps_join alike.plain' q alike.some', origin alike.plain, origin alike.plain', walk_append, bind,
    Except.bind]
  cases check (q.join other) with
  | error e => rfl
  | ok =>
    cases t.walk (t.origin q) q.walk with
    | error e => rfl
    | ok mid =>
      simp only [walk, alike.size]
      split
      · rfl
      · rfl
      · split <;> rfl

/-- A text is put into place or not, whatever the draft is called. -/
theorem replace_draft_congr {draft' : Path}
    (alike : (t.resolve draft).map (fun _ => ()) = (t.resolve draft').map fun _ => ()) (p : Path) (text : String) :
    t.replace draft p text = t.replace draft' p text := by
  simp only [replace, bind, Except.bind]
  cases drafted : t.resolve draft with
  | error e =>
    cases drafted' : t.resolve draft' with
    | error e' =>
      rw [drafted, drafted'] at alike
      cases alike
      rfl
    | ok there =>
      rw [drafted, drafted'] at alike
      cases alike
  | ok there =>
    cases drafted' : t.resolve draft' with
    | error e' =>
      rw [drafted, drafted'] at alike
      cases alike
    | ok there' => rfl

theorem way_walk_subset (t : FileTree) (p : Path) : way (t.origin p) p.walk ⊆ t.wayOf p := by
  rw [wayOf, Path.names_eq_walk]
  exact way_subset_names _ _

/-- A node beside the way changes nothing about where the way leads. -/
theorem shape?_set_off (node : Node) (off : place ∉ t.wayOf p) :
    ∀ other ∈ t.wayOf p, (t.set place node).shape? other = t.shape? other := by
  intro other member
  have apart : other ≠ place := fun same => off (same ▸ member)
  rw [shape?, node?_set_other t node apart, shape?]

theorem destination_set (node : Node) (off : place ∉ t.wayOf p) : (t.set place node).destination p = t.destination p := by
  have walked : (t.set place node).walk (t.origin p) p.walk = t.walk (t.origin p) p.walk :=
    walk_congr fun other member => shape?_set_off node off other (way_walk_subset t p member)
  have origin : (t.set place node).origin p = t.origin p := rfl
  simp only [destination, origin, walked]

theorem erase_set_absent (absent : t.node? place = none) (node : Node) : (t.set place node).erase place = t := by
  have inside : place ≠ [] := inside_of_absent absent
  have missing : ∀ entry ∈ t.entries, entry.1 ≠ place := by
    intro entry member same
    rw [node?, if_neg inside, List.lookup_eq_none_iff] at absent
    exact bne_iff_ne.1 (absent entry member) same.symm
  have others : t.entries.filter (·.1 ≠ place) = t.entries :=
    List.filter_eq_self.2 fun entry member => by simpa using missing entry member
  simp only [set, erase, List.filter_cons, ne_eq, not_true_eq_false, decide_false, Bool.false_eq_true, if_false,
    List.filter_filter, Bool.and_self]
  simp only [ne_eq] at others
  rw [others]

/-! A draft whose name nobody uses. -/

section Draft

variable (absent : t.node? (t.placeOf draft) = none) (drafted : t.resolve draft = .ok (t.placeOf draft))

include absent drafted

theorem write_draft (text : String) : t.write draft text = .ok (t.set (t.placeOf draft) (.file text)) := by
  simp only [write, drafted, bind, Except.bind, absent]

theorem resolve_written (text : String) :
    (t.set (t.placeOf draft) (.file text)).resolve draft = .ok (t.placeOf draft) :=
  (grows_set _ (by simp [absent])).resolve drafted

/-- A draft that is removed leaves no trace. -/
theorem remove_draft (text : String) : (t.set (t.placeOf draft) (.file text)).remove draft = .ok t := by
  have stands := node?_set_self t (.file text) (inside_of_absent absent)
  simp only [remove, resolve_written absent drafted, bind, Except.bind, stands, erase_set_absent absent]

theorem move_draft (off : t.placeOf draft ∉ t.wayOf p) (text : String) :
    (t.set (t.placeOf draft) (.file text)).move draft p = t.replace draft p text := by
  have stands := node?_set_self t (.file text) (inside_of_absent absent)
  simp only [move, replace, resolve_written absent drafted, destination_set _ off, drafted, bind, Except.bind, stands]
  cases found : t.destination p with
  | error e => rfl
  | ok place =>
    have own : place = t.placeOf p := resolve_eq_placeOf (resolve_of_destination found)
    have apart : place ≠ t.placeOf draft := fun same => off (same ▸ own ▸ placeOf_mem_wayOf t p)
    simp only [node?_set_other t _ apart, erase_set_absent absent]
    cases t.node? place with
    | none => rfl
    | some node => cases node <;> rfl

end Draft

/-- Step by step as at once: with a draft whose name nobody uses, `replace` is all that happens. -/
theorem replaceSteps_eq (text : String) (absent : t.node? (t.placeOf draft) = none) (off : t.placeOf draft ∉ t.wayOf p) :
    (∃ after, t.replace draft p text = .ok after ∧
        t.replaceSteps draft p text = (.ok (), [t.set (t.placeOf draft) (.file text), after])) ∨
      ∃ e, t.replace draft p text = .error e ∧
        (t.replaceSteps draft p text = (.error e, []) ∨
          t.replaceSteps draft p text = (.error e, [t.set (t.placeOf draft) (.file text), t])) := by
  cases drafted : t.resolve draft with
  | error e =>
    refine .inr ⟨e, ?_, .inl ?_⟩
    · simp only [replace, drafted, bind, Except.bind]
    · simp only [replaceSteps, write, drafted, bind, Except.bind]
  | ok there =>
    cases resolve_eq_placeOf drafted
    have wrote := write_draft absent drafted text
    have cleaned := remove_draft absent drafted text
    have moved := move_draft absent drafted off text
    cases replaced : t.replace draft p text with
    | ok after =>
      refine .inl ⟨after, rfl, ?_⟩
      simp only [replaceSteps, wrote, moved, replaced]
    | error e =>
      refine .inr ⟨e, rfl, .inr ?_⟩
      simp only [replaceSteps, wrote, moved, replaced, cleaned]

end AgentHooks.FileTree
