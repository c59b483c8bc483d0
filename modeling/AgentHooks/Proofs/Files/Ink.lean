import AgentHooks.Proofs.Files.Shuffle
import AgentHooks.Proofs.World.Quiet

/-! Lines in a journal. The first one makes the directories that can be made; after it the journal takes every
further line at the end of its text or loses it, and touches nothing else either way. -/

namespace AgentHooks

open FileTree Text

theorem Entry.whole_line (e : Entry) : Whole (e.line ++ "\n") :=
  .inr ⟨e.line, rfl⟩

namespace FileTree

variable {t t' s : FileTree} {p q : Path} {place : Place} {j : Journal} {base : Content}

theorem placeOf_mem_wayOf (t : FileTree) (q : Path) : t.placeOf q ∈ t.wayOf q := by
  refine way_steps_subset t q ?_
  rw [placeOf]
  generalize t.origin q = here
  induction q.steps generalizing here with
  | nil => exact mem_way_self here []
  | cons name rest ih => exact List.mem_cons_of_mem here (ih _)

theorem set_set (t : FileTree) (place : Place) (node node' : Node) :
    (t.set place node).set place node' = t.set place node' := by
  simp [FileTree.set, FileTree.erase, List.filter_filter]

theorem set_erase_comm (t : FileTree) {other : Place} (apart : place ≠ other) (node : Node) :
    (t.erase other).set place node = (t.set place node).erase other := by
  simp only [FileTree.set, FileTree.erase, List.filter_filter, List.filter_cons, ne_eq, apart, not_false_eq_true,
    decide_true, if_true, Bool.and_comm]

theorem shape?_set_file {content : Content} (stands : t.shape? place = some false) (other : Place) :
    (t.set place (.file content)).shape? other = t.shape? other := by
  obtain ⟨old, found⟩ := shape?_eq_file.1 stands
  have free : t.node? place ≠ some .directory := by simp [found]
  by_cases same : other = place
  · rw [same, stands, shape?_eq_file]
    exact ⟨content, node?_set_self t _ (inside_of_node?_ne free)⟩
  · rw [shape?, node?_set_other t _ same, shape?]

theorem fetch_congr (here : t'.here = t.here) (same : ∀ place ∈ t.wayOf p, t'.shape? place = t.shape? place)
    (own : t'.node? (t.placeOf p) = t.node? (t.placeOf p)) : t'.fetch p = t.fetch p := by
  simp only [fetch, resolve_congr here same, bind, Except.bind]
  cases resolved : t.resolve p with
  | error e => rfl
  | ok place =>
    rw [← resolve_eq_placeOf resolved] at own
    simp only [own]

/-! Directories for the journal. -/

/-- What cannot be made remains unmade, and nothing new is made on the way to it. -/
theorem makeSteps_failed_again {made again : Bool} {here : Place} {names : List String} {e : FileError}
    (failed : t.makeSteps made here names = (.error e, t')) :
    ∃ e', t'.makeSteps again here names = (.error e', t') := by
  -- Directories that were made stand at the second attempt, which gets as far as the first one and fails there.
  induction names generalizing t made again here with
  | nil => cases failed
  | cons name rest ih =>
    have kept : ∀ {v : FileTree} {made : Bool}, v.makeSteps made (stepFrom here name) rest = (.error e, t') →
        Grows v t' := by
      intro v made done
      have spared := makeSteps_spares v [] made (stepFrom here name) rest
      rw [done] at spared
      exact spared.toGrows
    simp only [makeSteps] at failed ⊢
    split at failed
    next long =>
      cases failed
      exact ⟨_, if_pos long⟩
    next short =>
      rw [if_neg short]
      split at failed
      next absent =>
        have vacant : t.node? (stepFrom here name) ≠ some .directory := by simp [absent]
        have new := node?_set_self t .directory (inside_of_node?_ne vacant)
        rw [(kept failed).directories _ new]
        exact ih failed
      next standing =>
        rw [(kept failed).directories _ standing]
        exact ih failed
      next content found =>
        cases failed
        rw [found]
        exact ⟨_, rfl⟩

theorem makeParents_failed_again {e : FileError} (failed : t.makeParents q = (.error e, t')) :
    ∃ e', t'.makeParents q = (.error e', t') := by
  have here := makeParents_here t q
  rw [failed] at here
  simp only [makeParents, makeDirectory] at failed ⊢
  split at failed
  next refused =>
    cases failed
    exact ⟨_, rfl⟩
  next fine =>
    rw [origin_eq here]
    exact makeSteps_failed_again failed

/-- Nothing is left to be made for a journal at `q`: its directories stand as far as they can, and if they do,
something stands at the journal's own place. -/
structure Inked (q : Path) (t : FileTree) : Prop where
  made : ∃ r, t.makeParents q = (r, t)
  there : ∀ place, t.makeParents q = (.ok (), t) → t.resolve q = .ok place → t.node? place ≠ none

/-- A line for a journal at `q` reaches its file. -/
structure Takes (q : Path) (t : FileTree) : Prop where
  parents : t.makeParents q = (.ok (), t)
  resolves : t.resolve q = .ok (t.placeOf q)
  file : t.shape? (t.placeOf q) = some false

theorem Inked.congr (inked : Inked q t) (here : t'.here = t.here)
    (same : ∀ place ∈ t.wayOf q, t'.shape? place = t.shape? place) : Inked q t' := by
  obtain ⟨r, made⟩ := inked.made
  have made' := makeParents_congr here same made
  refine ⟨⟨r, made'⟩, fun place done resolved absent => ?_⟩
  rw [made'] at done
  cases done
  rw [resolve_congr here same] at resolved
  refine inked.there place made resolved (shape?_eq_none.1 ?_)
  rw [← same place (resolve_eq_placeOf resolved ▸ placeOf_mem_wayOf t q), shape?_eq_none, absent]

theorem Takes.congr (takes : Takes q t) (here : t'.here = t.here)
    (same : ∀ place ∈ t.wayOf q, t'.shape? place = t.shape? place) : Takes q t' := by
  refine ⟨makeParents_congr here same takes.parents, ?_, ?_⟩
  · rw [resolve_congr here same, placeOf_eq here, takes.resolves]
  · rw [placeOf_eq here, same _ (placeOf_mem_wayOf t q), takes.file]

theorem record_of_takes (kept : j.path = some q) (takes : Takes q t) :
    ∃ old, t.node? (t.placeOf q) = some (.file old) ∧
      ∀ e, j.record e t = t.set (t.placeOf q) (.file (old ++ (e.line ++ "\n"))) := by
  obtain ⟨old, found⟩ := shape?_eq_file.1 takes.file
  refine ⟨old, found, fun e => ?_⟩
  simp only [Journal.record, kept, takes.parents, append, takes.resolves, bind, Except.bind, found]

theorem record_of_inked (kept : j.path = some q) (inked : Inked q t) (lost : ¬Takes q t) (e : Entry) :
    j.record e t = t := by
  obtain ⟨r, made⟩ := inked.made
  simp only [Journal.record, kept, made]
  cases r with
  | error e => rfl
  | ok =>
    simp only [append, bind, Except.bind]
    cases resolved : t.resolve q with
    | error e => rfl
    | ok place =>
      have there := inked.there place made resolved
      have own := resolve_eq_placeOf resolved
      cases found : t.node? place with
      | none => exact absurd found there
      | some node =>
        cases node with
        | directory => simp only [found]
        | file content =>
          refine absurd ⟨made, own ▸ resolved, ?_⟩ lost
          exact shape?_eq_file.2 ⟨content, own ▸ found⟩

/-- After a line, whether it was taken or lost, nothing is left to be made. -/
theorem inked_record (kept : j.path = some q) (e : Entry) (t : FileTree) : Inked q (j.record e t) := by
  simp only [Journal.record, kept]
  split
  next e made failed =>
    obtain ⟨e', again⟩ := makeParents_failed_again failed
    refine ⟨⟨_, again⟩, fun place done => ?_⟩
    rw [again] at done
    cases done
  next made done =>
    split
    next e lost =>
      refine ⟨⟨_, makeParents_again done (.refl _)⟩, fun place _ resolved absent => ?_⟩
      simp only [append, resolved, bind, Except.bind, absent] at lost
      cases lost
    next after added =>
      simp only [append, bind, Except.bind] at added
      split at added
      · cases added
      next place resolved =>
        have written : ∀ content, made.node? place ≠ some .directory → after = made.set place (.file content) →
            Inked q after := by
          rintro content free rfl
          have grows := grows_set (.file content) free
          refine ⟨⟨_, makeParents_again done grows⟩, fun place' _ resolved' => ?_⟩
          rw [grows.resolve resolved] at resolved'
          cases resolved'
          rw [node?_set_self made _ (inside_of_node?_ne free)]
          exact Option.some_ne_none _
        split at added
        · cases added
        next old found => exact written _ (by simp [found]) (Except.ok.inj added).symm
        next absent => exact written _ (by simp [absent]) (Except.ok.inj added).symm

/-! A line in trees that differ in the order of earlier lines. -/

theorem Shuffled.makeSteps (shuffled : Shuffled j base t s) (made : Bool) (here : Place) (names : List String) :
    (s.makeSteps made here names).1 = (t.makeSteps made here names).1 ∧
      Shuffled j base (t.makeSteps made here names).2 (s.makeSteps made here names).2 := by
  induction names generalizing t s made here with
  | nil => exact ⟨rfl, shuffled⟩
  | cons name rest ih =>
    have shape := shuffled.shape? (stepFrom here name)
    simp only [FileTree.makeSteps]
    split
    · exact ⟨rfl, shuffled⟩
    · cases found : t.node? (stepFrom here name) with
      | none =>
        rw [shape?_eq_none.1 (shape.trans (shape?_eq_none.2 found))]
        exact ih (shuffled.setDirectory (inside_of_node?_ne (by rw [found]; simp))) true _
      | some node =>
        cases node with
        | directory =>
          rw [shape?_eq_directory.1 (shape.trans (shape?_eq_directory.2 found))]
          exact ih shuffled made _
        | file content =>
          obtain ⟨content', found'⟩ := shape?_eq_file.1 (shape.trans (shape?_eq_file.2 ⟨content, found⟩))
          rw [found']
          exact ⟨rfl, shuffled⟩

theorem Shuffled.makeParents (shuffled : Shuffled j base t s) (q : Path) :
    (s.makeParents q).1 = (t.makeParents q).1 ∧
      Shuffled j base (t.makeParents q).2 (s.makeParents q).2 := by
  simp only [FileTree.makeParents, makeDirectory]
  split
  · exact ⟨rfl, shuffled⟩
  · rw [origin_eq shuffled.here]
    exact shuffled.makeSteps false _ _

theorem Shuffled.append (shuffled : Shuffled j base t s) (kept : q ∈ j.path) {line : String} (whole : Whole line) :
    (∃ e e', t.append q line = .error e ∧ s.append q line = .error e') ∨
      ∃ t' s', t.append q line = .ok t' ∧ s.append q line = .ok s' ∧ Shuffled j base t' s' := by
  simp only [FileTree.append, shuffled.resolve q, bind, Except.bind]
  cases resolved : t.resolve q with
  | error e => exact .inl ⟨e, e, rfl, rfl⟩
  | ok place =>
    have own := resolve_eq_placeOf resolved
    have journal := shuffled.journal q kept
    have put := shuffled.setJournal kept
    rw [← own] at journal put
    dsimp only
    generalize t.node? place = node at journal put ⊢
    generalize s.node? place = node' at journal ⊢
    cases journal with
    | absent blank =>
      refine .inr ⟨_, _, rfl, rfl, put line line (by simp) ?_⟩
      exact .lines line line (by rw [blank, Content.empty_append]) (by rw [blank, Content.empty_append]) whole whole
        (.refl _)
    | directory => exact .inl ⟨_, _, rfl, rfl⟩
    | lines added added' left right before before' same =>
      cases left
      cases right
      have reordered : Reordered base _ _ := .lines added added' rfl rfl before before' same
      exact .inr ⟨_, _, rfl, rfl, put _ _ (by simp) (reordered.add whole)⟩

theorem Shuffled.record (shuffled : Shuffled j base t s) (e : Entry) :
    Shuffled j base (j.record e t) (j.record e s) := by
  unfold Journal.record
  split
  · exact shuffled
  next q kept =>
    obtain ⟨same, made⟩ := shuffled.makeParents q
    generalize t.makeParents q = left at same made ⊢
    generalize s.makeParents q = right at same made ⊢
    obtain ⟨r, t'⟩ := left
    obtain ⟨r', s'⟩ := right
    cases same
    cases r with
    | error e => exact made
    | ok =>
      rcases made.append kept e.whole_line with ⟨e, e', lost, lost'⟩ | ⟨t'', s'', added, added', after⟩
      · simp only [lost, lost']
        exact made
      · simp only [added, added']
        exact after

/-! What else happens to the files, before a line or after it. -/

section Later

variable (inked : ∀ q ∈ j.path, Inked q t)

include inked

theorem record_fetch (apart : ∀ q ∈ j.path, t.placeOf p ≠ t.placeOf q) (e : Entry) :
    (j.record e t).fetch p = t.fetch p := by
  cases kept : j.path with
  | none => rw [Journal.record, kept]
  | some q =>
    by_cases takes : Takes q t
    · obtain ⟨old, found, written⟩ := record_of_takes kept takes
      rw [written]
      exact fetch_congr rfl (fun place _ => shape?_set_file takes.file place)
        (node?_set_other _ _ (apart q kept))
    · rw [record_of_inked kept (inked q kept) takes]

/-- Lines in one order or the other. -/
theorem record_record (begun : Shuffled j base t t) (e e' : Entry) :
    Shuffled j base (j.record e' (j.record e t)) (j.record e (j.record e' t)) := by
  cases kept : j.path with
  | none =>
    have nothing : ∀ e t, j.record e t = t := fun e t => by rw [Journal.record, kept]
    rw [nothing, nothing, nothing, nothing]
    exact begun
  | some q =>
    by_cases takes : Takes q t
    · obtain ⟨old, found, written⟩ := record_of_takes kept takes
      have again : ∀ e e', j.record e' (j.record e t) =
          t.set (t.placeOf q) (.file (old ++ (e.line ++ "\n") ++ (e'.line ++ "\n"))) := by
        intro e e'
        have same : (j.record e t).placeOf q = t.placeOf q := placeOf_eq (j.record_here e t) q
        have takes' : Takes q (j.record e t) := by
          rw [written]
          exact takes.congr rfl fun place _ => shape?_set_file takes.file place
        obtain ⟨old', found', written'⟩ := record_of_takes kept takes'
        have free : t.node? (t.placeOf q) ≠ some .directory := by simp [found]
        rw [same, written, node?_set_self _ _ (inside_of_node?_ne free)] at found'
        cases found'
        rw [written', same, written, set_set]
      rw [again, again]
      have journal := begun.journal q kept
      rw [found] at journal
      exact begun.setJournal kept _ _ (by simp [found]) (journal.swap e.whole_line e'.whole_line)
    · rw [record_of_inked kept (inked q kept) takes, record_of_inked kept (inked q kept) takes,
        record_of_inked kept (inked q kept) takes]
      exact begun

variable (off : ∀ q ∈ j.path, place ∉ t.wayOf q)

include off

omit inked in
theorem shape?_erase_off (kept : q ∈ j.path) :
    ∀ other ∈ t.wayOf q, (t.erase place).shape? other = t.shape? other := by
  intro other member
  have apart : other ≠ place := fun same => off q kept (same ▸ member)
  rw [shape?, node?_erase_other t apart, shape?]

theorem record_erase (e : Entry) : j.record e (t.erase place) = (j.record e t).erase place := by
  cases kept : j.path with
  | none =>
    have nothing : ∀ t, j.record e t = t := fun t => by rw [Journal.record, kept]
    rw [nothing, nothing]
  | some q =>
    have same := shape?_erase_off off kept
    by_cases takes : Takes q t
    · obtain ⟨old, found, written⟩ := record_of_takes kept takes
      have takes' : Takes q (t.erase place) := takes.congr rfl same
      obtain ⟨old', found', written'⟩ := record_of_takes kept takes'
      have there : (t.erase place).placeOf q = t.placeOf q := placeOf_eq rfl q
      have apart : t.placeOf q ≠ place := fun same => off q kept (same ▸ placeOf_mem_wayOf t q)
      rw [there, node?_erase_other t apart, found] at found'
      cases found'
      rw [written, written', there, set_erase_comm t apart]
    · have same' : ∀ other ∈ (t.erase place).wayOf q, t.shape? other = (t.erase place).shape? other :=
        fun other member => (same other member).symm
      have lost : ¬Takes q (t.erase place) := fun takes' => takes (takes'.congr rfl same')
      have inked' : Inked q (t.erase place) := (inked q kept).congr rfl same
      rw [record_of_inked kept inked' lost, record_of_inked kept (inked q kept) takes]

end Later

/-! Many lines. -/

def recordAll (j : Journal) (es : List Entry) (t : FileTree) : FileTree :=
  es.foldl (fun t e => j.record e t) t

theorem recordAll_append (j : Journal) (es es' : List Entry) (t : FileTree) :
    recordAll j (es ++ es') t = recordAll j es' (recordAll j es t) :=
  List.foldl_append

theorem recordAll_here (j : Journal) (es : List Entry) (t : FileTree) : (recordAll j es t).here = t.here := by
  induction es generalizing t with
  | nil => rfl
  | cons e rest ih => exact (ih (j.record e t)).trans (j.record_here e t)

theorem recordAll_spares (es : List Entry) (apart : ∀ q ∈ j.path, t.placeOf q ≠ place) :
    Spares place t (recordAll j es t) := by
  induction es generalizing t with
  | nil => exact .refl place t
  | cons e rest ih =>
    refine (j.record_spares e t apart).trans (ih fun q kept => ?_)
    rw [placeOf_eq (j.record_here e t)]
    exact apart q kept

theorem recordAll_inked (inked : ∀ q ∈ j.path, Inked q t) (es : List Entry) :
    ∀ q ∈ j.path, Inked q (recordAll j es t) := by
  induction es generalizing t with
  | nil => exact inked
  | cons e rest ih => exact ih fun q kept => inked_record kept e t

theorem recordAll_fetch (inked : ∀ q ∈ j.path, Inked q t) (apart : ∀ q ∈ j.path, t.placeOf p ≠ t.placeOf q)
    (es : List Entry) : (recordAll j es t).fetch p = t.fetch p := by
  induction es generalizing t with
  | nil => rfl
  | cons e rest ih =>
    have places : ∀ q, (j.record e t).placeOf q = t.placeOf q := placeOf_eq (j.record_here e t)
    refine (ih (fun q kept => inked_record kept e t) fun q kept => ?_).trans (record_fetch inked apart e)
    rw [places, places]
    exact apart q kept

/-! The journal beside a file that comes and goes. -/

/-- Shuffled trees in which the journal keeps clear of the file at `p`: its path leads neither to it nor through
it. -/
structure ShuffledApart (p : Path) (j : Journal) (base : Content) (t s : FileTree) : Prop
    extends Shuffled j base t s where
  off : ∀ q ∈ j.path, t.placeOf p ∉ t.wayOf q

structure ShuffledInk (p : Path) (j : Journal) (base : Content) (t s : FileTree) : Prop
    extends ShuffledApart p j base t s where
  inked : ∀ q ∈ j.path, Inked q t

theorem wayOf_eq (here : t'.here = t.here) (q : Path) : t'.wayOf q = t.wayOf q := by
  rw [wayOf, wayOf, origin_eq here]

theorem off_of_here (off : ∀ q ∈ j.path, t.placeOf p ∉ t.wayOf q) (here : t'.here = t.here) :
    ∀ q ∈ j.path, t'.placeOf p ∉ t'.wayOf q := by
  intro q kept
  rw [placeOf_eq here, wayOf_eq here]
  exact off q kept

namespace ShuffledApart

theorem symm (shuffled : ShuffledApart p j base t s) : ShuffledApart p j base s t :=
  ⟨shuffled.toShuffled.symm, off_of_here shuffled.off shuffled.here⟩

theorem trans (first : ShuffledApart p j base t s) (second : ShuffledApart p j base s t') :
    ShuffledApart p j base t t' :=
  ⟨first.toShuffled.trans second.toShuffled, first.off⟩

theorem apart (shuffled : ShuffledApart p j base t s) : ∀ q ∈ j.path, t.placeOf p ≠ t.placeOf q :=
  fun q kept same => shuffled.off q kept (same ▸ placeOf_mem_wayOf t q)

theorem record (shuffled : ShuffledApart p j base t s) (e : Entry) :
    ShuffledInk p j base (j.record e t) (j.record e s) :=
  ⟨⟨shuffled.toShuffled.record e, off_of_here shuffled.off (j.record_here e t)⟩,
    fun _ kept => inked_record kept e t⟩

end ShuffledApart

namespace ShuffledInk

variable (shuffled : ShuffledInk p j base t s)

include shuffled

theorem symm : ShuffledInk p j base s t :=
  ⟨shuffled.toShuffledApart.symm, fun q kept =>
    (shuffled.inked q kept).congr shuffled.here fun place _ => shuffled.shape? place⟩

theorem trans (second : ShuffledInk p j base s t') : ShuffledInk p j base t t' :=
  ⟨shuffled.toShuffledApart.trans second.toShuffledApart, shuffled.inked⟩

theorem set {content : Content} (stands : t.content? (t.placeOf p) = some content) (next : Content) :
    ShuffledInk p j base (t.set (t.placeOf p) (.file next)) (s.set (s.placeOf p) (.file next)) := by
  rw [content?_eq_some] at stands
  have free : t.node? (t.placeOf p) ≠ some .directory := by simp [stands]
  have inside := inside_of_node?_ne free
  have put := shuffled.toShuffled.set (.file next) inside shuffled.apart
  rw [placeOf_eq shuffled.here]
  exact ⟨⟨put, off_of_here shuffled.off rfl⟩, fun q kept => (shuffled.inked q kept).congr rfl
    fun place _ => shape?_set_file (shape?_eq_file.2 ⟨content, stands⟩) place⟩

theorem erase {content : Content} (stands : t.content? (t.placeOf p) = some content) :
    ShuffledInk p j base (t.erase (t.placeOf p)) (s.erase (s.placeOf p)) := by
  rw [content?_eq_some] at stands
  have free : t.node? (t.placeOf p) ≠ some .directory := by simp [stands]
  have inside := inside_of_node?_ne free
  have cut := shuffled.toShuffled.erase inside shuffled.apart
  rw [placeOf_eq shuffled.here]
  exact ⟨⟨cut, off_of_here shuffled.off rfl⟩, fun q kept => (shuffled.inked q kept).congr rfl
    (shape?_erase_off shuffled.off kept)⟩

end ShuffledInk

/-- Two lines leave the same behind in either order. -/
theorem ShuffledInk.swap (shuffled : ShuffledInk p j base t t) (e e' : Entry) :
    ShuffledInk p j base (j.record e' (j.record e t)) (j.record e (j.record e' t)) :=
  ⟨⟨record_record shuffled.inked shuffled.toShuffled e e',
    off_of_here shuffled.off ((j.record_here e' _).trans (j.record_here e t))⟩,
    fun _ kept => inked_record kept e' _⟩

end FileTree

end AgentHooks
