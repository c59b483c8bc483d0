import AgentHooks.Journal
import AgentHooks.Proofs.Files.Way
import AgentHooks.Proofs.Text.Lines

/-! Trees that differ only in the order of the lines that a journal has taken since some moment. No walk can tell
them apart, and lines that are added to both keep them so. -/

namespace AgentHooks

namespace Text

def SameLines (text other : String) : Prop :=
  (lines text.toList).Perm (lines other.toList)

end Text

open Text

/-- What stands at a journal's place in two trees: nothing, a directory, or files that go on from `base` with
whole lines, the same in both but for their order. -/
inductive Reordered (base : Content) : Option Node → Option Node → Prop where
  | absent : base = "" → Reordered base none none
  | directory : Reordered base (some .directory) (some .directory)
  | lines {node node' : Option Node} (added added' : String) (left : node = some (.file (base ++ added)))
    (right : node' = some (.file (base ++ added'))) (whole : Whole added) (whole' : Whole added')
    (same : SameLines added added') : Reordered base node node'

namespace Reordered

variable {base content content' : Content} {node node' node'' : Option Node}

theorem symm (reordered : Reordered base node node') : Reordered base node' node := by
  cases reordered with
  | absent blank => exact .absent blank
  | directory => exact .directory
  | lines added added' left right whole whole' same => exact .lines added' added right left whole' whole same.symm

theorem trans (first : Reordered base node node') (second : Reordered base node' node'') :
    Reordered base node node'' := by
  cases first with
  | absent blank => exact second
  | directory => exact second
  | lines added added' left right whole whole' same =>
    cases second with
    | absent => cases right
    | directory => cases right
    | lines next next' left' right' _ whole'' same' =>
      rw [left', Option.some_inj, Node.file.injEq, Content.append_right_inj] at right
      subst right
      exact .lines added next' left right' whole whole'' (same.trans same')

theorem add (reordered : Reordered base (some (.file content)) (some (.file content'))) {line : String}
    (whole : Whole line) : Reordered base (some (.file (content ++ line))) (some (.file (content' ++ line))) := by
  cases reordered with
  | lines added added' left right before before' same =>
    cases left
    cases right
    refine .lines (added ++ line) (added' ++ line) ?_ ?_ (before.append whole) (before'.append whole) ?_
    · rw [Content.append_assoc]
    · rw [Content.append_assoc]
    · rw [SameLines, lines_append before, lines_append before']
      exact same.append_right _

theorem swap (reordered : Reordered base (some (.file content)) (some (.file content'))) {line line' : String}
    (whole : Whole line) (whole' : Whole line') :
    Reordered base (some (.file (content ++ line ++ line'))) (some (.file (content' ++ line' ++ line))) := by
  cases reordered with
  | lines added added' left right before before' same =>
    cases left
    cases right
    have both := before.append whole
    have both' := before'.append whole'
    refine .lines (added ++ line ++ line') (added' ++ line' ++ line) ?_ ?_ (both.append whole')
      (both'.append whole) ?_
    · simp only [Content.append_assoc, String.append_assoc]
    · simp only [Content.append_assoc, String.append_assoc]
    · rw [SameLines, lines_append both, lines_append both', lines_append before, lines_append before',
        List.append_assoc, List.append_assoc]
      exact same.append List.perm_append_comm

end Reordered

namespace FileTree

theorem shape?_of_reordered {base : Content} {t s : FileTree} {place : Place}
    (reordered : Reordered base (t.node? place) (s.node? place)) : s.shape? place = t.shape? place := by
  rw [shape?, shape?]
  generalize t.node? place = node at reordered ⊢
  generalize s.node? place = node' at reordered ⊢
  cases reordered with
  | absent => rfl
  | directory => rfl
  | lines added added' left right =>
    rw [left, right]
    rfl

theorem reordered_start (t : FileTree) (place : Place) :
    Reordered ((t.content? place).getD "") (t.node? place) (t.node? place) := by
  rw [content?]
  cases t.node? place with
  | none => exact .absent rfl
  | some node =>
    cases node with
    | directory => exact .directory
    | file content =>
      exact .lines "" "" (by rw [Content.append_empty]; rfl) (by rw [Content.append_empty]; rfl) (.inl rfl) (.inl rfl)
        (.refl _)

theorem node?_set (t : FileTree) (node : Node) {place : Place} (inside : place ≠ []) (other : Place) :
    (t.set place node).node? other = if other = place then some node else t.node? other := by
  split
  next same => rw [same, node?_set_self t node inside]
  next apart => exact node?_set_other t node apart

theorem node?_erase (t : FileTree) {place : Place} (inside : place ≠ []) (other : Place) :
    (t.erase place).node? other = if other = place then none else t.node? other := by
  split
  next same => rw [same, node?_erase_self inside]
  next apart => exact node?_erase_other t apart

/-- Trees that differ at most in the journal, and there in the order of the lines that came after `base`. -/
structure Shuffled (j : Journal) (base : Content) (t s : FileTree) : Prop where
  here : s.here = t.here
  others : ∀ place, (∀ q ∈ j.path, place ≠ t.placeOf q) → s.node? place = t.node? place
  journal : ∀ q ∈ j.path, Reordered base (t.node? (t.placeOf q)) (s.node? (t.placeOf q))

variable {j : Journal} {base : Content} {t s r : FileTree} {p q : Path} {place : Place}

namespace Shuffled

theorem symm (shuffled : Shuffled j base t s) : Shuffled j base s t where
  here := shuffled.here.symm
  others place elsewhere := by
    refine (shuffled.others place fun q kept => ?_).symm
    rw [← placeOf_eq shuffled.here]
    exact elsewhere q kept
  journal q kept := by
    rw [placeOf_eq shuffled.here]
    exact (shuffled.journal q kept).symm

theorem trans (first : Shuffled j base t s) (second : Shuffled j base s r) : Shuffled j base t r where
  here := second.here.trans first.here
  others place elsewhere := by
    refine (second.others place fun q kept => ?_).trans (first.others place elsewhere)
    rw [placeOf_eq first.here]
    exact elsewhere q kept
  journal q kept := by
    have later := second.journal q kept
    rw [placeOf_eq first.here] at later
    exact (first.journal q kept).trans later

theorem shape? (shuffled : Shuffled j base t s) (place : Place) : s.shape? place = t.shape? place := by
  by_cases elsewhere : ∀ q ∈ j.path, place ≠ t.placeOf q
  · rw [FileTree.shape?, shuffled.others place elsewhere, FileTree.shape?]
  · simp only [Classical.not_forall, Classical.not_not] at elsewhere
    obtain ⟨q, kept, rfl⟩ := elsewhere
    exact shape?_of_reordered (shuffled.journal q kept)

theorem resolve (shuffled : Shuffled j base t s) (p : Path) : s.resolve p = t.resolve p :=
  resolve_congr shuffled.here fun place _ => shuffled.shape? place

/-- A file that is not the journal holds the same. -/
theorem fetch (shuffled : Shuffled j base t s) (apart : ∀ q ∈ j.path, t.placeOf p ≠ t.placeOf q) :
    s.fetch p = t.fetch p := by
  simp only [FileTree.fetch, shuffled.resolve p, bind, Except.bind]
  cases resolved : t.resolve p with
  | error e => rfl
  | ok place =>
    rw [← resolve_eq_placeOf resolved] at apart
    simp only [shuffled.others place apart]

theorem set (shuffled : Shuffled j base t s) (node : Node) (inside : place ≠ [])
    (apart : ∀ q ∈ j.path, place ≠ t.placeOf q) : Shuffled j base (t.set place node) (s.set place node) where
  here := shuffled.here
  others other elsewhere := by
    rw [node?_set _ _ inside, node?_set _ _ inside]
    split
    · rfl
    · exact shuffled.others other elsewhere
  journal q kept := by
    have there : (t.set place node).placeOf q = t.placeOf q := placeOf_eq rfl q
    rw [there, node?_set_other _ _ (apart q kept).symm, node?_set_other _ _ (apart q kept).symm]
    exact shuffled.journal q kept

theorem erase (shuffled : Shuffled j base t s) (inside : place ≠ [])
    (apart : ∀ q ∈ j.path, place ≠ t.placeOf q) : Shuffled j base (t.erase place) (s.erase place) where
  here := shuffled.here
  others other elsewhere := by
    rw [node?_erase _ inside, node?_erase _ inside]
    split
    · rfl
    · exact shuffled.others other elsewhere
  journal q kept := by
    have there : (t.erase place).placeOf q = t.placeOf q := placeOf_eq rfl q
    rw [there, node?_erase_other _ (apart q kept).symm, node?_erase_other _ (apart q kept).symm]
    exact shuffled.journal q kept

theorem setDirectory (shuffled : Shuffled j base t s) (inside : place ≠ []) :
    Shuffled j base (t.set place .directory) (s.set place .directory) where
  here := shuffled.here
  others other elsewhere := by
    rw [node?_set _ _ inside, node?_set _ _ inside]
    split
    · rfl
    · exact shuffled.others other elsewhere
  journal q kept := by
    have there : (t.set place .directory).placeOf q = t.placeOf q := placeOf_eq rfl q
    rw [there, node?_set _ _ inside, node?_set _ _ inside]
    split
    · exact .directory
    · exact shuffled.journal q kept

theorem setJournal (shuffled : Shuffled j base t s) (kept : q ∈ j.path) (content content' : Content)
    (free : t.node? (t.placeOf q) ≠ some .directory)
    (reordered : Reordered base (some (.file content)) (some (.file content'))) :
    Shuffled j base (t.set (t.placeOf q) (.file content)) (s.set (t.placeOf q) (.file content')) where
  here := shuffled.here
  others other elsewhere := by
    have apart : other ≠ t.placeOf q := elsewhere q kept
    rw [node?_set_other _ _ apart, node?_set_other _ _ apart]
    exact shuffled.others other elsewhere
  journal q' kept' := by
    have inside := inside_of_node?_ne free
    have same : q' = q := Option.some_inj.1 ((Option.mem_def.1 kept').symm.trans (Option.mem_def.1 kept))
    have there : (t.set (t.placeOf q) (.file content)).placeOf q' = t.placeOf q := by
      rw [same]
      exact placeOf_eq rfl q
    rw [there, node?_set_self _ _ inside, node?_set_self _ _ inside]
    exact reordered

end Shuffled

theorem shuffled_start (j : Journal) (t : FileTree) :
    Shuffled j (((j.path.map t.placeOf).bind t.content?).getD "") t t where
  here := rfl
  others _ _ := rfl
  journal q kept := by
    rw [Option.mem_def.1 kept]
    exact reordered_start t _

end FileTree

end AgentHooks
