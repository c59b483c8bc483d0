import AgentHooks.Proofs.Files.Ink
import AgentHooks.Proofs.World.Quiet

/-! The journal as part of the world. Where it can be written at all it takes every line, the first one and those after
it, and where it keeps clear of the loop's file neither of the two files ever shows what is done to the other. -/

namespace AgentHooks

namespace FileTree

variable {t : FileTree} {q : Path} {place : Place} {j : Journal}

/-- A text can be added to a file, once the directories that it needs are made. -/
def Writable (q : Path) (t : FileTree) : Prop :=
  (t.makeParents q).1.isOk = true ∧ ((t.makeParents q).2.append q "").isOk = true

instance (q : Path) (t : FileTree) : Decidable (Writable q t) :=
  inferInstanceAs (Decidable (_ ∧ _))

theorem Takes.writable (takes : Takes q t) : Writable q t := by
  obtain ⟨old, found⟩ := shape?_eq_file.1 takes.file
  rw [Writable, takes.parents]
  refine ⟨rfl, ?_⟩
  simp only [append, takes.resolves, bind, Except.bind, found]
  rfl

/-- A journal that takes lines has directories on its way, so a file that stands elsewhere stands off its way. -/
theorem Takes.off (takes : Takes q t) {content : Content} (stands : t.content? place = some content)
    (apart : t.placeOf q ≠ place) : place ∉ t.wayOf q := by
  intro member
  have standing := directory_of_wayOf takes.resolves member apart.symm
  rw [content?_of_directory standing] at stands
  cases stands

theorem Takes.set (takes : Takes q t) {content : Content} (stands : t.content? place = some content) (next : String) :
    Takes q (t.set place (.file next)) :=
  takes.congr rfl fun other _ => shape?_set_file (shape?_eq_file.2 ⟨content, content?_eq_some.1 stands⟩) other

theorem Takes.erase (takes : Takes q t) (off : place ∉ t.wayOf q) : Takes q (t.erase place) := by
  have off' : ∀ q' ∈ (⟨some q⟩ : Journal).path, place ∉ t.wayOf q' := by
    rintro _ ⟨⟩
    exact off
  exact takes.congr rfl (shape?_erase_off off' rfl)

theorem append_of_append {text : String} (accepts : (t.append q text).isOk = true) (more : String) :
    ∃ place, t.resolve q = .ok place ∧ t.node? place ≠ some .directory ∧
      t.append q more = .ok (t.set place (.file ((t.content? place).getD (.text "") ++ more))) := by
  simp only [append, bind, Except.bind] at accepts ⊢
  cases resolved : t.resolve q with
  | error e =>
    rw [resolved] at accepts
    cases accepts
  | ok place =>
    rw [resolved] at accepts
    refine ⟨place, rfl, ?_⟩
    cases found : t.node? place with
    | none => simp [content?, found, Content.empty_append]
    | some node =>
      cases node with
      | directory =>
        simp only [found] at accepts
        cases accepts
      | file old => simp [content?, found]

/-- A line reaches a file that can be written, even if it is the first one, and leaves it ready for the next. -/
theorem record_of_writable (kept : j.path = some q) (writable : Writable q t) (e : Entry) :
    Takes q (j.record e t) ∧
      (j.record e t).content? (t.placeOf q) = some ((t.content? (t.placeOf q)).getD (.text "") ++ (e.line ++ "\n")) := by
  obtain ⟨ready, accepts⟩ := writable
  have spared := makeParents_spares t (t.placeOf q) q
  rcases parents : t.makeParents q with ⟨e' | ⟨⟨⟩⟩, made⟩
  · rw [parents] at ready
    cases ready
  rw [parents] at accepts spared
  obtain ⟨place, resolved, free, added⟩ := append_of_append accepts (e.line ++ "\n")
  have own : place = t.placeOf q := (resolve_eq_placeOf resolved).trans (placeOf_eq spared.here q)
  have recorded : j.record e t = made.set place (.file ((made.content? place).getD (.text "") ++ (e.line ++ "\n"))) := by
    simp only [Journal.record, kept, parents, added]
  have there : (j.record e t).placeOf q = place := by
    rw [own]
    exact placeOf_eq (j.record_here e t) q
  have grows := grows_set (.file ((made.content? place).getD (.text "") ++ (e.line ++ "\n"))) free
  rw [← recorded] at grows
  refine ⟨⟨makeParents_again parents grows, ?_, ?_⟩, ?_⟩
  · rw [there]
    exact grows.resolve resolved
  · rw [there, shape?_eq_file, recorded]
    exact ⟨_, node?_set_self made _ (inside_of_node?_ne free)⟩
  · rw [recorded, ← own, content?_set_self free, own, spared.content]

end FileTree

namespace World

open FileTree

variable {w w' : World}

def journalContent (w : World) : Content :=
  ((w.journal.path.map w.files.placeOf).bind w.files.content?).getD (.text "")

def Writable (w : World) : Prop :=
  ∃ q, w.journal.path = some q ∧ FileTree.Writable q w.files

def Begun (w : World) : Prop :=
  ∃ q, w.journal.path = some q ∧ Takes q w.files

theorem Begun.writable (begun : w.Begun) : w.Writable := by
  obtain ⟨q, kept, takes⟩ := begun
  exact ⟨q, kept, takes.writable⟩

theorem journalContent_congr (journal : w'.journal = w.journal) (here : w'.files.here = w.files.here)
    (own : ∀ q ∈ w.journal.path,
      w'.files.content? (w.files.placeOf q) = w.files.content? (w.files.placeOf q)) :
    w'.journalContent = w.journalContent := by
  rw [journalContent, journalContent, journal]
  cases kept : w.journal.path with
  | none => rfl
  | some q => simp only [Option.map_some, Option.bind_some, placeOf_eq here, own q kept]

/-- A line stands at the end of the journal, which is begun with it if it was not before. -/
theorem remark_of_writable (writable : w.Writable) (r : Remark) :
    (w.remark r).Begun ∧ (w.remark r).journalContent = w.journalContent ++ ((⟨w.now, r⟩ : Entry).line ++ "\n") := by
  obtain ⟨q, kept, free⟩ := writable
  obtain ⟨takes, added⟩ := record_of_writable kept free ⟨w.now, r⟩
  have files : (w.remark r).files = w.journal.record ⟨w.now, r⟩ w.files := rfl
  have journal : (w.remark r).journal = w.journal := rfl
  have here := placeOf_eq (w.journal.record_here ⟨w.now, r⟩ w.files) q
  rw [← files] at takes added here
  refine ⟨⟨q, kept, takes⟩, ?_⟩
  simp only [journalContent, journal, kept, Option.map_some, Option.bind_some, here, added, Option.getD_some]

end World

end AgentHooks
