import AgentHooks.Proofs.Json.Print

/-! A document behind other text. Whatever stands in front of it, a text that ends with a whole document is a document
only if that is all there is: what was open before it stays open, and what was closed before it takes nothing more. -/

namespace AgentHooks.Json

def isSpace (c : Char) : Bool :=
  c == ' ' || c == '\n' || c == '\t' || c == '\r'

/-! Tokens behind tokens. -/

namespace Reading

/-- A reading that has begun and is not the whole document yet has something open. -/
def Busy (r : Reading) : Prop :=
  ∀ stack awaits, r = going stack awaits → stack ≠ []

theorem busy_going {frame : Frame} {stack : List Frame} {awaits : Awaits} : Busy (going (frame :: stack) awaits) := by
  rintro _ _ ⟨⟩
  exact List.cons_ne_nil _ _

theorem give_busy {value : Json} {stack : List Frame} {r : Reading} (given : give value stack = some r) : Busy r := by
  unfold give at given
  split at given
  · cases given
    exact fun _ _ same => nomatch same
  · cases given
    exact busy_going
  · cases given
    exact busy_going
  · cases given

theorem open?_busy {stack : List Frame} {t : Token} {r : Reading} (opened : open? stack t = some r) : Busy r := by
  unfold open? at opened
  split at opened
  · cases opened
    exact busy_going
  · cases opened
    exact busy_going
  · exact give_busy opened
  · exact give_busy opened
  · exact give_busy opened
  · cases opened

theorem close_busy {stack : List Frame} {r : Reading}
    (closed : closeArray stack = some r ∨ closeObject stack = some r) : Busy r := by
  rcases closed with closed | closed
  · unfold closeArray at closed
    split at closed
    · exact give_busy closed
    · cases closed
  · unfold closeObject at closed
    split at closed
    · exact give_busy closed
    · cases closed

theorem step_busy {r r' : Reading} {t : Token} (begun : r = start ∨ Busy r) (stepped : step r t = some r') :
    Busy r' := by
  unfold step at stepped
  split at stepped
  · cases stepped
  next stack awaits =>
    split at stepped
    · exact open?_busy stepped
    · exact close_busy (.inl stepped)
    · exact open?_busy stepped
    · cases stepped
      exact busy_going
    · cases stepped
      exact busy_going
    · exact close_busy (.inr stepped)
    next =>
      cases stepped
      rcases begun with first | busy
      · cases first
      · rintro _ _ ⟨⟩
        exact busy _ _ rfl
    next =>
      unfold next at stepped
      split at stepped
      · cases stepped
        exact busy_going
      · cases stepped
        exact busy_going
      · cases stepped
    · exact close_busy (.inl stepped)
    · exact close_busy (.inr stepped)
    · cases stepped

theorem foldlM_busy {ts : List Token} {r r' : Reading} (begun : r = start ∨ Busy r) (some' : ts ≠ [])
    (read : ts.foldlM step r = some r') : Busy r' := by
  induction ts generalizing r with
  | nil => exact absurd rfl some'
  | cons t rest ih =>
    rw [List.foldlM_cons] at read
    obtain ⟨next, stepped, read⟩ := Option.bind_eq_some_iff.1 read
    have busy := step_busy begun stepped
    cases rest with
    | nil =>
      cases read
      exact busy
    | cons t' more => exact ih (.inr busy) (List.cons_ne_nil _ _) read

theorem finish_tokens (j : Json) {r : Reading} (busy : Busy r) : (j.tokens.foldlM step r).bind finish = none := by
  have given : ∀ {stack : List Frame} (value : Json), stack ≠ [] → (give value stack).bind finish = none := by
    intro stack value some'
    unfold give
    split
    · exact absurd rfl some'
    all_goals rfl
  cases r with
  | done value => cases j <;> rfl
  | going stack awaits =>
    have some' := busy _ _ rfl
    cases awaits with
    | value =>
      rw [foldlM_tokens]
      exact given _ some'
    | firstItem =>
      have same := foldlM_firstItem j [] stack
      rw [List.append_nil] at same
      rw [same, foldlM_tokens]
      exact given _ some'
    | name | firstName | colon | separator => cases j <;> rfl

end Reading

theorem ofTokens?_behind {front : List Token} (some' : front ≠ []) (j : Json) :
    ofTokens? (front ++ j.tokens) = none := by
  rw [ofTokens?, List.foldlM_append]
  cases read : front.foldlM Reading.step Reading.start with
  | none => rfl
  | some r => exact Reading.finish_tokens j (Reading.foldlM_busy (.inl rfl) some' read)

/-! Characters behind characters. -/

namespace Scan

def Begun (s : Scan) : Prop :=
  s.lexeme = .blank → s.tokens ≠ []

theorem begun_of_lexeme {s : Scan} (inside : s.lexeme ≠ .blank) : Begun s :=
  fun blank => absurd blank inside

theorem begun_push (s : Scan) (t : Token) : Begun (s.push t) :=
  fun _ => List.cons_ne_nil _ _

theorem begin_spec {s s' : Scan} {c : Char} (next : s.begin c = some s') :
    isSpace c = true ∧ s' = s ∨ isSpace c = false ∧ Begun s' := by
  unfold begin at next
  split at next
  case h_12 _ space feed tab return' _ _ _ _ _ _ _ =>
    have apart : c ≠ ' ' ∧ c ≠ '\n' ∧ c ≠ '\t' ∧ c ≠ '\r' := ⟨space, feed, tab, return'⟩
    have filled : isSpace c = false := by simp [isSpace, apart]
    refine .inr ⟨filled, ?_⟩
    split at next
    · cases next
      exact begun_of_lexeme nofun
    · split at next
      · cases next
        exact begun_of_lexeme nofun
      · cases next
  case h_11 =>
    cases next
    exact .inr ⟨rfl, begun_of_lexeme nofun⟩
  case h_1 | h_2 | h_3 | h_4 =>
    cases next
    exact .inl ⟨rfl, rfl⟩
  all_goals
    cases next
    exact .inr ⟨rfl, begun_push s _⟩

theorem settle_begun {s s' : Scan} (begun : Begun s) (settled : s.settle = some s') : s'.tokens ≠ [] := by
  unfold settle at settled
  split at settled
  next blank =>
    cases settled
    exact begun blank
  · obtain ⟨value, -, rfl⟩ := Option.map_eq_some_iff.1 settled
    exact List.cons_ne_nil _ _
  · obtain ⟨n, -, rfl⟩ := Option.map_eq_some_iff.1 settled
    exact List.cons_ne_nil _ _
  · cases settled

theorem step_begun {s s' : Scan} {c : Char} (begun : Begun s) (stepped : s.step c = some s') : Begun s' := by
  have settles : (s.settle.bind (·.begin c)) = some s' → Begun s' := by
    intro onwards
    obtain ⟨settled, done, next⟩ := Option.bind_eq_some_iff.1 onwards
    rcases begin_spec next with ⟨-, rfl⟩ | ⟨-, begun'⟩
    · exact fun _ => settle_begun begun done
    · exact begun'
  unfold step at stepped
  split at stepped
  next blank =>
    rcases begin_spec stepped with ⟨-, rfl⟩ | ⟨-, begun'⟩
    · exact begun
    · exact begun'
  · split at stepped
    · cases stepped
      exact begun_of_lexeme nofun
    · exact settles stepped
  · split at stepped
    · cases stepped
      exact begun_of_lexeme nofun
    · exact settles stepped
  · split at stepped
    · cases stepped
      exact begun_push _ _
    · cases stepped
      exact begun_of_lexeme nofun
    · split at stepped
      · cases stepped
      · cases stepped
        exact begun_of_lexeme nofun
  · split at stepped
    · cases stepped
      exact begun_of_lexeme nofun
    · obtain ⟨e, -, rfl⟩ := Option.map_eq_some_iff.1 stepped
      exact begun_of_lexeme nofun
  · obtain ⟨d, -, rfl⟩ := Option.map_eq_some_iff.1 stepped
    split
    · exact begun_of_lexeme nofun
    · exact begun_of_lexeme nofun

theorem foldlM_begun {cs : List Char} {s s' : Scan} (begun : Begun s) (scanned : cs.foldlM step s = some s') :
    Begun s' := by
  induction cs generalizing s with
  | nil =>
    cases scanned
    exact begun
  | cons c rest ih =>
    rw [List.foldlM_cons] at scanned
    obtain ⟨next, stepped, scanned⟩ := Option.bind_eq_some_iff.1 scanned
    exact ih (step_begun begun stepped) scanned

theorem step_space {c : Char} (space : isSpace c = true) (ts : List Token) :
    (⟨.blank, ts⟩ : Scan).step c = some ⟨.blank, ts⟩ := by
  simp only [isSpace, Bool.or_eq_true, beq_iff_eq] at space
  rcases space with ((rfl | rfl) | rfl) | rfl <;> rfl

theorem foldlM_spaces {cs : List Char} (blank : cs.all isSpace = true) (ts : List Token) :
    cs.foldlM step ⟨.blank, ts⟩ = some ⟨.blank, ts⟩ := by
  induction cs with
  | nil => rfl
  | cons c rest ih =>
    obtain ⟨first, others⟩ := Bool.and_eq_true_iff.1 blank
    rw [List.foldlM_cons, step_space first]
    exact ih others

/-- A text that does not go on from inside a string: there it cannot be read to its end. -/
def Jams (cs : List Char) : Prop :=
  ∀ units ts, cs.foldlM step ⟨.string units, ts⟩ = none

theorem settle_blank {s s' : Scan} (settled : s.settle = some s') : s' = ⟨.blank, s'.tokens⟩ := by
  unfold settle at settled
  split at settled
  next blank =>
    cases settled
    rw [← blank]
  · obtain ⟨value, -, rfl⟩ := Option.map_eq_some_iff.1 settled
    rfl
  · obtain ⟨n, -, rfl⟩ := Option.map_eq_some_iff.1 settled
    rfl
  · cases settled

/-- Where a token is open that nothing can end here, no object can be read. -/
theorem foldlM_brace {cs : List Char} (jams : Jams ('\x7b' :: cs)) {s : Scan} (open' : s.settle = none) :
    ('\x7b' :: cs).foldlM step s = none := by
  obtain ⟨lexeme, ts⟩ := s
  cases lexeme with
  | blank => cases open'
  | word letters =>
    have stuck : (⟨.word letters, ts⟩ : Scan).step '\x7b' = none := by
      simp only [step, open', Option.bind_none]
      rfl
    rw [List.foldlM_cons, stuck]
    rfl
  | numeral chars =>
    have stuck : (⟨.numeral chars, ts⟩ : Scan).step '\x7b' = none := by
      simp only [step, open', Option.bind_none]
      rfl
    rw [List.foldlM_cons, stuck]
    rfl
  | string units => exact jams units ts
  | escape units => rfl
  | hex units missing unit => rfl

end Scan

theorem tokens?_eq_nil_iff {cs : List Char} : tokens? cs = some [] ↔ cs.all isSpace = true := by
  constructor
  · intro none'
    induction cs with
    | nil => rfl
    | cons c rest ih =>
      obtain ⟨s, scanned, settled⟩ := Option.bind_eq_some_iff.1 none'
      obtain ⟨s', settled, untold⟩ := Option.map_eq_some_iff.1 settled
      rw [List.foldlM_cons] at scanned
      obtain ⟨first, stepped, later⟩ := Option.bind_eq_some_iff.1 scanned
      rcases Scan.begin_spec stepped with ⟨space, rfl⟩ | ⟨-, begun⟩
      · have others : tokens? rest = some [] := by
          rw [tokens?, later, Option.bind_some, settled, Option.map_some, untold]
        rw [List.all_cons, space, ih others]
        rfl
      · have told := Scan.settle_begun (Scan.foldlM_begun begun later) settled
        exact absurd (List.reverse_eq_nil_iff.1 untold) told
  · intro blank
    rw [tokens?, Scan.empty, Scan.foldlM_spaces blank]
    rfl

/-- What stands in front of an object has its tokens in front of the object's, wherever it breaks off. -/
theorem tokens?_behind {cs : List Char} {ts : List Token} (spells : Scan.Spells ('\x7b' :: cs) ts)
    (jams : Scan.Jams ('\x7b' :: cs)) (front : List Char) :
    tokens? (front ++ '\x7b' :: cs) = (tokens? front).map (· ++ ts) := by
  have ends : IsEnd '\x7b' := by
    constructor <;> decide
  rw [tokens?, tokens?, List.foldlM_append]
  cases front.foldlM Scan.step Scan.empty with
  | none => rfl
  | some s =>
    change (('\x7b' :: cs).foldlM Scan.step s).bind _ = _
    rw [Option.bind_some]
    cases settled : s.settle with
    | none =>
      rw [Scan.foldlM_brace jams settled]
      rfl
    | some s' =>
      have blank := Scan.settle_blank settled
      rw [blank] at settled
      obtain ⟨last, onwards, settled'⟩ := spells s'.tokens
      rw [Scan.foldlM_of_settle settled ends, onwards, Option.bind_some, settled', Option.map_some, Option.map_some,
        Option.map_some, List.reverse_append, List.reverse_reverse]

/-- An object's text behind another text is a document only if nothing but blanks stands in front of it. -/
theorem document?_behind {cs : List Char} {j : Json} (spells : Scan.Spells ('\x7b' :: cs) j.tokens)
    (jams : Scan.Jams ('\x7b' :: cs)) (front : List Char) :
    document? (String.ofList (front ++ '\x7b' :: cs)) = if front.all isSpace then some (j.cut 0) else none := by
  rw [document?, String.toList_ofList, tokens?_behind spells jams]
  split
  next blank =>
    rw [tokens?_eq_nil_iff.2 blank, Option.map_some, List.nil_append, Option.bind_some, ofTokens?_tokens]
  next filled =>
    cases scanned : tokens? front with
    | none => rfl
    | some ts =>
      have some' : ts ≠ [] := by
        rintro rfl
        exact filled (tokens?_eq_nil_iff.1 scanned)
      exact ofTokens?_behind some' j

end AgentHooks.Json
