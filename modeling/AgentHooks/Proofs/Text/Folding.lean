import AgentHooks.Proofs.Loop.Marker

/-! Texts that differ in case only. Folding turns blanks into blanks and nothing else into a blank, so such texts have
their blanks at the same places, and what is left of them when they are trimmed differs in case only too. -/

namespace AgentHooks.Text

variable {cs ds front back : List Char}

theorem foldRuns_miss : ∀ run ∈ foldRuns, ∀ n ∈ blanks,
    (n : Int) - run.shift < run.first ∨ run.last < n - run.shift := by
  decide +kernel

/-- A table that keeps the blanks and has no run that leads to one tells blanks from other characters. -/
theorem isBlank_mapByRuns {runs : List CaseRun}
    (miss : ∀ run ∈ runs, ∀ n ∈ blanks, (n : Int) - run.shift < run.first ∨ run.last < n - run.shift)
    (keep : ∀ n ∈ blanks, mapByRuns runs (Char.ofNat n) = Char.ofNat n) (c : Char) :
    isBlank (mapByRuns runs c) = isBlank c := by
  cases blank : isBlank c with
  | true =>
    have kept := keep c.toNat (mem_blanks blank)
    rw [Char.ofNat_toNat] at kept
    rw [kept, blank]
  | false =>
    refine Bool.eq_false_iff.2 fun moved => ?_
    unfold mapByRuns at moved
    split at moved
    next run found =>
      have listed : run ∈ runs := List.mem_of_find?_eq_some found
      have covered : run.covers c.toNat = true :=
        List.find?_some (p := fun r : CaseRun => r.covers c.toNat) found
      have target := mem_blanks moved
      have positive : ∀ n ∈ blanks, n ≠ 0 := by decide
      -- A number that is no character's would stand for the character 0, which is no blank.
      have valid : (c.toNat + run.shift).toNat.isValidChar := by
        refine Decidable.not_not.1 fun invalid => ?_
        have zero : Char.ofNat (c.toNat + run.shift).toNat = '\x00' := dif_neg invalid
        rw [zero] at target
        exact positive _ target rfl
      have there : Char.ofNat (c.toNat + run.shift).toNat = Char.ofNatAux _ valid := dif_pos valid
      rw [there] at target
      change (c.toNat + run.shift).toNat ∈ blanks at target
      simp only [CaseRun.covers, Bool.and_eq_true, decide_eq_true_eq] at covered
      have missed := miss run listed _ target
      have above := positive _ target
      omega
    next =>
      rw [blank] at moved
      cases moved

theorem isBlank_fold (c : Char) : isBlank (fold c) = isBlank c :=
  isBlank_mapByRuns foldRuns_miss (by decide +kernel) c

/-! What agrees up to case. -/

theorem Alike.symm (alike : Alike cs ds) : Alike ds cs :=
  Eq.symm alike

theorem Alike.trans {es : List Char} (first : Alike cs ds) (second : Alike ds es) : Alike cs es :=
  Eq.trans first second

theorem Alike.cut (alike : Alike (front ++ back) ds) :
    ∃ front' back', ds = front' ++ back' ∧ Alike front front' ∧ Alike back back' := by
  have folded : ds.map fold = front.map fold ++ back.map fold := by
    rw [← List.map_append]
    exact alike.symm
  obtain ⟨front', back', split, fronts, backs⟩ := List.map_eq_append_iff.1 folded
  exact ⟨front', back', split, fronts.symm, backs.symm⟩

theorem AllBlank.of_alike (allBlank : AllBlank cs) (alike : Alike cs ds) : AllBlank ds := by
  intro d member
  have there : fold d ∈ cs.map fold := by
    rw [show cs.map fold = ds.map fold from alike]
    exact List.mem_map_of_mem member
  obtain ⟨c, blank, same⟩ := List.mem_map.1 there
  rw [← isBlank_fold d, ← same, isBlank_fold]
  exact allBlank c blank

theorem dropWhile_fold (cs : List Char) : (cs.map fold).dropWhile isBlank = (cs.dropWhile isBlank).map fold := by
  rw [List.dropWhile_map]
  refine congrArg (fun p => (cs.dropWhile p).map fold) ?_
  exact funext isBlank_fold

theorem trimBlank_fold (cs : List Char) : trimBlank (cs.map fold) = (trimBlank cs).map fold := by
  simp only [trimBlank, dropEnd, dropWhile_fold, ← List.map_reverse]

theorem Alike.trimBlank (alike : Alike cs ds) : Alike (trimBlank cs) (trimBlank ds) := by
  unfold Alike
  rw [← trimBlank_fold, ← trimBlank_fold]
  exact congrArg Text.trimBlank alike

end AgentHooks.Text
