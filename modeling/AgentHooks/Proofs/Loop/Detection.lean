import AgentHooks.Proofs.Text.Folding

/-! Which replies signal that a loop is done, in full: the tags and the token between them, blanks around the token,
anything before and after, and all of it without regard to case. -/

namespace AgentHooks.Marker

open Text (AllBlank)

variable {m m' : Marker} {text text' : List Char}

structure Alike (m m' : Marker) : Prop where
  opening : Text.Alike m.opening m'.opening
  token : Text.Alike m.token m'.token
  closing : Text.Alike m.closing m'.closing

theorem Alike.symm (alike : Alike m m') : Alike m' m :=
  ⟨alike.opening.symm, alike.token.symm, alike.closing.symm⟩

theorem Spells.of_alike (marks : Alike m m') (texts : Text.Alike text text') (spelled : m.Spells text) :
    m'.Spells text' := by
  obtain ⟨opening, front, token, back, closing, hopening, hfront, htoken, hback, hclosing, rfl⟩ := spelled
  obtain ⟨opening', rest, rfl, openings, texts⟩ := texts.cut
  obtain ⟨front', rest, rfl, fronts, texts⟩ := texts.cut
  obtain ⟨token', rest, rfl, tokens, texts⟩ := texts.cut
  obtain ⟨back', closing', rfl, backs, closings⟩ := texts.cut
  exact ⟨opening', front', token', back', closing', (marks.opening.symm.trans hopening).trans openings,
    hfront.of_alike fronts, (marks.token.symm.trans htoken).trans tokens, hback.of_alike backs,
    (marks.closing.symm.trans hclosing).trans closings, rfl⟩

theorem occursIn_of_alike (marks : Alike m m') (texts : Text.Alike text text') (found : m.occursIn text = true) :
    m'.occursIn text' = true := by
  obtain ⟨before, mark, rest, spelled, rfl⟩ := (m.occursIn_iff text).1 found
  obtain ⟨before', later, rfl, -, texts⟩ := texts.cut
  obtain ⟨mark', rest', rfl, same, -⟩ := texts.cut
  exact (m'.occursIn_iff _).2 ⟨before', mark', rest', spelled.of_alike marks same, rfl⟩

/-- Neither the case of a text nor that of the mark decides whether the text carries it. -/
theorem occursIn_congr (marks : Alike m m') (texts : Text.Alike text text') :
    m'.occursIn text' = m.occursIn text :=
  Bool.eq_iff_iff.2 ⟨occursIn_of_alike marks.symm texts.symm, occursIn_of_alike marks texts⟩

/-- Without the blanks around it a promise is its token, and `DONE` is the token of one that says nothing. -/
theorem ofMode_promise (promise : String) :
    ofMode .promise promise = ⟨"<promise>".toList,
      (if Text.trim promise = "" then "DONE" else Text.trim promise).toList, "</promise>".toList⟩ := by
  refine congrArg (Marker.mk _ · _) ?_
  unfold promiseToken
  split
  next blank => rw [if_pos ((Text.trim_eq_empty_iff promise).2 blank)]
  next said => rw [if_neg fun blank => said ((Text.trim_eq_empty_iff promise).1 blank), Text.toList_trim]

theorem promiseToken_alike {promise promise' : String} (alike : Text.Alike promise.toList promise'.toList) :
    Text.Alike (promiseToken promise) (promiseToken promise') := by
  have trimmed := alike.trimBlank
  unfold promiseToken
  split
  next blank =>
    rw [blank] at trimmed
    have blank' : Text.trimBlank promise'.toList = [] := List.map_eq_nil_iff.1 (Eq.symm trimmed)
    rw [blank']
    exact .refl _
  next said =>
    split
    next blank' =>
      rw [blank'] at trimmed
      exact absurd (List.map_eq_nil_iff.1 trimmed) said
    next => exact trimmed

theorem ofMode_alike (mode : CompletionMode) {promise promise' : String}
    (alike : Text.Alike promise.toList promise'.toList) : Alike (ofMode mode promise) (ofMode mode promise') := by
  cases mode with
  | promise => exact ⟨.refl _, promiseToken_alike alike, .refl _⟩
  | objective => exact ⟨.refl _, .refl _, .refl _⟩

/-- A text can be cut into three words, up to their case, with blanks around the middle one, and what surrounds them. -/
def Encloses (opening token closing text : String) : Prop :=
  ∃ a o w₁ t w₂ c b : String, text = a ++ o ++ w₁ ++ t ++ w₂ ++ c ++ b ∧
    Text.Alike opening.toList o.toList ∧ AllBlank w₁.toList ∧ Text.Alike token.toList t.toList ∧
    AllBlank w₂.toList ∧ Text.Alike closing.toList c.toList

theorem isIn_iff (opening token closing text : String) :
    isIn ⟨opening.toList, token.toList, closing.toList⟩ text = true ↔ Encloses opening token closing text := by
  refine (occursIn_iff _ text.toList).trans ⟨?_, ?_⟩
  · rintro ⟨before, mark, rest, ⟨o, front, t, back, c, parts⟩, cut⟩
    obtain ⟨openings, fronts, tokens, backs, closings, rfl⟩ := parts
    refine ⟨.ofList before, .ofList o, .ofList front, .ofList t, .ofList back, .ofList c, .ofList rest, ?_, ?_⟩
    · rw [← String.toList_inj, cut]
      simp only [String.toList_append, String.toList_ofList, List.append_assoc]
    · simp only [String.toList_ofList]
      exact ⟨openings, fronts, tokens, backs, closings⟩
  · rintro ⟨a, o, w₁, t, w₂, c, b, rfl, parts⟩
    refine ⟨a.toList, o.toList ++ (w₁.toList ++ (t.toList ++ (w₂.toList ++ c.toList))), b.toList, ?_, ?_⟩
    · obtain ⟨openings, fronts, tokens, backs, closings⟩ := parts
      exact ⟨_, _, _, _, _, openings, fronts, tokens, backs, closings, rfl⟩
    · simp only [String.toList_append, List.append_assoc]

/-- A text that carries a mark carries it still when something is put around it. -/
theorem isIn_around {text : String} (found : m.isIn text = true) (before after : String) :
    m.isIn (before ++ text ++ after) = true := by
  obtain ⟨front, mark, back, spelled, cut⟩ := (m.occursIn_iff text.toList).1 found
  refine (m.occursIn_iff _).2 ⟨before.toList ++ front, mark, back ++ after.toList, spelled, ?_⟩
  simp only [String.toList_append, cut, List.append_assoc]

/-- When a reply says that the loop is done. A loop that waits for a promise looks for the tags `promise` around the
promise as it is without the blanks at its ends, or around `DONE` if nothing is left of it; a loop that waits for its
objective looks for the tags `objective-complete` around `true`, whatever was promised. Blanks may stand between the
tags and what they enclose, letters count without their case, and anything may stand before and after. So a reply that
is recognised still is when more is said around it, or when the case of the reply or of the promise is changed. -/
theorem completion_recognised_iff (promise text : String) :
    ((ofMode .promise promise).isIn text = true ↔
      Encloses "<promise>" (if Text.trim promise = "" then "DONE" else Text.trim promise) "</promise>" text) ∧
    ((ofMode .objective promise).isIn text = true ↔
      Encloses "<objective-complete>" "true" "</objective-complete>" text) ∧
    ∀ mode, (∀ before after, (ofMode mode promise).isIn text = true →
        (ofMode mode promise).isIn (before ++ text ++ after) = true) ∧
      ∀ promise' text' : String, Text.Alike promise.toList promise'.toList → Text.Alike text.toList text'.toList →
        (ofMode mode promise').isIn text' = (ofMode mode promise).isIn text := by
  refine ⟨?_, isIn_iff _ _ _ _, fun mode => ⟨fun before after found => isIn_around found before after, ?_⟩⟩
  · rw [ofMode_promise, isIn_iff]
  · intro promise' text' promises texts
    exact occursIn_congr (ofMode_alike mode promises) texts

/-- The promise `done` is kept by a reply that shouts it, with the Kelvin sign for a letter, between other words. -/
theorem completion_recognised_iff_shouted :
    Text.Alike "ok done".toList "O\u212a DONE".toList ∧
      Text.Alike "<promise> ok done</promise>".toList "<PROMISE> O\u212a Done</Promise>".toList ∧
      (ofMode .promise "O\u212a DONE").isIn ("so: " ++ "<PROMISE> O\u212a Done</Promise>" ++ " and more") = true := by
  have promises : Text.Alike "ok done".toList "O\u212a DONE".toList := by
    unfold Text.Alike
    decide +kernel
  have texts : Text.Alike "<promise> ok done</promise>".toList "<PROMISE> O\u212a Done</Promise>".toList := by
    unfold Text.Alike
    decide +kernel
  have space : AllBlank " ".toList := AllBlank.nil.cons (by decide)
  have quiet : (ofMode .promise "ok done").isIn "<promise> ok done</promise>" = true := by
    refine (completion_recognised_iff "ok done" _).1.2
      ⟨"", "<promise>", " ", "ok done", "", "</promise>", "", by decide, .refl _, space, ?_, .nil, .refl _⟩
    rw [show Text.trim "ok done" = "ok done" by decide]
    exact .refl _
  have shouted := ((completion_recognised_iff "ok done" _).2.2 .promise).2 _ _ promises texts
  refine ⟨promises, texts, ?_⟩
  exact ((completion_recognised_iff "O\u212a DONE" _).2.2 .promise).1 "so: " " and more" (shouted.trans quiet)

end AgentHooks.Marker
