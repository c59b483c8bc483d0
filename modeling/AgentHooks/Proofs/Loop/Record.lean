import AgentHooks.Loop.Cell
import AgentHooks.Proofs.Json.Print
import AgentHooks.Proofs.Wire.Reading
import AgentHooks.Proofs.Wire.Schema

/-! The text of a loop's file holds all there is to know about the loop. -/

namespace AgentHooks

theorem CompletionMode.codec_keeps (mode : CompletionMode) : CompletionMode.codec.Keeps mode := by
  cases mode <;> rfl

namespace Loop

structure Valid (l : Loop) : Prop where
  iteration : l.iteration < word
  maxIterations : l.maxIterations < word
  startedAt : l.startedAt.Valid
  ignoredCompletions : l.ignoredCompletions < word

theorem start_valid {now : Timestamp} (instant : now.Valid) (session prompt : String)
    {maxIterations : Nat} (small : maxIterations < word) (mode : CompletionMode) (promise : String) :
    (start now session prompt maxIterations mode promise).Valid := by
  refine ⟨?_, small, instant, ?_⟩
  · show 1 < word
    decide
  · show 0 < word
    decide

theorem codec_keeps {l : Loop} (valid : l.Valid) (now : Timestamp) : (codec now).Keeps l := by
  unfold codec
  refine Codec.record_keeps _ rfl ?_ ?_
  · simp [Schema.Distinct, Schema.names, Field.answersTo, Field.required, Field.defaulted]
  · have counts : ∀ {n}, n < word → ∀ name absent, (Field.defaulted name Codec.word64 absent).Keeps n :=
      fun small name absent => Field.defaulted_keeps name absent (Codec.below_keeps _ small)
    exact ⟨Field.defaulted_keeps _ _ (Codec.bool_keeps _), Field.required_keeps _ (Codec.string_keeps _),
      Field.defaulted_keeps _ _ (Codec.string_keeps _), counts valid.iteration _ _,
      counts valid.maxIterations _ _, Field.defaulted_keeps _ _ (CompletionMode.codec_keeps _),
      Field.defaulted_keeps _ _ (Codec.string_keeps _),
      Field.defaulted_keeps _ _ (Codec.timestamp_keeps valid.startedAt),
      counts valid.ignoredCompletions _ _, trivial⟩

theorem word64_gives {name : String} {absent n : Nat} (small : absent < word)
    (gives : (Field.defaulted name Codec.word64 absent).Gives n) : n < word := by
  rcases gives with ⟨j, read⟩ | default'
  · exact Codec.below_reads read
  · cases default'
    exact small

/-- Whatever a loop is read from, it is one that can be written. -/
theorem codec_reads {now : Timestamp} (instant : now.Valid) {j : Json} {l : Loop}
    (read : (codec now).read j = .ok l) : l.Valid := by
  obtain ⟨values, gives, rfl⟩ := Codec.record_gives read
  obtain ⟨active, session, prompt, iteration, maxIterations, mode, promise, startedAt, ignored, rest⟩ :=
    values
  obtain ⟨-, -, -, iterations, caps, -, -, starts, ignores, -⟩ := gives
  refine ⟨word64_gives (by decide) iterations, word64_gives (by decide) caps, ?_,
    word64_gives (by decide) ignores⟩
  rcases starts with ⟨j, read⟩ | default'
  · exact Codec.timestamp_reads read
  · cases default'
    exact instant

theorem fits_of_lt {n : Nat} (small : n < word) : Json.Numeral.Fits n := by
  have bounds : word = 18446744073709551616 ∧ Json.maxInt = 18446744073709551615 ∧
      (Nat.pow 2 63 : Int) = 9223372036854775808 := by decide
  simp only [Json.Numeral.Fits]
  omega

theorem write_writable {l : Loop} (valid : l.Valid) (now : Timestamp) :
    ((codec now).write l).IsWritable :=
  ⟨trivial, trivial, trivial, fits_of_lt valid.iteration, fits_of_lt valid.maxIterations, trivial, trivial,
    trivial, fits_of_lt valid.ignoredCompletions, trivial⟩

theorem write_shallow (l : Loop) (now : Timestamp) : ((codec now).write l).nesting ≤ Json.maxDepth := by
  have flat : ((codec now).write l).nesting = 1 := rfl
  rw [flat]
  decide

end Loop

namespace LoopCell

/-- What is written does not depend on when or where it is written. -/
theorem render_eq (cell other : LoopCell) (l : Loop) : cell.render l = other.render l := rfl

theorem parse_render (cell : LoopCell) {l : Loop} (valid : l.Valid) :
    cell.parse (cell.render l) = some l := by
  have kept := Loop.codec_keeps valid cell.now
  have read := Json.document?_indented (Loop.write_writable valid cell.now) (Loop.write_shallow l cell.now)
  unfold parse render
  rw [read, Option.bind_some, kept]
  rfl

theorem parse_valid {cell : LoopCell} (instant : cell.now.Valid) {text : String} {l : Loop}
    (parsed : cell.parse text = some l) : l.Valid := by
  obtain ⟨doc, -, read⟩ := Option.bind_eq_some_iff.1 parsed
  cases found : (Loop.codec cell.now).read doc with
  | error e =>
    rw [found] at read
    cases read
  | ok l' =>
    rw [found] at read
    cases read
    exact Loop.codec_reads instant found

end LoopCell

end AgentHooks
