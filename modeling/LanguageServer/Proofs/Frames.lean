import LanguageServer.Wire.Frame

namespace LanguageServer

/-!
# Frames of a stream that comes in chunks

A stream is cut into frames at its separators, wherever the chunks end that it comes in.  Pushing
two chunks one after the other gives the frames of both together, so what was received so far
depends only on the bytes so far.
-/

namespace Text

variable {Symbol : Type} [BEq Symbol]

/-- What follows the last separator. -/
def lastPiece (separator : Symbol) (text : List Symbol) : List Symbol :=
  (pieces separator text).getLast?.getD []

/-- More text goes on with the last piece and leaves the others alone. -/
theorem pieces_append (separator : Symbol) (text more : List Symbol) :
    pieces separator (text ++ more) =
      (pieces separator text).dropLast ++ pieces separator (lastPiece separator text ++ more) := by
  induction text with
  | nil => rfl
  | cons head tail inductionHypothesis =>
      rw [List.cons_append, pieces, pieces, lastPiece, pieces]
      split
      · have some_piece := pieces_ne_nil separator tail
        rw [inductionHypothesis, lastPiece, List.dropLast_cons_of_ne_nil some_piece,
          List.getLast?_cons_of_ne_nil some_piece, List.cons_append]
      next different =>
        rw [lastPiece] at inductionHypothesis
        cases found : pieces separator tail with
        | nil => exact absurd found (pieces_ne_nil separator tail)
        | cons first rest =>
            rw [found] at inductionHypothesis
            cases rest with
            | nil =>
                -- The head goes in front of the piece that the new text continues.
                have continued :
                    pieces separator (tail ++ more) = pieces separator (first ++ more) := by
                  simpa using inductionHypothesis
                rw [continued]
                simp [pieces, different]
            | cons second others =>
                rw [inductionHypothesis]
                simp [List.dropLast_cons_of_ne_nil, List.getLast?_cons_cons]

end Text

namespace Wire
namespace FrameBuffer

/-- Two chunks give what their concatenation gives. -/
theorem push_append (buffer : FrameBuffer) (chunk more : List UInt8) :
    buffer.push (chunk ++ more) =
      ((buffer.push chunk).1 ++ ((buffer.push chunk).2.push more).1,
        ((buffer.push chunk).2.push more).2) := by
  have pieces := Text.pieces_append separator (buffer.pending ++ chunk) more
  have some_piece := Text.pieces_ne_nil separator
    (Text.lastPiece separator (buffer.pending ++ chunk) ++ more)
  simp only [push, ← List.append_assoc]
  rw [pieces, List.dropLast_append_of_ne_nil some_piece, List.map_append, List.getLast?_append,
    Option.or_of_isSome (by simp [some_piece])]
  rfl

/-- Everything that was received when a stream has come this far. -/
def received (stream : List UInt8) : List (Except FrameFault Frame) :=
  (empty.push stream).1

/-- What waits for its separator when a stream has come this far. -/
def remainder (stream : List UInt8) : FrameBuffer :=
  (empty.push stream).2

theorem push_remainder (stream chunk : List UInt8) :
    ((remainder stream).push chunk).2 = remainder (stream ++ chunk) := by
  rw [remainder, remainder, push_append]

theorem received_append (stream chunk : List UInt8) :
    received (stream ++ chunk) = received stream ++ ((remainder stream).push chunk).1 := by
  rw [received, push_append, received, remainder]

end FrameBuffer

/-! ## Compilers that greet -/

/-- The compiler says that it takes edits. -/
def greets : Except FrameFault Frame -> Bool
  | .ok frame => frame.command = .listen || frame.command = .restart
  | .error _ => false

/-- The compiler says that an analysis is complete. -/
def concludes : Except FrameFault Frame -> Bool
  | .ok frame => frame.command = .analysed
  | .error _ => false

/-- The compiler takes edits before it completes its first analysis. -/
def greetsFirst : List (Except FrameFault Frame) -> Bool
  | [] => true
  | first :: rest => greets first || (!concludes first && greetsFirst rest)

theorem greetsFirst_of_append {earlier later : List (Except FrameFault Frame)}
    (greeted : greetsFirst (earlier ++ later) = true) : greetsFirst earlier = true := by
  induction earlier with
  | nil => rfl
  | cons first rest inductionHypothesis =>
      rw [List.cons_append, greetsFirst, Bool.or_eq_true, Bool.and_eq_true] at greeted
      rw [greetsFirst, Bool.or_eq_true, Bool.and_eq_true]
      rcases greeted with greeting | ⟨inconclusive, later_greeting⟩
      · exact Or.inl greeting
      · exact Or.inr ⟨inconclusive, inductionHypothesis later_greeting⟩

/-- Without a greeting there is no analysis. -/
theorem not_concludes_of_greetsFirst {earlier later : List (Except FrameFault Frame)}
    {next : Except FrameFault Frame} (greeted : greetsFirst (earlier ++ next :: later) = true)
    (silent : forall segment, segment ∈ earlier -> greets segment = false)
    (inert : greets next = false) : concludes next = false := by
  induction earlier with
  | nil =>
      rw [List.nil_append, greetsFirst, inert, Bool.false_or, Bool.and_eq_true,
        Bool.not_eq_true'] at greeted
      exact greeted.1
  | cons first rest inductionHypothesis =>
      rw [List.cons_append, greetsFirst, silent first List.mem_cons_self, Bool.false_or,
        Bool.and_eq_true] at greeted
      exact inductionHypothesis greeted.2
        (fun segment member => silent segment (List.mem_cons_of_mem _ member))

end Wire
end LanguageServer
