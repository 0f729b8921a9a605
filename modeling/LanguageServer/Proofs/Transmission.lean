import LanguageServer.Proofs.Frames
import LanguageServer.Proofs.Utf8

namespace LanguageServer

/-!
# Frames arrive as they were sent

A list of frames is written as text, the text is encoded, and the bytes arrive in chunks that may
be cut anywhere: between frames, inside a line, inside a character, or into nothing at all.  The
frame buffer gives the same frames back in the same order, and holds nothing back at the end.

Only the payload lines are restricted.  A line must not contain a newline or the separator, which
would end it, and must not end with a carriage return, which is taken off as part of a line end.
Nothing is asked of the cuts.
-/

namespace Text

variable {Symbol : Type} [BEq Symbol] [LawfulBEq Symbol] {separator : Symbol}

/-- A terminated piece comes off the front. -/
theorem pieces_cons {part : List Symbol} (absent : separator ∉ part) (rest : List Symbol) :
    pieces separator (part ++ separator :: rest) = part :: pieces separator rest := by
  induction part with
  | nil => rw [List.nil_append, pieces, if_pos (beq_self_eq_true separator)]
  | cons head tail inductionHypothesis =>
      have other : ¬(head == separator) = true := by
        intro same
        exact absent (List.mem_cons.mpr (Or.inl (eq_of_beq same).symm))
      have later := inductionHypothesis (fun member => absent (List.mem_cons_of_mem head member))
      rw [List.cons_append, pieces, if_neg other, later]

/-- At a separator the pieces before and after it are told apart. -/
theorem pieces_append_cons (text more : List Symbol) :
    pieces separator (text ++ separator :: more) =
      pieces separator text ++ pieces separator more := by
  induction text with
  | nil => simp [pieces]
  | cons head tail inductionHypothesis =>
      rw [List.cons_append, pieces, pieces, inductionHypothesis]
      split
      · rfl
      · cases found : pieces separator tail with
        | nil => exact absurd found (pieces_ne_nil separator tail)
        | cons first rest => rfl

/-- A sequence of terminated pieces ends with an empty one. -/
theorem pieces_terminated {parts : List (List Symbol)}
    (absent : forall part, part ∈ parts -> separator ∉ part) :
    pieces separator (parts.flatMap (fun part => part ++ [separator])) = parts ++ [[]] := by
  induction parts with
  | nil => rfl
  | cons part rest inductionHypothesis =>
      have later := inductionHypothesis
        (fun other member => absent other (List.mem_cons_of_mem part member))
      rw [List.flatMap_cons, List.append_assoc, List.singleton_append,
        pieces_cons (absent part List.mem_cons_self), later, List.cons_append]

end Text

namespace Wire

/-- A line that can stand in a frame. -/
def Sendable (line : String) : Prop :=
  '\n' ∉ line.toList ∧ separatorChar ∉ line.toList ∧ line.toList.getLast? ≠ some '\r'

instance (line : String) : Decidable (Sendable line) :=
  inferInstanceAs (Decidable (_ ∧ _))

theorem Command.name_sendable (command : Command) : Sendable command.name := by
  cases command <;> decide

namespace Frame

/-- The text of a frame up to its separator. -/
def body (frame : Frame) : List Char :=
  ((frame.command.name :: frame.lines).map String.toList).flatMap (fun line => line ++ ['\n'])

theorem render_eq (frame : Frame) : frame.render = frame.body ++ [separatorChar] := by
  rw [render, body, List.flatMap_map]

/-- No line of the frame ends it early. -/
def Sound (frame : Frame) : Prop := forall line, line ∈ frame.lines -> Sendable line

theorem Sound.sendable {frame : Frame} (sound : frame.Sound) :
    forall line, line ∈ frame.command.name :: frame.lines -> Sendable line := by
  intro line member
  rcases List.mem_cons.mp member with first | payload
  · rw [first]
    exact frame.command.name_sendable
  · exact sound line payload

theorem Sound.separator_not_mem {frame : Frame} (sound : frame.Sound) :
    separator ∉ Text.Utf8.encode frame.body := by
  intro member
  have inText : separatorChar ∈ frame.body :=
    (Text.Utf8.mem_encode_ascii (by decide) frame.body).mp member
  rcases List.mem_flatMap.mp inText with ⟨characters, inside, found⟩
  rcases List.mem_map.mp inside with ⟨line, inFrame, same⟩
  rw [← same, List.mem_append, List.mem_singleton] at found
  rcases found with inLine | newline
  · exact (sound.sendable line inFrame).2.1 inLine
  · exact absurd newline (by decide)

theorem stripReturn_of_sendable {line : String} (sendable : Sendable line) :
    stripReturn line.toList = line.toList := by
  rw [stripReturn, if_neg sendable.2.2]

/-- The lines of an encoded frame are those that were written, and an empty one. -/
theorem Sound.linesOf_body {frame : Frame} (sound : frame.Sound) :
    linesOf (Text.Utf8.encode frame.body) = (frame.command.name :: frame.lines) ++ [""] := by
  have cut : Text.pieces '\n' frame.body =
      (frame.command.name :: frame.lines).map String.toList ++ [[]] := by
    apply Text.pieces_terminated
    intro characters inside
    rcases List.mem_map.mp inside with ⟨line, inFrame, same⟩
    rw [← same]
    exact (sound.sendable line inFrame).1
  have kept : (frame.command.name :: frame.lines).map
      (fun line => String.ofList (stripReturn line.toList)) =
        (frame.command.name :: frame.lines).map id := by
    apply List.map_congr_left
    intro line inFrame
    rw [stripReturn_of_sendable (sound.sendable line inFrame), String.ofList_toList, id]
  rw [linesOf, Text.Utf8.lossy_encode, cut, List.map_append, List.map_map]
  exact congrArg (· ++ [""]) (kept.trans (List.map_id _))

theorem encode_body_ne_nil (frame : Frame) : Text.Utf8.encode frame.body ≠ [] := by
  intro nothing
  have empty : frame.body = [] := by
    rw [← Text.Utf8.lossy_encode frame.body, nothing]
    rfl
  simp [body] at empty

theorem Sound.decode_body {frame : Frame} (sound : frame.Sound) :
    decode (Text.Utf8.encode frame.body) = .ok frame := by
  have written : ¬(Text.Utf8.encode frame.body).isEmpty = true := by
    rw [List.isEmpty_iff]
    exact frame.encode_body_ne_nil
  rw [decode, if_neg written, sound.linesOf_body, ofLines, List.getLast?_concat,
    List.dropLast_concat]
  simp [Command.ofName?_name]

end Frame

namespace FrameBuffer

/-! ## Chunks -/

/-- Take in chunks one after the other. -/
def pushAll (buffer : FrameBuffer) :
    List (List UInt8) -> List (Except FrameFault Frame) × FrameBuffer
  | [] => ([], buffer)
  | chunk :: rest =>
      let later := (buffer.push chunk).2.pushAll rest
      ((buffer.push chunk).1 ++ later.1, later.2)

/-- Where the chunks end does not matter. -/
theorem pushAll_remainder (stream : List UInt8) (chunks : List (List UInt8)) :
    received stream ++ ((remainder stream).pushAll chunks).1 =
        received (stream ++ chunks.flatten) ∧
      ((remainder stream).pushAll chunks).2 = remainder (stream ++ chunks.flatten) := by
  induction chunks generalizing stream with
  | nil => simp [pushAll]
  | cons chunk rest inductionHypothesis =>
      rcases inductionHypothesis (stream ++ chunk) with ⟨more, last⟩
      rw [List.append_assoc] at more last
      rw [pushAll, push_remainder, List.flatten_cons]
      refine ⟨?_, last⟩
      rw [← more, received_append, List.append_assoc]

theorem pushAll_empty (chunks : List (List UInt8)) :
    empty.pushAll chunks = empty.push chunks.flatten := by
  rcases pushAll_remainder [] chunks with ⟨frames, last⟩
  exact Prod.ext frames last

/-! ## The stream of some frames -/

theorem encode_render (frames : List Frame) :
    Text.Utf8.encode (frames.flatMap Frame.render) =
      (frames.map (fun frame => Text.Utf8.encode frame.body)).flatMap
        (fun segment => segment ++ [separator]) := by
  induction frames with
  | nil => rfl
  | cons frame rest inductionHypothesis =>
      rw [List.flatMap_cons, Text.Utf8.encode_append, inductionHypothesis, Frame.render_eq,
        Text.Utf8.encode_append, List.map_cons, List.flatMap_cons]
      rfl

theorem push_render {frames : List Frame} (sound : forall frame, frame ∈ frames -> frame.Sound) :
    empty.push (Text.Utf8.encode (frames.flatMap Frame.render)) = (frames.map .ok, empty) := by
  have cut : Text.pieces separator (Text.Utf8.encode (frames.flatMap Frame.render)) =
      frames.map (fun frame => Text.Utf8.encode frame.body) ++ [[]] := by
    rw [encode_render]
    apply Text.pieces_terminated
    intro segment inside
    rcases List.mem_map.mp inside with ⟨frame, member, same⟩
    rw [← same]
    exact (sound frame member).separator_not_mem
  have decoded : (frames.map (fun frame => Text.Utf8.encode frame.body)).map Frame.decode =
      frames.map .ok := by
    rw [List.map_map]
    apply List.map_congr_left
    intro frame member
    exact (sound frame member).decode_body
  rw [push, empty, List.nil_append, cut, List.dropLast_concat, List.getLast?_concat, decoded]
  rfl

/-- Frames that are written one after the other and cut into chunks anywhere come out of a fresh
buffer as they were, in order, and nothing is held back. -/
theorem frames_arrive_as_sent {frames : List Frame} {chunks : List (List UInt8)}
    (sound : forall frame, frame ∈ frames -> frame.Sound)
    (cut : chunks.flatten = Text.Utf8.encode (frames.flatMap Frame.render)) :
    (empty.pushAll chunks).1 = frames.map .ok ∧
      (empty.pushAll chunks).2.pending.length = 0 := by
  rw [pushAll_empty, cut, push_render sound]
  exact ⟨rfl, rfl⟩

/-- A hover text with a two-byte character, a blank line and a lone carriage return. -/
def hoverThenListen : List Frame :=
  [⟨.hover, ["naïve", "", "a\rb"]⟩, ⟨.listen, []⟩]

/-- The ninth byte is the first of the two-byte character. -/
def brokenCharacter : List (List UInt8) :=
  let stream := Text.Utf8.encode (hoverThenListen.flatMap Frame.render)
  [[], stream.take 9, [], (stream.drop 9).take 8, stream.drop 17]

theorem hoverThenListen_arrives :
    (forall frame, frame ∈ hoverThenListen -> frame.Sound) ∧
    brokenCharacter.flatten = Text.Utf8.encode (hoverThenListen.flatMap Frame.render) ∧
    (empty.pushAll brokenCharacter).1 = hoverThenListen.map .ok ∧
    (empty.pushAll brokenCharacter).2.pending.length = 0 := by
  have sound : forall frame, frame ∈ hoverThenListen -> frame.Sound := by
    simp only [hoverThenListen, Frame.Sound]
    decide
  have cut : brokenCharacter.flatten =
      Text.Utf8.encode (hoverThenListen.flatMap Frame.render) := by decide +kernel
  exact ⟨sound, cut, frames_arrive_as_sent sound cut⟩

end FrameBuffer
end Wire
end LanguageServer
