import LanguageServer.Proofs.MalformedText

namespace LanguageServer
namespace Wire

/-!
# Malformed bytes stay in their line

The compiler's output is cut into frames as bytes, and a frame into lines as text, after bytes that
are no characters have been replaced.  It would make no difference to do either the other way round.
So bytes that were cut off or damaged show in their own line and nowhere else: no newline and no
separator is lost to them, the lines before and after are read as they are, and so are the frames.

A command is recognised by the bytes of its line alone.  They have to be those of its name, with at
most a carriage return behind them, so damage never turns one command into another.
-/

/-- The byte that ends a line. -/
def newline : UInt8 := 0x0A

/-- The byte that may stand before the end of a line. -/
def carriageReturn : UInt8 := 0x0D

namespace Frame

/-- The text of a single line. -/
def lineOf (line : List UInt8) : String :=
  String.ofList (stripReturn (Text.Utf8.lossy line))

/-- Read a frame off its text. -/
def ofText (text : List Char) : Except FrameFault Frame :=
  if text.isEmpty then .error .emptyFrame
  else ofLines ((Text.pieces '\n' text).map (fun line => String.ofList (stripReturn line)))

/-! ## Lines -/

theorem pieces_newline_lossy (segment : List UInt8) :
    Text.pieces '\n' (Text.Utf8.lossy segment) =
      (Text.pieces newline segment).map Text.Utf8.lossy :=
  Text.Utf8.pieces_lossy (show newline.toNat < 128 by decide) segment

theorem linesOf_eq_map_lineOf (segment : List UInt8) :
    linesOf segment = (Text.pieces newline segment).map lineOf := by
  rw [linesOf, pieces_newline_lossy, List.map_map]
  rfl

theorem linesOf_append_newline (before after : List UInt8) :
    linesOf (before ++ newline :: after) = linesOf before ++ linesOf after := by
  simp only [linesOf_eq_map_lineOf]
  rw [Text.pieces_append_cons, List.map_append]

theorem decode_eq_ofText (segment : List UInt8) :
    decode segment = ofText (Text.Utf8.lossy segment) := by
  have empty : segment.isEmpty = (Text.Utf8.lossy segment).isEmpty := by
    rw [Bool.eq_iff_iff, List.isEmpty_iff, List.isEmpty_iff, Text.Utf8.lossy_eq_nil_iff]
  rw [decode, ofText, empty]
  rfl

/-! ## Commands -/

theorem stripReturn_eq_iff {line text : List Char} (unended : text.getLast? ≠ some '\r') :
    stripReturn line = text ↔ line = text ∨ line = text ++ ['\r'] := by
  rw [stripReturn]
  split
  next ended =>
    rcases List.getLast?_eq_some_iff.mp ended with ⟨front, rfl⟩
    rw [List.dropLast_concat]
    constructor
    · rintro rfl
      exact Or.inr rfl
    · rintro (rfl | same)
      · exact absurd ended unended
      · exact List.append_cancel_right same
  next plain =>
    constructor
    · exact Or.inl
    · rintro (rfl | rfl)
      · rfl
      · exact absurd List.getLast?_concat plain

/-- Only its own bytes are read as a text in which nothing is replaced. -/
theorem lineOf_eq_iff {line : List UInt8} {text : String}
    (intact : Text.Utf8.replacement ∉ text.toList) (unended : text.toList.getLast? ≠ some '\r') :
    lineOf line = text ↔
      line = Text.Utf8.bytesOf text ∨ line = Text.Utf8.bytesOf text ++ [carriageReturn] := by
  have ended : Text.Utf8.replacement ∉ text.toList ++ ['\r'] := by
    rw [List.mem_append, not_or]
    exact ⟨intact, by decide⟩
  rw [lineOf, ← String.toList_inj, String.toList_ofList, stripReturn_eq_iff unended,
    Text.Utf8.lossy_eq_iff intact, Text.Utf8.lossy_eq_iff ended, Text.Utf8.encode_append]
  rfl

/-- A line in which nothing stands. -/
def IsBlank (line : List UInt8) : Prop := line = [] ∨ line = [carriageReturn]

theorem lineOf_eq_empty_iff {line : List UInt8} : lineOf line = "" ↔ IsBlank line :=
  lineOf_eq_iff (by decide) (by decide)

end Frame

namespace Command

/-- The bytes of a line that names the command. -/
def SpelledBy (command : Command) (line : List UInt8) : Prop :=
  line = Text.Utf8.bytesOf command.name ∨
    line = Text.Utf8.bytesOf command.name ++ [carriageReturn]

theorem ofName?_eq_some_iff {name : String} {command : Command} :
    ofName? name = some command ↔ name = command.name := by
  constructor
  · intro found
    have same := List.find?_some found
    exact (eq_of_beq same).symm
  · rintro rfl
    exact ofName?_name command

theorem name_intact (command : Command) : Text.Utf8.replacement ∉ command.name.toList := by
  cases command <;> decide

theorem ofName?_lineOf_iff {line : List UInt8} {command : Command} :
    ofName? (Frame.lineOf line) = some command ↔ command.SpelledBy line := by
  rw [ofName?_eq_some_iff]
  exact Frame.lineOf_eq_iff command.name_intact command.name_sendable.2.2

end Command

namespace Frame

/-- Which command a frame has is up to its first line. -/
theorem decode_ok_iff {opening payload : List UInt8} {command : Command}
    (absent : newline ∉ opening) :
    (exists lines, decode (opening ++ newline :: payload) = .ok ⟨command, lines⟩) ↔
      command.SpelledBy opening ∧ IsBlank (Text.lastPiece newline payload) := by
  have some_piece := Text.pieces_ne_nil newline payload
  have closing : (linesOf (opening ++ newline :: payload)).getLast?.getD "" =
      lineOf (Text.lastPiece newline payload) := by
    rw [linesOf_eq_map_lineOf, Text.pieces_cons absent, List.map_cons,
      List.getLast?_cons_of_ne_nil (by simpa using some_piece), List.getLast?_map, Text.lastPiece,
      List.getLast?_eq_some_getLast some_piece]
    rfl
  have body : (linesOf (opening ++ newline :: payload)).dropLast =
      lineOf opening :: (linesOf payload).dropLast := by
    rw [linesOf_eq_map_lineOf, linesOf_eq_map_lineOf, Text.pieces_cons absent, List.map_cons,
      List.dropLast_cons_of_ne_nil (by simpa using some_piece)]
  rw [← Command.ofName?_lineOf_iff, ← lineOf_eq_empty_iff, decode,
    if_neg (by simp), ofLines, closing, body]
  constructor
  · rintro ⟨lines, decoded⟩
    dsimp only [List.head?_cons, Option.getD_some] at decoded
    split at decoded
    · cases decoded
    next blank =>
      split at decoded
      next found named =>
        cases decoded
        exact ⟨named, Decidable.not_not.mp blank⟩
      next => cases decoded
  · rintro ⟨named, blank⟩
    refine ⟨(linesOf payload).dropLast, ?_⟩
    dsimp only [List.head?_cons, Option.getD_some]
    rw [if_neg (not_not_intro blank), named]
    rfl

end Frame

namespace FrameBuffer

/-! ## Frames -/

theorem pieces_separator_lossy (stream : List UInt8) :
    Text.pieces separatorChar (Text.Utf8.lossy stream) =
      (Text.pieces separator stream).map Text.Utf8.lossy :=
  Text.Utf8.pieces_lossy (show separator.toNat < 128 by decide) stream

/-- The frames of a stream are those of its text. -/
theorem push_eq_ofText (buffer : FrameBuffer) (chunk : List UInt8) :
    (buffer.push chunk).1 =
      (Text.pieces separatorChar
        (Text.Utf8.lossy (buffer.pending ++ chunk))).dropLast.map Frame.ofText := by
  rw [pieces_separator_lossy, ← List.map_dropLast, List.map_map, push]
  exact List.map_congr_left (fun segment _ => Frame.decode_eq_ofText segment)

theorem received_append_separator (before after : List UInt8) :
    received (before ++ separator :: after) =
      (Text.pieces separator before).map Frame.decode ++ received after := by
  have some_piece := Text.pieces_ne_nil separator after
  simp only [received, push, empty, List.nil_append]
  rw [Text.pieces_append_cons, List.dropLast_append_of_ne_nil some_piece, List.map_append]

/-- A frame stands between the frames before it and those after it, whatever its bytes are. -/
theorem received_around {segment : List UInt8} (absent : separator ∉ segment)
    (before after : List UInt8) :
    received (before ++ separator :: (segment ++ separator :: after)) =
      received (before ++ [separator]) ++ Frame.decode segment :: received after := by
  have rest :
      received (segment ++ separator :: after) = Frame.decode segment :: received after := by
    have some_piece := Text.pieces_ne_nil separator after
    simp only [received, push, empty, List.nil_append]
    rw [Text.pieces_cons absent, List.dropLast_cons_of_ne_nil some_piece, List.map_cons]
  have nothing : received [] = [] := rfl
  rw [received_append_separator, received_append_separator before [], rest, nothing,
    List.append_nil]

end FrameBuffer

/-! ## Both together -/

/-- Malformed bytes show where they stand and nowhere else. -/
theorem malformed_bytes_confined :
    -- every character is kept, and every part that is none is replaced once
    (forall bytes text, Text.Utf8.Reads bytes text ↔ text = Text.Utf8.lossy bytes) ∧
    -- lines
    (forall segment,
      Text.pieces '\n' (Text.Utf8.lossy segment) =
        (Text.pieces newline segment).map Text.Utf8.lossy ∧
      Frame.linesOf segment = (Text.pieces newline segment).map Frame.lineOf) ∧
    (forall before line after, newline ∉ line ->
      Frame.linesOf (before ++ newline :: (line ++ newline :: after)) =
        Frame.linesOf before ++ Frame.lineOf line :: Frame.linesOf after) ∧
    -- the command
    (forall opening payload command, newline ∉ opening ->
      ((exists lines, Frame.decode (opening ++ newline :: payload) = .ok ⟨command, lines⟩) ↔
        command.SpelledBy opening ∧ Frame.IsBlank (Text.lastPiece newline payload))) ∧
    -- frames
    (forall stream,
      Text.pieces separatorChar (Text.Utf8.lossy stream) =
        (Text.pieces separator stream).map Text.Utf8.lossy) ∧
    (forall (buffer : FrameBuffer) chunk,
      (buffer.push chunk).1 =
        (Text.pieces separatorChar
          (Text.Utf8.lossy (buffer.pending ++ chunk))).dropLast.map Frame.ofText) ∧
    (forall before segment after, separator ∉ segment ->
      FrameBuffer.received (before ++ separator :: (segment ++ separator :: after)) =
        FrameBuffer.received (before ++ [separator]) ++
          Frame.decode segment :: FrameBuffer.received after) := by
  refine ⟨fun _ _ => Text.Utf8.reads_iff,
    fun segment => ⟨Frame.pieces_newline_lossy segment, Frame.linesOf_eq_map_lineOf segment⟩, ?_,
    fun _ _ _ absent => Frame.decode_ok_iff absent, FrameBuffer.pieces_separator_lossy,
    FrameBuffer.push_eq_ofText, fun before _ after absent =>
      FrameBuffer.received_around absent before after⟩
  intro before line after absent
  rw [Frame.linesOf_append_newline, Frame.linesOf_eq_map_lineOf (line ++ newline :: after),
    Text.pieces_cons absent, List.map_cons, ← Frame.linesOf_eq_map_lineOf]

/-- A character of four bytes of which the last is missing. -/
def truncated : List UInt8 := [0xF0, 0x9F, 0x98]

def hoverLine : List UInt8 := Text.Utf8.bytesOf Command.hover.name

/-- The bytes of a frame, with the line feed right behind the missing byte. -/
def damagedHover : List UInt8 := hoverLine ++ newline :: (truncated ++ [newline])

/-- The frame is complete, and what was cut off swallows neither the newline nor the separator. -/
theorem damagedHover_confined :
    newline ∉ truncated ∧ newline ∉ hoverLine ∧ separator ∉ damagedHover ∧
    Frame.linesOf damagedHover = ["HOVER", "\ufffd", ""] ∧
    (exists lines, Frame.decode damagedHover = .ok ⟨.hover, lines⟩) ∧
    FrameBuffer.received (truncated ++ separator :: (damagedHover ++ separator :: truncated)) =
      [.error (.missingTerminator "\ufffd"), .ok ⟨.hover, ["\ufffd"]⟩] := by
  rcases malformed_bytes_confined with ⟨_, _, lines, command, _, _, frames⟩
  have unended : newline ∉ truncated := by decide
  have undivided : newline ∉ hoverLine := by decide
  have inside : separator ∉ damagedHover := by decide
  refine ⟨unended, undivided, inside, ?_, ?_, ?_⟩
  · exact (lines hoverLine truncated [] unended).trans (by decide)
  · exact (command hoverLine (truncated ++ [newline]) .hover undivided).mpr
      ⟨Or.inl rfl, Or.inl (by decide)⟩
  · exact (frames truncated damagedHover truncated inside).trans (by rfl)

end Wire
end LanguageServer
