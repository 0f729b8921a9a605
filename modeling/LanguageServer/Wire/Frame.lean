import LanguageServer.Text.Pieces
import LanguageServer.Text.Utf8
import LanguageServer.Wire.Command

namespace LanguageServer
namespace Wire

/-!
Frames: the messages of the compiler.

The compiler writes frames one after the other, each closed by a separator byte.  A frame is a
list of lines, each ended by a newline; the first names the command and the others are its
payload.  Output arrives in chunks that may be cut anywhere, also inside a character, so bytes are
gathered until the separator arrives and decoded only then.
-/

/-- The byte that ends a frame, and a text of an outgoing edit. -/
def separator : UInt8 := 0x0C

/-- The separator as a character. -/
def separatorChar : Char := '\x0c'

/-- What can be wrong with the bytes of a frame. -/
inductive FrameFault where
  /-- There are no bytes between two separators. -/
  | emptyFrame
  /-- The first line is not the name of a command. -/
  | unknownCommand (name : String)
  /-- The last line is not ended by a newline. -/
  | missingTerminator (name : String)
deriving DecidableEq, Repr, Inhabited

namespace FrameFault

def message : FrameFault -> String
  | .emptyFrame => "empty frame; compiler output is out of sync"
  | .unknownCommand name => "unrecognized compiler command `" ++ name ++ "`"
  | .missingTerminator name => "frame `" ++ name ++ "` is missing its terminating empty line"

end FrameFault

/-- One message of the compiler. -/
structure Frame where
  command : Command
  lines : List String
deriving DecidableEq, Repr, Inhabited

namespace Frame

/-- A line without the carriage return that may end it. -/
def stripReturn (line : List Char) : List Char :=
  if line.getLast? = some '\r' then line.dropLast else line

/-- The lines of a segment of output; the last one is what follows the last newline. -/
def linesOf (segment : List UInt8) : List String :=
  (Text.pieces '\n' (Text.Utf8.lossy segment)).map (fun line => String.ofList (stripReturn line))

/-- Read a frame off its lines.  The last line has to be empty and is not part of the payload. -/
def ofLines (lines : List String) : Except FrameFault Frame :=
  let closing := lines.getLast?.getD ""
  let body := lines.dropLast
  if closing ≠ "" then
    .error (.missingTerminator (body.head?.getD closing))
  else
    let name := body.head?.getD ""
    match Command.ofName? name with
    | some command => .ok ⟨command, body.tail⟩
    | none => .error (.unknownCommand name)

/-- Decode the bytes between two separators. -/
def decode (segment : List UInt8) : Except FrameFault Frame :=
  if segment.isEmpty then .error .emptyFrame else ofLines (linesOf segment)

/-- The text of a frame: each line with its newline, then the separator. -/
def render (frame : Frame) : List Char :=
  (frame.command.name :: frame.lines).flatMap (fun line => line.toList ++ ['\n']) ++
    [separatorChar]

end Frame

/-- Output that waits for its separator. -/
structure FrameBuffer where
  pending : List UInt8
deriving DecidableEq, Repr, Inhabited

namespace FrameBuffer

def empty : FrameBuffer := ⟨[]⟩

/-- Take in a chunk of output, and decode every frame that it completes. -/
def push (buffer : FrameBuffer) (chunk : List UInt8) :
    List (Except FrameFault Frame) × FrameBuffer :=
  let segments := Text.pieces separator (buffer.pending ++ chunk)
  (segments.dropLast.map Frame.decode, ⟨segments.getLast?.getD []⟩)

end FrameBuffer
end Wire
end LanguageServer
