import LanguageServer.Editor.Host
import LanguageServer.Editor.Transport

namespace LanguageServer
namespace Program

/-!
The program: the server on standard input and output.

This host has no means to launch processes.  A session thus ends up aborted, or blocked where the
settings ask for no compiler, and the editor is told so.
-/

open Editor Files Session

/-- No compiler can be launched here. -/
def launch : Launcher := fun plan =>
  .error (.refused plan.compiler.command "this host launches no processes")

/-- The tree with a file of the disk added, if it can be read. -/
def withFile (tree : Tree) (path : Path) : IO Tree := do
  try
    let contents <- IO.FS.readBinFile path.display
    return (tree.write? path contents.toList).getD tree
  catch _ => return tree

/-- The variables that the settings refer to, with their values. -/
def environment (settings : Settings) : IO Settings.Environment := do
  let compiler := settings.compiler
  let names := (compiler.command :: compiler.args ++ compiler.analyseArgs).flatMap
    Settings.mentioned
  let mut found := Table.empty
  for name in names do
    if let some value <- IO.getEnv name then
      found := found.insert name value
  return found

/-- The surroundings, as far as a workspace's settings need them. -/
def surroundings (server : Server) : IO Surroundings := do
  let workingDirectory := Path.ofText (<- IO.currentDir).toString
  let home := (<- IO.getEnv "HOME").map Path.ofText
  let workspace := server.root.getD workingDirectory
  let mut tree := Tree.empty
  for directory in workspace :: home.toList do
    tree <- withFile tree (Settings.fileBelow directory)
  let bare : Surroundings := ⟨tree, workingDirectory, home, Table.empty⟩
  return { bare with environment := <- environment (bare.settings workspace) }

/-- Handle texts one after another, writing what goes to the editor. -/
def respond (output : IO.FS.Stream) (host : Host) (texts : List String) : IO Host := do
  let mut current := host
  for text in texts do
    let around <- surroundings current.server
    let (outgoing, next) := current.hear launch (<- IO.monoNanosNow) around text
    for value in outgoing do
      output.write ⟨(Transport.encode value.print).toArray⟩
    output.flush
    current := next
  return current

/-- Read until the editor says goodbye or the input ends. -/
partial def serve (input output : IO.FS.Stream) (host : Host) (unread : List UInt8) : IO Unit := do
  let chunk <- input.read 65536
  if chunk.isEmpty then return
  let stream := unread ++ chunk.toList
  let (texts, left) := Transport.readAll (stream.length + 1) stream
  let next <- respond output host texts
  if next.server.phase = .exited then return
  serve input output next left

end Program
end LanguageServer

def main : IO Unit := do
  LanguageServer.Program.serve (<- IO.getStdin) (<- IO.getStdout) LanguageServer.Editor.Host.new []
