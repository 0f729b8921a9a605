namespace LanguageServer
namespace Wire

/-- The commands that the compiler sends. -/
inductive Command where
  | listen
  | diagParse
  | diagAnalysis
  | analysed
  | hover
  | definition
  | declaration
  | completion
  | signature
  | symbols
  | references
  | implementation
  | rename
  | except
  | restart
deriving DecidableEq, Repr, Inhabited

namespace Command

/-- A command's name: the first line of its frames. -/
def name : Command -> String
  | .listen => "LISTEN"
  | .diagParse => "DIAG PARSE"
  | .diagAnalysis => "DIAG ANALYSIS"
  | .analysed => "ANALYSED"
  | .hover => "HOVER"
  | .definition => "DEFINITION"
  | .declaration => "DECLARATION"
  | .completion => "COMPLETION"
  | .signature => "SIGNATURE"
  | .symbols => "SYMBOLS"
  | .references => "REFERENCES"
  | .implementation => "IMPLEMENTATION"
  | .rename => "RENAMEREQUEST"
  | .except => "EXCEPT"
  | .restart => "RESTART"

def all : List Command :=
  [.listen, .diagParse, .diagAnalysis, .analysed, .hover, .definition, .declaration, .completion,
    .signature, .symbols, .references, .implementation, .rename, .except, .restart]

/-- The command of that name. -/
def ofName? (name : String) : Option Command :=
  all.find? (fun command => command.name == name)

theorem ofName?_name (command : Command) : ofName? command.name = some command := by
  cases command <;> decide

end Command
end Wire
end LanguageServer
