import LanguageServer.Editor.Convert
import LanguageServer.Editor.Message
import LanguageServer.Editor.Method
import LanguageServer.Editor.Surroundings
import LanguageServer.Session.Supervisor

namespace LanguageServer
namespace Editor

/-!
The server: what the editor's messages amount to.

The server takes one message at a time.  It may tell the session to do something, and it reacts to
a call by a response, or by consulting the session first.  Before the editor has introduced itself,
and after it has asked the server to stop, messages are turned away.
-/

open Files (Path)
open Session (Order Plan)

/-- How far the editor has come. -/
inductive ServerPhase where
  /-- The editor has not introduced itself. -/
  | fresh
  | ready
  /-- The editor has asked the server to stop. -/
  | stopping
  | exited
deriving DecidableEq, Repr, Inhabited

structure Server where
  phase : ServerPhase
  /-- Where the workspace stands, if the editor has told. -/
  root : Option Path
  /-- A session is open. -/
  hasSession : Bool
deriving DecidableEq, Repr, Inhabited

/-- What is done to the session. -/
inductive Action where
  /-- Open a session and load the documents into it. -/
  | openSession (plan : Plan) (documents : List Document)
  | order (given : Order)

/-- How the server reacts to a message. -/
inductive Reaction where
  | silent
  | respond (response : Response)
  /-- The response is what the session makes of a query. -/
  | consult (query : Wire.Query)

/-- What comes of a message. -/
structure Handling where
  server : Server
  actions : List Action
  reaction : Reaction

namespace Reaction

def result (value : Json) : Reaction := .respond (.result value)

def refuse (reason : Refusal) : Reaction := .respond (.refusal reason)

end Reaction

/-- The name of the command that starts the analysis afresh. -/
def restartCommand : String := "ghul.restartCompiler"

/-- What the server can do. -/
def capabilities : Json :=
  let offered (name : String) : String × Json := (name, .bool true)
  .object
    [("textDocumentSync", .nat 1),
      offered "hoverProvider",
      ("completionProvider", .object [("resolveProvider", .bool false),
        ("triggerCharacters", .array [.string "."])]),
      ("signatureHelpProvider", .object
        [("triggerCharacters", .array [.string "(", .string ","])]),
      offered "declarationProvider",
      offered "definitionProvider",
      offered "implementationProvider",
      offered "referencesProvider",
      offered "documentSymbolProvider",
      offered "workspaceSymbolProvider",
      offered "renameProvider",
      ("executeCommandProvider", .object
        [("commands", .array [.string restartCommand])])]

/-- How the server introduces itself. -/
def introduction : Json :=
  .object [("capabilities", capabilities),
    ("serverInfo", .object [("name", .string "ghul-ls"), ("version", .string "0.0.0")])]

/-- An answer in the editor's terms.  A single place that cannot be shown, and an empty list of
implementations, are shown as nothing. -/
def putAnswer : Answer -> Json
  | .hover found => .ofOption putHover found
  | .definition found | .declaration found => (found.bind putLocation?).getD .null
  | .completion items => .ofList putCompletionItem items
  | .signatureHelp found => .ofOption putSignatureHelp found
  | .symbols found => putSymbols found
  | .references found => putLocations found
  | .implementation found =>
      match found.filterMap putLocation? with
      | [] => .null
      | shown => .array shown
  | .rename edits => .ofOption putWorkspaceEdit edits

namespace Response

/-- The response to a query, from what the session made of it. -/
def ofOutcome : Session.Outcome -> Response
  | .ok answer => .result (putAnswer answer)
  | .error failure => .refusal (.internal failure.message)

end Response

namespace Server

def new : Server := ⟨.fresh, none, false⟩

/-- Nothing but a reaction comes of a message. -/
def merely (server : Server) (reaction : Reaction) : Handling := ⟨server, [], reaction⟩

/-- Where the session works. -/
def workspace (server : Server) (surroundings : Surroundings) : Path :=
  server.root.getD surroundings.workingDirectory

/-- A call that comes at the wrong time. -/
def untimely (server : Server) : Refusal :=
  if server.phase = .fresh then .notInitialized else .invalidRequest

/-- The editor introduces itself. -/
def greet (server : Server) (params : Option Json) : Handling :=
  match server.phase, params with
  | .fresh, none => server.merely (.refuse .missingParams)
  | .fresh, some given =>
      match Params.take Shape.greeting Params.workspace given with
      | .error reason => server.merely (.refuse (.invalidParams reason))
      | .ok path =>
          ⟨{ server with phase := .ready, root := path }, [], .result introduction⟩
  | _, _ => server.merely (.refuse .invalidRequest)

/-- The editor asks the server to stop. -/
def shutdown (server : Server) (params : Option Json) : Handling :=
  if server.phase = .ready then
    match params with
    | some given =>
        ⟨{ server with phase := .stopping }, [],
          .refuse (.invalidParams ("Unexpected params: " ++ given.print))⟩
    | none =>
        ⟨{ server with phase := .stopping, hasSession := false },
          if server.hasSession then [.order .shutdown] else [], .result .null⟩
  else server.merely (.refuse server.untimely)

def execute (server : Server) (params : Json) : Handling :=
  let command (params : Json) : String := Params.text (Params.member "command" params)
  match Params.take Shape.execution command params with
  | .error reason => server.merely (.refuse (.invalidParams reason))
  | .ok command =>
      if command = restartCommand then
        ⟨server, if server.hasSession then [.order .requestRestart] else [], .result .null⟩
      else server.merely (.refuse (.invalidParams ("unknown command `" ++ command ++ "`")))

/-- Answer a call.  Without a session there is nothing to tell.  What is handed in is looked at even
where the call is not offered. -/
def request (server : Server) (method : String) (params : Json) : Handling :=
  if method = Method.executeCommand then server.execute params
  else
    match Method.query? method, Method.notOffered.lookup method with
    | some (shape, meaning), _ =>
        match Params.take shape meaning params with
        | .error reason => server.merely (.refuse (.invalidParams reason))
        | .ok query =>
            if server.hasSession then server.merely (.consult query)
            else server.merely (.result .null)
    | none, some shape =>
        match shape.read false params with
        | .error reason => server.merely (.refuse (.invalidParams reason))
        | .ok _ => server.merely (.refuse .methodNotFound)
    | none, none => server.merely (.refuse .methodNotFound)

/-- Hand an edit to the session, if there is one. -/
def edit (server : Server) (document : Document) (version : Option Int) : Handling :=
  if server.hasSession then ⟨server, [.order (.edit document version)], .silent⟩
  else server.merely .silent

/-- The editor is ready: the session is opened. -/
def start (server : Server) (surroundings : Surroundings) : Handling :=
  let workspace := server.workspace surroundings
  ⟨{ server with hasSession := true },
    [.openSession (surroundings.plan workspace) (surroundings.documents workspace)], .silent⟩

/-- The settings may have changed. -/
def restart (server : Server) (surroundings : Surroundings) : Handling :=
  if server.hasSession then
    ⟨server, [.order (.restart (surroundings.plan (server.workspace surroundings)))], .silent⟩
  else server.merely .silent

/-- A document has another text, of the version that is told with it. -/
def changed (server : Server) (params : Json) (text : String) : Handling :=
  server.edit ⟨Params.documentKey params, text⟩ (some (Params.version params))

/-- A closed document falls back to the text of its file. -/
def closed (server : Server) (surroundings : Surroundings) (params : Json) : Handling :=
  let path := (Params.url? (Params.member "uri" (Params.document params))).bind Url.toPath?
  match path.bind surroundings.text? with
  | some text => server.edit ⟨Params.documentKey params, text⟩ none
  | none => server.merely .silent

/-- The notifications that matter: what is handed in, and what comes of it. -/
def note? (server : Server) (surroundings : Surroundings) :
    String -> Option (Shape × (Json -> Handling))
  | "initialized" => some (Shape.initialized, fun _ => server.start surroundings)
  | "textDocument/didOpen" =>
      some (Shape.opening, fun params =>
        server.changed params (Params.text (Params.member "text" (Params.document params))))
  | "textDocument/didChange" =>
      some (Shape.change, fun params =>
        match Params.lastText? params with
        | some text => server.changed params text
        | none => server.merely .silent)
  | "textDocument/didClose" => some (Shape.closing, server.closed surroundings)
  | "workspace/didChangeConfiguration" =>
      some (Shape.configuration, fun _ => server.restart surroundings)
  | _ => none

/-- Take note of something.  What is malformed or of no interest is passed over. -/
def note (server : Server) (surroundings : Surroundings) (method : String) (params : Json) :
    Handling :=
  match server.note? surroundings method with
  | none => server.merely .silent
  | some (shape, meaning) =>
      match Params.take shape meaning params with
      | .ok handling => handling
      | .error _ => server.merely .silent

/-- Answer a call. -/
def call (server : Server) (method : String) (params : Option Json) : Handling :=
  match Method.kind method with
  | .greeting => server.greet params
  | .shutdown => server.shutdown params
  | .exit => { server with phase := .exited }.merely .silent
  | .unknown =>
      server.merely
        (if "$/".toList.isPrefixOf method.toList then .silent else .refuse .methodNotFound)
  | .notification =>
      server.merely
        (.refuse (if server.phase = .ready then .invalidRequest else server.untimely))
  | .request =>
      if server.phase = .ready then
        match params with
        | some given => server.request method given
        | none => server.merely (.refuse .missingParams)
      else server.merely (.refuse server.untimely)

/-- Take a notification. -/
def notify (server : Server) (surroundings : Surroundings) (method : String)
    (params : Option Json) : Handling :=
  match Method.kind method with
  | .exit => { server with phase := .exited }.merely .silent
  | .shutdown =>
      if server.phase = .ready then { server with phase := .stopping }.merely .silent
      else server.merely .silent
  | .notification =>
      match server.phase, params with
      | .ready, some given => server.note surroundings method given
      | _, _ => server.merely .silent
  | _ => server.merely .silent

/-- Handle a message.  Once the editor has said goodbye, nothing is heard any more. -/
def handle (server : Server) (surroundings : Surroundings) (message : Message) : Handling :=
  if server.phase = .exited then server.merely .silent
  else
    match message.id with
    | some _ => server.call message.method message.params
    | none => server.notify surroundings message.method message.params

end Server
end Editor
end LanguageServer
