import LanguageServer.Json.Parser
import LanguageServer.Json.Printer

namespace LanguageServer
namespace Editor

/-!
Messages between the editor and the server.

A message with an id is a call and is answered once.  A message without one is a notification and
is never answered.
-/

/-- A message of the editor. -/
structure Message where
  id : Option Json
  method : String
  params : Option Json
deriving Inhabited

/-- Why a call has no result. -/
structure Refusal where
  code : Int
  message : String
deriving DecidableEq, Repr, Inhabited

namespace Refusal

def parseError : Refusal := ⟨-32700, "Parse error"⟩

def invalidRequest : Refusal := ⟨-32600, "Invalid request"⟩

def methodNotFound : Refusal := ⟨-32601, "Method not found"⟩

def invalidParams (reason : String) : Refusal := ⟨-32602, reason⟩

def missingParams : Refusal := invalidParams "Missing params field"

def internal (reason : String) : Refusal := ⟨-32603, reason⟩

def notInitialized : Refusal := ⟨-32002, "Server not initialized"⟩

end Refusal

/-- How a call is answered. -/
inductive Response where
  | result (value : Json)
  | refusal (reason : Refusal)
deriving Inhabited

namespace Message

def member (name : String) : Option Json -> List (String × Json)
  | some value => [(name, value)]
  | none => []

def toJson (message : Message) : Json :=
  .object ([("jsonrpc", .string "2.0")] ++ member "id" message.id ++
    [("method", .string message.method)] ++ member "params" message.params)

/-- The message that a value denotes. -/
def ofJson? (value : Json) : Option Message :=
  match value.member? "method" with
  | some (.string method) => some ⟨value.member? "id", method, value.member? "params"⟩
  | _ => none

end Message

namespace Response

def toJson (id : Json) : Response -> Json
  | .result value => .object [("jsonrpc", .string "2.0"), ("result", value), ("id", id)]
  | .refusal reason =>
      .object [("jsonrpc", .string "2.0"),
        ("error", .object [("code", .integer reason.code), ("message", .string reason.message)]),
        ("id", id)]

/-- The response that a value denotes, and the id of the call that it answers. -/
def ofJson? (value : Json) : Option (Json × Response) :=
  match value.member? "id", value.member? "error", value.member? "result" with
  | some id, some reason, _ =>
      let code? := (reason.member? "code").bind Json.integer?
      let message? := (reason.member? "message").bind Json.string?
      match code?, message? with
      | some code, some message => some (id, .refusal ⟨code, message⟩)
      | _, _ => none
  | some id, none, some value => some (id, .result value)
  | _, _, _ => none

end Response
end Editor
end LanguageServer
