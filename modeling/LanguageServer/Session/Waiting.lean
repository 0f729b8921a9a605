import LanguageServer.Session.Failure

namespace LanguageServer
namespace Session

/-!
Requests that wait for their response.

Responses carry no number: the compiler answers the requests of one kind in the order in which
they were made, so a response belongs to the oldest request of its kind.  A request whose caller
has gone away keeps its place, since otherwise every later response would go to the wrong one.
-/

/-- The number of a request. -/
abbrev RequestId := Nat

/-- The end of a request. -/
structure Settlement where
  id : RequestId
  outcome : Outcome

/-- A request that waits for its response. -/
structure Pending where
  kind : RequestKind
  id : RequestId
deriving DecidableEq, Repr, Inhabited

/-- The waiting requests, the oldest first. -/
structure Waiting where
  requests : List Pending
deriving DecidableEq, Repr, Inhabited

namespace Waiting

def empty : Waiting := ⟨[]⟩

/-- The requests of one kind that wait, the oldest first. -/
def ofKind (waiting : Waiting) (kind : RequestKind) : List RequestId :=
  (waiting.requests.filter (fun request => request.kind = kind)).map Pending.id

def count (waiting : Waiting) : Nat := waiting.requests.length

/-- A request was made. -/
def expect (waiting : Waiting) (kind : RequestKind) (id : RequestId) : Waiting :=
  ⟨waiting.requests ++ [⟨kind, id⟩]⟩

/-- The outcome that a response payload gives a request of its kind. -/
def outcomeOf (kind : RequestKind) (lines : List String) : Outcome :=
  match Wire.Payload.answer kind lines with
  | .ok answer => .ok answer
  | .error fault => .error (.payload kind fault)

/-- A response came: it settles the oldest request of its kind.  When none waits, it is
discarded. -/
def handle (waiting : Waiting) (kind : RequestKind) (lines : List String) :
    Option Settlement × Waiting :=
  match waiting.requests.find? (fun request => request.kind = kind) with
  | some request =>
      (some ⟨request.id, outcomeOf kind lines⟩,
        ⟨waiting.requests.eraseP (fun request => request.kind = kind)⟩)
  | none => (none, waiting)

/-- The settlements that leave nobody waiting: one kind after the other, and within a kind the
oldest request first. -/
def drain (waiting : Waiting) (outcome : RequestKind -> Outcome) : List Settlement :=
  RequestKind.all.flatMap (fun kind =>
    (waiting.ofKind kind).map (fun id => ⟨id, outcome kind⟩))

/-- The settlements that give every waiting request the empty answer. -/
def emptied (waiting : Waiting) : List Settlement :=
  waiting.drain (fun kind => .ok (Answer.empty kind))

/-- The settlements that fail every waiting request. -/
def rejected (waiting : Waiting) (failure : Failure) : List Settlement :=
  waiting.drain (fun _ => .error failure)

end Waiting
end Session
end LanguageServer
