import LanguageServer.Table

namespace LanguageServer
namespace Settings

/-!
References to environment variables.

A reference opens with a dollar sign and a brace and closes at the next brace.  It is replaced by
the value of the variable it names, or by nothing if the name is empty or the variable is not set.
The text is read once from left to right: values are not read again, and a reference that does not
close stays as it is.
-/

/-- The variables that are set. -/
abbrev Environment := Table String

/-- The value that a name leads to.  A variable is kept as its name, an equals sign and its value,
so a name with an equals sign leads into a value: if `A` is `B=c`, then `A=B` leads to `c`. -/
def Environment.value? (environment : Environment) (name : List Char) : Option (List Char) :=
  match environment.find? (String.ofList name) with
  | some value => some value.toList
  | none =>
      let owner := name.takeWhile (· != '=')
      let inside := name.drop (owner.length + 1) ++ ['=']
      match environment.find? (String.ofList owner) with
      | some value =>
          if inside.isPrefixOf value.toList then some (value.toList.drop inside.length) else none
      | none => none

/-- Where a text stands in the reading. -/
inductive Piece where
  /-- Text that stands for itself. -/
  | literal (text : List Char)
  /-- A reference to a variable. -/
  | reference (name : List Char)
deriving DecidableEq, Repr, Inhabited

/-- Split at the first closing brace. -/
def closing? (text : List Char) : Option (List Char × List Char) :=
  match text.dropWhile (· != '\x7d') with
  | [] => none
  | _ :: rest => some (text.takeWhile (· != '\x7d'), rest)

/-- Put a character in front of the pieces that follow it. -/
def consLiteral (c : Char) : List Piece -> List Piece
  | .literal text :: rest => .literal (c :: text) :: rest
  | pieces => .literal [c] :: pieces

/-- What follows a closing brace is shorter than what the brace was looked for in. -/
theorem length_lt_of_closing? {text name after : List Char}
    (found : closing? text = some (name, after)) : after.length < text.length := by
  rw [closing?] at found
  split at found
  next => cases found
  next brace rest behind =>
    cases found
    have shorter := (List.dropWhile_sublist (l := text) (· != '\x7d')).length_le
    rw [behind, List.length_cons] at shorter
    exact shorter

/-- Cut a text into literal text and references. -/
def cut : List Char -> List Piece
  | [] => []
  | '$' :: '\x7b' :: rest =>
      match _ : closing? rest with
      | some (name, after) => .reference name :: cut after
      | none => [.literal ('$' :: '\x7b' :: rest)]
  | c :: rest => consLiteral c (cut rest)
termination_by text => text.length
decreasing_by
  · have shorter := length_lt_of_closing? ‹closing? rest = some (name, after)›
    simp only [List.length_cons]
    omega
  · simp only [List.length_cons]
    omega

/-- What a piece stands for. -/
def Piece.value (environment : Environment) : Piece -> List Char
  | .literal text => text
  | .reference name =>
      if name.isEmpty then []
      else (environment.value? name).getD []

/-- Replace the references in a text by the values of their variables. -/
def expand (environment : Environment) (text : String) : String :=
  String.ofList ((cut text.toList).flatMap (Piece.value environment))

/-- The variables that a text refers to. -/
def mentioned (text : String) : List String :=
  (cut text.toList).filterMap (fun piece => match piece with
    | .reference name => some (String.ofList name)
    | .literal _ => none)

end Settings
end LanguageServer
