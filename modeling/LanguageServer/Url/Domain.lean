import LanguageServer.Text.Pieces
import LanguageServer.Url.Domain.Direction
import LanguageServer.Url.Domain.Folding
import LanguageServer.Url.Domain.Joining
import LanguageServer.Url.Punycode

namespace LanguageServer
namespace Url
namespace Domain

/-!
Names of hosts, in ASCII.

A name is folded and composed, and cut into labels at its dots.  A label that is not ASCII is
written in Punycode behind a mark.  A label that comes with the mark has to be what its meaning is
written as, so every name has one ASCII form.
-/

/-- ASCII characters that no name may hold. -/
def isForbidden (c : Char) : Bool :=
  c.toNat ≤ 0x20 || c ∈ ['\x7f', '%', '#', '/', ':', '<', '>', '?', '@', '[', '\\', ']', '^', '|']

def isAscii (c : Char) : Bool := c.toNat < 0x80

/-- The mark of a label in Punycode. -/
def mark : List Char := ['x', 'n', '-', '-']

/-- Labels longer than this, and Punycode longer than twice as much, are not dealt with. -/
def lengthLimit : Nat := 1000

/-- The meaning of a label. -/
def meaning? (label : List Char) : Option (List Char) :=
  if mark.isPrefixOf label then
    let written := label.drop mark.length
    if written.length > 2 * lengthLimit then none
    else
      match Punycode.decode? written with
      | none => none
      | some meaning =>
          if !meaning.all isAscii && meaning.all isFolded && Text.composed meaning = meaning &&
              !mark.isPrefixOf meaning && Punycode.encode meaning = written then some meaning
          else none
  else some label

/-- A label whose characters stand where they may. -/
def isSound (label : List Char) : Bool :=
  !(label.head?.map marks.has).getD false && joinsWell [] label

/-- The ASCII form of a label, from its meaning. -/
def labelText? (meaning : List Char) : Option (List Char) :=
  if meaning.all isAscii then some meaning
  else if meaning.length > lengthLimit then none
  else some (mark ++ Punycode.encode meaning)

/-- The ASCII form of a name. -/
def ascii? (name : List Char) : Option (List Char) := do
  let folded <- name.mapM fold?
  let text := Text.composed folded.flatten
  let labels <- (Text.pieces '.' text).mapM meaning?
  if text.any isForbidden || !labels.all isSound || (isMixed labels && !labels.all runsOneWay) then
    none
  else
    let texts <- labels.mapM labelText?
    return List.intercalate ['.'] texts

end Domain
end Url
end LanguageServer
