namespace LanguageServer
namespace Url

/-- Why a text is no URL. -/
inductive Fault where
  /-- The text names no scheme, and there is nothing that it could be relative to. -/
  | relative
  | emptyHost
  /-- The name of the host has no ASCII form. -/
  | hostName
  | ipv4
  | ipv6
  /-- The host holds a character that no host may hold. -/
  | hostCharacter
  | port
deriving DecidableEq, Repr, Inhabited

namespace Fault

def message : Fault -> String
  | .relative => "relative URL without a base"
  | .emptyHost => "empty host"
  | .hostName => "invalid international domain name"
  | .ipv4 => "invalid IPv4 address"
  | .ipv6 => "invalid IPv6 address"
  | .hostCharacter => "invalid domain character"
  | .port => "invalid port number"

end Fault
end Url
end LanguageServer
