import QueryOptions.Url.Domain
import QueryOptions.Url.Escape
import QueryOptions.Url.Ipv6

/-!
Hosts of addresses. Special schemes have domain names or IP addresses, other
schemes any text without delimiters.
-/

namespace QueryOptions

/-- Why a text is no absolute address. -/
inductive UrlError where
  | relative
  | emptyHost
  | invalidPort
  | invalidIpv4
  | invalidIpv6
  | invalidDomain
  | invalidHostCharacter
  deriving DecidableEq, Repr

def UrlError.message : UrlError → String
  | .relative => "relative URL without a base"
  | .emptyHost => "empty host"
  | .invalidPort => "invalid port number"
  | .invalidIpv4 => "invalid IPv4 address"
  | .invalidIpv6 => "invalid IPv6 address"
  | .invalidDomain => "invalid international domain name"
  | .invalidHostCharacter => "invalid domain character"

namespace Url

/-- The text of an IPv6 host, given after its opening bracket. -/
def bracketedHost (text : List Char) : Except UrlError (List Char) :=
  match text.getLast?, Ipv6.read? text.dropLast with
  | some ']', some pieces => .ok (Ipv6.text pieces)
  | _, _ => .error .invalidIpv6

/-- The text of a host of a special scheme. -/
def namedHost : List Char → Except UrlError (List Char)
  | '[' :: rest => bracketedHost rest
  | text =>
    match (decodeUtf8? (unescape text)).bind Domain.toAscii? with
    | none => .error .invalidDomain
    | some [] => .error .emptyHost
    | some name =>
      if Ipv4.endsInNumber name then
        match Ipv4.read? name with
        | some address => .ok (Ipv4.text address)
        | none => .error .invalidIpv4
      else .ok name

def forbiddenInPlainHost (c : Char) : Bool :=
  "\x00\t\n\r #/:<>?@[\\]^|".toList.contains c

/-- The text of a host of any other scheme. -/
def plainHost : List Char → Except UrlError (List Char)
  | '[' :: rest => bracketedHost rest
  | text =>
    if text.any forbiddenInPlainHost then .error .invalidHostCharacter
    else .ok (escapeWhere isControl text)

end Url

end QueryOptions
