import BrowserFlow.Url.Error
import BrowserFlow.Url.International
import BrowserFlow.Url.Percent

/-!
Hosts as they stand in a URL, and the form in which each is written.
-/

namespace BrowserFlow.Url

/-- A numeric address between brackets. -/
def bracketedHost (rest : List Char) : Except UrlError (List Char) :=
  match (Text.before? [']'] rest).bind ipv6? with
  | some groups => .ok ('[' :: ipv6Text groups ++ [']'])
  | none => .error .invalidIpv6

/-- The host of a scheme whose hosts are domain names or addresses. -/
def domainHost (host : List Char) : Except UrlError (List Char) :=
  match host with
  | '[' :: rest => bracketedHost rest
  | _ =>
    match (percentDecode? host).bind nameToAscii? with
    | none => .error .invalidInternationalName
    | some [] => .error .emptyHost
    | some name =>
      if endsInNumber name then
        match ipv4? name with
        | some address => .ok (ipv4Text address)
        | none => .error .invalidIpv4
      else .ok name

def isHostBreak (c : Char) : Bool := "\x00\t\n\r #/:<>?@[\\]^|".toList.contains c

/-- The host of any other scheme, which is kept as it is but for its encoding. -/
def opaqueHost (host : List Char) : Except UrlError (List Char) :=
  match host with
  | '[' :: rest => bracketedHost rest
  | _ => if host.any isHostBreak then .error .invalidCharacter else .ok (encodeControls host)

end BrowserFlow.Url
