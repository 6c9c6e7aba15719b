import TableLayout.Text.Quoted
import TableLayout.Url.Domain
import TableLayout.Url.Ipv6
import TableLayout.Url.Percent

/-!
# Hosts

A host is an IPv6 address in brackets or, in a special URL, an IPv4 address or a domain. Elsewhere it is text
without a meaning of its own.
-/

namespace TableLayout

/-- What makes a URL unreadable. -/
inductive UrlFault
  | relativeWithoutBase
  | relativeToOpaque
  | emptyHost
  | port
  | domainCharacter
  | internationalDomain
  | ipv4
  | ipv6
deriving DecidableEq, Repr

def UrlFault.message : UrlFault → String
  | .relativeWithoutBase => "relative URL without a base"
  | .relativeToOpaque => "relative URL with a cannot-be-a-base base"
  | .emptyHost => "empty host"
  | .port => "invalid port number"
  | .domainCharacter => "invalid domain character"
  | .internationalDomain => "invalid international domain name"
  | .ipv4 => "invalid IPv4 address"
  | .ipv6 => "invalid IPv6 address"

inductive Host
  /-- A domain or a text; the empty one stands for no host. -/
  | name (text : String)
  | ipv4 (address : Nat)
  | ipv6 (pieces : List Nat)
deriving DecidableEq, Repr

namespace Host

def text : Host → String
  | .name text => text
  | .ipv4 address => Ipv4.text address
  | .ipv6 pieces => "[" ++ Ipv6.text pieces ++ "]"

/-- Which kind of host it is, in the form in which a message lists it. -/
def described : Host → String
  | .name text => "Domain(" ++ Text.quoted text ++ ")"
  | .ipv4 address => "Ipv4(" ++ Ipv4.text address ++ ")"
  | .ipv6 pieces => "Ipv6(" ++ Ipv6.mixedText pieces ++ ")"

def readBracketed (s : List Char) : Except UrlFault Host :=
  match Ipv6.read s.dropLast with
  | some pieces => if s.getLast? = some ']' then .ok (.ipv6 pieces) else .error .ipv6
  | none => .error .ipv6

/-- Reads a host whose characters are percent-decoded to `bytes`. -/
def readBytes (bytes : List UInt8) : Except UrlFault Host :=
  match (String.fromUTF8? ⟨bytes.toArray⟩).bind (Domain.ascii? ·.toList) with
  | none => .error .internationalDomain
  | some [] => .error .emptyHost
  | some domain =>
    if Ipv4.looksNumeric domain then
      match Ipv4.read domain with
      | some address => .ok (.ipv4 address)
      | none => .error .ipv4
    else .ok (.name (String.ofList domain))

def readSpecial (s : List Char) : Except UrlFault Host :=
  match s with
  | [] => .error .emptyHost
  | '[' :: rest => readBracketed rest
  | s => readBytes (Percent.decode s)

/-- No host holds one of these, whatever its URL. -/
def isForbidden (c : Char) : Bool := "\x00\t\n\r #/:<>?@[\\]^|".toList.contains c

/-- Reads the host of any other URL, which keeps its case. -/
def readOther (s : List Char) : Except UrlFault Host :=
  match s with
  | '[' :: rest => readBracketed rest
  | s => if s.any isForbidden then .error .domainCharacter else .ok (.name (String.ofList (Percent.encode [] s)))

end Host

end TableLayout
