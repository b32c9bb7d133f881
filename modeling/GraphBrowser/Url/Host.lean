import GraphBrowser.Url.Domain.Basic
import GraphBrowser.Url.Address
import GraphBrowser.Url.Encoding

namespace GraphBrowser.Url

inductive ParseError where
  | noScheme
  | emptyHost
  | invalidPort
  | invalidIpv4
  | invalidIpv6
  | invalidDomain
  | invalidHostCharacter
  deriving DecidableEq, Repr

def ParseError.message : ParseError → String
  | .noScheme => "relative URL without a base"
  | .emptyHost => "empty host"
  | .invalidPort => "invalid port number"
  | .invalidIpv4 => "invalid IPv4 address"
  | .invalidIpv6 => "invalid IPv6 address"
  | .invalidDomain => "invalid international domain name"
  | .invalidHostCharacter => "invalid domain character"

inductive Host where
  | domain (name : String)
  | ipv4 (address : Nat)
  | ipv6 (pieces : List Nat)
  deriving DecidableEq, Repr

namespace Host

def parseBracketed (cs : List Char) : Except ParseError Host :=
  if cs.getLast? = some ']' then
    match Ipv6.parse? cs.dropLast with
    | none => .error .invalidIpv6
    | some pieces => .ok (.ipv6 pieces)
  else
    .error .invalidIpv6

def parse (cs : List Char) : Except ParseError Host :=
  match cs with
  | '[' :: rest => parseBracketed rest
  | _ =>
    match (Text.decode? (percentDecode cs)).bind Domain.toAscii? with
    | none => .error .invalidDomain
    | some [] => .error .emptyHost
    | some name =>
      if Ipv4.endsInNumber name then
        match Ipv4.parse? name with
        | none => .error .invalidIpv4
        | some address => .ok (.ipv4 address)
      else
        .ok (.domain (String.ofList name))

def isForbidden (c : Char) : Bool := "\x00\t\n\r #/:<>?@[\\]^|".toList.contains c

def checkOpaque (cs : List Char) : Except ParseError Unit :=
  match cs with
  | '[' :: rest => (parseBracketed rest).map fun _ => ()
  | _ => if cs.any isForbidden then .error .invalidHostCharacter else .ok ()

def text : Host → String
  | .domain name => name
  | .ipv4 address => Ipv4.text address
  | .ipv6 pieces => "[" ++ Ipv6.text pieces ++ "]"

end Host

end GraphBrowser.Url
