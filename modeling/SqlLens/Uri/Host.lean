import SqlLens.Domain.Basic
import SqlLens.Uri.Address
import SqlLens.Uri.Percent

/-!
Hosts, and why a text is no address of a document.
-/

namespace SqlLens

inductive UriFault where
  | noScheme
  | emptyHost
  | invalidPort
  | invalidAddress4
  | invalidAddress6
  | invalidDomain
  | invalidCharacter
deriving DecidableEq

def UriFault.message : UriFault → String
  | noScheme => "relative URL without a base"
  | emptyHost => "empty host"
  | invalidPort => "invalid port number"
  | invalidAddress4 => "invalid IPv4 address"
  | invalidAddress6 => "invalid IPv6 address"
  | invalidDomain => "invalid international domain name"
  | invalidCharacter => "invalid domain character"

namespace Uri

inductive Host where
  | name (text : List Char)
  | address4 (value : Nat)
  | address6 (pieces : List Nat)

namespace Host

def text : Host → List Char
  | name text => text
  | address4 value => (Address4.text value).toList
  | address6 pieces => "[".toList ++ (Address6.text pieces).toList ++ "]".toList

variable (text : List Char)

def bracketed : Except UriFault Host :=
  match text.reverse with
  | ']' :: rest =>
    match Address6.parse? rest.reverse with
    | some pieces => .ok (.address6 pieces)
    | none => .error .invalidAddress6
  | _ => .error .invalidAddress6

def parse : Except UriFault Host :=
  match text with
  | '[' :: rest => bracketed rest
  | _ =>
    match (unescaped? text).bind Domain.toAscii? with
    | none => .error .invalidDomain
    | some [] => .error .emptyHost
    | some domain =>
      if Address4.endsInNumber domain then
        match Address4.parse? domain with
        | some value => .ok (.address4 value)
        | none => .error .invalidAddress4
      else .ok (.name domain)

def forbidden : List Char :=
  ['\x00', '\t', '\n', '\r', ' ', '#', '/', ':', '<', '>', '?', '@', '[', '\\', ']', '^', '|']

def parseOpaque : Except UriFault Host :=
  match text with
  | '[' :: rest => bracketed rest
  | _ => if text.any forbidden.contains then .error .invalidCharacter else .ok (.name (escape [] text))

end Host

end Uri

end SqlLens
