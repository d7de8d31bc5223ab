import DocLinks.Url.Domain.Basic
import DocLinks.Url.Ipv4
import DocLinks.Url.Ipv6
import DocLinks.Url.Percent
import DocLinks.Url.Scheme

namespace DocLinks.Url

inductive Host where
  | name (text : Text)
  | ipv4 (number : Nat)
  | ipv6 (groups : List Nat)
  deriving DecidableEq, Repr

namespace Host

def serialize : Host → Text
  | .name text => text
  | .ipv4 number => Ipv4.serialize number
  | .ipv6 groups => ['['] ++ Ipv6.serialize groups ++ [']']

def parseBracketed (inside : Text) : Option Host :=
  if inside.getLast? == some ']' then (Ipv6.parse inside.dropLast).map .ipv6 else none

/-- A host of the known schemes: percent signs are resolved, and a name that ends in a number has
to be one as a whole. -/
def parseDomain (t : Text) : Option Host :=
  match t with
  | '[' :: inside => parseBracketed inside
  | _ =>
      match Domain.toAscii (Utf8.decode (Percent.decode t)) with
      | some domain =>
          if domain.isEmpty then none
          else if Ipv4.isNumeric domain then (Ipv4.parse domain).map .ipv4
          else some (.name domain)
      | none => none

/-- Characters that end or part an address, and so are in no host. -/
def isRefusedInName (c : Char) : Bool :=
  c == '\x00' || " \t\n\r#/:<>?@[\\]^|".toList.contains c

def parseName (t : Text) : Option Host :=
  match t with
  | '[' :: inside => parseBracketed inside
  | _ =>
      if t.any isRefusedInName then none
      else some (.name (Percent.encode Percent.isEncodedAlways t))

def parse (kind : SchemeKind) (t : Text) : Option Host :=
  if kind.isSpecial then parseDomain t else parseName t

end Host

end DocLinks.Url
