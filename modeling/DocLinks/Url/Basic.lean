import DocLinks.Url.Authority
import DocLinks.Url.Route

namespace DocLinks

namespace Url

inductive Path where
  | route (names : Route)
  /-- A text without structure, as in the address of a mailbox. -/
  | plain (text : Text)
  deriving DecidableEq, Repr

end Url

structure Url where
  scheme : Text
  authority : Option Url.Authority
  path : Url.Path
  query : Option Text
  fragment : Option Text
  deriving DecidableEq, Repr

namespace Url

/-- The path. Where no authority is in front of it, a dot keeps its double slash from beginning
one. -/
def writePath (authority : Option Authority) : Path → Text
  | .plain text => text
  | .route names =>
      match authority, names with
      | none, [] :: _ :: _ => ['/', '.'] ++ names.serialize
      | _, _ => names.serialize

def writePart (sign : Char) (part : Option Text) : Text :=
  (part.map (sign :: ·)).getD []

def serialize (url : Url) : Text :=
  url.scheme ++ [':'] ++
    ((url.authority.map fun authority => ['/', '/'] ++ authority.serialize).getD []) ++
    writePath url.authority url.path ++ writePart '?' url.query ++ writePart '#' url.fragment

end Url

end DocLinks
