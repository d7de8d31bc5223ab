import DocLinks.Markdown.Element
import DocLinks.Url.Parse

namespace DocLinks

structure Link where
  /-- The destination as written, its escapes resolved. -/
  href : Text
  url : Option Url
  position : Option Position
  deriving DecidableEq, Repr

namespace Link

def ofHref (href : Text) : Link :=
  ⟨href, Url.parse href, none⟩

/-- A link to a destination that is taken to be relative, whatever it looks like. -/
def relative (href : Text) : Link :=
  ⟨href, none, none⟩

def atPosition (link : Link) (position : Position) : Link :=
  { link with position := some position }

def isPureAnchor (link : Link) : Bool :=
  link.href.head? == some '#'

def line (link : Link) : Option Nat :=
  link.position.map fun position => position.start.line

end Link

/-- The kinds of nodes that hold a destination: links in the running text and the definitions that
references lead to. -/
def linkKinds : List Text :=
  ["definition".toList, "link".toList]

def linkOfNode (node : Markdown.Node) : Option Link :=
  match node.label.element with
  | .link url | .definition url => some ⟨url, Url.parse url, node.position⟩
  | _ => none

/-- The links and definitions of a document, in document order. -/
def linksInTree (root : Markdown.Node) : List Link :=
  (root.select linkKinds).filterMap linkOfNode

end DocLinks
