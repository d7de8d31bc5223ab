import DocLinks.Text.Basic

namespace DocLinks

/-- A path as written. -/
structure Path where
  text : Text
  deriving DecidableEq, Repr

namespace Path

def ofString (s : String) : Path :=
  ⟨s.toList⟩

def toString (p : Path) : String :=
  String.ofList p.text

/-- One step of a path. -/
inductive Component where
  | root
  | current
  | parent
  | name (name : Text)
  deriving DecidableEq, Repr

def isAbsolute (p : Path) : Bool :=
  p.text.head? == some '/'

/-- Names that are skipped: the empty one and the single dot. -/
def isSkipped (part : Text) : Bool :=
  part == [] || part == ['.']

def componentOf (part : Text) : Option Component :=
  if isSkipped part then none
  else if part = ['.', '.'] then some .parent
  else some (.name part)

/-- The component before all names: the root of an absolute path, or a dot that starts a relative
one. -/
def start (p : Path) : Option Component :=
  match p.text with
  | '/' :: _ => some .root
  | ['.'] => some .current
  | '.' :: '/' :: _ => some .current
  | _ => none

def body (p : Path) : Text :=
  if p.start.isSome then p.text.tail else p.text

def bodyComponents (p : Path) : List Component :=
  (Text.splitAll '/' p.body).filterMap componentOf

def components (p : Path) : List Component :=
  p.start.toList ++ p.bodyComponents

/-- The path without its last component, and without the separators and dots before that
component; none for a path that has no component or only the root. -/
def parent? (p : Path) : Option Path :=
  match ((Text.splitAll '/' p.body).reverse.dropWhile isSkipped) with
  | _ :: rest =>
      some ⟨(p.text.take (p.text.length - p.body.length)) ++
        Text.join ['/'] (rest.dropWhile isSkipped).reverse⟩
  | [] => if p.start = some .current then some ⟨[]⟩ else none

/-- The last component, when it is a name. -/
def fileName? (p : Path) : Option Text :=
  match p.components.getLast? with
  | some (.name part) => some part
  | _ => none

/-- Whether the components of `base` are the first ones of `p`. -/
def startsWith (p base : Path) : Bool :=
  base.components.isPrefixOf p.components

/-- Appends a relative path behind a separator; an absolute one replaces what is there. -/
def push (p q : Path) : Path :=
  if q.isAbsolute then q
  else if p.text = [] ∨ p.text.getLast? = some '/' then ⟨p.text ++ q.text⟩
  else ⟨p.text ++ '/' :: q.text⟩

def join (p q : Path) : Path :=
  p.push q

end Path

end DocLinks
