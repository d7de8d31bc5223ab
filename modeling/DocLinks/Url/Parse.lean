import DocLinks.Url.Basic

/-!
Reading absolute addresses. Blanks and controls around a text, and its tabs and line ends, do not
count; a text that does not begin with a scheme is no absolute address.
-/

namespace DocLinks.Url

def isDropped (c : Char) : Bool :=
  c == '\t' || c == '\n' || c == '\r'

/-- The characters of a text that count. -/
def clean (t : Text) : Text :=
  (Text.trimWhile (· ≤ ' ') t).filter fun c => !isDropped c

def splitPart (sign : Char) (t : Text) : Text × Option Text :=
  match Text.splitOnce sign t with
  | some (front, back) => (front, some back)
  | none => (t, none)

def splitTail (t : Text) : Text × Option Text × Option Text :=
  let (front, fragment) := splitPart '#' t
  let (front, query) := splitPart '?' front
  (front, query, fragment)

/-- The address with a path that is read from what is in front of the query, and with the query
and the fragment behind it. -/
def withTail (kind : SchemeKind) (scheme : Text) (authority : Option Authority)
    (readPath : Text → Path) (t : Text) : Url :=
  let (front, query, fragment) := splitTail t
  { scheme, authority
    path := readPath front
    query := query.map (Percent.encode (Percent.isEncodedInQuery kind.isSpecial))
    fragment := fragment.map (Percent.encode Percent.isEncodedInFragment) }

def endsAuthority (kind : SchemeKind) (c : Char) : Bool :=
  kind.isSlash c || c == '?' || c == '#'

/-- The route of what is behind an authority. Schemes that are not known tell no route from the
route to the root. -/
def routeOf (kind : SchemeKind) (t : Text) : Route :=
  match t with
  | [] => if kind.isSpecial then [[]] else []
  | c :: rest => if kind.isSlash c then Route.parse kind rest else Route.parse kind t

def readHierarchy (kind : SchemeKind) (scheme : Text) (t : Text) : Option Url :=
  let front := t.takeWhile fun c => !endsAuthority kind c
  let back := t.dropWhile fun c => !endsAuthority kind c
  (Authority.read kind front back.isEmpty).map fun (authority, rest) =>
    withTail kind scheme (some authority) (.route ∘ routeOf kind) (rest ++ back)

/-- The authority and the path of a file. The name of a drive in front of a path replaces the
host. -/
def fileUrl (scheme : Text) (host : Option Host) (readRoute : Text → Route) (t : Text) : Url :=
  let startsAtDrive := (readRoute (splitTail t).1).head?.any Route.isDrive
  let authority :=
    match host with
    | some host => if startsAtDrive then Authority.empty else Authority.ofHost host
    | none => Authority.empty
  withTail .file scheme (some authority) (.route ∘ Route.dropEmpty ∘ readRoute) t

def readFileHost (scheme : Text) (t : Text) : Option Url :=
  let name := t.takeWhile fun c => !endsAuthority .file c
  let back := t.dropWhile fun c => !endsAuthority .file c
  if Route.isDrive name then some (fileUrl scheme none (Route.parse .file) t)
  else if name.isEmpty then some (fileUrl scheme none (Route.parse .file) back)
  else
    match Host.parse .file name with
    | some host =>
        if host = .name "localhost".toList then some (fileUrl scheme none (Route.parse .file) back)
        else some (fileUrl scheme (some host) (routeOf .file) back)
    | none => none

def readFile (scheme : Text) (t : Text) : Option Url :=
  match t with
  | a :: b :: rest =>
      if SchemeKind.file.isSlash a && SchemeKind.file.isSlash b then readFileHost scheme rest
      else some (fileUrl scheme none (routeOf .file) t)
  | _ => some (fileUrl scheme none (routeOf .file) t)

def readOther (scheme : Text) (t : Text) : Option Url :=
  match t with
  | '/' :: '/' :: rest => readHierarchy .other scheme rest
  | '/' :: rest => some (withTail .other scheme none (.route ∘ Route.parse .other) rest)
  | _ => some (withTail .other scheme none (.plain ∘ Percent.encode Percent.isEncodedAlways) t)

/-- The absolute address that a text is, if it is one. -/
def parse (t : Text) : Option Url :=
  match splitScheme (clean t) with
  | none => none
  | some (scheme, rest) =>
      match schemeKind scheme with
      | .file => readFile scheme rest
      | .other => readOther scheme rest
      | kind => readHierarchy kind scheme (rest.dropWhile kind.isSlash)

end DocLinks.Url
