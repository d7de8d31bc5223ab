import DocLinks.Url.Percent
import DocLinks.Url.Scheme

namespace DocLinks.Url

/-- The names of a path, each with a slash in front of it. -/
abbrev Route := List Text

namespace Route

/-- Whether a name is a single dot, as it is or with a percent sign. -/
def isDot (name : Text) : Bool :=
  [".", "%2e"].any fun s => Text.eqIgnoreAsciiCase s.toList name

def isDoubleDot (name : Text) : Bool :=
  ["..", ".%2e", "%2e.", "%2e%2e"].any fun s => Text.eqIgnoreAsciiCase s.toList name

/-- Whether a name is a letter and a colon, or a bar in its place. -/
def isDrive (name : Text) : Bool :=
  match name with
  | [letter, sign] => letter.isAlpha && (sign == ':' || sign == '|')
  | _ => false

/-- A name over which a double dot does not lead back. -/
def isKept (name : Text) : Bool :=
  isDrive (name.takeWhile (· != '\\'))

def driveName (name : Text) : Text :=
  name.take 1 ++ [':']

def step (kind : SchemeKind) (route : Route) (name : Text) : Route :=
  if isDoubleDot name then
    if route.getLast?.any isKept then route else route.dropLast
  else if isDot name then route
  else if kind = .file && route.isEmpty && isDrive name then [driveName name]
  else route ++ [name]

/-- Adds an empty name where the last one leads to a directory. -/
def closeDirectory (names : List Text) : List Text :=
  if names.getLast?.any fun name => isDot name || isDoubleDot name then names ++ [[]] else names

def namesOf (kind : SchemeKind) (t : Text) : List Text :=
  Text.splitAll '/' (t.map fun c => if kind.isSlash c then '/' else c)

def parse (kind : SchemeKind) (t : Text) : Route :=
  let names := (namesOf kind t).map (Percent.encode Percent.isEncodedInPath)
  (closeDirectory names).foldl (step kind) []

def dropEmpty (route : Route) : Route :=
  match route.dropWhile List.isEmpty with
  | [] => [[]]
  | names => names

def serialize (route : Route) : Text :=
  route.flatMap fun name => '/' :: name

end Route

end DocLinks.Url
