import DocLinks.Text.Basic

namespace DocLinks.Url

/-- How the part behind a scheme is read. -/
inductive SchemeKind where
  /-- An address of the web: it has a host, and leaves out the number of this service. -/
  | web (service : Nat)
  /-- The address of a file, whose host may be left out. -/
  | file
  | other
  deriving DecidableEq, Repr

namespace SchemeKind

/-- Whether a backslash counts as a slash, and every path begins with one. -/
def isSpecial : SchemeKind → Bool
  | .web _ | .file => true
  | .other => false

def service? : SchemeKind → Option Nat
  | .web service => some service
  | .file | .other => none

def isSlash (kind : SchemeKind) (c : Char) : Bool :=
  c == '/' || (kind.isSpecial && c == '\\')

end SchemeKind

def knownSchemes : List (String × SchemeKind) :=
  [("http", .web 80), ("https", .web 443), ("ws", .web 80), ("wss", .web 443), ("ftp", .web 21),
   ("file", .file)]

def schemeKind (scheme : Text) : SchemeKind :=
  match knownSchemes.find? fun entry => entry.1.toList == scheme with
  | some (_, kind) => kind
  | none => .other

def isSchemeChar (c : Char) : Bool :=
  c.isAlphanum || c == '+' || c == '-' || c == '.'

/-- The scheme in small letters, and what is behind its colon. A scheme begins with a letter. -/
def splitScheme (t : Text) : Option (Text × Text) :=
  match Text.splitOnce ':' t with
  | some (scheme, rest) =>
      if scheme.head?.any Char.isAlpha && scheme.all isSchemeChar then
        some (Text.toAsciiLower scheme, rest)
      else none
  | none => none

end DocLinks.Url
