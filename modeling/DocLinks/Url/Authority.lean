import DocLinks.Url.Host

namespace DocLinks.Url

structure Authority where
  user : Text
  password : Text
  host : Option Host
  /-- The number of the service; none for the one that the scheme implies. -/
  service : Option Nat
  deriving DecidableEq, Repr

namespace Authority

def empty : Authority :=
  ⟨[], [], none, none⟩

def ofHost (host : Host) : Authority :=
  { empty with host := some host }

def hasUser (authority : Authority) : Bool :=
  !authority.user.isEmpty || !authority.password.isEmpty

def readUser (t : Text) : Text × Text :=
  let encode := Percent.encode Percent.isEncodedInUser
  match Text.splitOnce ':' t with
  | some (user, password) => (encode user, encode password)
  | none => (encode t, [])

/-- The host, and what is behind it from its first colon outside of brackets on. -/
def splitService (inBrackets : Bool) : Text → Text × Text
  | [] => ([], [])
  | c :: rest =>
      if c == ':' && !inBrackets then ([], c :: rest)
      else
        let inBrackets := if c == '[' then true else if c == ']' then false else inBrackets
        let (host, service) := splitService inBrackets rest
        (c :: host, service)

def maxService : Nat := 65535

/-- The number of a service behind its colon, and what is behind its digits: nothing, or what
begins with a backslash. -/
def readService (kind : SchemeKind) (t : Text) : Option (Option Nat × Text) :=
  let digits := t.takeWhile Char.isDigit
  let rest := t.dropWhile Char.isDigit
  let service := Text.toNat? 10 digits
  if service.any (maxService < ·) || rest.head?.any (· != '\\') then none
  else some (if service = kind.service? then none else service, rest)

/-- A host and the number of a service, and what is behind them. Only schemes that are not known
leave out the host, and then also the number. -/
def readHost (kind : SchemeKind) (t : Text) : Option (Option Host × Option Nat × Text) :=
  match splitService false t with
  | ([], []) => if kind.isSpecial then none else some (none, none, [])
  | ([], _) => none
  | (host, service) =>
      match Host.parse kind host, service with
      | some host, [] => some (some host, none, [])
      | some host, _ :: digits => (readService kind digits).map fun r => (some host, r)
      | none, _ => none

/-- Reads what is between the double slash and the next slash; `isLast` tells that nothing is
behind it. The last at sign ends the user. -/
def read (kind : SchemeKind) (t : Text) (isLast : Bool) : Option (Authority × Text) :=
  let (user, place) := (Text.splitLast '@' t).getD ([], t)
  let (user, password) := readUser user
  match readHost kind place with
  | none => none
  | some (host, service, rest) =>
      let authority : Authority := ⟨user, password, host, service⟩
      if host.isNone && (authority.hasUser || (t == ['@'] && !isLast)) then none
      else some (authority, rest)

def serialize (authority : Authority) : Text :=
  authority.user ++
    (if authority.password.isEmpty then [] else ':' :: authority.password) ++
    (if authority.hasUser then ['@'] else []) ++
    ((authority.host.map Host.serialize).getD []) ++
    ((authority.service.map fun number => ':' :: Text.ofNat number).getD [])

end Authority

end DocLinks.Url
