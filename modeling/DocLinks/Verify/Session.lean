import DocLinks.Anchor.Resolve
import DocLinks.Verify.Verdict

/-!
Verification of the links of one document. The base directory bounds where links may lead: a
target is located by its path alone, and no file outside the base is ever looked at.
-/

namespace DocLinks

/-- A document whose links are verified below a base directory. -/
structure Session where
  base : Path
  document : Document
  options : VerifyOptions
  deriving Repr

namespace Session

def start (base : Path) (document : Document) (options : VerifyOptions) :
    Except CheckError Session :=
  if base.isAbsolute then .ok ⟨base.normalize, document, options⟩ else .error (.relativeBase base)

def documentPath (s : Session) : Path :=
  s.document.absolutePath s.base

def documentDir (s : Session) : Path :=
  (s.base.join s.document.dirname).normalize

/-- Where a relative destination leads. -/
def resolve (s : Session) (target : Text) : Path :=
  (s.documentDir.join ⟨target⟩).normalize

/-- Checks an anchor into the document itself, given without its number sign. -/
def checkPureAnchor (s : Session) (anchor : Text) : Option Verdict :=
  if anchor = [] then some (.anchor .emptyAnchor)
  else
    match s.document.extension? with
    | none => some (.anchor .noAnchorsInFiletype)
    | some extension =>
        if s.options.isDocExtension extension then
          (matchHeading anchor s.document.content s.options.dialect).error?.map .anchor
        else some (.anchor .noAnchorsInFiletype)

/-- What the part of a destination before the number sign gives away: a verdict from the path
alone. -/
def locate (s : Session) (resolved : Path) : Option FileError :=
  if resolved = s.documentPath then some .convertPureAnchor
  else if resolved = s.base ∨ ¬ resolved.startsWith s.base then some .fileOutsideBase
  else none

/-- Checks an anchor into another file below the base; the content is read only if it matters. -/
def checkTargetAnchor (fs : FileSystem) (s : Session) (resolved : Path) (anchor : Text) :
    Except CheckError (Option Verdict) :=
  if anchor = [] then .ok (some (.anchor .emptyAnchor))
  else if fs.isDirectory resolved then .ok (some (.anchor .anchorUndiscoverable))
  else
    let strategy := anchorStrategy resolved s.options
    if strategy.needsContent then do
      let target ← Document.read fs ⟨[]⟩ resolved
      return (checkAnchor strategy anchor target.content s.options.dialect).error?.map .anchor
    else .ok ((checkAnchor strategy anchor [] s.options.dialect).error?.map .anchor)

def checkFileLink (fs : FileSystem) (s : Session) (href : Text) :
    Except CheckError (Option Verdict) :=
  let (target, anchor) :=
    match Text.splitOnce '#' href with
    | some (target, anchor) => (target, some anchor)
    | none => (href, none)
  let resolved := s.resolve target
  match s.locate resolved with
  | some error => .ok (some (.file error))
  | none =>
      if fs.isPresent resolved then
        match anchor with
        | none => .ok none
        | some anchor => s.checkTargetAnchor fs resolved anchor
      else .ok (some (.file .fileNotExists))

/-- Checks one link: nothing, a verdict, or a failure to read the target. Links with an absolute
address are not looked at. -/
def check (fs : FileSystem) (s : Session) (link : Link) : Except CheckError (Option Verdict) :=
  if link.url.isSome then .ok none
  else
    match link.href with
    | '#' :: anchor => .ok (s.checkPureAnchor anchor)
    | href => s.checkFileLink fs href

/-- What verification tells of a link, if anything. -/
def item? (fs : FileSystem) (s : Session) (link : Link) : Option (Except CheckError LinkError) :=
  match s.check fs link with
  | .ok none => none
  | .ok (some verdict) => some (.ok ⟨verdict, link⟩)
  | .error e => some (.error e)

/-- The next item and the links behind the one that it is about. -/
def next? (fs : FileSystem) (s : Session) :
    List Link → Option (Except CheckError LinkError × List Link)
  | [] => none
  | link :: links =>
      match s.item? fs link with
      | some item => some (item, links)
      | none => next? fs s links

theorem length_lt_of_next? {fs : FileSystem} {s : Session} {links rest : List Link}
    {item : Except CheckError LinkError} (h : s.next? fs links = some (item, rest)) :
    rest.length < links.length := by
  induction links with
  | nil => simp [next?] at h
  | cons link links ih =>
      unfold next? at h
      split at h
      · simp only [Option.some.injEq, Prod.mk.injEq] at h
        simp [← h.2]
      · exact Nat.lt_succ_of_lt (ih h)

/-- All items, in the order of the links; a failure does not end them. -/
def items (fs : FileSystem) (s : Session) (links : List Link) :
    List (Except CheckError LinkError) :=
  match _h : s.next? fs links with
  | none => []
  | some (item, rest) => item :: items fs s rest
  termination_by links.length
  decreasing_by exact length_lt_of_next? _h

end Session

/-- Verifies links of a document below a base. -/
def verifyLinks (fs : FileSystem) (base : Path) (document : Document) (links : List Link)
    (options : VerifyOptions) : Except CheckError (List (Except CheckError LinkError)) := do
  let session ← Session.start base document options
  return session.items fs links

end DocLinks
