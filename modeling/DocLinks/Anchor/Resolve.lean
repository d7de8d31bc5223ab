import DocLinks.Anchor.LinePointer
import DocLinks.Document

namespace DocLinks

/-- How an anchor into a file is resolved. -/
inductive AnchorStrategy where
  | undiscoverable
  | headings
  | linePointers
  | binary
  deriving DecidableEq, Repr

def AnchorStrategy.needsContent : AnchorStrategy → Bool
  | .headings | .linePointers => true
  | .undiscoverable | .binary => false

def anchorStrategy (path : Path) (options : VerifyOptions) : AnchorStrategy :=
  match path.extension? with
  | none => .undiscoverable
  | some extension =>
      if options.isDocExtension extension then .headings
      else if path.isPlainText then .linePointers
      else .binary

def matchHeading (anchor content : Text) (dialect : Dialect) : AnchorOutcome :=
  if (headingsIn dialect content).any fun heading => heading.anchor == anchor then .headingMatch
  else .failed .headingMatchFail

/-- Resolves an anchor, given without its number sign, in a content. -/
def checkAnchor (strategy : AnchorStrategy) (anchor content : Text) (dialect : Dialect) :
    AnchorOutcome :=
  if anchor = [] then .failed .emptyAnchor
  else
    match strategy with
    | .undiscoverable => .failed .anchorUndiscoverable
    | .binary => .failed .binaryFile
    | .headings => matchHeading anchor content dialect
    | .linePointers => matchLinePointer anchor content

/-- Resolves an anchor in a document at hand. -/
def classifyAnchor (target : Document) (anchor : Text) (options : VerifyOptions) : AnchorOutcome :=
  checkAnchor (anchorStrategy target.path options) anchor target.content options.dialect

end DocLinks
