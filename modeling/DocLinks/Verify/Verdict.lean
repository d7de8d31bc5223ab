import DocLinks.Anchor.Outcome
import DocLinks.Link

namespace DocLinks

inductive FileError where
  | fileNotExists
  | fileOutsideBase
  /-- The link names its own document; the anchor alone would do. -/
  | convertPureAnchor
  deriving DecidableEq, Repr

def FileError.code : FileError → Text
  | .fileNotExists => "FILE_NOT_EXISTS".toList
  | .fileOutsideBase => "FILE_OUTSIDE_BASE".toList
  | .convertPureAnchor => "CONVERT_PURE_ANCHOR".toList

/-- The target could not be located, or it was and the anchor leads nowhere in it. -/
inductive Verdict where
  | file (error : FileError)
  | anchor (error : AnchorError)
  deriving DecidableEq, Repr

namespace Verdict

def kind : Verdict → Text
  | .file _ => "file".toList
  | .anchor _ => "anchor".toList

def code : Verdict → Text
  | .file error => error.code
  | .anchor error => error.code

end Verdict

structure LinkError where
  verdict : Verdict
  link : Link
  deriving DecidableEq, Repr

/-- The line of a link, or a question mark when it is not known. -/
def Link.lineText (link : Link) : Text :=
  match link.line with
  | some line => Text.ofNat line
  | none => ['?']

def LinkError.message (e : LinkError) : Text :=
  "line ".toList ++ e.link.lineText ++ ": ".toList ++ e.link.href ++ " (".toList ++
    e.verdict.kind ++ " error ".toList ++ e.verdict.code ++ [')']

end DocLinks
