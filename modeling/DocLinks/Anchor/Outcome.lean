import DocLinks.Text.Basic

namespace DocLinks

inductive AnchorError where
  | emptyAnchor
  | binaryFile
  /-- The target has no extension, so the meaning of an anchor in it is not known. -/
  | anchorUndiscoverable
  | noAnchorsInFiletype
  | headingMatchFail
  | lineTargetFail
  /-- The anchor begins like a line pointer and is none. -/
  | lineTargetInvalid
  /-- The range of lines does not end behind its start. -/
  | multiLineTargetRangeInvalid
  deriving DecidableEq, Repr

def AnchorError.code : AnchorError → Text
  | .emptyAnchor => "EMPTY_ANCHOR".toList
  | .binaryFile => "BINARY_FILE".toList
  | .anchorUndiscoverable => "ANCHOR_UNDISCOVERABLE".toList
  | .noAnchorsInFiletype => "NO_ANCHORS_IN_FILETYPE".toList
  | .headingMatchFail => "HEADING_MATCH_FAIL".toList
  | .lineTargetFail => "LINE_TARGET_FAIL".toList
  | .lineTargetInvalid => "LINE_TARGET_INVALID".toList
  | .multiLineTargetRangeInvalid => "MULTI_LINE_TARGET_RANGE_INVALID".toList

inductive AnchorOutcome where
  | headingMatch
  | lineTarget
  | failed (error : AnchorError)
  deriving DecidableEq, Repr

namespace AnchorOutcome

def error? : AnchorOutcome → Option AnchorError
  | .failed error => some error
  | _ => none

def isSuccess (outcome : AnchorOutcome) : Bool :=
  outcome.error?.isNone

end AnchorOutcome

end DocLinks
