import DocLinks.Verify.Session

namespace DocLinks

structure DocumentReport where
  path : Path
  errors : List LinkError
  /-- What stopped the verification, if anything did. -/
  failure : Option Text
  deriving DecidableEq, Repr

namespace DocumentReport

def isClean (r : DocumentReport) : Bool :=
  r.failure.isNone && r.errors.isEmpty

/-- The lines of the report: one that names the document, one for each link, and one for a
failure. -/
def lines (r : DocumentReport) : List Text :=
  if r.isClean then [r.path.text ++ " [OK]".toList]
  else
    ("--- ".toList ++ r.path.text ++ " ---".toList) :: r.errors.map LinkError.message ++
      (r.failure.map fun failure => "failed: ".toList ++ failure).toList

def message (r : DocumentReport) : Text :=
  Text.join ['\n'] r.lines

end DocumentReport

structure BatchStats where
  total : Nat
  skipped : Nat
  clean : Nat
  withErrors : Nat
  failed : Nat
  deriving DecidableEq, Repr

structure BatchReport where
  reports : List DocumentReport
  stats : BatchStats
  deriving DecidableEq, Repr

namespace BatchReport

def hasErrors (b : BatchReport) : Bool :=
  b.reports.any fun r => !r.isClean

def errorCount (b : BatchReport) : Nat :=
  b.reports.foldl (fun n r => n + r.errors.length) 0

def message (b : BatchReport) : Text :=
  Text.join ['\n'] (b.reports.map DocumentReport.message)

end BatchReport

end DocLinks
