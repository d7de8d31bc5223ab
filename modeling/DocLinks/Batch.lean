import DocLinks.Report

namespace DocLinks

/-- The link errors up to the first failure, and that failure: the items are asked for one by one,
and none behind a failure. -/
def Session.collectErrors (fs : FileSystem) (s : Session) (links : List Link) :
    List LinkError × Option CheckError :=
  match _h : s.next? fs links with
  | none => ([], none)
  | some (.error e, _) => ([], some e)
  | some (.ok error, rest) =>
      let (errors, failure) := collectErrors fs s rest
      (error :: errors, failure)
  termination_by links.length
  decreasing_by exact length_lt_of_next? _h

/-- The report on one document; verification stops at the first failure. -/
def verifyDocument (fs : FileSystem) (base : Path) (options : VerifyOptions) (path : Path) :
    DocumentReport :=
  match Document.read fs base path with
  | .error e => ⟨path, [], some e.message⟩
  | .ok document =>
      match Session.start base document options with
      | .error e => ⟨path, [], some e.message⟩
      | .ok session =>
          let links := scanForLinks document options.scanOptions
          let (errors, failure) := session.collectErrors fs links
          ⟨path, errors, failure.map CheckError.message⟩

/-- Whether a path names a document. -/
def isDocumentPath (options : VerifyOptions) (path : Path) : Bool :=
  match path.extension? with
  | some extension => options.isDocExtension extension
  | none => false

structure Tally where
  clean : Nat := 0
  withErrors : Nat := 0
  failed : Nat := 0
  deriving DecidableEq, Repr

def Tally.add (tally : Tally) (r : DocumentReport) : Tally :=
  if r.failure.isSome then { tally with failed := tally.failed + 1 }
  else if r.errors.isEmpty then { tally with clean := tally.clean + 1 }
  else { tally with withErrors := tally.withErrors + 1 }

/-- Verifies the documents among the paths, in their order. -/
def verifyDocuments (fs : FileSystem) (base : Path) (paths : List Path) (options : VerifyOptions) :
    Except CheckError BatchReport :=
  if base.isAbsolute then
    let kept := paths.filter (isDocumentPath options)
    let reports := kept.map (verifyDocument fs base.normalize options)
    let tally := reports.foldl Tally.add {}
    .ok ⟨reports,
      { total := paths.length
        skipped := paths.length - kept.length
        clean := tally.clean
        withErrors := tally.withErrors
        failed := tally.failed }⟩
  else .error (.relativeBase base)

end DocLinks
