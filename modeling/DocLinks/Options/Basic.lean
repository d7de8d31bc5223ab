import DocLinks.Dialect

namespace DocLinks

def defaultDocExtensions : List Text :=
  [".md".toList, ".markdown".toList]

structure ScanOptions where
  dialect : Dialect := .commonmark
  deriving DecidableEq, Repr

structure VerifyOptions where
  dialect : Dialect := .commonmark
  /-- Extensions, dot included, whose files are Markdown documents. Order and repeats do not
  matter. -/
  docExtensions : List Text := defaultDocExtensions
  deriving DecidableEq, Repr

namespace VerifyOptions

def isDocExtension (options : VerifyOptions) (extension : Text) : Bool :=
  options.docExtensions.contains extension

def sortedDocExtensions (options : VerifyOptions) : List Text :=
  (options.docExtensions.mergeSort Text.isBeforeOrEqual).eraseDups

def scanOptions (options : VerifyOptions) : ScanOptions :=
  ⟨options.dialect⟩

end VerifyOptions

end DocLinks
