import DocLinks.FileSystem
import DocLinks.FileType
import DocLinks.Heading
import DocLinks.Link
import DocLinks.Markdown.Read
import DocLinks.Options.Basic
import DocLinks.Path.Normal
import DocLinks.Text.Utf8

namespace DocLinks

structure Document where
  path : Path
  content : Text
  deriving DecidableEq, Repr

namespace Document

/-- Reads the file at a path seen from a base. Bytes that are no UTF-8 are replaced. -/
def read (fs : FileSystem) (base path : Path) : Except CheckError Document :=
  match fs.readBytes (base.join path) with
  | .ok bytes => .ok ⟨path, Utf8.decode bytes⟩
  | .error failure => .error (.unreadable (base.join path) failure)

def extension? (document : Document) : Option Text :=
  document.path.extension?

def dirname (document : Document) : Path :=
  document.path.parent?.getD ⟨[]⟩

/-- The normal form of the path seen from a base. -/
def absolutePath (document : Document) (base : Path) : Path :=
  (base.join document.path).normalize

end Document

def headingsIn (dialect : Dialect) (content : Text) : List Heading :=
  headingsInTree (Slugger.new dialect.slugStyle) (Markdown.read dialect content)

def scanForHeadings (document : Document) (options : ScanOptions) : List Heading :=
  headingsIn options.dialect document.content

def scanForLinks (document : Document) (options : ScanOptions) : List Link :=
  linksInTree (Markdown.read options.dialect document.content)

end DocLinks
