import DocLinks.Slug.Basic

namespace DocLinks

inductive Dialect where
  | commonmark
  | gfm
  deriving DecidableEq, Repr

namespace Dialect

def all : List Dialect :=
  [.commonmark, .gfm]

def name : Dialect → Text
  | .commonmark => "commonmark".toList
  | .gfm => "gfm".toList

/-- The dialect of a name, in any case of its ASCII letters. -/
def ofName? (t : Text) : Option Dialect :=
  all.find? fun dialect => Text.eqIgnoreAsciiCase dialect.name t

def unknownMessage (t : Text) : Text :=
  "unknown markdown dialect '".toList ++ t ++ "' (expected 'commonmark' or 'gfm')".toList

def slugStyle : Dialect → SlugStyle
  | .commonmark => .plain
  | .gfm => .hub

end Dialect

/-- Which parts of the notation are read. -/
structure Constructs where
  /-- Tables, task items, strikethrough, footnotes and bare addresses. -/
  gfm : Bool := false
  /-- A leading block between fences of `---` or `+++`. -/
  frontmatter : Bool := false
  codeIndented : Bool := true
  rawHtml : Bool := true
  /-- Formulas between dollar signs. -/
  math : Bool := false
  /-- Expressions in braces and tags that must balance. -/
  mdx : Bool := false
  deriving DecidableEq, Repr

def Dialect.constructs : Dialect → Constructs
  | .commonmark => {}
  | .gfm => { gfm := true }

end DocLinks
