import DocLinks.Text.Alphanumeric
import DocLinks.Text.Lowercase
import DocLinks.Text.Mark

/-!
The slug of a heading, before it is made unique. The plain style keeps ASCII word characters and
joins what it keeps by single hyphens; the hub style keeps letters, digits and marks of every
script, turns spaces into hyphens and drops the rest.
-/

namespace DocLinks

inductive SlugStyle where
  | plain
  | hub
  deriving DecidableEq, Repr

namespace Slug

/-- Characters that a plain slug keeps: ASCII letters and digits, and the underscore. -/
def isWord (c : Char) : Bool :=
  c.isAlphanum || c == '_'

/-- Replaces every run of characters outside the word characters by one hyphen; `afterHyphen`
tells whether a hyphen stands just before. -/
def hyphenate (afterHyphen : Bool) : Text → Text
  | [] => []
  | c :: rest =>
      if isWord c then c :: hyphenate false rest
      else if afterHyphen then hyphenate true rest
      else '-' :: hyphenate true rest

/-- The plain slug: lowercase, each run of other characters one hyphen, no hyphen at either end.
-/
def plain (t : Text) : Text :=
  Text.trimWhile (· == '-') (hyphenate false (Text.lowercase t))

def hubChar (c : Char) : Text :=
  if c.isAlphanum || c == '-' || c == '_' then [c.toLower]
  else if 0x80 ≤ c.toNat && (Text.isAlphanumeric c || Text.isMark c) then Text.lowercaseChar c
  else if c == ' ' then ['-']
  else []

/-- The hub slug: nothing is collapsed and nothing trimmed. -/
def hub (t : Text) : Text :=
  t.flatMap hubChar

end Slug

def SlugStyle.base : SlugStyle → Text → Text
  | .plain => Slug.plain
  | .hub => Slug.hub

end DocLinks
