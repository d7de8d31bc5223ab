import DocLinks.Text.Lowercase
import DocLinks.Text.Uppercase

namespace DocLinks.Markdown

def isLabelBlank (c : Char) : Bool :=
  c == ' ' || c == '\t' || c == '\n' || c == '\r'

def labelWords (t : Text) : List Text :=
  (Text.splitAll ' ' (t.map fun c => if isLabelBlank c then ' ' else c)).filter
    fun word => !word.isEmpty

/-- The identifier of a label. Letters that differ in lowercase alone may agree in uppercase, so
both are taken. -/
def identifier (label : Text) : Text :=
  Text.uppercase (Text.lowercase (Text.join [' '] (labelWords label)))

end DocLinks.Markdown
