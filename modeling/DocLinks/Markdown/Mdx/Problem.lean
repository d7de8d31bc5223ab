import DocLinks.Error
import DocLinks.Markdown.Cell
import DocLinks.Text.Alphanumeric

namespace DocLinks.Markdown

structure Problem where
  start : Point
  stop : Option Point := none
  reason : Text
  rule : Text
  deriving DecidableEq, Repr

namespace Problem

def pointText (p : Point) : Text :=
  Text.ofNat p.line ++ ':' :: Text.ofNat p.column

def message (p : Problem) : Text :=
  pointText p.start ++ (p.stop.map fun stop => '-' :: pointText stop).getD [] ++ ": ".toList ++
    p.reason ++ " (markdown-rs:".toList ++ p.rule ++ [')']

def toError (p : Problem) : CheckError :=
  .malformed p.message ⟨none, p.start.line, p.start.column⟩

def quoted (t : Text) : Text :=
  '\x60' :: t ++ ['\x60']

def codePoint (c : Char) : Text :=
  let digits := (Nat.toDigits 16 c.toNat).map Char.toUpper
  List.replicate (4 - digits.length) '0' ++ digits

def unexpected (c : Cell) (place expected : Text) : Problem where
  start := c.point
  reason :=
    "Unexpected character ".toList ++
      quoted (if c.char == '\x60' then "\x60 \x60 \x60".toList else [c.char]) ++
      " (U+".toList ++ codePoint c.char ++ ") ".toList ++ place ++ ", expected ".toList ++ expected
  rule := "unexpected-character".toList

def unclosedQuote (point : Point) (mark : Char) : Problem where
  start := point
  reason :=
    "Unexpected end of file in attribute value, expected a corresponding closing quote ".toList ++
      quoted [mark]
  rule := "unexpected-eof".toList

def unclosedExpression (point : Point) : Problem where
  start := point
  reason :=
    "Unexpected end of file in expression, expected a corresponding closing brace for ".toList ++
      quoted ['\x7b']
  rule := "unexpected-eof".toList

/-- A line of an expression or a tag that does not stay in its container. -/
def lazyLine (point : Point) (inExpression : Bool) : Problem where
  start := point
  reason :=
    "Unexpected lazy line in ".toList ++
      (if inExpression then "expression in container".toList else "container".toList) ++
      ", expected line to be prefixed with ".toList ++ quoted ['>'] ++
      " when in a block quote, whitespace when in a list, etc".toList
  rule := "unexpected-lazy".toList

end Problem

end DocLinks.Markdown
