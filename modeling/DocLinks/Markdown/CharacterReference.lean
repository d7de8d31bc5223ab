import DocLinks.Markdown.Cell
import DocLinks.Markdown.CharacterName
import DocLinks.Text.Digit

namespace DocLinks.Markdown

def isAsciiPunctuation (c : Char) : Bool :=
  ('!' ≤ c && c ≤ '/') || (':' ≤ c && c ≤ '@') || ('[' ≤ c && c ≤ '\x60') ||
    ('\x7b' ≤ c && c ≤ '~')

namespace CharacterReference

/-- Control characters that no number may stand for. -/
def isForbidden (n : Nat) : Bool :=
  n ≤ 0x8 || n == 0xB || (0xE ≤ n && n ≤ 0x1F) || (0x7F ≤ n && n ≤ 0x9F)

def ofNumber (n : Nat) : Char :=
  if isForbidden n || !decide n.isValidChar then '\uFFFD' else Char.ofNat n

/-- The characters of one kind, at least one and at most `most`, in front of a semicolon, and what
is behind it. -/
def body (most : Nat) (p : Char → Bool) (cells : List Cell) : Option (Text × List Cell) :=
  let name := cells.takeWhile fun c => p c.char
  match cells.dropWhile fun c => p c.char with
  | c :: rest =>
      if c.char == ';' && !name.isEmpty && name.length ≤ most then
        some (name.map Cell.char, rest)
      else none
  | [] => none

def read (cells : List Cell) : Option (Text × List Cell) :=
  match cells with
  | [] => none
  | c :: rest =>
      if c.char == '#' then
        if Cell.headChar rest == some 'x' || Cell.headChar rest == some 'X' then
          (body 6 (Text.isDigitOf 16) rest.tail).map fun r =>
            ([ofNumber (Text.digitsValue 16 r.1)], r.2)
        else (body 7 Char.isDigit rest).map fun r => ([ofNumber (Text.digitsValue 10 r.1)], r.2)
      else
        match body 31 Char.isAlphanum cells with
        | some (name, rest) => (CharacterName.text? name).map fun text => (text, rest)
        | none => none

end CharacterReference

/-- The text of a row of cells in which backslashes and character references are resolved. The
first `skip` cells belong to a mark that has been resolved. -/
def literalFrom (skip : Nat) : List Cell → Text
  | [] => []
  | c :: rest =>
      match skip with
      | n + 1 => literalFrom n rest
      | 0 =>
          if c.char == '\\' && (rest.head?.any fun d => isAsciiPunctuation d.char) then
            (rest.head?.map Cell.char).toList ++ literalFrom 1 rest
          else if c.char == '&' then
            match CharacterReference.read rest with
            | some (text, behind) => text ++ literalFrom (rest.length - behind.length) rest
            | none => c.source ++ literalFrom 0 rest
          else c.source ++ literalFrom 0 rest

def literal (cells : List Cell) : Text :=
  literalFrom 0 cells

end DocLinks.Markdown
