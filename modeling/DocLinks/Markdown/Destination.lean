import DocLinks.Markdown.CharacterReference

namespace DocLinks.Markdown

def longestLabel : Nat := 999

structure LabelState where
  /-- The bytes so far. The indentation of a further line does not count. -/
  size : Nat := 0
  filled : Bool := false
  escaped : Bool := false
  lineStart : Bool := false

def readLabel (s : LabelState) : List Cell → Option (List Cell × List Cell)
  | [] => none
  | c :: rest =>
      let proceed (s : LabelState) := (readLabel s rest).map fun r => (c :: r.1, r.2)
      if s.escaped && (c.char == '[' || c.char == '\\' || c.char == ']') then
        proceed { size := s.size + 1, filled := true }
      else if s.lineStart && c.isBlank then proceed { s with escaped := false }
      else if s.size > longestLabel || c.char == '[' then none
      else if c.char == ']' then if s.filled then some ([], rest) else none
      else if c.isEnding then proceed { s with escaped := false, lineStart := true }
      else
        proceed
          { size := s.size + c.char.utf8Size, filled := s.filled || !c.isBlank
            escaped := c.char == '\\' }

def isControl (c : Char) : Bool :=
  ('\x01' ≤ c && c ≤ '\x1F') || c == '\x7F'

def readEnclosed (escaped : Bool) : List Cell → Option (List Cell × List Cell)
  | [] => none
  | c :: rest =>
      if escaped && (c.char == '<' || c.char == '>' || c.char == '\\') then
        (readEnclosed false rest).map fun r => (c :: r.1, r.2)
      else if c.char == '>' then some ([], rest)
      else if c.char == '<' || c.isEnding then none
      else (readEnclosed (c.char == '\\') rest).map fun r => (c :: r.1, r.2)

/-- Reads a destination that is not enclosed, inside `depth` parentheses of at most `most`. -/
def readBare (most : Option Nat) (depth : Nat) (escaped : Bool) :
    List Cell → Option (List Cell × List Cell)
  | [] => if depth = 0 then some ([], []) else none
  | c :: rest =>
      let proceed (depth : Nat) (escaped : Bool) :=
        (readBare most depth escaped rest).map fun r => (c :: r.1, r.2)
      if escaped && (c.char == '(' || c.char == ')' || c.char == '\\') then proceed depth false
      else if depth = 0 && (c.isBlank || c.isEnding || c.char == ')') then some ([], c :: rest)
      else if c.char == '(' && most.all (depth < ·) then proceed (depth + 1) false
      else if c.char == ')' then proceed (depth - 1) false
      else if isControl c.char || c.char == ' ' || c.char == '(' then none
      else proceed depth (c.char == '\\')

def readDestination (most : Option Nat) (cells : List Cell) : Option (List Cell × List Cell) :=
  match cells with
  | [] => none
  | c :: rest =>
      if c.char == '<' then readEnclosed false rest
      else if isControl c.char || c.isBlank || c.isEnding || c.char == ')' then none
      else readBare most 0 false cells

def titleEnd (c : Char) : Option Char :=
  if c == '"' || c == '\'' then some c else if c == '(' then some ')' else none

def skipTitle (mark : Char) (escaped : Bool) : List Cell → Option (List Cell)
  | [] => none
  | c :: rest =>
      if escaped && (c.char == '"' || c.char == '\'' || c.char == ')' || c.char == '\\') then
        skipTitle mark false rest
      else if c.char == mark then some rest
      else skipTitle mark (c.char == '\\') rest

def readTitle (cells : List Cell) : Option (List Cell) :=
  match cells with
  | [] => none
  | c :: rest => (titleEnd c.char).bind fun mark => skipTitle mark false rest

end DocLinks.Markdown
