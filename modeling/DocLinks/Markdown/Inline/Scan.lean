import DocLinks.Markdown.CharacterReference
import DocLinks.Markdown.Html.Tag
import DocLinks.Markdown.Inline.Address
import DocLinks.Markdown.Inline.Bracket
import DocLinks.Markdown.Inline.Code

namespace DocLinks.Markdown

structure ScanState where
  /-- The pieces behind the innermost open bracket, the last one first. -/
  pieces : List Piece := []
  /-- The open brackets, the innermost first. -/
  brackets : List Bracket := []
  /-- Whether the last piece is a character behind a backslash. -/
  escaped : Bool := false
  problem : Option Problem := none

namespace ScanState

def add (s : ScanState) (piece : Piece) : ScanState :=
  { s with pieces := piece :: s.pieces, escaped := false }

def addProblem (s : ScanState) (p : Problem) : ScanState :=
  { s with problem := s.problem <|> some p }

def openBracket (s : ScanState) (kind : BracketKind) (opening : List Cell) (start : Point)
    (behind : List Cell) : ScanState :=
  { s with
    pieces := []
    brackets := ⟨kind, opening, start, behind, false, s.pieces⟩ :: s.brackets
    escaped := false }

def dropBracket (s : ScanState) : ScanState :=
  match s.brackets with
  | [] => s
  | b :: rest =>
      { s with
        pieces := s.pieces ++ .data b.opening :: b.before
        brackets := rest
        escaped := false }

/-- Replaces the innermost bracket and what is in it by a node. A link keeps the brackets around
it from becoming links. -/
def closeBracket (s : ScanState) (node : MarkTree) : ScanState :=
  match s.brackets with
  | [] => s
  | b :: rest =>
      { s with
        pieces := .tree node :: b.before
        brackets :=
          if b.kind == .image then rest
          else rest.map fun outer =>
            if outer.kind == .image then outer else { outer with inactive := true }
        escaped := false }

def allPieces (s : ScanState) : Nat → List Piece
  | 0 => s.pieces.reverse
  | n + 1 => s.dropBracket.allPieces n

end ScanState

abbrev ScanResult := Option (ScanState × List Cell)

namespace Scan

def isMarker (context : InlineContext) (c : Char) : Bool :=
  "!&*<[\\]_\x60\n".toList.contains c || (context.constructs.math && c == '$') ||
    (context.constructs.mdx && c == '\x7b') || (context.constructs.gfm && "HWhw~".toList.contains c)

def node (s : ScanState) (first : Cell) (rest behind : List Cell) (element : Element)
    (children : List MarkTree) : ScanState × List Cell :=
  let stop := stopOf (consumed rest behind) first.stop
  (s.add (.tree (markNode element first.point stop children)), behind)

/-- Code or a formula. It does not begin behind one of its own markers, unless that is escaped. -/
def code (context : InlineContext) (s : ScanState) (previous : Option Char) (c : Cell)
    (rest : List Cell) : ScanResult :=
  if previous == some c.char && !s.escaped then none
  else
    (Code.read (c :: rest)).map fun r =>
      let value := Code.valueOf context.inTable r.1
      node s c rest r.2 (if c.char == '$' then .inlineMath value else .inlineCode value) []

def reference (s : ScanState) (c : Cell) (rest : List Cell) : ScanResult :=
  (CharacterReference.read rest).map fun r =>
    (s.add (.literal r.1 c.point (stopOf (consumed rest r.2) c.stop)), r.2)

def run (context : InlineContext) (s : ScanState) (c : Cell) (rest : List Cell) :
    ScanState × List Cell :=
  let more := rest.takeWhile fun d => d.char == c.char
  (s.add (.run (Run.ofCells context.constructs.gfm c more)), rest.drop more.length)

def backslash (s : ScanState) (c : Cell) (rest : List Cell) : ScanResult :=
  match rest with
  | [] => none
  | d :: behind =>
      if isAsciiPunctuation d.char then
        some ({ s.add (.literal [d.char] d.point d.stop) with escaped := true }, behind)
      else if d.isEnding then some (s.add (.lineBreak c.point), rest)
      else none

def openBracket (context : InlineContext) (s : ScanState) (c : Cell) (rest : List Cell) :
    ScanState × List Cell :=
  match rest with
  | [] => (s.openBracket .link [c] c.point [], [])
  | d :: behind =>
      if context.constructs.gfm && d.char == '^' then
        (s.openBracket .footnote [c, d] c.point behind, behind)
      else (s.openBracket .link [c] c.point rest, rest)

/-- The opening bracket of an image. A caret behind it keeps it from being one where footnotes are
read. -/
def openImage (context : InlineContext) (s : ScanState) (c : Cell) (rest : List Cell) :
    ScanResult :=
  match rest with
  | [] => none
  | d :: behind =>
      if d.char == '[' && !(context.constructs.gfm && Cell.headChar behind == some '^') then
        some (s.openBracket .image [c, d] c.point behind, behind)
      else none

def closeBracket (context : InlineContext) (s : ScanState) (c : Cell) (rest : List Cell) :
    ScanState × List Cell :=
  match s.brackets with
  | [] => (s.add (.data [c]), rest)
  | b :: _ =>
      match b.resolve context (c :: rest) with
      | .none => (s.dropBracket.add (.data [c]), rest)
      | .footnote => (s.closeBracket (markNode .footnoteReference b.start c.stop []), rest)
      | .link url behind =>
          let stop := stopOf (consumed rest behind) c.stop
          (s.closeBracket (b.nodeOf url s.pieces.reverse stop), behind)

def linkNode (s : ScanState) (first : Cell) (rest behind : List Cell) (url : Text)
    (label : List Cell) : ScanState × List Cell :=
  let start := Cell.startOf label first.stop
  node s first rest behind (.link url)
    [markNode (.text (Cell.sourceOf label)) start (stopOf label start) []]

def enclosedAddress (s : ScanState) (c : Cell) (rest : List Cell) : ScanResult :=
  (Address.readEnclosed rest).map fun r => linkNode s c rest r.2.2 r.2.1 r.1

def html (context : InlineContext) (s : ScanState) (c : Cell) (rest : List Cell) : ScanResult :=
  if context.constructs.rawHtml then
    (Html.skip rest).map fun behind =>
      node s c rest behind (.html (Html.valueOf false (c :: consumed rest behind))) []
  else none

def tag (context : InlineContext) (s : ScanState) (c : Cell) (rest : List Cell) : ScanResult :=
  if !context.constructs.mdx then none
  else
    match Mdx.readTag .start { start := c.point, stop := c.stop } rest with
    | .tag tag behind => some (s.add (.tree (.node (.tag tag true) [])), behind)
    | .cut state _ =>
        (state.atEnd (stopOf rest c.stop)).map fun p => ((s.addProblem p).add (.data [c]), rest)
    | .none => none
    | .problem p => some ((s.addProblem p).add (.data [c]), rest)

def expression (context : InlineContext) (s : ScanState) (c : Cell) (rest : List Cell) :
    ScanResult :=
  if !context.constructs.mdx then none
  else
    match Mdx.skipExpression 0 rest with
    | .inr behind => some (node s c rest behind .mdxTextExpression [])
    | .inl _ =>
        some ((s.addProblem (Problem.unclosedExpression (stopOf rest c.stop))).add
          (.data [c]), rest)

def bareAddress (s : ScanState) (c : Cell) (rest behind : List Cell) (opening : Text) :
    ScanState × List Cell :=
  let label := c :: consumed rest behind
  linkNode s c rest behind (opening ++ Cell.sourceOf label) label

def atMarker (context : InlineContext) (s : ScanState) (previous : Option Char) (c : Cell)
    (rest : List Cell) : ScanResult :=
  if c.isEnding then some (s.add (.ending c), rest)
  else if c.char == '!' then openImage context s c rest
  else if c.char == '\x60' || c.char == '$' then code context s previous c rest
  else if c.char == '&' then reference s c rest
  else if c.char == '*' || c.char == '_' || c.char == '~' then some (run context s c rest)
  else if c.char == '<' then
    enclosedAddress s c rest <|> html context s c rest <|> tag context s c rest
  else if c.char == '[' then some (openBracket context s c rest)
  else if c.char == '\\' then backslash s c rest
  else if c.char == ']' then some (closeBracket context s c rest)
  else if c.char == '\x7b' then expression context s c rest
  else if c.char.toLower == 'h' then
    (Address.skipWithProtocol previous (c :: rest)).map fun behind =>
      bareAddress s c rest behind []
  else
    (Address.skipWithoutProtocol previous (c :: rest)).map fun behind =>
      bareAddress s c rest behind "http://".toList

def step (context : InlineContext) (s : ScanState) (previous : Option Char) (c : Cell)
    (rest : List Cell) : ScanState × List Cell :=
  if isMarker context c.char then
    (atMarker context s previous c rest).getD (s.add (.data [c]), rest)
  else
    let more := rest.takeWhile fun d => !isMarker context d.char
    (s.add (.data (c :: more)), rest.drop more.length)

/-- Cuts a text into pieces. The first `skip` cells belong to the last piece. -/
def scan (context : InlineContext) (s : ScanState) (skip : Nat) (previous : Option Char) :
    List Cell → ScanState
  | [] => s
  | c :: rest =>
      match skip with
      | n + 1 => scan context s n (some c.char) rest
      | 0 =>
          let (next, behind) := step context s previous c rest
          scan context next (rest.length - behind.length) (some c.char) rest

end Scan

/-- A check box at the beginning of a text: the cells behind it. Something must follow, after a
blank or on the next line. -/
def skipCheckBox (cells : List Cell) : Option (List Cell) :=
  match cells with
  | a :: b :: c :: rest =>
      let isBox := a.char == '[' && c.char == ']' &&
        (b.isBlank || b.isEnding || b.char == 'x' || b.char == 'X')
      let isFollowed :=
        match rest with
        | [] => false
        | d :: _ => d.isEnding || (d.isBlank && !(Cell.dropBlanks rest).isEmpty)
      if isBox && isFollowed then some rest else none
  | _ => none

/-- The nodes of a text, and what is wrong with it. `startsText` is false behind a check box. -/
def readInline (context : InlineContext) (startsText : Bool) (cells : List Cell) :
    List MarkTree × Option Problem :=
  let s := Scan.scan context {} 0 (if startsText then none else some ']') cells
  (nodesOfPieces context.constructs.gfm startsText true (s.allPieces s.brackets.length), s.problem)

end DocLinks.Markdown
