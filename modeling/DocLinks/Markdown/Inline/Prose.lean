import DocLinks.Markdown.Inline.Basic

namespace DocLinks.Markdown

inductive ProseItem where
  | text (value : Text) (start stop : Point)
  | lineBreak (start : Point)
  | ending (cell : Cell)
  | tree (tree : MarkTree)
  deriving Repr

namespace Prose

def isBlankChar (c : Char) : Bool :=
  c == ' ' || c == '\t'

def shift (p : Point) (columns : Nat) : Point :=
  ⟨p.line, p.column + columns⟩

def advance (p : Point) : Text → Point
  | [] => p
  | c :: rest =>
      advance
        (if c = '\t' then ⟨p.line, (p.column - 1) / 4 * 4 + 5⟩ else shift p c.utf8Size) rest

/-- Data that has lost its blanks at the beginning. A tab that began before the data comes back,
and each blank counts as one column. -/
def trimStart (inTab : Bool) (text : Text) (start stop : Point) : List ProseItem :=
  let blanks := (text.takeWhile isBlankChar).length
  if blanks = text.length then []
  else
    [.text ((if inTab then '\t' :: text else text).drop blanks) (shift start blanks) stop]

/-- Data with its blanks settled. Spaces at the end break the line if there are two or more,
nothing but spaces, and a line ending behind them. -/
def settle (atStart atEnd beforeEnding : Bool) (cells : List Cell) : List ProseItem :=
  match cells with
  | [] => []
  | c :: _ =>
      let text := Cell.sourceOf cells
      let stop := stopOf cells c.stop
      let kept := if atEnd then Text.dropEndWhile isBlankChar text else text
      let blanks := text.drop kept.length
      let breaks := beforeEnding && 2 ≤ blanks.length && blanks.all (· == ' ')
      let keptStop := ⟨stop.line, stop.column - blanks.length⟩
      if atEnd && kept.isEmpty then if breaks then [.lineBreak c.point] else []
      else
        (if atStart then trimStart (c.depth ≠ 0) kept c.point keptStop
          else [.text ((if c.depth ≠ 0 then List.replicate (4 - c.depth) ' ' else []) ++ kept)
            c.point keptStop]) ++
          if breaks then [.lineBreak keptStop] else []

def isMailPart (c : Char) : Bool :=
  c.isAlphanum || c == '+' || c == '-' || c == '.' || c == '_'

/-- The domain of a bare mail address at the beginning of a text: letters, digits, dashes,
underscores, and dots before letters and digits. Messaging addresses may have slashes. -/
def mailDomain (mayHaveSlash : Bool) : Text → Text
  | [] => []
  | c :: rest =>
      if c.isAlphanum || c == '-' || c == '_' || (c == '/' && mayHaveSlash) ||
          (c == '.' && rest.head?.any Char.isAlphanum) then
        c :: mailDomain mayHaveSlash rest
      else []

structure Mail where
  /-- How many characters before the at sign belong to it. -/
  before : Nat
  /-- How many characters behind the at sign belong to it. -/
  behind : Nat
  hasProtocol : Bool

/-- The protocol that ends, with its colon, before a mail address. The text comes backwards. -/
def protocolBefore (behindFirst : Text) : Option Text :=
  match behindFirst with
  | ':' :: rest =>
      let name := rest.takeWhile Char.isAlphanum
      let known := Text.toAsciiLower name.reverse
      if known == "mailto".toList || known == "xmpp".toList then some name.reverse else none
  | _ => none

def mailAround (before behind : Text) : Option Mail :=
  let name := before.takeWhile isMailPart
  let earlier := before.drop name.length
  if name.isEmpty || earlier.head? == some '/' then none
  else
    let scheme := protocolBefore earlier
    let domain := mailDomain (scheme.any fun s => Text.toAsciiLower s == "xmpp".toList) behind
    if domain.contains '.' && domain.getLast?.any Char.isAlpha then
      some
        { before := name.length + (scheme.map fun s => s.length + 1).getD 0
          behind := domain.length
          hasProtocol := scheme.isSome }
    else none

inductive MailPart where
  | plain (text : Text)
  | address (text : Text) (hasProtocol : Bool)

def consPlain (behindFirst : Text) (parts : List MailPart) : List MailPart :=
  if behindFirst.isEmpty then parts else .plain behindFirst.reverse :: parts

/-- The parts of a text, of which `passed` has been passed over backwards. The next `skip`
characters belong to an address; the first one behind an address cannot be the sign of another. -/
def mailParts (skip : Nat) (behindAddress : Bool) (passed : Text) : Text → List MailPart
  | [] => consPlain passed []
  | c :: rest =>
      match skip with
      | n + 1 => mailParts n true passed rest
      | 0 =>
          match if c = '@' ∧ !behindAddress then mailAround passed rest else none with
          | none => mailParts 0 false (c :: passed) rest
          | some mail =>
              consPlain (passed.drop mail.before)
                (.address ((passed.take mail.before).reverse ++ c :: rest.take mail.behind)
                    mail.hasProtocol ::
                  mailParts mail.behind true [] rest)

def itemsOfParts (start stop : Point) : List MailPart → List ProseItem
  | [] => []
  | .plain text :: rest =>
      let next := if rest.isEmpty then stop else advance start text
      .text text start next :: itemsOfParts next stop rest
  | .address text hasProtocol :: rest =>
      let next := advance start text
      .tree
          (markNode (.link (if hasProtocol then text else "mailto:".toList ++ text)) start next
            [markNode (.text text) start next []]) ::
        itemsOfParts next stop rest

def linkMails (item : ProseItem) : List ProseItem :=
  match item with
  | .text value start stop => itemsOfParts start stop (mailParts 0 false [] value)
  | item => [item]

/-- Joins data that stands side by side; runs that are left over are data. -/
def consData (piece : Piece) (pieces : List Piece) : List Piece :=
  match piece, pieces with
  | .data cells, .data more :: rest => .data (cells ++ more) :: rest
  | .run run, .data more :: rest => .data (run.cells ++ more) :: rest
  | .run run, rest => .data run.cells :: rest
  | piece, rest => piece :: rest

/-- The items of pieces that come behind a line ending or at the beginning of a whole text, and
may end it. -/
def items (linksMails behindEnding endsText : Bool) : List Piece → List ProseItem
  | [] => []
  | piece :: rest =>
      let beforeEnding :=
        match rest with
        | .ending _ :: _ => true
        | _ => false
      match piece with
      | .data cells =>
          let settled := settle behindEnding (beforeEnding || (endsText && rest.isEmpty))
            beforeEnding cells
          (if linksMails then settled.flatMap linkMails else settled) ++
            items linksMails false endsText rest
      | .ending c => .ending c :: items linksMails true endsText rest
      | .literal value start stop =>
          .text value start stop :: items linksMails false endsText rest
      | .lineBreak start => .lineBreak start :: items linksMails false endsText rest
      | .tree tree => .tree tree :: items linksMails false endsText rest
      | .run _ => items linksMails false endsText rest

/-- How many tags are open behind a tree, when so many are open before it. -/
def openTags (count : Nat) (tree : MarkTree) : Nat :=
  match tree.label with
  | .tag tag _ =>
      if tag.closing.isSome then count - 1
      else if tag.selfClosing.isSome then count
      else count + 1
  | .node _ _ => count

/-- The nodes of a row of items, inside so many tags. A line ending is part of a line break, or of
the text around it unless that is inside a tag. -/
def nodes (tags : Nat) : List ProseItem → List MarkTree
  | [] => []
  | .lineBreak start :: .ending c :: rest =>
      markNode .lineBreak start c.stop [] :: nodes tags rest
  | .lineBreak start :: rest => markNode .lineBreak start start [] :: nodes tags rest
  | .ending c :: rest =>
      if tags = 0 then consText c.source c.point c.stop (nodes tags rest) else nodes tags rest
  | .text value start stop :: rest => consText value start stop (nodes tags rest)
  | .tree tree :: rest => tree :: nodes (openTags tags tree) rest

def assemble (linksMails startsText endsText : Bool) (pieces : List Piece) : List MarkTree :=
  nodes 0 (items linksMails startsText endsText (pieces.foldr consData []))

end Prose

end DocLinks.Markdown
