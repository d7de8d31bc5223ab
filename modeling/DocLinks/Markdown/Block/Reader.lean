import DocLinks.Markdown.Block.State

/-!
Reading a document line by line. A line first stays in as many of the open containers as it can;
then it may open further ones; what is left of it goes to the open leaf or makes a new one. A line
of text belongs to an open paragraph even if it does not stay in the containers of the paragraph.
-/

namespace DocLinks.Markdown

structure LineContext where
  /-- It does not stay in all of them. -/
  isLazy : Bool
  /-- It opens one. -/
  isOpening : Bool

inductive LineKind where
  | blank
  | heading (depth : Nat) (cells : List Cell)
  | underline (depth : Nat)
  | thematicBreak
  | fence (fence : Fence)
  | html (opening : Html.Opening)
  | indented
  | row
  | text (head : Option Nat)
  | mdx (result : Mdx.LineResult)

/-- Whether the line can belong to a paragraph that has begun before it. -/
def LineKind.isText : LineKind → Bool
  | .text _ => true
  | _ => false

namespace BlockState

/-- Whether a line can underline a heading: it must follow text, or an underline. -/
def mayUnderline (s : BlockState) (context : LineContext) : Bool :=
  !context.isLazy && !context.isOpening && s.leaf.acceptsLazy

def headingKind (constructs : Constructs) (line : Line) : Option LineKind :=
  (headingLine constructs line.cells).map fun r => .heading r.1 r.2

def underlineKind (constructs : Constructs) (s : BlockState) (context : LineContext) (line : Line) :
    Option LineKind :=
  if s.mayUnderline context then (underlineDepth constructs line.cells).map .underline else none

def breakKind (constructs : Constructs) (line : Line) : Option LineKind :=
  if isThematicBreak constructs line.cells then some .thematicBreak else none

def fenceKind (constructs : Constructs) (line : Line) : Option LineKind :=
  (openFence constructs line.cells).map .fence

def htmlKind (constructs : Constructs) (s : BlockState) (context : LineContext) (line : Line) :
    Option LineKind :=
  match outdent constructs line.cells with
  | some (c :: rest) =>
      if constructs.rawHtml && c.char == '<' then
        (Html.openBlock (!s.interrupting || context.isLazy) rest).map .html
      else none
  | _ => none

def indentedKind (constructs : Constructs) (s : BlockState) (line : Line) : Option LineKind :=
  if constructs.codeIndented && !s.interrupting && 4 ≤ Cell.indent line.cells then some .indented
  else none

/-- A row of the open table, or a line that can be the head of one. -/
def tableKind (constructs : Constructs) (s : BlockState) (context : LineContext) (line : Line) :
    Option LineKind :=
  if !constructs.gfm then none
  else
    match s.leaf with
    | .table .. => if context.isLazy then none else some .row
    | _ => (Table.headCount constructs line.cells).map fun count => .text (some count)

def mdxKind (constructs : Constructs) (line : Line) : Option LineKind :=
  if constructs.mdx then
    match (outdent constructs line.cells).map (Mdx.readLine line.stop) with
    | none | some .none => none
    | some result => some (.mdx result)
  else none

/-- What a line makes by itself. Its first character decides what is tried; what is tried first
wins. -/
def kindOf (constructs : Constructs) (s : BlockState) (context : LineContext) (line : Line) :
    LineKind :=
  let tried : Option LineKind :=
    match Cell.headChar line.cells with
    | none => some .blank
    | some c =>
        if c == '#' then headingKind constructs line
        else if c == '$' || c == '\x60' || c == '~' then fenceKind constructs line
        else if c == '*' || c == '_' then breakKind constructs line
        else if c == 'e' || c == 'i' then none
        else if c == '\x7b' then mdxKind constructs line
        else if line.isBlank then some .blank
        else
          indentedKind constructs s line <|> fenceKind constructs line <|>
            htmlKind constructs s context line <|> headingKind constructs line <|>
            underlineKind constructs s context line <|> breakKind constructs line <|>
            mdxKind constructs line <|> tableKind constructs s context line
  tried.getD (.text none)

def applyKind (s : BlockState) (context : LineContext) (line : Line) (kind : LineKind) :
    BlockState :=
  let ended := { s.endLeaf with interrupting := false }
  match kind with
  | .blank => ended
  | .heading depth cells => ended.addBlock (leafBlock (.heading depth cells) line.start line.stop)
  | .underline depth =>
      { ended.addBlock (leafBlock (.underline depth line) line.start line.stop) with
        leaf := .underlined }
  | .thematicBreak => ended.addBlock (leafBlock .thematicBreak line.start line.stop)
  | .fence fence => { ended with leaf := .fenced fence }
  | .html opening =>
      if opening.closed then
        ended.addBlock (leafBlock (.html (Cell.textOf line.cells)) line.start line.stop)
      else
        { ended with leaf := .html opening.kind line.start (Cell.textOf line.cells) }
  | .indented =>
      if context.isLazy || context.isOpening then
        ended.addBlock (leafBlock .code line.start line.stop)
      else { ended with leaf := .indented line.start line.stop }
  | .row =>
      match s.leaf with
      | .table start _ rows =>
          { s with leaf := .table start line.stop (Table.rowOf line :: rows) }
      | _ => ended
  | .text head =>
      match s.leaf with
      | .content lines _ => { s with leaf := .content (line :: lines) head, interrupting := true }
      | _ => { ended with leaf := .content [line] head, interrupting := true }
  | .mdx result =>
      match result with
      | .complete blocks => ended.addBlocks blocks
      | .unfinished blocks rest => { ended with leaf := .mdx [line] blocks rest }
      | .none => ended
      | .problem p => ended.addProblem p

/-- Takes a line that the open leaf has not taken. If it does not stay in all containers, of which
it stays in the first `kept`, the others close before it, unless it goes on with their paragraph.
-/
def takeLine (constructs : Constructs) (s : BlockState) (context : LineContext) (kept : Nat)
    (line : Line) : BlockState :=
  let kind := s.kindOf constructs context line
  if !context.isLazy || (s.leaf.acceptsLazy && kind.isText) then
    s.applyKind context line kind
  else
    { (s.endLeaf.closeBeyond kept s.lastStop).applyKind context line kind with
      interrupting := false }

def tableOf (constructs : Constructs) (s : BlockState) (context : LineContext) (line : Line) :
    Option BlockState :=
  match s.leaf with
  | .content (headLine :: lines) (some count) =>
      if !context.isLazy && !context.isOpening &&
          Table.delimiterCount constructs line.cells == some count then
        let before :=
          if lines.isEmpty then s else { s with leaf := .content lines none }.endLeaf
        some
          { before with
            leaf := .table headLine.start line.stop [Table.rowOf headLine]
            interrupting := false }
      else none
  | _ => none

/-- Gives a line to the open leaf. The left result has taken the line, the right one has not. -/
def continueLeaf (constructs : Constructs) (s : BlockState) (context : LineContext) (line : Line) :
    BlockState ⊕ BlockState :=
  let closed := { s with leaf := .none, interrupting := false }
  match s.leaf with
  | .fenced fence =>
      if context.isLazy then .inr s.endLeaf
      else if fence.isClosedBy constructs line.cells then
        .inl (closed.addBlock (fencedBlock fence line.stop))
      else .inl s
  | .html kind start value =>
      if context.isLazy || (kind.endsBeforeBlank && line.isBlank) then .inr s.endLeaf
      else
        let value := value ++ Cell.sourceOf s.lastEnding.toList ++ Cell.textOf line.cells
        if Html.closes kind 0 line.cells then
          .inl (closed.addBlock (leafBlock (.html value) start line.stop))
        else .inl { s with leaf := .html kind start value }
  | .indented start _ =>
      if context.isLazy || context.isOpening then .inr s.endLeaf
      else if 4 ≤ Cell.indent line.cells then
        .inl { s with leaf := .indented start line.stop }
      else if line.isBlank then .inl s
      else .inr s.endLeaf
  | _ =>
      match s.tableOf constructs context line with
      | some taken => .inl taken
      | none => .inr s

/-- Gives what is left of a line to the leaves. Lines that turn out not to be tags and expressions
alone are text; the fuel is for taking them again. -/
def takeRest (constructs : Constructs) (fuel : Nat) (s : BlockState) (context : LineContext)
    (kept : Nat) (line : Line) : BlockState :=
  match fuel with
  | 0 => s
  | fuel + 1 =>
      match s.leaf with
      | .mdx lines blocks unfinished =>
          if context.isLazy then
            s.endLeaf.addProblem (Problem.lazyLine line.start unfinished.inExpression)
          else
            match s.lastEnding.map fun ending => Mdx.readFurther unfinished ending line with
            | some (.complete more) =>
                { s with leaf := .none, interrupting := false }.addBlocks (blocks ++ more)
            | some (.unfinished more rest) =>
                { s with leaf := .mdx (line :: lines) (blocks ++ more) rest }
            | some (.problem p) => s.endLeaf.addProblem p
            | some .none | none =>
                match (line :: lines).reverse with
                | [] => s
                | first :: more =>
                    let text : BlockState :=
                      { s with leaf := .none }.applyKind context first (.text none)
                    more.foldl (fun s line => s.takeRest constructs fuel context kept line) text
      | _ =>
          match s.continueLeaf constructs context line with
          | .inl taken => taken
          | .inr ended => ended.takeLine constructs context kept line

/-- Lets the open containers, the outermost first, go on in a line. Gives the ones that do, how
many they are, and the cells they leave. -/
def goOn (constructs : Constructs) :
    List OpenContainer → List Cell → List OpenContainer × Nat × List Cell
  | [], cells => ([], 0, cells)
  | c :: cs, cells =>
      match c.container.proceed constructs cells with
      | some (container, rest) =>
          let (more, kept, rest) := goOn constructs cs rest
          ({ c with container } :: more, kept + 1, rest)
      | none => (c :: cs, 0, cells)

/-- Opens the containers that a line begins, of which it cannot begin more than the fuel. The open
ones beyond the first `kept` close before a new one. -/
def openContainers (constructs : Constructs) (fuel : Nat) (s : BlockState) (kept : Nat)
    (opening : Bool) (line : Line) : BlockState × Nat × Bool × Line :=
  match fuel with
  | 0 => (s, kept, opening, line)
  | fuel + 1 =>
      let inside := kept == s.containers.length
      match Container.openNew constructs (inside && s.interrupting) line.cells with
      | none => (s, kept, opening, line)
      | some (container, rest) =>
          let ended :=
            if inside then { s.endLeaf with interrupting := s.interrupting }
            else s.cutLeaf.closeBeyond kept s.endPoint
          (ended.openContainer container line.start).openContainers constructs fuel (kept + 1) true
            (line.leaving rest)

def readLine (constructs : Constructs) (s : BlockState) (line : Line) : BlockState :=
  let (outermostFirst, kept, cells) := goOn constructs s.containers.reverse line.cells
  let s := { s with containers := outermostFirst.reverse }
  let left := line.leaving cells
  let (s, kept, isOpening, left) :=
    if kept == s.containers.length && s.leaf.isConcrete then (s, kept, false, left)
    else s.openContainers constructs (cells.length + 1) kept false left
  let isLazy := kept != s.containers.length
  let fuel :=
    match s.leaf with
    | .mdx lines _ _ => lines.length + 2
    | _ => 1
  let s := s.takeRest constructs fuel ⟨isLazy, isOpening⟩ kept left
  { s with
    wasLazy := isLazy
    lastStop := line.stop
    lastNext := line.next
    lastEnding := line.ending }

end BlockState

end DocLinks.Markdown
