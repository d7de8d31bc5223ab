import DocLinks.Markdown.Mark

namespace DocLinks.Markdown.Mdx

/-- How nodes are called where tags do not balance. A heading on several lines is one with an
underline. The document has no such name. -/
def constructName? (element : Element) (position : Position) : Option Text :=
  match element with
  | .root => none
  | .paragraph => "Paragraph".toList
  | .heading _ =>
      if position.start.line = position.stop.line then "HeadingAtx".toList
      else "HeadingSetext".toList
  | .blockquote => "BlockQuote".toList
  | .list => "ListUnordered".toList
  | .listItem => "ListItem".toList
  | .emphasis => "Emphasis".toList
  | .strong => "Strong".toList
  | .delete => "GfmStrikethrough".toList
  | .link _ | .linkReference => "Link".toList
  | .image | .imageReference => "Image".toList
  | .footnoteDefinition => "GfmFootnoteDefinition".toList
  | .table => "GfmTable".toList
  | .tableRow => "GfmTableRow".toList
  | .tableCell => "GfmTableCell".toList
  | element => element.kind

/-- A document in the order in which its nodes and tags begin and end. -/
inductive Event where
  | enter (name : Option Text) (start : Point)
  | exit (name : Option Text) (stop : Point)
  | tag (tag : Tag)

def eventsOf (t : MarkTree) : List Event :=
  t.fold fun mark below =>
    match mark with
    | .node element position =>
        .enter (constructName? element position) position.start :: below.flatten ++
          [.exit (constructName? element position) position.stop]
    | .tag tag _ => [.tag tag]

/-- What is open: a node with its name, or what a tag has opened. -/
inductive Opened where
  | node (name : Option Text) (start : Point)
  | tag (tag : Tag)

def Tag.shown (tag : Tag) : Text :=
  Problem.quoted ('<' :: (if tag.closing.isSome then ['/'] else []) ++ tag.name ++ ['>'])

def Tag.place (tag : Tag) : Text :=
  tag.shown ++ " (".toList ++ Problem.pointText tag.start ++ [')']

def mismatch (start : Point) (stop : Option Point) (reason : Text) : Problem where
  start := start
  stop := stop
  reason := reason
  rule := "end-tag-mismatch".toList

def unclosed (tag : Tag) (stop : Point) (name : Option Text) : Problem :=
  mismatch stop none <|
    "Expected a closing tag for ".toList ++ tag.place ++
      (name.map fun name => " before the end of ".toList ++ Problem.quoted name).getD []

def wrongClosing (closing opening : Tag) : Problem :=
  mismatch closing.start (some closing.stop) <|
    "Unexpected closing tag ".toList ++ closing.shown ++
      ", expected corresponding closing tag for ".toList ++ opening.place

/-- A closing tag inside a node that has begun behind the opening tag. -/
def crossing (closing : Tag) (name : Text) (start : Point) : Problem :=
  mismatch closing.start none <|
    "Expected the closing tag ".toList ++ closing.shown ++
      " either before the start of ".toList ++ Problem.quoted name ++
      " (".toList ++ Problem.pointText start ++ "), or another opening tag after that start".toList

def nothingOpen (slash : Point) : Problem where
  start := slash
  reason := "Unexpected closing slash \x60/\x60 in tag, expected an open tag first".toList
  rule := "unexpected-closing-slash".toList

def attributeInClosing (start : Point) : Problem where
  start := start
  reason := "Unexpected attribute in closing tag, expected the end of the tag".toList
  rule := "unexpected-attribute".toList

def selfClosingInClosing (slash : Point) : Problem where
  start := slash
  reason :=
    "Unexpected self-closing slash \x60/\x60 in closing tag, expected the end of the tag".toList
  rule := "unexpected-self-closing-slash".toList

def openTag? : List Opened → Option Tag
  | [] => none
  | .tag tag :: _ => some tag
  | .node _ _ :: rest => openTag? rest

def closingProblem (tag : Tag) (slash : Point) (opened : List Opened) : Option Problem :=
  match openTag? opened with
  | none => some (nothingOpen slash)
  | some opening =>
      (tag.firstAttribute.map attributeInClosing) <|> (tag.selfClosing.map selfClosingInClosing) <|>
        (if opening.name ≠ tag.name then some (wrongClosing tag opening)
        else
          match opened with
          | .node (some name) start :: _ => some (crossing tag name start)
          | _ => none)

/-- The first thing that is wrong with the balance of tags in a document that ends at a point. -/
def balance (stop : Point) (opened : List Opened) : List Event → Option Problem
  | [] => (openTag? opened).map fun tag => unclosed tag stop none
  | .enter name start :: rest => balance stop (.node name start :: opened) rest
  | .exit name behind :: rest =>
      match opened with
      | .tag tag :: _ => some (unclosed tag behind name)
      | _ => balance stop opened.tail rest
  | .tag tag :: rest =>
      match tag.closing with
      | some slash =>
          match closingProblem tag slash opened with
          | some p => some p
          | none => balance stop opened.tail rest
      | none =>
          if tag.selfClosing.isSome then balance stop opened rest
          else balance stop (.tag tag :: opened) rest

inductive Unpaired where
  | node (node : Node)
  | tag (tag : Tag) (inText : Bool)

def elementOf (tag : Tag) (inText : Bool) (stop : Point) (children : List Node) : Node :=
  let element : Element := if inText then .mdxJsxTextElement else .mdxJsxFlowElement
  .node ⟨element, some ⟨tag.start, stop⟩⟩ children

/-- The nodes of a row in which tags are paired. What is open comes innermost first, each tag with
the nodes before it; the nodes so far come last one first. -/
def pair (opened : List (Tag × List Node)) (done : List Node) : List Unpaired → List Node
  | [] => (opened.foldl (fun inner outer => inner ++ outer.2) done).reverse
  | .node node :: rest => pair opened (node :: done) rest
  | .tag tag inText :: rest =>
      if tag.closing.isSome then
        match opened with
        | (opening, before) :: outer =>
            pair outer (elementOf opening inText tag.stop done.reverse :: before) rest
        | [] => pair [] done rest
      else if tag.selfClosing.isSome then
        pair opened (elementOf tag inText tag.stop [] :: done) rest
      else pair ((tag, done) :: opened) [] rest

def pairTags (t : MarkTree) : Unpaired :=
  t.fold fun mark below =>
    match mark with
    | .node element position => .node (.node ⟨element, some position⟩ (pair [] [] below))
    | .tag tag inText => .tag tag inText

end DocLinks.Markdown.Mdx
