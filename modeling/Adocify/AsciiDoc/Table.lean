import Adocify.AsciiDoc.Inline

/-! Tables. -/

namespace Adocify.AsciiDoc

/-- The columns that a row takes up; fails unless all its elements are cells. -/
def rowSpan : List Node → Except Failure Int
  | [] => .ok 0
  | .tableCell _ span _ :: rest => (rowSpan rest).map (span + ·)
  | _ => .error .misplaced

def rowSpans : List Node → Except Failure (List Int)
  | [] => .ok []
  | .tableRow cells :: rest => do
    let span ← rowSpan cells
    let others ← rowSpans rest
    return span :: others
  | _ => .error .misplaced

/-- The columns of the widest row. -/
def tableWidth (rows : List Node) : Except Failure Int := do
  match ← rowSpans rows with
  | [] => return 0
  | first :: others => return others.foldl max first

def alignmentSign (alignment : Option Text) : Text :=
  match alignment with
  | none => []
  | some name =>
    if name == "left".toList then ['<']
    else if name == "center".toList then ['^']
    else if name == "right".toList then ['>']
    else []

/-- One column specification for each column, those beyond the alignments being plain. -/
def columnSpecs (alignments : List (Option Text)) (width : Int) : Text :=
  Text.join [','] <| (List.range width.toNat).map fun column =>
    alignmentSign (alignments[column]?.getD none) ++ ['1']

def hasAlignment (alignments : List (Option Text)) : Bool :=
  alignments.any fun alignment => alignment.any fun name => !name.isEmpty

/-- The line of block attributes, if there are any. A table that has nothing but a header says so,
because no blank line can mark it. -/
def tableAttributes (alignments : List (Option Text)) (width : Int) (headerOnly : Bool) : List Text :=
  let written :=
    (if hasAlignment alignments then ["cols=\"".toList ++ columnSpecs alignments width ++ ['"']] else []) ++
    (if headerOnly then ["options=\"header\"".toList] else [])
  if written.isEmpty then [] else ['[' :: Text.join [','] written ++ [']']]

def tableDelimiter : Text := "|===".toList

def table (header : Option Child) (rows : List Child) (alignments : List (Option Text)) (caption : Option Text) :
    Render Text := do
  let width ← liftM (tableWidth ((header.toList ++ rows).map (·.node)))
  modify fun context => { context with tableColumns := width }
  let titled := match caption.filter fun content => !content.isEmpty with
    | some content => ['.' :: content]
    | none => []
  let headerLines ← match header with
    | some row => do
      let text ← row.rendered
      pure (text :: if rows.isEmpty then [] else [[]])
    | none => pure []
  let rowLines ← Render.sequence (rows.map (·.rendered))
  return Text.unlines <|
    titled ++ tableAttributes alignments width (header.isSome && rows.isEmpty) ++ [tableDelimiter] ++
      headerLines ++ rowLines ++ [tableDelimiter]

/-- A row on one line, filled up with empty cells to the width of the table. -/
def tableRow (cells : List Child) : Render Text := do
  let texts ← Render.sequence (cells.map (·.rendered))
  let context ← get
  let span ← liftM (rowSpan (cells.map (·.node)))
  let missing := (context.tableColumns - span).toNat
  return Text.stripRight (Text.join [' '] (texts ++ List.replicate missing ['|']))

/-- A bar within a cell would end it. -/
def tableCell (options : Options) (span : Int) (children : List Child) : Render Text := do
  let text ← inlineContent options children
  let spanned := if span > 1 then Text.ofInt span ++ ['+'] else []
  return Text.stripRight (spanned ++ "| ".toList ++ Text.substitute '|' ['\\', '|'] text)

end Adocify.AsciiDoc
