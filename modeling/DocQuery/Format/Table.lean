/-
Module: DocQuery.Format.Table
Purpose: Rows as a table of text.
Main exports: columnNames, TableOptions, Layout, tableLines, tableText
-/
import DocQuery.Format.Markup
import DocQuery.Record.Basic
import DocQuery.Text.Split
import DocQuery.Text.Wrap

namespace DocQuery

/-- The names of all fields of all rows, in the order of their first occurrence. -/
def columnNames (rows : List Row) : List String :=
  Keyed.distinct (rows.flatMap Keyed.keys)

/-- The ways in which a table is shown. -/
structure TableOptions where
  /-- Columns of the terminal. -/
  width : Nat
  /-- The widest that a column of the plain layout may be. -/
  maxColumn : Int
  /-- Count the rows below the table. -/
  footer : Bool
deriving Repr, Inhabited

/-- The widest that a column of the plain layout may be, unless an option says otherwise. -/
def defaultMaxColumn : Int := 15

/-- The columns of a terminal that does not tell how many it has. -/
def defaultWidth : Nat := 80

/-! ### Columns -/

/-- How the columns of a table are laid out. -/
inductive Layout where
  /-- Lines around all cells, whose text is broken between words. -/
  | boxed
  /-- A line under the header, and texts cut to a width. -/
  | plain (maxColumn : Int)
deriving DecidableEq, Repr, Inhabited

/-- Terminals narrower than this, and tables with more columns than `boxedColumns`, get the plain
layout. -/
def boxedWidth : Nat := 80

/-- The most columns that a boxed table has. -/
def boxedColumns : Nat := 8

/-- The layout of a table with a number of columns. -/
def TableOptions.layout (options : TableOptions) (columns : Nat) : Layout :=
  if boxedWidth ≤ options.width ∧ columns ≤ boxedColumns then .boxed else .plain options.maxColumn

/-- The blanks on both sides of a cell's text. -/
def cellMargins : Nat := 2

namespace Layout

/-- The widest that the text of a column may be. -/
def maxText : Layout → Int
  | .boxed => 30
  | .plain maxColumn => maxColumn

/-- The width of a column with some texts, its margins included. -/
def columnWidth (layout : Layout) (texts : List String) : Nat :=
  let widest := (texts.map Text.blockWidth).foldl max 0
  let width := min (widest : Int) layout.maxText + cellMargins
  if width = 0 then 1 else width.toNat

/-- The lines into which one line of a text is broken. -/
def breakLine (layout : Layout) (width : Nat) (line : List Char) : List (List Char) :=
  match layout with
  | .boxed => Text.wrapLine width line
  | .plain _ => [line]

/-- A line of text between the margins of a column.  The blanks of a cell are told from its text,
which matters where the text ends in a character that would swallow the first blank, or where it is
wider than its parts: then the margin behind it gives way. -/
def cellLine (columnWidth : Nat) (line : String) : String :=
  let width := columnWidth - cellMargins
  let text := Text.cutTo width (Text.padRight width (Text.cutTo width line))
  let pieces := [" "] ++ Text.setPiecesWidth width [text] ++ [" "]
  String.join (Text.setPiecesWidth columnWidth (Text.setPiecesWidth columnWidth pieces))

/-- The lines that a text takes in a column, margins included. -/
def cellLines (layout : Layout) (columnWidth : Nat) (s : String) : List String :=
  let width := columnWidth - cellMargins
  if width = 0 then []
  else
    (Text.partsAt '\n' s.toList).flatMap fun line =>
      (layout.breakLine width (Text.expandTabs line)).map fun part =>
        cellLine columnWidth (String.ofList part)

end Layout

/-! ### Lines -/

/-- A cell as the lines it takes. -/
abbrev Cell := List String

/-- The end of a row to which the lines of a cell keep that is lower than others. -/
inductive CellEnd where
  | top
  | bottom
deriving DecidableEq, Repr, Inhabited

/-- A cell with blank lines added up to a height. -/
def CellEnd.fit (e : CellEnd) (width height : Nat) (cell : Cell) : Cell :=
  let blanks := List.replicate (height - cell.length) (Text.blanks width)
  match e with
  | .top => cell ++ blanks
  | .bottom => blanks ++ cell

/-- The characters around and between the cells of a line. -/
structure Frame where
  left : String
  between : String
  right : String

namespace Frame

/-- A line of cells. -/
def line (f : Frame) (cells : List String) : String :=
  f.left ++ f.between.intercalate cells ++ f.right

/-- A line without text: every cell is filled with one character. -/
def rule (f : Frame) (fill : Char) (widths : List Nat) : String :=
  f.line (widths.map fun width => String.ofList (List.replicate width fill))

/-- The lines of a row of cells, which are as high as its highest cell, and at least one line. -/
def row (f : Frame) (e : CellEnd) (widths : List Nat) (cells : List Cell) : List String :=
  let height := (cells.map List.length).foldl max 1
  let columns := (widths.zip cells).map fun (width, cell) => e.fit width height cell
  (List.range height).map fun i => f.line (columns.map fun cell => cell[i]?.getD "")

end Frame

/-- The lines of a table: a box with heavy lines around the header, or a single line under it. -/
def Layout.frameLines (layout : Layout) (widths : List Nat) (header : List Cell)
    (body : List (List Cell)) : List String :=
  match layout with
  | .boxed =>
      [(Frame.mk "┏" "┳" "┓").rule '━' widths]
        ++ (Frame.mk "┃" "┃" "┃").row .bottom widths header
        ++ [(Frame.mk "┡" "╇" "┩").rule '━' widths]
        ++ body.flatMap ((Frame.mk "│" "│" "│").row .top widths)
        ++ [(Frame.mk "└" "┴" "┘").rule '─' widths]
  | .plain _ =>
      let blank := Frame.mk " " " " " "
      [blank.rule ' ' widths]
        ++ blank.row .bottom widths header
        ++ [(Frame.mk " " "─" " ").rule '─' widths]
        ++ body.flatMap (blank.row .top widths)
        ++ [blank.rule ' ' widths]

/-! ### Tables -/

/-- The texts of a row's cells, one for every column. -/
def cellTexts (columns : List String) (row : Row) : List String :=
  columns.map fun name => ((Keyed.get? name row).getD .null).cellShown

/-- The lines of a table.  A table without columns is a blank line. -/
def tableLines (options : TableOptions) (rows : List Row) : List String :=
  let columns := columnNames rows
  if columns.isEmpty then [""]
  else
    let layout := options.layout columns.length
    let header := columns.map Markup.shown
    let body := rows.map (cellTexts columns)
    let widths := (List.range columns.length).map fun i =>
      layout.columnWidth ((header :: body).map fun texts => texts[i]?.getD "")
    let cells (texts : List String) : List Cell :=
      (widths.zip texts).map fun (width, text) => layout.cellLines width text
    layout.frameLines widths (cells header) (body.map cells)

/-- A number of things in words. -/
def countText (n : Nat) (singular plural : String) : String :=
  toString n ++ " " ++ (if n = 1 then singular else plural)

/-- Rows as a table. -/
def tableText (options : TableOptions) (rows : List Row) : String :=
  if rows.isEmpty then "No results found."
  else
    let footer :=
      if options.footer then Text.wrapText options.width (countText rows.length "row" "rows")
      else []
    String.join ((tableLines options rows ++ footer).map (· ++ "\n"))

end DocQuery
