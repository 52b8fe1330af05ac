import CallProfile.Terminal
import CallProfile.Text.Blank
import CallProfile.Text.Width

/-!
# Text tables

Rows of cells are printed as columns under a bold header. The first column is aligned to the left
and the others to the right, and widths are columns of the terminal.
-/

namespace CallProfile.Columns

/-- The widths that hold a row too. Cells beyond the header do not count. -/
def widen : List Nat → List String → List Nat
  | width :: widths, cell :: cells => max width (Text.Width.columns cell) :: widen widths cells
  | widths, _ => widths

/-- The width of every column. -/
def widths (header : List String) (rows : List (List String)) : List Nat :=
  rows.foldl widen (header.map Text.Width.columns)

/-- Spaces that bring a cell to a width. -/
def padding (width : Nat) (cell : String) : String :=
  String.ofList (List.replicate (width - Text.Width.columns cell) ' ')

/-- The cells of a row, padded: the first one behind its text and the others in front. -/
def paddedCells : List Nat → List String → List String
  | width :: widths, cell :: cells =>
    (cell ++ padding width cell) ::
      (widths.zip cells).map fun (width, cell) => padding width cell ++ cell
  | _, _ => []

/-- A row as a line, without space at its end. -/
def line (widths : List Nat) (cells : List String) : String :=
  Text.trimRight ("  ".intercalate (paddedCells widths cells))

/-- The table of a header and rows. -/
def table (header : List String) (rows : List (List String)) : String :=
  let widths := widths header rows
  Terminal.bold (line widths header) ++ "\n" ++
    String.join (rows.map fun row => line widths row ++ "\n")

end CallProfile.Columns
