import CallProfile.Columns
import CallProfile.Proofs.Tally
import CallProfile.Proofs.Text.Lines
import CallProfile.Proofs.Text.Width
import Mathlib.Data.List.Forall2
import Mathlib.Order.Bounds.Basic

/-!
# Aligned tables

The widths of a table are computed in one pass over the rows (`Widths`: each is the greatest width
of a cell in its column) and applied in another. A line is seen as its cells, each behind a number
of spaces (`lineOf`): the padding of the first cell, which stands behind it, then counts for the
second one. All cells but the first end at the end of their columns, so a line ends with its last
cell, and nothing of it is trimmed unless that cell ends in white space. The main result is
`table_aligned`.

The width of a line is the sum of the widths of its pieces. It is that of the line as one text too,
since two cells always have spaces between them (`columns_line_of`).
-/

namespace CallProfile.Columns

open Number (total)
open Text (EndsSolid IsLine)
open Text.Width (columns columns_spaces columns_spaces_append spaces spaces_add spaces_zero)

/-! ## Lines as pieces -/

/-- The line of cells, each behind a number of spaces. -/
def lineOf (pieces : List (Nat × String)) : String :=
  String.join (pieces.map fun piece => spaces piece.1 ++ piece.2)

/-- The columns that spaces and cells take together. -/
def extent (pieces : List (Nat × String)) : Nat :=
  total (pieces.map fun piece => columns (spaces piece.1) + columns piece.2)

/-- The widths of the cells in one column. -/
def cellWidths (grid : List (List String)) (i : Nat) : Set Nat :=
  {width | ∃ row ∈ grid, ∃ cell, row[i]? = some cell ∧ columns cell = width}

/-- The widths are those of the widest cells. -/
def Widths (grid : List (List String)) (widths : List Nat) : Prop :=
  ∀ i width, widths[i]? = some width → IsGreatest (cellWidths grid i) width

/-- No cell of a row is wider than its column. -/
def Fits (widths : List Nat) (cells : List String) : Prop :=
  List.Forall₂ (fun width cell => columns cell ≤ width) widths cells

/-- The cells stand in columns of the widths with two spaces between each two columns. -/
structure Aligned (widths : List Nat) (pieces : List (Nat × String)) : Prop where
  /-- The first cell begins the line. -/
  starts : ∀ piece ∈ pieces.head?, piece.1 = 0
  /-- Every other cell ends where its column ends. -/
  ends (i : Nat) : 1 ≤ i → i < pieces.length →
    extent (pieces.take (i + 1)) = total (widths.take (i + 1)) + 2 * i
  /-- The line is as wide as all columns together. -/
  full : extent pieces = total widths + 2 * (pieces.length - 1)
  /-- The text of the line takes these columns, up to every cell. -/
  drawn (i : Nat) : columns (lineOf (pieces.take i)) = extent (pieces.take i)

/-- The line shows the cells, whole and in order, in columns of the widths. -/
def LaidOut (widths : List Nat) (cells : List String) (line : String) : Prop :=
  ∃ pieces, lineOf pieces = line ∧ pieces.map Prod.snd = cells ∧ Aligned widths pieces

/-- A row of a table with so many columns: no cell breaks the line, and the last one ends the
line. -/
structure IsRow (n : Nat) (cells : List String) : Prop where
  length_eq : cells.length = n
  no_feed : ∀ cell ∈ cells, '\n' ∉ cell.toList
  last : ∃ cell, cells.getLast? = some cell ∧ EndsSolid cell

/-! ## Spaces and pieces -/

/-- The first piece of a line. -/
theorem line_of_cons (gap : Nat) (cell : String) (pieces : List (Nat × String)) :
    lineOf ((gap, cell) :: pieces) = spaces gap ++ cell ++ lineOf pieces := by
  rw [lineOf, List.map_cons, String.join_cons, ← lineOf]

/-- The columns of the first piece. -/
theorem extent_cons (gap : Nat) (cell : String) (pieces : List (Nat × String)) :
    extent ((gap, cell) :: pieces) = gap + columns cell + extent pieces := by
  rw [extent, List.map_cons, Number.total_cons, ← extent, columns_spaces]

/-- Pieces with spaces between them take as many columns as the text that they make. -/
theorem columns_line_of {pieces : List (Nat × String)} (h : ∀ piece ∈ pieces.tail, 0 < piece.1) :
    columns (lineOf pieces) = extent pieces := by
  induction pieces with
  | nil => rfl
  | cons piece pieces ih =>
      obtain ⟨gap, cell⟩ := piece
      have hrest := ih fun other hother => h other (List.mem_of_mem_tail hother)
      have hfollower : (Text.Width.columnsFrom (lineOf pieces).toList).2 = .plain := by
        cases pieces with
        | nil => rfl
        | cons next pieces =>
            rw [line_of_cons, String.append_assoc]
            exact Text.Width.follower_spaces_append (h next List.mem_cons_self) _
      rw [line_of_cons, extent_cons, String.append_assoc, columns_spaces_append,
        Text.Width.columns_append cell hfollower, hrest, Nat.add_assoc]

/-! ## Widths -/

/-- A row that holds a cell for every width widens them one by one. -/
theorem widen_eq {widths : List Nat} {row : List String} (h : row.length = widths.length) :
    widen widths row = List.zipWith (fun width cell => max (columns cell) width) widths row := by
  induction widths generalizing row with
  | nil => cases row <;> rfl
  | cons width widths ih =>
      cases row with
      | nil => cases h
      | cons cell row =>
          rw [widen, List.zipWith_cons_cons, Nat.max_comm, ih (Nat.succ.inj h)]

/-- A row with a cell in the column adds its width to those of the column. -/
theorem cell_widths_append {grid : List (List String)} {row : List String} {i : Nat} {cell : String}
    (hcell : row[i]? = some cell) :
    cellWidths (grid ++ [row]) i = insert (columns cell) (cellWidths grid i) := by
  ext width
  simp [cellWidths, hcell, or_and_right, exists_or, eq_comm, or_comm]

/-- Widening by a row takes the row into account. -/
theorem Widths.widen {grid : List (List String)} {widths : List Nat} (h : Widths grid widths)
    {row : List String} (hrow : row.length = widths.length) :
    Widths (grid ++ [row]) (Columns.widen widths row) := by
  intro i width hwidth
  rw [widen_eq hrow, List.getElem?_zipWith_eq_some] at hwidth
  obtain ⟨before, cell, hbefore, hcell, rfl⟩ := hwidth
  rw [cell_widths_append hcell]
  exact (h i before hbefore).insert (columns cell)

/-- Widening by rows takes all of them into account. -/
theorem Widths.foldl {grid : List (List String)} {widths : List Nat} (h : Widths grid widths)
    {rows : List (List String)} (hrows : ∀ row ∈ rows, row.length = widths.length) :
    (rows.foldl Columns.widen widths).length = widths.length ∧
      Widths (grid ++ rows) (rows.foldl Columns.widen widths) := by
  induction rows generalizing grid widths with
  | nil => exact ⟨rfl, by simpa using h⟩
  | cons row rows ih =>
      have hrow := hrows row List.mem_cons_self
      have hlength : (Columns.widen widths row).length = widths.length := by
        rw [widen_eq hrow, List.length_zipWith, hrow, Nat.min_self]
      have hrest := ih (h.widen hrow) fun other hother => by
        rw [hlength, hrows other (List.mem_cons_of_mem row hother)]
      rwa [hlength, List.append_assoc, List.singleton_append] at hrest

/-- The widths of a table are those of its widest cells. -/
theorem widths_of_table {header : List String} {rows : List (List String)}
    (hrows : ∀ row ∈ rows, row.length = header.length) :
    (widths header rows).length = header.length ∧
      Widths (header :: rows) (widths header rows) := by
  have hheader : Widths [header] (header.map columns) := by
    intro i width hwidth
    rw [List.getElem?_map, Option.map_eq_some_iff] at hwidth
    obtain ⟨cell, hcell, rfl⟩ := hwidth
    have hone : cellWidths [header] i = {columns cell} := by
      ext width
      simp [cellWidths, hcell, eq_comm]
    rw [hone]
    exact isGreatest_singleton
  simpa [widths] using hheader.foldl (by simpa using hrows)

/-- The rows of a table fit into its columns. -/
theorem Widths.fits {grid : List (List String)} {widths : List Nat} (h : Widths grid widths)
    {row : List String} (hrow : row ∈ grid) (hlength : row.length = widths.length) :
    Fits widths row := by
  rw [Fits, List.forall₂_iff_get]
  refine ⟨hlength.symm, fun i hi hi' => ?_⟩
  exact (h i _ (List.getElem?_eq_getElem hi)).2 ⟨row, hrow, _, List.getElem?_eq_getElem hi', rfl⟩

/-! ## The pieces of a row -/

/-- Cells behind two spaces and their padding. -/
def rightAligned (widths : List Nat) (cells : List String) : List (Nat × String) :=
  List.zipWith (fun width cell => (2 + (width - columns cell), cell)) widths cells

/-- The cells of a row behind their spaces. What pads the first cell stands in front of the second
one. -/
def piecesOf : List Nat → List String → List (Nat × String)
  | width :: second :: widths, cell :: next :: cells =>
    (0, cell) :: (width - columns cell + (2 + (second - columns next)), next) ::
      rightAligned widths cells
  | _, _ => []

/-- The padding of a cell is a number of spaces. -/
theorem padding_eq (width : Nat) (cell : String) :
    padding width cell = spaces (width - columns cell) :=
  rfl

/-- The first cell is padded behind and the others in front. -/
theorem padded_cells_cons (width : Nat) (widths : List Nat) (cell : String) (cells : List String) :
    paddedCells (width :: widths) (cell :: cells) = (cell ++ padding width cell) ::
      List.zipWith (fun width cell => padding width cell ++ cell) widths cells := by
  rw [paddedCells, List.zip, List.map_zipWith]

/-- The first of joined texts stands in front of the others with their separators. -/
theorem intercalate_cons (separator first : String) (rest : List String) :
    separator.intercalate (first :: rest) = first ++ String.join (rest.map (separator ++ ·)) := by
  induction rest generalizing first with
  | nil => simp
  | cons next rest ih =>
      rw [String.intercalate_cons_cons, ih, List.map_cons, String.join_cons, String.append_assoc,
        String.append_assoc]

/-- The gap between two columns. -/
theorem gap_eq : "  " = spaces 2 := by
  decide

/-- Cells padded in front make the line of their pieces. -/
theorem line_of_right_aligned (widths : List Nat) (cells : List String) :
    String.join ((List.zipWith (fun width cell => padding width cell ++ cell) widths cells).map
      ("  " ++ ·)) = lineOf (rightAligned widths cells) := by
  rw [lineOf, rightAligned, List.map_zipWith, List.map_zipWith]
  simp only [padding_eq, gap_eq, spaces_add, String.append_assoc]

section Row

variable {widths : List Nat} {cells : List String}

/-- The padded cells of a row make the line of its pieces. -/
theorem line_of_pieces (h : Fits widths cells) (htwo : 2 ≤ cells.length) :
    "  ".intercalate (paddedCells widths cells) = lineOf (piecesOf widths cells) := by
  rcases h with _ | ⟨-, _ | ⟨-, -⟩⟩
  · simp at htwo
  · simp at htwo
  · rw [piecesOf, line_of_cons, line_of_cons, ← line_of_right_aligned, padded_cells_cons,
      intercalate_cons, List.zipWith_cons_cons, List.map_cons, String.join_cons, spaces_zero]
    simp only [padding_eq, gap_eq, spaces_add, String.append_assoc, String.empty_append]

/-- The pieces of cells hold the cells. -/
theorem cells_of_right_aligned (h : Fits widths cells) :
    (rightAligned widths cells).map Prod.snd = cells := by
  induction h with
  | nil => rfl
  | cons _ _ ih => rw [rightAligned, List.zipWith_cons_cons, ← rightAligned, List.map_cons, ih]

/-- The pieces of a row hold its cells. -/
theorem cells_of_pieces (h : Fits widths cells) (htwo : 2 ≤ cells.length) :
    (piecesOf widths cells).map Prod.snd = cells := by
  rcases h with _ | ⟨-, _ | ⟨-, hrest⟩⟩
  · simp at htwo
  · simp at htwo
  · rw [piecesOf, List.map_cons, List.map_cons, cells_of_right_aligned hrest]

/-- Cells behind two spaces and their padding end where their columns end. -/
theorem extent_right_aligned (h : Fits widths cells) (n : Nat) (hn : n ≤ cells.length) :
    extent ((rightAligned widths cells).take n) = total (widths.take n) + 2 * n := by
  induction h generalizing n with
  | nil =>
      obtain rfl : n = 0 := by simpa using hn
      rfl
  | @cons width cell widths cells hcell _ ih =>
      cases n with
      | zero => rfl
      | succ n =>
          have hrest := ih n (Nat.le_of_succ_le_succ hn)
          rw [rightAligned, List.zipWith_cons_cons, ← rightAligned, List.take_succ_cons,
            List.take_succ_cons, extent_cons, hrest, Number.total_cons]
          omega

/-- The cells of a row but the first end where their columns end. -/
theorem extent_pieces (h : Fits widths cells) {i : Nat} (hi : 1 ≤ i) (hcells : i < cells.length) :
    extent ((piecesOf widths cells).take (i + 1)) = total (widths.take (i + 1)) + 2 * i := by
  rcases h with _ | ⟨hfirst, _ | ⟨hsecond, hrest⟩⟩
  · simp at hcells
  · simp only [List.length_cons, List.length_nil] at hcells
    omega
  · obtain ⟨n, rfl⟩ : ∃ n, i = n + 1 := Nat.exists_eq_add_of_le' hi
    have hn : n < _ + 1 := Nat.lt_of_succ_lt_succ hcells
    have hextent := extent_right_aligned hrest n (Nat.le_of_lt_succ hn)
    rw [piecesOf, List.take_succ_cons, List.take_succ_cons, List.take_succ_cons,
      List.take_succ_cons, extent_cons, extent_cons, hextent, Number.total_cons,
      Number.total_cons]
    omega

/-- All pieces of a row but the first stand behind spaces. -/
theorem gap_pos (h : Fits widths cells) :
    ∀ piece ∈ (piecesOf widths cells).tail, 0 < piece.1 := by
  have hright : ∀ widths cells, ∀ piece ∈ rightAligned widths cells, 0 < piece.1 := by
    intro widths cells piece hpiece
    rw [rightAligned, ← List.map_uncurry_zip_eq_zipWith] at hpiece
    obtain ⟨_, -, rfl⟩ := List.mem_map.mp hpiece
    exact Nat.lt_add_right _ Nat.two_pos
  rcases h with _ | ⟨-, _ | ⟨-, -⟩⟩
  · simp [piecesOf]
  · simp [piecesOf]
  · rw [piecesOf, List.tail_cons, List.forall_mem_cons]
    exact ⟨by omega, hright _ _⟩

/-- The pieces of a row are aligned in its columns. -/
theorem aligned_pieces (h : Fits widths cells) (htwo : 2 ≤ cells.length) :
    Aligned widths (piecesOf widths cells) := by
  have hlength : (piecesOf widths cells).length = cells.length := by
    rw [← List.length_map Prod.snd, cells_of_pieces h htwo]
  refine ⟨?starts, fun i hi hpieces => extent_pieces h hi (hlength ▸ hpieces), ?full, ?drawn⟩
  case starts =>
    rcases h with _ | ⟨-, _ | ⟨-, -⟩⟩
    · simp [piecesOf]
    · simp [piecesOf]
    · simp [piecesOf]
  case full =>
    have hall := extent_pieces h (i := cells.length - 1) (by omega) (by omega)
    have hcells : cells.length - 1 + 1 = cells.length := by omega
    rw [hcells, List.take_of_length_le hlength.le, List.take_of_length_le h.length_eq.le] at hall
    rw [hall, hlength]
  case drawn =>
    intro i
    exact columns_line_of fun piece hpiece =>
      gap_pos h piece ((List.take_sublist i _).tail.subset hpiece)

end Row

/-! ## The end of a line -/

/-- A line ends like its last cell. -/
theorem ends_solid_line_of {pieces : List (Nat × String)} {cell : String}
    (hlast : (pieces.map Prod.snd).getLast? = some cell) (h : EndsSolid cell) :
    EndsSolid (lineOf pieces) := by
  rw [List.getLast?_map, Option.map_eq_some_iff] at hlast
  obtain ⟨piece, hpiece, rfl⟩ := hlast
  obtain ⟨front, rfl⟩ := List.getLast?_eq_some_iff.mp hpiece
  rw [lineOf, List.map_append, String.join_append, List.map_singleton, String.join_cons,
    String.join_nil, String.append_empty]
  exact (h.append _).append _

/-- A line has no line feed if no cell has one. -/
theorem no_feed_line_of {pieces : List (Nat × String)}
    (h : ∀ cell ∈ pieces.map Prod.snd, '\n' ∉ cell.toList) : '\n' ∉ (lineOf pieces).toList := by
  intro hmem
  rw [lineOf, String.toList_join, List.mem_flatMap] at hmem
  obtain ⟨text, htext, hfeed⟩ := hmem
  obtain ⟨piece, hpiece, rfl⟩ := List.mem_map.mp htext
  rw [String.toList_append, List.mem_append] at hfeed
  rcases hfeed with hspace | hcell
  · rw [spaces, String.toList_ofList] at hspace
    exact absurd (List.eq_of_mem_replicate hspace) (by decide)
  · exact h piece.2 (List.mem_map_of_mem hpiece) hcell

/-- Bold text is a line if it has no line feed. -/
theorem is_line_bold {text : String} (h : '\n' ∉ text.toList) : IsLine (Terminal.bold text) := by
  have hstart : (Terminal.code 1).toList = ['\x1b', '[', '1', 'm'] := by decide
  have hstop : (Terminal.code Terminal.reset).toList = ['\x1b', '[', '0', 'm'] := by decide
  rw [IsLine, Terminal.bold, String.toList_append, String.toList_append, hstart, hstop]
  refine ⟨by simpa using h, ?_⟩
  rw [List.getLast?_append]
  simp

/-! ## Tables -/

section Line

variable {n : Nat} {widths : List Nat} {cells : List String}

/-- A row that fits into columns makes the line of its pieces. -/
theorem IsRow.line_eq (h : IsRow n cells) (hn : 2 ≤ n) (hfits : Fits widths cells) :
    line widths cells = lineOf (piecesOf widths cells) ∧
      EndsSolid (lineOf (piecesOf widths cells)) := by
  have htwo : 2 ≤ cells.length := h.length_eq ▸ hn
  obtain ⟨cell, hlast, hsolid⟩ := h.last
  rw [← cells_of_pieces hfits htwo] at hlast
  have hends := ends_solid_line_of hlast hsolid
  exact ⟨by rw [line, line_of_pieces hfits htwo, hends.trim_right], hends⟩

/-- A row that fits into columns is laid out in them. -/
theorem IsRow.laid_out (h : IsRow n cells) (hn : 2 ≤ n) (hfits : Fits widths cells) :
    LaidOut widths cells (line widths cells) := by
  have htwo : 2 ≤ cells.length := h.length_eq ▸ hn
  exact ⟨_, (h.line_eq hn hfits).1.symm, cells_of_pieces hfits htwo, aligned_pieces hfits htwo⟩

/-- A row that fits into columns makes one line. -/
theorem IsRow.is_line (h : IsRow n cells) (hn : 2 ≤ n) (hfits : Fits widths cells) :
    IsLine (line widths cells) := by
  have htwo : 2 ≤ cells.length := h.length_eq ▸ hn
  obtain ⟨hline, hends⟩ := h.line_eq hn hfits
  rw [hline]
  refine hends.is_line (no_feed_line_of ?_)
  rw [cells_of_pieces hfits htwo]
  exact h.no_feed

end Line

/-- The lines of a table are its header, in bold, and its rows, in order, each laid out whole in
columns as wide as their widest cells. -/
theorem table_aligned {header : List String} {rows : List (List String)}
    (hcolumns : 2 ≤ header.length) (hrows : ∀ row ∈ header :: rows, IsRow header.length row) :
    ∃ widths first lines, widths.length = header.length ∧ Widths (header :: rows) widths ∧
      Text.lines (table header rows) = Terminal.bold first :: lines ∧
      List.Forall₂ (LaidOut widths) (header :: rows) (first :: lines) := by
  obtain ⟨hlength, hwidths⟩ := widths_of_table fun row hrow =>
    (hrows row (List.mem_cons_of_mem header hrow)).length_eq
  have hfits : ∀ row ∈ header :: rows, Fits (widths header rows) row := fun row hrow =>
    hwidths.fits hrow ((hrows row hrow).length_eq.trans hlength.symm)
  have hline : ∀ row ∈ header :: rows, IsLine (line (widths header rows) row) := fun row hrow =>
    (hrows row hrow).is_line hcolumns (hfits row hrow)
  refine ⟨widths header rows, line (widths header rows) header,
    rows.map (line (widths header rows)), hlength, hwidths, ?lines, ?laidOut⟩
  case lines =>
    have hheader := is_line_bold (hline header List.mem_cons_self).1
    have hrest : rows.map (fun row => line (widths header rows) row ++ "\n") =
        (rows.map (line (widths header rows))).map (· ++ "\n") := by
      rw [List.map_map]
      rfl
    rw [table, hrest, Text.lines_cons hheader, Text.lines_of_join]
    intro text htext
    obtain ⟨row, hrow, rfl⟩ := List.mem_map.mp htext
    exact hline row (List.mem_cons_of_mem header hrow)
  case laidOut =>
    rw [← List.map_cons (f := line (widths header rows)), List.forall₂_map_right_iff,
      List.forall₂_same]
    exact fun row hrow => (hrows row hrow).laid_out hcolumns (hfits row hrow)

/-- A header of three columns. -/
def wideHeader : List String :=
  ["Method", "Calls", "Mean"]

/-- Rows with wide characters, with white space at the ends of cells and without a text. -/
def wideRows : List (List String) :=
  [["取得", " \t", "0.5"], ["", "12\u3000", "平均"]]

/-- The table of the rows is aligned. -/
theorem wide_table_aligned :
    2 ≤ wideHeader.length ∧ (∀ row ∈ wideHeader :: wideRows, IsRow wideHeader.length row) ∧
      ∃ widths first lines, widths.length = wideHeader.length ∧
        Widths (wideHeader :: wideRows) widths ∧
        Text.lines (table wideHeader wideRows) = Terminal.bold first :: lines ∧
        List.Forall₂ (LaidOut widths) (wideHeader :: wideRows) (first :: lines) := by
  have hfeeds : ((wideHeader :: wideRows).all fun row =>
      row.all fun cell => !cell.toList.contains '\n') = true := by
    decide
  have hrows : ∀ row ∈ wideHeader :: wideRows, IsRow wideHeader.length row := by
    intro row hrow
    have hfeed : ∀ cell ∈ row, '\n' ∉ cell.toList := by
      simpa using List.all_eq_true.mp hfeeds row hrow
    simp only [wideRows, List.mem_cons, List.not_mem_nil, or_false] at hrow
    rcases hrow with rfl | rfl | rfl
    · exact ⟨rfl, hfeed, "Mean", rfl, 'n', by decide, by decide⟩
    · exact ⟨rfl, hfeed, "0.5", rfl, '5', by decide, by decide⟩
    · exact ⟨rfl, hfeed, "平均", rfl, '均', by decide, by decide⟩
  exact ⟨by decide, hrows, table_aligned (by decide) hrows⟩

end CallProfile.Columns
