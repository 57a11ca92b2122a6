/-!
# Grids of characters

A character set of two bytes lays out its characters in rows and columns.  A grid
is written as one text for each row, in which a point stands for an empty cell.
-/

namespace ShapeQuery

namespace Text

/-- Characters in rows; a row may be shorter than the others. -/
structure Grid where
  rows : Array (Array Char)

namespace Grid

/-- The grid that some rows write. -/
def ofRows (rows : List String) : Grid :=
  ⟨(rows.map fun row => row.toList.toArray).toArray⟩

/-- The character of a cell, if the cell is not empty. -/
def cell? (grid : Grid) (row column : Nat) : Option Char := do
  let cells ← grid.rows[row]?
  let character ← cells[column]?
  if character = '.' then none else some character

/-- All characters of a grid that have some property, row by row. -/
def filter (grid : Grid) (keep : Char → Bool) : List Char :=
  grid.rows.toList.flatMap fun cells => cells.toList.filter keep

end Grid

/-- The characters of an interval of code points that do not occur in a list, in
increasing order. -/
def absentCharacters (first count : Nat) (present : List Char) : Array Char :=
  let marks := present.foldl
    (fun marks character =>
      if first ≤ character.toNat then marks.setIfInBounds (character.toNat - first) true
      else marks)
    (Array.replicate count false)
  (marks.toList.zipIdx.filterMap fun (marked, place) =>
    if marked then none else some (Char.ofNat (first + place))).toArray

end Text

end ShapeQuery
