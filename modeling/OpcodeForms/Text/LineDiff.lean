import OpcodeForms.Text.Split

/-!
# Differences between two texts

`lineDiff` lists the lines of two texts, each marked as standing in one of them or in both. The
lines that the texts have in common at their beginning and at their end are taken off first. The
rest is aligned along a longest common subsequence, from the end to the beginning: `align` works
on reversed lists, and of several alignments takes the one that inserts as late as possible.
-/

namespace OpcodeForms.Text

/-- An element of one of two lists, or of both. -/
inductive Aligned (α : Type) where
  | left (a : α)
  | right (a : α)
  | both (a : α)
deriving DecidableEq, Repr

section Alignment

variable {α : Type} [DecidableEq α]

/-! ## Lengths of common subsequences

A row belongs to a list. It holds the lengths of its longest common subsequences with the
suffixes of another list, from the whole list to the empty one. -/

/-- The row of `x :: xs`, from the row of `xs`. -/
def nextRow (x : α) : List α → List Nat → List Nat
  | y :: ys, n :: m :: below =>
    let row := nextRow x ys (m :: below)
    (if x = y then m + 1 else max n (row.headD 0)) :: row
  | _, _ => [0]

/-- The rows of the suffixes of `xs`, from `xs` itself to the empty list. -/
def rows : List α → List α → List (List Nat)
  | [], ys => [List.replicate (ys.length + 1) 0]
  | x :: xs, ys =>
    let below := rows xs ys
    nextRow x ys (below.headD []) :: below

/-- Aligns two lists by the rows of the first. An element of the second list comes first if it
can be left out of a longest common subsequence, then one of the first list, then the common
element. -/
def walk : List α → List α → List (List Nat) → List (Aligned α)
  | [], ys, _ => ys.map .right
  | xs, [], _ => xs.map .left
  | x :: xs, y :: ys, table =>
    let row := table.headD []
    if row.headD 0 = row.tail.headD 0 then .right y :: walk (x :: xs) ys (table.map List.tail)
    else if row.headD 0 = (table.tail.headD []).headD 0 then
      .left x :: walk xs (y :: ys) table.tail
    else .both x :: walk xs ys (table.tail.map List.tail)
termination_by xs ys => xs.length + ys.length

/-- Aligns two lists along a longest common subsequence. -/
def align (xs ys : List α) : List (Aligned α) :=
  walk xs ys (rows xs ys)

/-! ## Common ends -/

/-- The longest common beginning of two lists, and what follows it in each. -/
def commonStart : List α → List α → List α × List α × List α
  | x :: xs, y :: ys =>
    if x = y then
      let (start, xs', ys') := commonStart xs ys
      (x :: start, xs', ys')
    else ([], x :: xs, y :: ys)
  | xs, ys => ([], xs, ys)

/-- The differences between two lists: their common beginning, the alignment of the rest, and the
common end of the rest. -/
def listDiff (xs ys : List α) : List (Aligned α) :=
  let (start, xs, ys) := commonStart xs ys
  let (stop, xs, ys) := commonStart xs.reverse ys.reverse
  start.map .both ++ (align xs ys).reverse ++ stop.reverse.map .both

end Alignment

/-! ## Texts -/

/-- An empty line for each text that ends in a line feed. -/
def finalBreaks (s t : List Char) : List (Aligned (List Char)) :=
  if s.getLast? = some '\n' then
    if t.getLast? = some '\n' then [.both []] else [.left []]
  else if t.getLast? = some '\n' then [.right []]
  else []

/-- The differences between two texts line by line. A line feed at the end of a text counts as an
empty line after it. -/
def lineDiff (s t : List Char) : List (Aligned (List Char)) :=
  listDiff (lines s) (lines t) ++ finalBreaks s t

end OpcodeForms.Text
