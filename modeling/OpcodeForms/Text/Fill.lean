import OpcodeForms.Text.Split

/-!
# Filling lines

Running text is laid out in lines of a given width. Its words and spaces are written one after
another, and one that no longer fits begins a new line. The blanks before such a line break are
dropped, and so is a space that would begin the new line.

A line feed in the running text stands for a space. Only a line feed that is followed by another
one or by a space ends the line, and takes that character with it.
-/

namespace OpcodeForms.Text

/-- The number of bytes of the text in UTF-8. -/
def byteLength (s : List Char) : Nat :=
  s.foldl (fun n c => n + c.utf8Size) 0

/-- A piece of running text. -/
inductive Piece where
  | space
  /-- Characters that are neither spaces nor line feeds. -/
  | word (s : List Char)
  | lineEnd
deriving DecidableEq, Repr

/-- The text with the character `c` in front, which belongs to the word that the text begins with,
if it begins with one. -/
def Piece.consChar (c : Char) : List Piece → List Piece
  | word s :: rest => word (c :: s) :: rest
  | rest => word [c] :: rest

/-- The pieces of the text. Words are as long as they can be. -/
def pieces : List Char → List Piece
  | [] => []
  | '\n' :: '\n' :: s => .lineEnd :: pieces s
  | '\n' :: ' ' :: s => .lineEnd :: pieces s
  | '\n' :: s => .space :: pieces s
  | ' ' :: s => .space :: pieces s
  | c :: s => Piece.consChar c (pieces s)

/-- Lines that are being filled. -/
structure Filled where
  /-- What has been written so far. -/
  text : List Char := []
  /-- The number of characters on the current line. -/
  column : Nat := 0
deriving DecidableEq, Repr

namespace Filled

/-- Writes the text on the current line, whether it fits or not. -/
def write (f : Filled) (s : List Char) : Filled :=
  { text := f.text ++ s, column := f.column + s.length }

/-- Ends the current line. -/
def endLine (f : Filled) : Filled :=
  { text := f.text ++ ['\n'], column := 0 }

/-- Ends the current line before something that does not fit, without blanks at its end. -/
def breakLine (f : Filled) : Filled :=
  { text := trimEnd f.text ++ ['\n'], column := 0 }

/-- Whether the text fits on the current line. It is taken to be as wide as it has bytes. At the
very start everything fits. -/
def fits (width : Nat) (f : Filled) (s : List Char) : Bool :=
  f.text.isEmpty || f.column + byteLength s ≤ width

/-- Adds a piece of running text. -/
def add (width : Nat) (f : Filled) : Piece → Filled
  | .lineEnd => f.endLine
  | .space => if f.fits width [' '] then f.write [' '] else f.breakLine
  | .word s => if f.fits width s then f.write s else f.breakLine.write s

/-- Adds running text. -/
def fill (width : Nat) (f : Filled) (s : List Char) : Filled :=
  (pieces s).foldl (add width) f

end Filled

example : (Filled.fill 7 {} "one two three\nfour\n\nfive".toList).text
    = "one two\nthree\nfour\nfive".toList := by
  decide +kernel

end OpcodeForms.Text
