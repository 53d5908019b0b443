import ContainerKernel.Text.Bytes

/-!
# Blank characters and trimming

A name or a setting that consists of blanks counts as absent, and blanks around it are not part
of it. Blank is the Unicode white-space property: the ASCII blanks, the next-line and no-break
spaces, and the space separators; the zero-width space is not among them.
-/

namespace ContainerKernel

/-- The white-space characters as ranges of numbers, both ends included. -/
def blankRanges : List (Nat × Nat) := [
  (0x09, 0x0D), (0x20, 0x20), (0x85, 0x85), (0xA0, 0xA0), (0x1680, 0x1680), (0x2000, 0x200A),
  (0x2028, 0x2029), (0x202F, 0x202F), (0x205F, 0x205F), (0x3000, 0x3000)]

/-- Whether a character is white space. -/
def isBlank (value : Char) : Bool :=
  blankRanges.any fun (first, last) => first ≤ value.toNat && value.toNat ≤ last

/-- Whether a piece is a white-space character; a stray byte is not. -/
def Piece.isBlank : Piece → Bool
  | .char value => ContainerKernel.isBlank value
  | .stray _ => false

/-- Drop the elements that satisfy `drop` from both ends of a list. -/
def trimList {α : Type} (drop : α → Bool) (items : List α) : List α :=
  ((items.dropWhile drop).reverse.dropWhile drop).reverse

/-- The text without the white space at its two ends. -/
def trim (text : Bytes) : Bytes :=
  Piece.join (trimList Piece.isBlank (Piece.cut text))

end ContainerKernel
