/-!
# Signed 64-bit words

Lengths, indices, handles and limits are signed 64-bit words. The library reckons with them as
integers and says explicitly where the width shows: the largest and smallest word, arithmetic
that wraps around, and a sum that stops at the largest word.
-/

namespace ContainerKernel.Word

/-- The largest signed 64-bit word. -/
def largest : Int := 9223372036854775807

/-- The smallest signed 64-bit word. -/
def smallest : Int := -9223372036854775808

/-- Whether an integer is a signed 64-bit word. -/
def holds (value : Int) : Bool :=
  smallest ≤ value && value ≤ largest

/-- The number of 64-bit words. -/
def range : Nat := 18446744073709551616

/-- The word that the low 64 bits of an integer make. -/
def wrap (value : Int) : Int :=
  Int.bmod value range

/-- The sum of two words that are not negative, or the largest word when the sum is beyond it. -/
def saturatingAdd (first second : Int) : Int :=
  if first > largest - second then largest else first + second

end ContainerKernel.Word
