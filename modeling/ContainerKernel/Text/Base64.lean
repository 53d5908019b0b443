import ContainerKernel.Text.Bytes

/-!
# Bytes in base 64

Every three bytes are written as four signs of a 64-sign alphabet; one or two bytes at the end
are filled up with equal signs. A reader passes over line ends.
-/

namespace ContainerKernel.Base64

/-- The alphabet. -/
def alphabet : List Char :=
  "ABCDEFGHIJKLMNOPQRSTUVWXYZabcdefghijklmnopqrstuvwxyz0123456789+/".toList

/-- The sign of a number below 64. -/
def sign (number : Nat) : Char :=
  alphabet.getD number '='

/-- The number of a sign. -/
def number? (wanted : Char) : Option Nat :=
  alphabet.findIdx? (· = wanted)

/-- Write bytes. -/
def encode : Bytes → List Char
  | [] => []
  | [first] =>
    [sign (first.toNat / 4), sign (first.toNat % 4 * 16), '=', '=']
  | [first, second] =>
    [sign (first.toNat / 4), sign (first.toNat % 4 * 16 + second.toNat / 16),
      sign (second.toNat % 16 * 4), '=']
  | first :: second :: third :: rest =>
    sign (first.toNat / 4) :: sign (first.toNat % 4 * 16 + second.toNat / 16) ::
      sign (second.toNat % 16 * 4 + third.toNat / 64) :: sign (third.toNat % 64) :: encode rest

/-- The first of the bytes that two signs write. -/
def firstByte (first second : Nat) : UInt8 :=
  UInt8.ofNat (first * 4 + second / 16)

/-- Read groups of four signs. -/
def decodeGroups : List Char → Option Bytes
  | [] => some []
  | [first, second, '=', '='] => do
    return [firstByte (← number? first) (← number? second)]
  | [first, second, third, '='] => do
    let first ← number? first
    let second ← number? second
    let third ← number? third
    return [firstByte first second, UInt8.ofNat (second % 16 * 16 + third / 4)]
  | first :: second :: third :: fourth :: rest => do
    let first ← number? first
    let second ← number? second
    let third ← number? third
    let fourth ← number? fourth
    let following ← decodeGroups rest
    return firstByte first second :: UInt8.ofNat (second % 16 * 16 + third / 4) ::
      UInt8.ofNat (third % 4 * 64 + fourth) :: following
  | _ => none

/-- Read bytes; nothing when the signs write none. -/
def decode? (signs : List Char) : Option Bytes :=
  decodeGroups (signs.filter fun value => value ≠ '\n' && value ≠ '\r')

end ContainerKernel.Base64
