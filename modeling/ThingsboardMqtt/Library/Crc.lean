import Mathlib.Data.List.Basic

set_option autoImplicit false

/-! # Chainable checksum routines

A `CrcRoutine` continues a checksum over further bytes: the checksum of a text that arrives in
pieces is the checksum of the pieces put together. `crc32` is the reflected CRC-32 with polynomial
`0xEDB88320` and inverted register, as table-driven C routines compute it. -/

/-- A 32-bit checksum that can be continued over more bytes. -/
structure CrcRoutine where
  run : UInt32 → List UInt8 → UInt32
  run_nil : ∀ crc, run crc [] = crc
  run_append : ∀ crc front back, run crc (front ++ back) = run (run crc front) back

namespace CrcRoutine

/-- One bit of the register. -/
def shiftBit (reg : UInt32) : UInt32 :=
  if reg &&& 1 = 1 then (reg >>> 1) ^^^ 0xEDB88320 else reg >>> 1

/-- One byte of input. -/
def shiftByte (reg : UInt32) (byte : UInt8) : UInt32 :=
  shiftBit (shiftBit (shiftBit (shiftBit
    (shiftBit (shiftBit (shiftBit (shiftBit (reg ^^^ byte.toUInt32))))))))

/-- The standard CRC-32. -/
def crc32 : CrcRoutine where
  run crc bytes := ~~~ (bytes.foldl shiftByte (~~~ crc))
  run_nil crc := by simp
  run_append crc front back := by simp [List.foldl_append]

end CrcRoutine
