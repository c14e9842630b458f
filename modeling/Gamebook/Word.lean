/-!
# Limits of fixed-width numbers

How many numbers a word of so many bits holds.
-/

namespace Gamebook.Word

/-- The number of values of a word of 31 bits. -/
def count31 : Nat := 0x80000000

/-- The number of values of a word of 32 bits. -/
def count32 : Nat := 0x100000000

/-- The number of values of a word of 63 bits. -/
def count63 : Nat := 0x8000000000000000

/-- The number of values of a word of 64 bits. -/
def count64 : Nat := 0x10000000000000000

/-- The greatest number of 32 bits. -/
def max32 : Nat := 0xFFFFFFFF

/-- The greatest number of 63 bits. -/
def max63 : Nat := 0x7FFFFFFFFFFFFFFF

/-- The greatest number of 64 bits. -/
def max64 : Nat := 0xFFFFFFFFFFFFFFFF

end Gamebook.Word
