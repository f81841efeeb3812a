/-!
Whole numbers as bytes, low byte first, and the reversal of a field's bytes.
-/
namespace PadBench.ByteOrder

/-- The greatest number that `width` bytes hold. -/
def fieldGreatest (width : Nat) : Nat := (1 <<< (8 * width)) - 1

/-- The low `width` bytes of a number, low byte first. -/
def toBytes (width value : Nat) : List UInt8 :=
  (List.range width).map fun position => UInt8.ofNat (value >>> (8 * position))

/-- The number whose bytes these are, low byte first. -/
def ofBytes : List UInt8 → Nat
  | [] => 0
  | byte :: rest => byte.toNat + (ofBytes rest) <<< 8

/-- A field of `width` bytes; a number too great for it becomes its greatest. -/
def field (width value : Nat) : List UInt8 := toBytes width (min value (fieldGreatest width))

/-- The number read from the bytes of a field in the opposite order. -/
def reversed (width value : Nat) : Nat := ofBytes (field width value).reverse

end PadBench.ByteOrder
