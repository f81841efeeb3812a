/-!
The signed 32-bit range that axis values live in, and what becomes of a result that leaves it.
-/
namespace PadBench.Signed32

def least : Int := -2147483648
def greatest : Int := 2147483647

/-- The nearest value of the range: what a saturating operation leaves of an exact result. -/
def saturate (value : Int) : Int := max least (min value greatest)

/-- What a plain operation leaves of an exact result: the value of the range that differs from it by a multiple
of `2 ^ 32`. -/
def wrap (value : Int) : Int := (value + 2147483648) % 4294967296 - 2147483648

theorem wrap_of_mem {value : Int} (lo : least ≤ value) (hi : value ≤ greatest) : wrap value = value := by
  unfold wrap least greatest at *; omega

theorem wrap_le_greatest (value : Int) : wrap value ≤ greatest := by
  unfold wrap greatest; omega

theorem saturate_le_greatest (value : Int) : saturate value ≤ greatest := by
  unfold saturate least greatest; omega

theorem saturate_of_mem {value : Int} (lo : least ≤ value) (hi : value ≤ greatest) :
    saturate value = value := by
  unfold saturate least greatest at *; omega

end PadBench.Signed32
