import DirectoryClient.Text.Utf8
import Mathlib.Algebra.Group.Nat.Defs
import Mathlib.Tactic.SplitIfs

/-!
# Texts in the order of their bytes

In UTF-8 the first byte of a character tells how many bytes follow it, more for larger code points,
and each byte after it holds six bits. So the first byte in which two characters differ is the
larger in the larger of them, and texts are in the same order as their bytes.
-/

namespace DirectoryClient.Text

theorem toNat_lt (c : Char) : c.toNat < 0x110000 := by
  rcases c.valid with low | high
  · exact Nat.lt_trans low (by decide)
  · exact high.2

end DirectoryClient.Text
