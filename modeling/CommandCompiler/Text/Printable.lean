import CommandCompiler.Text.Identifier
import CommandCompiler.Text.Printable.Table
/-!
# CommandCompiler.Text.Printable

Characters that may be shown as they are. The only blank among them is the
ASCII space: a quoted text never holds a character that a reader cannot see.
-/

namespace CommandCompiler.Text

/-- Whether `c` has a glyph of its own, or is the ASCII space. -/
def isPrintable (c : Char) : Bool :=
  let n := c.toNat
  if n < 0x80 then 0x20 ≤ n && n ≤ 0x7E else !inRanges Printable.hiddenRanges n

end CommandCompiler.Text
