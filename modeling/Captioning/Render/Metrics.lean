import Captioning.Decimal.Reading
import Captioning.Dyadic
import Captioning.Render.Style
import Captioning.Text.Blank

/-!
# Glyph metrics

The size of the cells in which characters stand follows from the size of the font.
-/

namespace Captioning

/-- The size of a font whose description names none. -/
def defaultFontSize : Float :=
  18.0

/-- The size that a font description names: its last word, if that is a positive number. -/
def fontSize (description : String) : Float :=
  match (words description.toList).getLast?.bind Decimal.readDouble? with
  | some size => if size > 0.0 then size else defaultFontSize
  | none => defaultFontSize

/-- The number, but at least one. -/
def atLeastOne (x : Float) : Float :=
  if x ≥ 1.0 then x else 1.0

/-- The pixels of a cell. -/
structure Metrics where
  cellWidth : Nat
  lineHeight : Nat
  /-- The height of a glyph. -/
  ascent : Nat
  /-- The distance of a glyph from the top of its line. -/
  top : Nat
  deriving DecidableEq

namespace Metrics

/-- A whole number of pixels near `x`, at least one. -/
def pixels (x : Float) : Nat :=
  truncateNat (wordCount - 1) (atLeastOne (roundHalfAway x))

/-- The metrics of a font of the given size. -/
def ofSize (size : Float) : Metrics where
  cellWidth := pixels (size * 0.6)
  lineHeight := pixels (size * 1.25)
  ascent := pixels (size * 0.8)
  top := pixels (size * 1.25) / 8

/-- The metrics of a style. -/
def ofStyle (style : TextStyle) : Metrics :=
  ofSize (atLeastOne (roundHalfAway (fontSize style.fontDesc * style.scale)))

/-- How many characters stand on a line, at least one; `none` when lines are not limited. -/
def lineLimit? (m : Metrics) (style : TextStyle) : Option Nat :=
  style.wrapWidth.map fun width =>
    max 1 (truncateNat (longCount - 1)
      (countToFloat width * style.scale / countToFloat m.cellWidth))

end Metrics

end Captioning
