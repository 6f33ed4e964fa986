/-!
# Text styles

Everything besides the text itself that determines the image of a text.
-/

namespace Captioning

/-- Where lines that are too long are broken. -/
inductive WrapMode where
  /-- Nowhere. -/
  | never
  /-- At spaces. -/
  | word
  /-- After any character. -/
  | char
  /-- At spaces, and inside words that are longer than a line. -/
  | wordChar
  deriving DecidableEq

/-- How lines are aligned with each other. -/
inductive LineAlign where
  | left
  | center
  | right
  deriving DecidableEq

/-- How a text is drawn. -/
structure TextStyle where
  /-- The font, in words that the rasterizer understands. -/
  fontDesc : String
  /-- The colour of the text: alpha, red, green and blue from the highest byte down. -/
  color : UInt32
  /-- The colour of the outline. -/
  outlineColor : UInt32
  wrapMode : WrapMode
  /-- The width of a line before it is broken, without a limit when it is `none`. -/
  wrapWidth : Option Nat
  lineAlign : LineAlign
  /-- The factor by which the font size is multiplied. -/
  scale : Float
  /-- Whether the text is turned to run from top to bottom. -/
  vertical : Bool
  /-- Whether the text is markup. -/
  markup : Bool

/-- A text and a style in a form that can be compared: the scale counts by its bits, so that
equal keys mean equal requests. -/
structure SourceKey where
  text : List Char
  fontDesc : String
  color : UInt32
  outlineColor : UInt32
  wrapMode : WrapMode
  wrapWidth : Option Nat
  lineAlign : LineAlign
  scaleBits : UInt64
  vertical : Bool
  markup : Bool
  deriving DecidableEq

/-- The key of a text in a style. -/
def TextStyle.sourceKey (s : TextStyle) (text : List Char) : SourceKey where
  text := text
  fontDesc := s.fontDesc
  color := s.color
  outlineColor := s.outlineColor
  wrapMode := s.wrapMode
  wrapWidth := s.wrapWidth
  lineAlign := s.lineAlign
  scaleBits := s.scale.toBits
  vertical := s.vertical
  markup := s.markup

end Captioning
