import Captioning.Dyadic
import Captioning.Error
import Captioning.Render.Style

/-!
# Configurations

A configuration says what text is shown without a text input, how text looks and where it
stands on the frame.
-/

namespace Captioning

/-- The horizontal place of a text. -/
inductive HAlign where
  /-- A padding away from the left edge. -/
  | left
  | center
  /-- A padding away from the right edge. -/
  | right
  /-- Centered on a fraction of the width. -/
  | position
  deriving DecidableEq

/-- The vertical place of a text. -/
inductive VAlign where
  /-- A padding away from the top edge. -/
  | top
  /-- A padding away from the bottom edge. -/
  | bottom
  /-- With its baseline a padding above the bottom edge. -/
  | baseline
  | center
  /-- Centered on a fraction of the height. -/
  | position
  deriving DecidableEq

/-- The settings of an overlay. -/
structure Config where
  /-- The markup shown when no text input is connected. -/
  text : String
  /-- Whether a box behind blended text is darkened. -/
  shadedBackground : Bool
  /-- How much the box is darkened. -/
  shadingValue : UInt8
  halignment : HAlign
  valignment : VAlign
  xpad : Int32
  ypad : Int32
  /-- The shift to the right after placement. -/
  deltax : Int32
  /-- The shift downward after placement. -/
  deltay : Int32
  xpos : Float
  ypos : Float
  wrapMode : WrapMode
  lineAlignment : LineAlign
  fontDesc : String
  color : UInt32
  outlineColor : UInt32
  /-- Whether all frames pass untouched. -/
  silent : Bool
  /-- Whether frames wait for their text. -/
  waitText : Bool
  /-- Whether text grows with the width of the frame. -/
  autoResize : Bool
  /-- Whether text runs from top to bottom. -/
  verticalRender : Bool
  deriving BEq

/-- What placement needs of a configuration. -/
structure Layout where
  halign : HAlign
  valign : VAlign
  xpos : Float
  ypos : Float
  xpad : Int
  ypad : Int
  deltax : Int
  deltay : Int

namespace Config

/-- The settings of a new overlay. -/
def initial : Config where
  text := ""
  shadedBackground := false
  shadingValue := 80
  halignment := .center
  valignment := .baseline
  xpad := 25
  ypad := 25
  deltax := 0
  deltay := 0
  xpos := 0.5
  ypos := 0.5
  wrapMode := .wordChar
  lineAlignment := .center
  fontDesc := ""
  color := 0xffffffff
  outlineColor := 0xff000000
  silent := false
  waitText := true
  autoResize := true
  verticalRender := false

/-! ## Rules -/

/-- Whether a number is a fraction of a side of the frame. -/
def isFraction (x : Float) : Bool :=
  0.0 ≤ x && x ≤ 1.0

/-- Whether a configuration keeps a rule. -/
def keeps (c : Config) : ConfigRule → Bool
  | .shadingValue => 1 ≤ c.shadingValue
  | .xpad => 0 ≤ c.xpad
  | .ypad => 0 ≤ c.ypad
  | .xpos => isFraction c.xpos
  | .ypos => isFraction c.ypos

/-- The rules that a configuration breaks. -/
def broken (c : Config) : List ConfigRule :=
  ConfigRule.all.filter fun rule => !c.keeps rule

/-- Whether a configuration keeps all rules. -/
def isValid (c : Config) : Bool :=
  c.broken.isEmpty

/-- Refuses a configuration that breaks a rule. -/
def check (c : Config) : Except CaptionError Unit :=
  if c.isValid then .ok () else .error (.invalidConfig (.broken c.broken))

/-! ## Derived values -/

/-- What placement needs.  Text that runs from top to bottom stands at the right edge. -/
def layout (c : Config) : Layout where
  halign := if c.verticalRender then .right else c.halignment
  valign := if c.verticalRender then .top else c.valignment
  xpos := c.xpos
  ypos := c.ypos
  xpad := c.xpad.toInt
  ypad := c.ypad.toInt
  deltax := c.deltax.toInt
  deltay := c.deltay.toInt

/-- The width of the frames for which text of scale one is made. -/
def designWidth : Nat :=
  640

/-- The width of a line of text that grows with the frame, on frames of `width` by `height`.
Text that runs from top to bottom fills the height between the paddings. -/
def scaledWrapWidth (c : Config) (width height : Nat) : Int :=
  if c.verticalRender ∧ 0 < width then
    Int.tdiv (designWidth * ((height : Int) - 2 * c.ypad.toInt)) width
  else designWidth

/-- The width of a line of text of fixed size. -/
def fixedWrapWidth (c : Config) (width height : Nat) : Int :=
  (if c.verticalRender then (height : Int) else width) - c.deltax.toInt

/-- The width of a line, at least one and a number of thirty-two bits: that of text of fixed
size stops at the greatest such number, that of text that grows with the frame is reduced to
its lower bits. -/
def wrapWidth? (c : Config) (width height : Nat) : Option Nat :=
  if c.wrapMode = .never then none
  else if c.autoResize then some ((max (c.scaledWrapWidth width height) 1).toNat % wordCount)
  else some (min (max (c.fixedWrapWidth width height) 1) (wordCount - 1)).toNat

/-- The factor by which text grows on frames of the given width. -/
def scale (c : Config) (width : Nat) : Float :=
  if c.autoResize ∧ 0 < width then countToFloat width / countToFloat designWidth else 1.0

/-- The style of text on frames of `width` by `height`. -/
def textStyle (c : Config) (width height : Nat) (markup : Bool) : TextStyle where
  fontDesc := c.fontDesc
  color := c.color
  outlineColor := c.outlineColor
  wrapMode := c.wrapMode
  wrapWidth := c.wrapWidth? width height
  lineAlign := c.lineAlignment
  scale := c.scale width
  vertical := c.verticalRender
  markup := markup

/-- A configuration passes the check exactly when it is valid. -/
theorem check_eq_ok_iff (c : Config) : c.check = .ok () ↔ c.isValid = true := by
  unfold check
  split <;> simp_all

end Config

end Captioning
