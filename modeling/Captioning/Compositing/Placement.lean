import Captioning.Config.Basic

/-!
# Placement

Where an image stands on a frame: each coordinate has a base, which is kept inside the frame
as far as the image fits, and is then shifted by a delta.
-/

namespace Captioning

/-- The integer nearest to `n` that fits into thirty-two bits with a sign. -/
def saturate (n : Int) : Int :=
  min (max n (-signedWordCount)) (signedWordCount - 1)

/-- The base of a coordinate kept inside the frame, where the image fits. -/
def keepInside (base image frame : Int) : Int :=
  min (max base 0) (max (frame - image) 0)

/-- The point of a side that divides it in the given ratio, rounded toward zero. -/
def pointAt (side : Nat) (fraction : Float) : Int :=
  truncateInt (signedLongCount - 1) (countToFloat side * fraction)

namespace Layout

/-- The left edge of an image, before it is kept inside. -/
def left (l : Layout) (image frame : Nat) : Int :=
  match l.halign with
  | .left => l.xpad
  | .center => Int.tdiv ((frame : Int) - image) 2
  | .right => (frame : Int) - image - l.xpad
  | .position => pointAt frame l.xpos - (image / 2 : Nat)

/-- The top edge of an image, before it is kept inside. -/
def top (l : Layout) (image : Nat) (baseline : Int) (frame : Nat) : Int :=
  match l.valign with
  | .top => l.ypad
  | .bottom => (frame : Int) - image - l.ypad
  | .baseline => (frame : Int) - l.ypad - baseline
  | .center => Int.tdiv ((frame : Int) - image) 2
  | .position => pointAt frame l.ypos - (image / 2 : Nat)

/-- The place of the upper left corner of an image. -/
def place (l : Layout) (imageWidth imageHeight : Nat) (baseline : Int)
    (frameWidth frameHeight : Nat) : Int × Int :=
  (saturate (keepInside (l.left imageWidth frameWidth) imageWidth frameWidth + l.deltax),
    saturate (keepInside (l.top imageHeight baseline frameHeight) imageHeight frameHeight
      + l.deltay))

end Layout

end Captioning
