import Captioning.Config.Basic
import Captioning.Json.Decode

/-!
# Configurations in JSON

A configuration is a record in which every field may be missing, but no other may stand.
-/

namespace Captioning

open Captioning.Json

namespace HAlign

/-- The places with the names used in files. -/
def names : List (String × HAlign) :=
  [("left", left), ("center", center), ("right", right), ("position", position)]

/-- The name used in files. -/
def name : HAlign → String
  | left => "left"
  | center => "center"
  | right => "right"
  | position => "position"

end HAlign

namespace VAlign

/-- The places with the names used in files. -/
def names : List (String × VAlign) :=
  [("top", top), ("bottom", bottom), ("baseline", baseline), ("center", center),
    ("position", position)]

/-- The name used in files. -/
def name : VAlign → String
  | top => "top"
  | bottom => "bottom"
  | baseline => "baseline"
  | center => "center"
  | position => "position"

end VAlign

namespace WrapMode

/-- The modes with the names used in files. -/
def names : List (String × WrapMode) :=
  [("none", never), ("word", word), ("char", char), ("wordchar", wordChar)]

/-- The name used in files. -/
def name : WrapMode → String
  | never => "none"
  | word => "word"
  | char => "char"
  | wordChar => "wordchar"

end WrapMode

namespace LineAlign

/-- The alignments with the names used in files. -/
def names : List (String × LineAlign) :=
  [("left", left), ("center", center), ("right", right)]

/-- The name used in files. -/
def name : LineAlign → String
  | left => "left"
  | center => "center"
  | right => "right"

end LineAlign

/-- A number of pixels, which may be negative. -/
def readPixels? (j : Json) : Option Int32 :=
  (toInt? signedWordCount j).map Int32.ofInt

/-- A word of thirty-two bits. -/
def readWord? (j : Json) : Option UInt32 :=
  (toNat? wordCount j).map UInt32.ofNat

/-- A byte. -/
def readByte? (j : Json) : Option UInt8 :=
  (toNat? byteCount j).map UInt8.ofNat

namespace Config

/-- The names of the fields in declaration order. -/
def fieldNames : List String :=
  ["text", "shaded-background", "shading-value", "halignment", "valignment", "xpad", "ypad",
    "deltax", "deltay", "xpos", "ypos", "wrap-mode", "line-alignment", "font-desc", "color",
    "outline-color", "silent", "wait-text", "auto-resize", "vertical-render"]

/-- The configuration that given fields denote; missing ones have their initial value. -/
def ofFields? (fields : Fields) : Option Config := do
  return {
    text := ← fields.get? "text" toText? (some initial.text)
    shadedBackground := ← fields.get? "shaded-background" toBool? (some initial.shadedBackground)
    shadingValue := ← fields.get? "shading-value" readByte? (some initial.shadingValue)
    halignment := ← fields.get? "halignment" (toName? HAlign.names) (some initial.halignment)
    valignment := ← fields.get? "valignment" (toName? VAlign.names) (some initial.valignment)
    xpad := ← fields.get? "xpad" readPixels? (some initial.xpad)
    ypad := ← fields.get? "ypad" readPixels? (some initial.ypad)
    deltax := ← fields.get? "deltax" readPixels? (some initial.deltax)
    deltay := ← fields.get? "deltay" readPixels? (some initial.deltay)
    xpos := ← fields.get? "xpos" toDouble? (some initial.xpos)
    ypos := ← fields.get? "ypos" toDouble? (some initial.ypos)
    wrapMode := ← fields.get? "wrap-mode" (toName? WrapMode.names) (some initial.wrapMode)
    lineAlignment := ←
      fields.get? "line-alignment" (toName? LineAlign.names) (some initial.lineAlignment)
    fontDesc := ← fields.get? "font-desc" toText? (some initial.fontDesc)
    color := ← fields.get? "color" readWord? (some initial.color)
    outlineColor := ← fields.get? "outline-color" readWord? (some initial.outlineColor)
    silent := ← fields.get? "silent" toBool? (some initial.silent)
    waitText := ← fields.get? "wait-text" toBool? (some initial.waitText)
    autoResize := ← fields.get? "auto-resize" toBool? (some initial.autoResize)
    verticalRender := ← fields.get? "vertical-render" toBool? (some initial.verticalRender) }

/-- The configuration that a value denotes, valid or not. -/
def ofJson? (j : Json) : Option Config :=
  (toFields? fieldNames .declaredOnly j).bind ofFields?

/-- The fields of a configuration in declaration order. -/
def toFields (c : Config) : Fields :=
  [("text", ofString c.text),
    ("shaded-background", .bool c.shadedBackground),
    ("shading-value", ofNat c.shadingValue.toNat),
    ("halignment", ofString c.halignment.name),
    ("valignment", ofString c.valignment.name),
    ("xpad", ofInt c.xpad.toInt),
    ("ypad", ofInt c.ypad.toInt),
    ("deltax", ofInt c.deltax.toInt),
    ("deltay", ofInt c.deltay.toInt),
    ("xpos", ofDouble c.xpos),
    ("ypos", ofDouble c.ypos),
    ("wrap-mode", ofString c.wrapMode.name),
    ("line-alignment", ofString c.lineAlignment.name),
    ("font-desc", ofString c.fontDesc),
    ("color", ofNat c.color.toNat),
    ("outline-color", ofNat c.outlineColor.toNat),
    ("silent", .bool c.silent),
    ("wait-text", .bool c.waitText),
    ("auto-resize", .bool c.autoResize),
    ("vertical-render", .bool c.verticalRender)]

/-- The value of a configuration, with all its fields. -/
def toJson (c : Config) : Json :=
  record c.toFields

/-- The valid configuration that a text denotes. -/
def parse (text : String) : Except CaptionError Config := do
  match (Json.parse? text).bind ofJson? with
  | some config =>
      config.check
      return config
  | none => .error (.invalidConfig .malformed)

end Config

end Captioning
