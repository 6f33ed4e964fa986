import Captioning.Json.Decode
import Captioning.Segment.Basic

/-!
# Segments in JSON

A segment is a record in which every field may be missing and fields of other names are
ignored.
-/

namespace Captioning.Segment

open Captioning.Json

/-- The units with the names used in files. -/
def formatNames : List (String × SegmentFormat) :=
  [("undefined", .undefined), ("time", .time)]

/-- The name of a unit in files. -/
def formatName : SegmentFormat → String
  | .undefined => "undefined"
  | .time => "time"

/-- The names of the fields in declaration order. -/
def fieldNames : List String :=
  ["format", "start", "stop", "position", "rate", "base"]

/-- A clock time. -/
def readTime? : Json → Option ClockTime :=
  toNat? ClockTime.limit

/-- The segment that a value denotes. -/
def ofJson? (j : Json) : Option Segment := do
  let fields ← toFields? fieldNames .anyOther j
  return {
    format := ← fields.get? "format" (toName? formatNames) (some whole.format)
    start := ← fields.get? "start" readTime? (some whole.start)
    stop := ← fields.get? "stop" (toOption? readTime?) (some whole.stop)
    position := ← fields.get? "position" readTime? (some whole.position)
    rate := ← fields.get? "rate" toDouble? (some whole.rate)
    base := ← fields.get? "base" readTime? (some whole.base) }

/-- The value of a segment, with all its fields. -/
def toJson (s : Segment) : Json :=
  record [
    ("format", ofString (formatName s.format)),
    ("start", ofNat s.start),
    ("stop", ofOption ofNat s.stop),
    ("position", ofNat s.position),
    ("rate", ofDouble s.rate),
    ("base", ofNat s.base)]

end Captioning.Segment
