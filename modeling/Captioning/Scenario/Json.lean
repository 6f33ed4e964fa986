import Captioning.Config.Json
import Captioning.Scenario.Basic

/-!
# Scenarios in JSON

A scenario is a record in which every field may be missing, but no other may stand.  A caption
must have a text.
-/

namespace Captioning

open Captioning.Json

namespace Cue

/-- The names of the fields in declaration order. -/
def fieldNames : List String :=
  ["start-ms", "duration-ms", "text", "markup"]

/-- A number of milliseconds. -/
def readMillis? (j : Json) : Option UInt64 :=
  (toNat? longCount j).map UInt64.ofNat

/-- The caption that a value denotes. -/
def ofJson? (j : Json) : Option Cue := do
  let fields ← toFields? fieldNames .declaredOnly j
  return {
    startMs := ← fields.get? "start-ms" (toOption? readMillis?) (some none)
    durationMs := ← fields.get? "duration-ms" (toOption? readMillis?) (some none)
    text := ← fields.get? "text" toText? none
    markup := ← fields.get? "markup" toBool? (some false) }

/-- The value of a caption, with all its fields. -/
def toJson (c : Cue) : Json :=
  record [
    ("start-ms", ofOption (fun n => ofNat n.toNat) c.startMs),
    ("duration-ms", ofOption (fun n => ofNat n.toNat) c.durationMs),
    ("text", ofString c.text),
    ("markup", .bool c.markup)]

end Cue

namespace Scenario

/-- The names of the fields in declaration order. -/
def fieldNames : List String :=
  ["config", "format", "width", "height", "fps-n", "fps-d", "frames", "connected", "attach",
    "running-time", "cues"]

/-- The scenario that a value denotes, playable or not. -/
def ofJson? (j : Json) : Option Scenario := do
  let fields ← toFields? fieldNames .declaredOnly j
  return {
    config := ← fields.get? "config" Config.ofJson? (some initial.config)
    format := ← fields.get? "format" (toName? VideoFormat.names) (some initial.format)
    width := ← fields.get? "width" readWord? (some initial.width)
    height := ← fields.get? "height" readWord? (some initial.height)
    fpsN := ← fields.get? "fps-n" readWord? (some initial.fpsN)
    fpsD := ← fields.get? "fps-d" readWord? (some initial.fpsD)
    frames := ← fields.get? "frames" readWord? (some initial.frames)
    connected := ← fields.get? "connected" toBool? (some initial.connected)
    attach := ← fields.get? "attach" toBool? (some initial.attach)
    runningTime := ← fields.get? "running-time" toBool? (some initial.runningTime)
    cues := ← fields.get? "cues" (toList? Cue.ofJson?) (some initial.cues) }

/-- The value of a scenario, with all its fields. -/
def toJson (s : Scenario) : Json :=
  record [
    ("config", s.config.toJson),
    ("format", ofString s.format.name),
    ("width", ofNat s.width.toNat),
    ("height", ofNat s.height.toNat),
    ("fps-n", ofNat s.fpsN.toNat),
    ("fps-d", ofNat s.fpsD.toNat),
    ("frames", ofNat s.frames.toNat),
    ("connected", .bool s.connected),
    ("attach", .bool s.attach),
    ("running-time", .bool s.runningTime),
    ("cues", .array (s.cues.map Cue.toJson))]

/-- The playable scenario that a text denotes. -/
def parse (text : String) : Except CaptionError Scenario := do
  match (Json.parse? text).bind ofJson? with
  | some scenario =>
      scenario.check
      return scenario
  | none => .error (.scenario .malformed)

/-- The playable scenario in a file with the given bytes; `none` stands for a file that does not
exist. -/
def load (bytes : Option (List UInt8)) : Except CaptionError Scenario :=
  match bytes with
  | some bytes =>
      if Utf8.isValid bytes then parse (String.ofList (Utf8.repair bytes))
      else .error (.file .unreadable)
  | none => .error (.file .unreadable)

end Scenario

end Captioning
