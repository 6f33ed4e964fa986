import Captioning.Overlay.Overflow

/-!
# Scenarios

A scenario describes a run of an overlay: the frames to play at a fixed rate, and the captions
that are delivered meanwhile.
-/

namespace Captioning

/-- A caption of a scenario. -/
structure Cue where
  /-- When it begins; `none` for a caption without a time. -/
  startMs : Option UInt64
  durationMs : Option UInt64
  text : String
  /-- Whether the text is markup. -/
  markup : Bool
  deriving DecidableEq

/-- A given number of milliseconds. -/
def ClockTime.ofMillis (n : UInt64) : Except Overflow ClockTime :=
  match ofNat? (n.toNat * millisecond) with
  | some t => .ok t
  | none => .error .time

/-- The caption as the text input delivers it. -/
def Cue.toItem (cue : Cue) : Except Overflow TextItem := do
  let pts ← cue.startMs.mapM ClockTime.ofMillis
  let duration ← cue.durationMs.mapM ClockTime.ofMillis
  return ⟨pts, duration, .ofString cue.text (if cue.markup then .markup else .plain)⟩

/-- A run of an overlay. -/
structure Scenario where
  config : Config
  format : VideoFormat
  width : UInt32
  height : UInt32
  fpsN : UInt32
  fpsD : UInt32
  /-- The number of frames. -/
  frames : UInt32
  /-- Whether there is a text input; without one the captions are left out. -/
  connected : Bool
  /-- Whether images stay beside the frames. -/
  attach : Bool
  /-- Whether frames show their running time when there is no text input. -/
  runningTime : Bool
  /-- The captions in the order of their delivery. -/
  cues : List Cue

namespace Scenario

/-- One second of small frames with a text input and no captions. -/
def initial : Scenario where
  config := .initial
  format := .rgba
  width := 320
  height := 240
  fpsN := 25
  fpsD := 1
  frames := 25
  connected := true
  attach := false
  runningTime := false
  cues := []

/-- The description of the frames. -/
def videoInfo (s : Scenario) : Except CaptionError VideoInfo := do
  let info ← VideoInfo.make s.format s.width.toNat s.height.toNat
  return info.withFramerate s.fpsN.toNat s.fpsD.toNat

/-- Refuses a scenario that cannot be played: its rate is zero or unknown, its configuration is
invalid, or its frames have no pixels.  The first of these faults is named. -/
def check (s : Scenario) : Except CaptionError Unit := do
  if s.fpsN = 0 ∨ s.fpsD = 0 then
    throw (.scenario (.unplayableRate s.fpsN.toNat s.fpsD.toNat))
  s.config.check
  let _ ← s.videoInfo
  return ()

end Scenario

end Captioning
