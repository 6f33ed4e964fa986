import Captioning.Scenario.Basic

/-!
# Playing scenarios

Two sides use one overlay: one plays the frames, the other delivers the captions and then ends
the text input.  The side of the captions goes on whenever it can, so it is always ahead of the
frames by one pending caption and one that waits.
-/

namespace Captioning

/-- A scenario that is being played. -/
structure Player where
  session : Session
  /-- The captions that are still to be delivered. -/
  cues : List Cue
  /-- The number of captions that were taken. -/
  delivered : Nat
  /-- Whether no caption is delivered any more. -/
  ended : Bool

/-- What became of a frame of a scenario. -/
structure FrameReport where
  index : Nat
  pts : ClockTime
  /-- The outcome, unless the frame was dropped. -/
  outcome : Option Outcome
  deriving DecidableEq

/-- What became of a scenario. -/
structure PlayReport where
  frames : List FrameReport
  cuesDelivered : Nat
  renders : Nat
  /-- The calls of the rasterizer in their order. -/
  requests : List RenderRequest

/-- Why a scenario comes to no report. -/
inductive PlayFailure where
  | error (error : CaptionError)
  /-- A number did not fit its width. -/
  | overflow (overflow : Overflow)
  deriving DecidableEq

namespace Player

/-- One step of the session.  A caption that is turned away ends the delivery. -/
def act (p : Player) (rasterizer : Rasterizer) (step : Step) :
    Except Overflow (Player × Option FrameResult) := do
  let (session, report) ← p.session.attempt rasterizer step
  match report.text with
  | some (.ok ()) =>
      return ({ p with session := session, delivered := p.delivered + 1 }, report.video)
  | some (.error _) => return ({ p with session := session, ended := true }, report.video)
  | none => return ({ p with session := session }, report.video)

/-- Whether the side of the captions cannot go on. -/
def isStuck (p : Player) : Bool :=
  p.ended || p.session.text.isSome

/-- Delivers the given captions as far as possible, then ends the text input.  A waiting frame
may come to its result meanwhile. -/
def deliverAll (rasterizer : Rasterizer) :
    List Cue → Player → Except Overflow (Player × Option FrameResult)
  | [], p =>
      if p.isStuck then .ok ({ p with cues := [] }, none)
      else do
        let (next, result) ← p.act rasterizer (.textEvent .eos)
        return ({ next with cues := [], ended := true }, result)
  | cue :: cues, p =>
      if p.isStuck then .ok ({ p with cues := cue :: cues }, none)
      else do
        let item ← cue.toItem
        let (next, result) ← p.act rasterizer (.text item)
        let (last, result') ← deliverAll rasterizer cues next
        return (last, result.or result')

/-- Lets the side of the captions go on until it has to wait. -/
def deliver (p : Player) (rasterizer : Rasterizer) :
    Except Overflow (Player × Option FrameResult) :=
  deliverAll rasterizer p.cues p

/-- One step, after which the side of the captions goes on. -/
def advance (p : Player) (rasterizer : Rasterizer) (step : Step) :
    Except Overflow (Player × Option FrameResult) := do
  let (next, result) ← p.act rasterizer step
  let (last, result') ← next.deliver rasterizer
  return (last, result.or result')

/-- The black frame of a given number.  Whether it overflows does not depend on its bytes, and they
are made only when it does not. -/
def frameItem (p : Player) (rasterizer : Rasterizer) (info : VideoInfo) (duration : ClockTime)
    (index : Nat) : Except Overflow VideoItem :=
  match ClockTime.ofNat? (index * duration), info.sizeOverflow? with
  | none, _ => .error .time
  | some _, some overflow => .error overflow
  | some pts, none =>
      match p.session.arrivalOverflow? rasterizer ⟨some pts, some duration, info⟩ with
      | some overflow => .error overflow
      | none => .ok ⟨some pts, some duration, .black info⟩

/-- Plays frames of the given duration, from the one with the given number on.  The run ends
early when the video input takes no frames any more. -/
def playFrames (rasterizer : Rasterizer) (info : VideoInfo) (duration : ClockTime) :
    Nat → Nat → Player → Except PlayFailure (Player × List FrameReport)
  | 0, _, p => .ok (p, [])
  | count + 1, index, p => do
      let item ← (p.frameItem rasterizer info duration index).mapError .overflow
      match ← (p.advance rasterizer (.frame item)).mapError .overflow with
      | (next, some (.ok scheduled)) => do
          let (last, reports) ← playFrames rasterizer info duration count (index + 1) next
          return (last, ⟨index, index * duration, scheduled.map (·.outcome)⟩ :: reports)
      | (next, some (.error error)) =>
          if error.isFlowSignal then return (next, []) else throw (.error error)
      | (next, none) => return (next, [])

end Player

namespace PlayReport

/-- The number of frames that carry text. -/
def overlaid (r : PlayReport) : Nat :=
  r.frames.countP fun f => f.outcome.any (· ≠ .passthrough)

/-- A number at the right end of five columns. -/
def rightAligned (n : Nat) : String :=
  let digits := Nat.repr n
  String.ofList (List.replicate (5 - digits.length) ' ') ++ digits

/-- The line of a frame. -/
def renderFrame (f : FrameReport) : String :=
  rightAligned f.index ++ "  " ++ ClockTime.render (some f.pts) ++ "  " ++
    (match f.outcome with
      | some outcome => outcome.name
      | none => "dropped") ++ "\n"

/-- The report: a line for each frame, and a summary. -/
def render (r : PlayReport) : String :=
  String.join (r.frames.map renderFrame) ++ Nat.repr r.frames.length ++ " frames, " ++
    Nat.repr r.overlaid ++ " with text, " ++ Nat.repr r.cuesDelivered ++ " cues delivered, " ++
    Nat.repr r.renders ++ " renders"

end PlayReport

namespace Scenario

/-- The session of a scenario before its first frame: configured, started and connected. -/
def openSession (s : Scenario) (rasterizer : Rasterizer) : Except CaptionError Session := do
  let session ← Session.withConfig s.config
  let provider := if s.runningTime then [Step.provide .clock] else []
  return (session.run rasterizer
    (.attach s.attach :: provider ++ [.transit .start, .connect s.connected])).1

/-- Plays a scenario.  After the last frame the video input ends and the overlay is halted. -/
def play (s : Scenario) (rasterizer : Rasterizer) : Except PlayFailure PlayReport := do
  s.check.mapError .error
  let info ← s.videoInfo.mapError .error
  let duration := info.frameDuration.getD ClockTime.millisecond
  let session ← (s.openSession rasterizer).mapError .error
  let (first, _) ←
    ((Player.mk session s.cues 0 (!s.connected)).deliver rasterizer).mapError .overflow
  let (played, frames) ←
    Player.playFrames rasterizer info duration s.frames.toNat 0 first
  let (ended, _) ← (played.act rasterizer (.videoEvent .eos)).mapError .overflow
  let (halted, _) ← (ended.act rasterizer (.transit .halt)).mapError .overflow
  let cache := halted.session.overlay.cache
  return {
    frames := frames
    cuesDelivered := halted.delivered
    renders := cache.renders
    requests := cache.requests.reverse }

end Scenario

end Captioning
