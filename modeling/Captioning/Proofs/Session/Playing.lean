import Captioning.Proofs.Session.Billing
import Captioning.Proofs.Session.Closing
import Captioning.Proofs.Session.Interleaving

/-!
# Sessions that play

While a scenario is played its session takes frames and captions, until the captions end; nothing
is flushed, and the video segment holds the whole stream.  In such a session every frame that comes
to its end leaves: it is neither turned away nor dropped.
-/

namespace Captioning

/-- The steps of the two sides that play a scenario: frames that have a timestamp and the given
description, captions, and the end of the captions. -/
inductive Step.Airs (info : VideoInfo) : Step → Prop
  | frame {item : VideoItem} (timed : item.pts.isSome = true)
      (picture : item.payload.info = info) : Airs info (.frame item)
  | text (item : TextItem) : Airs info (.text item)
  | textEnd : Airs info (.textEvent .eos)

theorem Step.Airs.plays {info : VideoInfo} {step : Step} (h : step.Airs info) :
    step.Plays info := by
  cases h with
  | frame timed picture => exact .frame picture
  | text item => exact .text item
  | textEnd => exact .textEnd

/-- Whether a frame is on its way before and after something, and the result that came: every
result lets the frame leave. -/
inductive Brings : Bool → Bool → Option FrameResult → Prop
  | idle : Brings false false none
  | waits : Brings true true none
  | leaves (frame : ScheduledFrame) : Brings true false (some (.ok (some frame)))

theorem Brings.trans {a b c : Bool} {first second : Option FrameResult} (h : Brings a b first)
    (h' : Brings b c second) : Brings a c (first.or second) := by
  cases h with
  | idle =>
      cases h' with
      | idle => exact .idle
  | waits => exact h'
  | leaves frame =>
      cases h' with
      | idle => exact .leaves frame

namespace Overlay

variable {o o' : Overlay} {rasterizer : Rasterizer} {signal : Signal} {result : FrameResult}

/-- The video input takes frames, and its segment holds the whole stream. -/
structure TakesFrames (o : Overlay) : Prop where
  open_ : o.flow.videoFault? = none
  whole : ∃ p, o.videoSegment = Segment.whole.moveTo p

theorem Turn.leaves_of_open {call : FrameCall}
    (h : o.Turn rasterizer call o' signal (some result)) (hfault : o.flow.videoFault? = none) :
    ∃ frame, result = .ok (some frame) := by
  cases h with
  | refused fault =>
      rw [hfault] at fault
      cases fault
  | _ => exact ⟨_, rfl⟩

theorem Arrival.leaves_of_open {item : VideoItem}
    (h : o.Arrival rasterizer item o' signal (.done result)) (ho : o.TakesFrames)
    (htimed : item.pts.isSome = true) : ∃ frame, result = .ok (some frame) := by
  cases h with
  | dropped admission =>
      have hadmits := o.admitFrame_admits item
      rw [admission] at hadmits
      cases hadmits with
      | untimed pts =>
          rw [pts] at htimed
          cases htimed
      | outside timed fault clip =>
          obtain ⟨p, hwhole⟩ := ho.whole
          rw [hwhole, clipFrame?_whole timed p] at clip
          cases clip
  | refused admission =>
      have hfault := videoFault?_of_admitFrame admission
      rw [ho.open_] at hfault
      cases hfault
  | decided admission silent connected turn => exact turn.leaves_of_open ho.open_
  | _ => exact ⟨_, rfl⟩

end Overlay

namespace Session

variable {s s' : Session} {rasterizer : Rasterizer} {step : Step} {info : VideoInfo}

/-- Nobody waits in vain, frames are taken, and the text input is not flushed. -/
structure Steady (s : Session) : Prop where
  settled : s.Settled
  frames : s.overlay.TakesFrames
  textFlushing : s.overlay.flow.textFlushing = false

/-! ## Steps -/

/-- The looks of a step leave the flow as its entry left it. -/
theorem step_flow (s : Session) (rasterizer : Rasterizer) (step : Step) :
    (s.step rasterizer step).1.overlay.flow = (s.enter rasterizer step).1.overlay.flow := by
  exact conclude_flow _ _ _ _ _ _

/-- Frames and captions leave the flow as it is, and the end of the captions is noted. -/
theorem flow_of_airs (s : Session) (rasterizer : Rasterizer) (hairs : step.Airs info) :
    (s.step rasterizer step).1.overlay.flow = s.overlay.flow ∨
      step = .textEvent .eos ∧ (s.step rasterizer step).1.overlay.flow =
        { s.overlay.flow with textEnded := true } := by
  rw [step_flow]
  cases hairs with
  | @frame item timed picture =>
      have hentry := s.enter_entry rasterizer (.frame item)
      generalize s.enter rasterizer (.frame item) = entered at hentry
      obtain ⟨s', signal, report⟩ := entered
      cases hentry with
      | busyFrame frame => exact .inl rfl
      | frame free arrival => exact .inl arrival.flow
      | blockedFrame free arrival => exact .inl arrival.flow
      | control control => cases control
  | text item =>
      have hentry := s.enter_entry rasterizer (.text item)
      generalize s.enter rasterizer (.text item) = entered at hentry
      obtain ⟨s', signal, report⟩ := entered
      cases hentry with
      | control control => cases control
      | _ => exact .inl rfl
  | textEnd => exact .inr ⟨rfl, rfl⟩

/-- An end of the captions lasts. -/
theorem textEnded_of_airs (hairs : step.Airs info)
    (hended : s.overlay.flow.textEnded = true ∨ step = .textEvent .eos) :
    (s.step rasterizer step).1.overlay.flow.textEnded = true := by
  rcases flow_of_airs s rasterizer hairs with hsame | ⟨rfl, hnoted⟩
  · rcases hended with hended | rfl
    · rw [hsame]
      exact hended
    · rw [step_flow]
      rfl
  · rw [hnoted]

theorem step_steady (rasterizer : Rasterizer) (hs : s.Steady) (hairs : step.Airs info) :
    (s.step rasterizer step).1.Steady := by
  have hvideo : step.setsVideoSegment = false := by cases hairs <;> rfl
  obtain ⟨p, hwhole⟩ := hs.frames.whole
  obtain ⟨q, hmoved⟩ := s.step_videoSegment rasterizer step hvideo
  refine ⟨step_settled hs.settled step, ⟨?_, q, ?_⟩, ?_⟩
  · rcases flow_of_airs s rasterizer hairs with hsame | ⟨-, hnoted⟩
    · rw [hsame]
      exact hs.frames.open_
    · rw [hnoted]
      exact hs.frames.open_
  · rw [hmoved, hwhole]
    rfl
  · rcases flow_of_airs s rasterizer hairs with hsame | ⟨-, hnoted⟩
    · rw [hsame]
      exact hs.textFlushing
    · rw [hnoted]
      exact hs.textFlushing

private theorem Entry.textEnded_of_error {signal : Signal} {report : Report}
    {error : CaptionError} (h : s.Entry rasterizer step s' signal report)
    (herror : report.text = some (.error error))
    (hopen : s.overlay.flow.textFlushing = false) : s.overlay.flow.textEnded = true := by
  cases h with
  | refusedText free admission =>
      by_contra hended
      simp [Overlay.admitText, Flow.textFault?, hopen, hended] at admission
      split at admission <;> cases admission
  | storedText free admission slot => cases herror
  | discardedText free admission => cases herror
  | _ => cases herror

/-- A caption is turned away only after the end of the captions. -/
theorem textEnded_of_error (hs : s.Steady) (hairs : step.Airs info) {error : CaptionError}
    (herror : (s.step rasterizer step).2.text = some (.error error)) :
    (s.step rasterizer step).1.overlay.flow.textEnded = true := by
  have hopen := (step_steady rasterizer hs hairs).textFlushing
  obtain ⟨s', signal, report, henter, hentry⟩ := s.exists_entry rasterizer step
  suffices hreport : report.text = some (.error error) from
    textEnded_of_airs hairs (.inl (hentry.textEnded_of_error hreport hs.textFlushing))
  cases signal with
  | quiet =>
      rw [step_of_quiet henter] at herror
      exact herror
  | wake =>
      rw [step_flow, henter] at hopen
      rw [step_of_wake henter] at herror
      rcases Option.or_eq_some_iff.mp herror with hreport | ⟨-, hlook⟩
      · exact hreport
      · -- a caption that waits is turned away by a flush only
        have hwake := s'.wakeText_wake
        rw [hlook] at hwake
        generalize s'.wakeText.1 = stored at hwake
        cases hwake with
        | flushed text flushing =>
            rw [hopen] at flushing
            cases flushing

/-! ## The frame on its way -/

private theorem Entry.brings {signal : Signal} {report : Report}
    (h : s.Entry rasterizer step s' signal report) (hairs : step.Airs info)
    (hs : s.overlay.TakesFrames) (hfree : step.isFrame = true → s.frame = none) :
    Brings (s.frame.isSome || step.isFrame) s'.frame.isSome report.video := by
  have hstill (hstep : step.isFrame = false) :
      Brings (s.frame.isSome || step.isFrame) s.frame.isSome none := by
    rw [hstep, Bool.or_false]
    cases s.frame.isSome with
    | true => exact .waits
    | false => exact .idle
  cases h with
  | busyFrame frame =>
      rw [hfree rfl] at frame
      cases frame
  | frame free arrival =>
      cases hairs with
      | frame timed picture =>
          obtain ⟨shown, rfl⟩ := arrival.leaves_of_open hs timed
          rw [free]
          exact .leaves shown
  | blockedFrame free arrival =>
      rw [free]
      exact .waits
  | control control =>
      refine hstill ?_
      cases control <;> rfl
  | _ => exact hstill rfl

private theorem FrameWake.brings {result : Option FrameResult}
    (h : s.FrameWake rasterizer s' result) (hfault : s.overlay.flow.videoFault? = none) :
    Brings s.frame.isSome s'.frame.isSome result := by
  cases h with
  | idle frame =>
      rw [frame]
      exact .idle
  | done frame turn =>
      obtain ⟨shown, rfl⟩ := turn.leaves_of_open hfault
      rw [frame]
      exact .leaves shown
  | waits frame turn =>
      rw [frame]
      exact .waits

/-- What a step of a steady session does to the frame that is on its way or is delivered. -/
theorem step_brings (hs : s.Steady) (hairs : step.Airs info)
    (hfree : step.isFrame = true → s.frame = none) :
    Brings (s.frame.isSome || step.isFrame) (s.step rasterizer step).1.frame.isSome
      (s.step rasterizer step).2.video := by
  have hopen := (step_steady rasterizer hs hairs).frames.open_
  obtain ⟨s', signal, report, henter, hentry⟩ := s.exists_entry rasterizer step
  have hentered := hentry.brings hairs hs.frames hfree
  cases signal with
  | quiet =>
      rw [step_of_quiet henter]
      exact hentered
  | wake =>
      rw [step_flow, henter] at hopen
      rw [step_of_wake henter]
      rw [← s'.wakeText_wake.frame] at hentered
      refine hentered.trans ((s'.wakeText.1.wakeFrame_wake rasterizer).brings ?_)
      rw [s'.wakeText_wake.flow]
      exact hopen

end Session

end Captioning
