import Captioning.Proofs.Overlay.Overflowing
import Captioning.Proofs.Session.Overflowing
import Captioning.Proofs.Session.Segments

/-!
# Segments that can be used

Segments are announced from outside, replaced when an input is flushed or an overlay starts, and
taken away when the text input is disconnected.  Whatever is done, both inputs have a valid
segment: the video input always one in time, the text input as long as it is connected.  A frame
that lies in its segment is therefore looked after, unless its end or its running time overflows.

## Strategy

Frames and captions only move positions, and no property of a segment depends on its position
(`Overlay.Segmented.of_moved`).  Control sets segments, one case for each of the places
(`Overlay.Control.segmented`).
-/

namespace Captioning

/-! ## Segments in the place of others -/

namespace Segment

variable {s new : Segment}

theorem isUsable_whole : whole.isUsable = true :=
  isUsable_between 0

theorem isTime_of_isUsable (h : s.isUsable = true) : s.isTime = true :=
  (Bool.and_eq_true_iff.mp h).1

theorem isValid_of_isUsable (h : s.isUsable = true) : s.isValid = true :=
  (Bool.and_eq_true_iff.mp h).2

theorem isValid_whole : whole.isValid = true :=
  isValid_of_isUsable isUsable_whole

/-- The segment of a detached input is valid, though it is not in time. -/
theorem isValid_detached : detached.isValid = true :=
  isValid_whole

/-- An announced segment is in force if it can be used; otherwise the old one stays. -/
theorem adopt_cases (s new : Segment) :
    s.adopt new = new ∧ new.isUsable = true ∨ s.adopt new = s := by
  unfold adopt
  split
  next husable => exact .inl ⟨rfl, husable⟩
  next => exact .inr rfl

end Segment

/-! ## Overlays -/

namespace Overlay

variable {o o' : Overlay} {signal : Signal} {step : Step}

/-- Both segments are valid.  That of the video is in time, and so is that of the text while the
text input is connected. -/
structure Segmented (o : Overlay) : Prop where
  video : o.videoSegment.isUsable = true
  text : o.textSegment.isValid = true
  connected : o.flow.textConnected = true → o.textSegment.isTime = true

theorem initial_segmented : initial.Segmented where
  video := Segment.isUsable_whole
  text := Segment.isValid_whole
  connected := nofun

/-- Positions do not matter. -/
theorem Segmented.of_moved (ho : o.Segmented)
    (hvideo : ∃ p, o'.videoSegment = o.videoSegment.moveTo p)
    (htext : o.textSegment.Onward o'.textSegment)
    (hconnected : o'.flow.textConnected = o.flow.textConnected) : o'.Segmented := by
  obtain ⟨p, hvideo⟩ := hvideo
  obtain ⟨q, -, htext⟩ := htext
  refine ⟨?_, ?_, ?_⟩
  · rw [hvideo]
    exact ho.video
  · rw [htext]
    exact ho.text
  · rw [htext, hconnected]
    exact ho.connected

/-- Another segment of the video takes the place of the old one. -/
private theorem Segmented.setVideo (ho : o.Segmented) (husable : o'.videoSegment.isUsable = true)
    (htext : o'.textSegment = o.textSegment)
    (hconnected : o'.flow.textConnected = o.flow.textConnected) : o'.Segmented where
  video := husable
  text := htext ▸ ho.text
  connected := htext ▸ hconnected ▸ ho.connected

/-- Another segment of the text takes the place of the old one. -/
private theorem Segmented.setText (ho : o.Segmented) (husable : o'.textSegment.isUsable = true)
    (hvideo : o'.videoSegment = o.videoSegment) : o'.Segmented where
  video := hvideo ▸ ho.video
  text := Segment.isValid_of_isUsable husable
  connected := fun _ => Segment.isTime_of_isUsable husable

private theorem Segmented.videoEvent (ho : o.Segmented) (event : StreamEvent) :
    (o.videoEvent event).1.Segmented := by
  cases event with
  | segment new =>
      rcases o.videoSegment.adopt_cases new with ⟨hnew, husable⟩ | hold
      · exact ho.setVideo ((congrArg Segment.isUsable hnew).trans husable) rfl rfl
      · exact ho.setVideo ((congrArg Segment.isUsable hold).trans ho.video) rfl rfl
  | gap start duration => exact ho
  | flushStart => exact ⟨ho.video, ho.text, ho.connected⟩
  | flushStop => exact ho.setVideo Segment.isUsable_whole rfl rfl
  | eos => exact ⟨ho.video, ho.text, ho.connected⟩

private theorem Segmented.textEvent (ho : o.Segmented) (event : StreamEvent) :
    (o.textEvent event).1.Segmented := by
  cases event with
  | segment new =>
      rcases o.textSegment.adopt_cases new with ⟨hnew, husable⟩ | hold
      · exact ho.setText ((congrArg Segment.isUsable hnew).trans husable) rfl
      · exact ho.of_moved ⟨_, rfl⟩ (Segment.onward_of_eq hold) rfl
  | gap start duration => exact ho.of_moved ⟨_, rfl⟩ (o.textSegment.onward_advance _) rfl
  | flushStart => exact ⟨ho.video, ho.text, ho.connected⟩
  | flushStop => exact ho.setText Segment.isUsable_whole rfl
  | eos => exact ⟨ho.video, ho.text, ho.connected⟩

/-- A text input that is connected has its segment of before if that was in time, else the whole
stream; one that is disconnected has none. -/
private theorem Segmented.connect (ho : o.Segmented) (on : Bool) : (o.connect on).1.Segmented := by
  cases on with
  | false => exact ⟨ho.video, Segment.isValid_detached, nofun⟩
  | true =>
      refine ho.setText ?_ rfl
      have hsegment : (o.connect true).1.textSegment = connectedSegment o.textSegment := rfl
      rw [hsegment]
      unfold connectedSegment
      split
      next htime => exact Bool.and_eq_true_iff.mpr ⟨htime, ho.text⟩
      next => exact Segment.isUsable_whole

private theorem Segmented.transit (ho : o.Segmented) (transition : Transition) :
    (o.transit transition).1.Segmented := by
  cases transition with
  | start =>
      exact ⟨Segment.isUsable_whole, Segment.isValid_whole, fun _ => rfl⟩
  | halt => exact ⟨ho.video, ho.text, ho.connected⟩

theorem Control.segmented (h : o.Control step o' signal) (ho : o.Segmented) : o'.Segmented := by
  cases h with
  | videoEvent event => exact ho.videoEvent event
  | textEvent event => exact ho.textEvent event
  | transit transition => exact ho.transit transition
  | connect on => exact ho.connect on
  | attach on => exact ⟨ho.video, ho.text, ho.connected⟩
  | configure config =>
      have hcontrol : o.Control (.configure config) (o.configure config).1 .quiet := .configure _
      exact ho.of_moved ⟨_, hcontrol.videoSegment rfl⟩ (hcontrol.onward rfl)
        (hcontrol.connected rfl)
  | provide provider => exact ⟨ho.video, ho.text, ho.connected⟩

end Overlay

/-! ## Sessions -/

namespace Session

variable {s s' : Session} {rasterizer : Rasterizer} {step : Step} {signal : Signal}
  {report : Report}

theorem Entry.segmented (h : s.Entry rasterizer step s' signal report)
    (hs : s.overlay.Segmented) : s'.overlay.Segmented := by
  cases h with
  | frame free arrival =>
      exact hs.of_moved arrival.videoSegment (Segment.onward_of_eq arrival.textSegment)
        (by rw [arrival.flow])
  | blockedFrame free arrival =>
      exact hs.of_moved arrival.videoSegment (Segment.onward_of_eq arrival.textSegment)
        (by rw [arrival.flow])
  | storedText free admission slot =>
      exact hs.of_moved ⟨_, rfl⟩ (s.overlay.store_onward _) rfl
  | control control => exact control.segmented hs
  | _ => exact hs

theorem TextWake.segmented {result : Option TextResult} (h : s.TextWake s' result)
    (hs : s.overlay.Segmented) : s'.overlay.Segmented :=
  hs.of_moved ⟨_, h.videoSegment⟩ h.onward (by rw [h.flow])

theorem FrameWake.segmented {result : Option FrameResult} (h : s.FrameWake rasterizer s' result)
    (hs : s.overlay.Segmented) : s'.overlay.Segmented :=
  hs.of_moved h.videoSegment (Segment.onward_of_eq h.textSegment) (by rw [h.flow])

theorem step_segmented (s : Session) (rasterizer : Rasterizer) (step : Step)
    (hs : s.overlay.Segmented) : (s.step rasterizer step).1.overlay.Segmented := by
  obtain ⟨s', signal, report, henter, hentry⟩ := s.exists_entry rasterizer step
  have hentered := hentry.segmented hs
  cases signal with
  | quiet =>
      rw [step_of_quiet henter]
      exact hentered
  | wake =>
      rw [step_of_wake henter]
      exact (s'.wakeText.1.wakeFrame_wake rasterizer).segmented
        (s'.wakeText_wake.segmented hentered)

theorem run_segmented (s : Session) (rasterizer : Rasterizer) (steps : List Step)
    (hs : s.overlay.Segmented) : (s.run rasterizer steps).1.overlay.Segmented :=
  run_invariant (fun s => s.overlay.Segmented)
    (fun s step hs => s.step_segmented rasterizer step hs) steps hs

/-- A frame that lies in its segment but has no end overflows. -/
theorem attempt_of_endless {item part : VideoItem} {pts start : ClockTime}
    (hfree : s.frame = none) (hfault : s.overlay.flow.videoFault? = none)
    (hpts : item.pts = some pts)
    (hclip : Overlay.clipFrame? s.overlay.videoSegment item pts = some (part, start))
    (hends : Overlay.frameStop? s.overlay.videoSegment part.payload.info part start = none) :
    s.attempt rasterizer (.frame item) = .error .frameStop := by
  have hadmission : s.overlay.admitFrame item = .unclocked part start := by
    simp only [Overlay.admitFrame, hpts, hfault, hclip, Overlay.frameSpan?_of_endless hends]
  refine attempt_eq_error_iff.mpr (overflow?_of_entry ?_)
  simp only [entryOverflow?, arrivalOverflow?, hfree, Option.isSome_none, Bool.false_eq_true,
    if_false, Overlay.arrivalOverflow?_eq, hadmission, hends]

/-- **Segments are sound.**  In every session both segments are valid, that of the video is in
time, and so is that of the text while its input is connected.  The part of a frame that passes
clipping begins in the video segment.  If it has an end it also ends there, in this order; its span
of running time is known unless the running time of an end overflows when what has passed before the
segment is added; and only then the frame passes without being scheduled.

Such a part has no end exactly if its end is not known and the estimate is no clock time.  Then the
frame overflows. -/
theorem segments_are_sound (rasterizer : Rasterizer) (steps : List Step) :
    let s := (initial.run rasterizer steps).1
    let o := s.overlay
    o.videoSegment.isValid = true ∧ o.textSegment.isValid = true ∧
      o.videoSegment.isTime = true ∧
      (o.flow.textConnected = true → o.textSegment.isTime = true) ∧
      ∀ item pts part start, item.pts = some pts →
        Overlay.clipFrame? o.videoSegment item pts = some (part, start) →
        let stop? := Overlay.frameStop? o.videoSegment part.payload.info part start
        o.videoSegment.covers start = true ∧
          (∀ stop, stop? = some stop →
            let overflows := o.videoSegment.Overflows start ∨ o.videoSegment.Overflows stop
            o.videoSegment.covers stop = true ∧ start ≤ stop ∧
              (Overlay.frameSpan? o.videoSegment part start = none ↔ overflows) ∧
              (o.flow.videoFault? = none →
                (o.admitFrame item = .unclocked part start ↔ overflows) ∧
                  (¬ overflows → ∃ span, o.admitFrame item =
                    .admitted ⟨part, start, span, o.config⟩))) ∧
          (stop? = none ↔ part.stop = none ∧
            ClockTime.limit ≤ start + part.payload.info.frameDuration.getD 1) ∧
          (stop? = none → o.flow.videoFault? = none → s.frame = none →
            s.attempt rasterizer (.frame item) = .error .frameStop) := by
  intro s o
  have ho : o.Segmented := initial.run_segmented rasterizer steps Overlay.initial_segmented
  have hvalid := Segment.isValid_of_isUsable ho.video
  refine ⟨hvalid, ho.text, Segment.isTime_of_isUsable ho.video, ho.connected, ?_⟩
  intro item pts part start hpts hclip stop?
  obtain ⟨hstart, hends⟩ :=
    Overlay.covers_of_clipFrame? (Segment.isOrdered_of_isUsable ho.video) hclip
  refine ⟨hstart, ?_, Overlay.frameStop?_eq_none_iff, fun hend hfault hfree =>
    attempt_of_endless hfree hfault hpts hclip hend⟩
  intro stop hstop overflows
  obtain ⟨hcovers, hle⟩ := hends _ _ hstop
  have hspan : Overlay.frameSpan? o.videoSegment part start = none ↔ overflows :=
    Overlay.frameSpan?_eq_none_iff hvalid hstart hstop hcovers
  refine ⟨hcovers, hle, hspan, fun hfault => ?_⟩
  rw [← hspan]
  simp only [Overlay.admitFrame, hpts, hfault, hclip]
  cases Overlay.frameSpan? o.videoSegment part start with
  | none => exact ⟨by simp, fun hknown => absurd rfl hknown⟩
  | some span => exact ⟨by simp, fun _ => ⟨span, rfl⟩⟩

/-- The fifth frame at one frame in 4294967295 seconds: it begins at a clock time, but it does not
end at one. -/
def distantFrame : VideoItem :=
  ⟨some 17179869180000000000, some 4294967295000000000,
    .black ⟨.gray8, 2, 1, 1, 4294967295, Nat.zero_lt_two, Nat.zero_lt_one⟩⟩

/-- In a new overlay the frame lies in its segment and nothing has passed before the segment, but no
end of the frame is known, and its span of running time is not either. -/
theorem distant_frame_overflows :
    let o := initial.overlay
    Overlay.clipFrame? o.videoSegment distantFrame 17179869180000000000 =
        some (distantFrame, 17179869180000000000) ∧
      o.videoSegment.base = 0 ∧ o.flow.videoFault? = none ∧
      Overlay.frameSpan? o.videoSegment distantFrame 17179869180000000000 = none ∧
      ∀ rasterizer, initial.attempt rasterizer (.frame distantFrame) = .error .frameStop := by
  have hclip : Overlay.clipFrame? initial.overlay.videoSegment distantFrame 17179869180000000000 =
      some (distantFrame, 17179869180000000000) := by
    decide +kernel
  have hends : Overlay.frameStop? initial.overlay.videoSegment distantFrame.payload.info
      distantFrame 17179869180000000000 = none := by
    decide +kernel
  exact ⟨hclip, rfl, rfl, Overlay.frameSpan?_of_endless hends,
    fun _ => attempt_of_endless rfl rfl rfl hclip hends⟩

end Session

end Captioning
