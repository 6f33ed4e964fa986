import Captioning.Proofs.Overlay.Overflowing
import Captioning.Proofs.Segment.Ends
import Captioning.Proofs.Segment.Running

/-!
# Streams that come later

The timestamps of a stream mean nothing by themselves: frames and captions meet in running time.
A stream that comes later, with its segment, therefore has the same effect.  This file proves it
for the parts of an overlay, as one equation for each function: what the function does with the
delayed input is what it did before, delayed.

## Strategy

Segments commute with a delay (`Segment.clip_delayed`, `Segment.runningTime_delayed`).  Above
them the functions only pass timestamps on.  There are three places where a sum is formed, the
known end of an item, the estimated end of a frame and the end of a gap; an item whose end stays a
clock time *bears* the delay.

A frame that is cut gets a new end, which is its old one as long as the segment has no end of
its own.  That is where the segments have to be open.
-/

namespace Captioning

/-- By how much each of the two streams comes later. -/
structure Delay where
  text : ClockTime
  video : ClockTime

namespace StreamItem

variable {α : Type}

/-- The item of a stream that comes later by `d`. -/
def delayed (item : StreamItem α) (d : ClockTime) : StreamItem α :=
  { item with pts := item.pts.map (· + d) }

/-- A known end stays a clock time when the item comes later by `d`. -/
def Bears (item : StreamItem α) (d : ClockTime) : Prop :=
  ∀ stop, item.stop = some stop → stop + d < ClockTime.limit

variable {item : StreamItem α} {d : ClockTime}

theorem stop_delayed (h : item.Bears d) : (item.delayed d).stop = item.stop.map (· + d) := by
  obtain ⟨pts, duration, payload⟩ := item
  cases pts with
  | none => rfl
  | some pts =>
      cases duration with
      | none => rfl
      | some duration =>
          have hsum : pts + d + duration = pts + duration + d := Nat.add_right_comm pts d duration
          simp only [StreamItem.Bears, stop, delayed, Option.map_some, ClockTime.add?,
            ClockTime.ofNat?, hsum] at h ⊢
          by_cases hlimit : pts + duration < ClockTime.limit
          · rw [if_pos hlimit] at h ⊢
            rw [if_pos (h _ rfl), Option.map_some]
          · have hlate : ¬pts + duration + d < ClockTime.limit :=
              fun hlt => hlimit (Nat.lt_of_le_of_lt (Nat.le_add_right _ d) hlt)
            rw [if_neg hlimit, if_neg hlate, Option.map_none]

end StreamItem

/-- The end of a frame, be it known or estimated, stays a clock time when the frame comes later by
`d`. -/
structure FrameBears (item : VideoItem) (d : ClockTime) : Prop where
  known : item.Bears d
  estimated : ∀ pts, item.pts = some pts → item.stop = none →
    pts + item.payload.info.frameDuration.getD 1 + d < ClockTime.limit

/-- A frame that leaves, later. -/
def ScheduledFrame.delayed (f : ScheduledFrame) (d : ClockTime) : ScheduledFrame :=
  { f with item := f.item.delayed d }

/-- A result for a frame, with the frame later. -/
def FrameResult.delayed (result : FrameResult) (d : ClockTime) : FrameResult :=
  result.map (Option.map (·.delayed d))

/-- A frame on its way, later.  The running time that it covers is the same. -/
def FrameCall.delayed (call : FrameCall) (d : ClockTime) : FrameCall :=
  { call with item := call.item.delayed d, start := call.start + d }

/-- What becomes of a frame at its arrival, later. -/
def Admission.delayed (admission : Admission) (d : ClockTime) : Admission :=
  match admission with
  | .dropped => .dropped
  | .refused error => .refused error
  | .unclocked item start => .unclocked (item.delayed d) (start + d)
  | .admitted call => .admitted (call.delayed d)

/-- Where a frame has come to, later. -/
def Progress.delayed (progress : Progress) (d : ClockTime) : Progress :=
  match progress with
  | .done result => .done (FrameResult.delayed result d)
  | .waits call => .waits (call.delayed d)

namespace Segment

variable {s : Segment} {d : ClockTime}

theorem span?_delayed {α : Type} {item : StreamItem α} (h : item.Bears d) :
    (s.delayed d).span? (item.delayed d) = s.span? item := by
  have hstop := StreamItem.stop_delayed h
  cases hpts : item.pts with
  | none => simp [span?, StreamItem.delayed, hpts]
  | some pts =>
      have hlate : (item.delayed d).pts = some (pts + d) := by simp [StreamItem.delayed, hpts]
      cases hend : item.stop with
      | none => simp [span?, hpts, hlate, hstop, hend]
      | some stop => simp [span?, hpts, hlate, hstop, hend, runningTime_delayed]

/-- An open segment cuts the beginning of an interval only. -/
theorem clip_of_open (hopen : s.stop = none) {pts : ClockTime} {stop : Option ClockTime}
    {ends : Option ClockTime × Option ClockTime} (hends : s.clip (some pts) stop = some ends)
    (horder : ∀ t ∈ stop, pts ≤ t) :
    ends = (some (max pts s.start), stop) ∧ ∀ t ∈ stop, max pts s.start ≤ t := by
  unfold clip at hends
  split at hends
  · cases hends
  next hinside =>
    obtain rfl := Option.some.inj hends
    cases stop with
    | none => simp [earlierStop, hopen]
    | some t =>
        have hstart : s.start ≤ t := by
          rcases Nat.lt_or_ge t s.start with hafter | hstart
          · simp [startsAfter, hafter] at hinside
          · exact hstart
        refine ⟨by simp [earlierStop, hopen], ?_⟩
        rintro t' ⟨⟩
        exact Nat.max_le.mpr ⟨horder t rfl, hstart⟩

end Segment

/-! ## Ends -/

namespace StreamItem

variable {α : Type} {item : StreamItem α} {pts stop start d : ClockTime}

/-- An item that is cut at its beginning ends where it ended, or at no known time. -/
theorem bears_of_cut {part : StreamItem α} (h : item.Bears d) (hpts : item.pts = some pts)
    (hle : pts ≤ start) (hstop : ∀ t ∈ item.stop, start ≤ t) (hpart : part.pts = some start)
    (hduration : ∀ duration, part.duration = some duration →
      item.duration = some duration ∧ item.stop = none ∨
        ∃ t ∈ item.stop, duration = t - start) :
    part.Bears d := by
  intro stop' hpartstop
  obtain ⟨start', duration, hstart', hlength, hlimit, rfl⟩ := stop_eq_some_iff.mp hpartstop
  obtain rfl := Option.some.inj (hpart.symm.trans hstart')
  rcases hduration duration hlength with ⟨hsame, hunknown⟩ | ⟨t, ht, rfl⟩
  · -- the end was past the last clock time, and a later beginning does not bring it back
    have hearly : pts + duration < ClockTime.limit :=
      Nat.lt_of_le_of_lt (Nat.add_le_add_right hle duration) hlimit
    have hknown : item.stop = some (pts + duration) :=
      stop_eq_some_iff.mpr ⟨pts, duration, hpts, hsame, hearly, rfl⟩
    rw [hunknown] at hknown
    cases hknown
  · rw [Nat.add_sub_cancel' (hstop t ht)]
    exact h t ht

end StreamItem

namespace Overlay

variable {o : Overlay} {rasterizer : Rasterizer} {call : FrameCall}

/-- The overlay with both streams later. -/
def delayed (o : Overlay) (d : Delay) : Overlay :=
  { o with
    videoSegment := o.videoSegment.delayed d.video
    textSegment := o.textSegment.delayed d.text
    slot := o.slot.map (·.delayed d.text) }

/-! ## Frames that arrive -/

section Arriving

variable {segment : Segment} {item part : VideoItem} {pts start d : ClockTime}

private theorem cutFrame_delayed (item : VideoItem) (start : ClockTime) (stop : Option ClockTime) :
    cutFrame (item.delayed d) (start + d) (stop.map (· + d)) =
      (cutFrame item start stop).delayed d := by
  cases hduration : item.duration <;> cases stop <;>
    simp [cutFrame, StreamItem.delayed, hduration, Nat.add_sub_add_right]

theorem clipFrame?_delayed (segment : Segment) (hbears : item.Bears d) (pts : ClockTime) :
    clipFrame? (segment.delayed d) (item.delayed d) (pts + d) =
      (clipFrame? segment item pts).map fun (part, start) => (part.delayed d, start + d) := by
  have hduration : (item.delayed d).duration = item.duration := rfl
  have hbefore : decide (pts + d < (segment.delayed d).start) = decide (pts < segment.start) := by
    simp [Segment.delayed]
  have hclip := segment.clip_delayed d (some pts) item.stop
  rw [Option.map_some] at hclip
  simp only [clipFrame?, hduration, hbefore, StreamItem.stop_delayed hbears, hclip]
  split
  · rfl
  · rw [Option.map_map, Option.map_map]
    refine congrFun (congrArg Option.map (funext ?_)) _
    rintro ⟨first, last⟩
    have hfirst : (first.map (· + d)).getD (pts + d) = first.getD pts + d := by
      cases first <;> rfl
    simp only [Function.comp_apply, hfirst, cutFrame_delayed]

/-- An open segment leaves the end of a frame as it is. -/
theorem bears_of_clipFrame? (hopen : segment.stop = none) (hpts : item.pts = some pts)
    (hbears : item.Bears d) (hclip : clipFrame? segment item pts = some (part, start)) :
    part.Bears d := by
  unfold clipFrame? at hclip
  split at hclip
  · cases hclip
  · obtain ⟨ends, hends, hpart⟩ := Option.map_eq_some_iff.mp hclip
    obtain ⟨rfl, hstart⟩ :=
      Segment.clip_of_open hopen hends fun _ => StreamItem.start_le_stop hpts
    obtain ⟨rfl, rfl⟩ := Prod.mk.inj hpart
    refine StreamItem.bears_of_cut hbears hpts (Nat.le_max_left _ _) hstart rfl ?_
    intro duration hduration
    cases hlength : item.duration with
    | none => simp [cutFrame, hlength] at hduration
    | some length =>
        cases hstop : item.stop with
        | none =>
            refine .inl ⟨?_, rfl⟩
            simpa [cutFrame, hlength, hstop] using hduration
        | some stop =>
            refine .inr ⟨stop, rfl, ?_⟩
            simpa [cutFrame, hlength, hstop] using hduration.symm

/-- A frame of unknown end that is not cut at its beginning begins where it began, and its end is
still unknown. -/
theorem estimated_of_clipFrame? (hopen : segment.stop = none) (hpts : item.pts = some pts)
    (hstart : segment.start ≤ pts) (hbears : FrameBears item d)
    (hclip : clipFrame? segment item pts = some (part, start)) (hpart : part.stop = none) :
    start + part.payload.info.frameDuration.getD 1 + d < ClockTime.limit := by
  have hpicture := payload_of_clipFrame? hclip
  unfold clipFrame? at hclip
  split at hclip
  · cases hclip
  · obtain ⟨ends, hends, hcut⟩ := Option.map_eq_some_iff.mp hclip
    obtain ⟨rfl, -⟩ := Segment.clip_of_open hopen hends fun _ => StreamItem.start_le_stop hpts
    obtain ⟨rfl, hstartPart⟩ := Prod.mk.inj hcut
    obtain rfl : pts = start := by simpa [Nat.max_eq_left hstart] using hstartPart
    have hsame : max pts segment.start = pts := Nat.max_eq_left hstart
    simp only [Option.getD_some, hsame, cutFrame_self hpts] at hpart ⊢
    exact hbears.estimated pts hpts hpart

private theorem frameStop?_delayed (segment : Segment) (hbears : part.Bears d) (start : ClockTime)
    (hestimated : part.stop = none →
      start + part.payload.info.frameDuration.getD 1 + d < ClockTime.limit) :
    frameStop? (segment.delayed d) part.payload.info (part.delayed d) (start + d) =
      (frameStop? segment part.payload.info part start).map (· + d) := by
  have hlast : (segment.delayed d).stop = segment.stop.map (· + d) := rfl
  unfold frameStop?
  rw [StreamItem.stop_delayed hbears, hlast]
  cases hstop : part.stop with
  | some stop => cases segment.stop <;> simp [Nat.add_min_add_right]
  | none =>
      have hlate := hestimated hstop
      have hearly : start + part.payload.info.frameDuration.getD 1 < ClockTime.limit :=
        Nat.lt_of_le_of_lt (Nat.le_add_right _ d) hlate
      have hsum : start + d + part.payload.info.frameDuration.getD 1 =
          start + part.payload.info.frameDuration.getD 1 + d := Nat.add_right_comm _ _ _
      cases segment.stop <;>
        simp [ClockTime.add?, ClockTime.ofNat?, hsum, hlate, hearly, Nat.add_min_add_right]

private theorem frameSpan?_delayed (segment : Segment) (hbears : part.Bears d) (start : ClockTime)
    (hestimated : part.stop = none →
      start + part.payload.info.frameDuration.getD 1 + d < ClockTime.limit) :
    frameSpan? (segment.delayed d) (part.delayed d) (start + d) =
      frameSpan? segment part start := by
  have hpicture : (part.delayed d).payload = part.payload := rfl
  simp only [frameSpan?, spanOf?, hpicture, frameStop?_delayed segment hbears start hestimated,
    Segment.runningTime_delayed]
  cases segment.runningTime start with
  | none => rfl
  | some first =>
      cases frameStop? segment part.payload.info part start with
      | none => rfl
      | some stop => simp [Segment.runningTime_delayed]

theorem admitFrame_delayed (d : Delay) (hopen : o.videoSegment.stop = none)
    (hstart : o.videoSegment.start = 0) (hbears : FrameBears item d.video) :
    (o.delayed d).admitFrame (item.delayed d.video) = (o.admitFrame item).delayed d.video := by
  have hflow : (o.delayed d).flow = o.flow := rfl
  have hsegment : (o.delayed d).videoSegment = o.videoSegment.delayed d.video := rfl
  have hconfig : (o.delayed d).config = o.config := rfl
  cases hpts : item.pts with
  | none => simp [admitFrame, StreamItem.delayed, hpts, Admission.delayed]
  | some pts =>
      have hlate : (item.delayed d.video).pts = some (pts + d.video) := by
        simp [StreamItem.delayed, hpts]
      cases hfault : o.flow.videoFault? with
      | some error => simp [admitFrame, hpts, hlate, hflow, hfault, Admission.delayed]
      | none =>
          have hcut := clipFrame?_delayed o.videoSegment hbears.known pts
          cases hclip : clipFrame? o.videoSegment item pts with
          | none =>
              rw [hclip, Option.map_none] at hcut
              simp [admitFrame, hpts, hlate, hflow, hfault, hsegment, hcut, hclip,
                Admission.delayed]
          | some cut =>
              obtain ⟨part, start⟩ := cut
              rw [hclip, Option.map_some] at hcut
              have hspan := frameSpan?_delayed o.videoSegment
                (bears_of_clipFrame? hopen hpts hbears.known hclip) start
                (estimated_of_clipFrame? hopen hpts (hstart ▸ Nat.zero_le pts) hbears hclip)
              simp only [admitFrame, hpts, hlate, hflow, hfault, hsegment, hcut, hclip, hspan,
                hconfig]
              cases frameSpan? o.videoSegment part start <;> rfl

end Arriving

/-! ## Frames that look -/

section Looking

variable (o) (d : Delay)

theorem isTextPast_delayed (stop : ClockTime) :
    (o.delayed d).isTextPast stop = o.isTextPast stop := by
  have hsegment : (o.delayed d).textSegment = o.textSegment.delayed d.text := rfl
  simp only [isTextPast, hsegment, Segment.startRunningTime_delayed,
    Segment.positionRunningTime_delayed]
  rfl

private theorem verdictAlone_delayed (stop : ClockTime) :
    (o.delayed d).verdictAlone stop = o.verdictAlone stop := by
  simp only [verdictAlone, isTextPast_delayed]

theorem finish_delayed (rasterizer : Rasterizer) (call : FrameCall) (decision : Decision) :
    (o.delayed d).finish rasterizer (call.delayed d.video) decision =
      ((o.finish rasterizer call decision).1.delayed d, (o.finish rasterizer call decision).2.1,
        (o.finish rasterizer call decision).2.2.delayed d.video) := by
  cases decision with
  | passthrough => rfl
  | overlay text consume =>
      have hframe (c? : Option Composition) :
          compose (call.delayed d.video) o.attach c? =
            (compose call o.attach c?).delayed d.video := by
        cases c? <;> rfl
      have himage : ((o.delayed d).composeText rasterizer text
          (call.delayed d.video).item.payload.info).2 =
            (o.composeText rasterizer text call.item.payload.info).2 := rfl
      refine Prod.ext ?_ (Prod.ext rfl ?_)
      · cases consume <;> rfl
      · rw [finish_overlay_frame, finish_overlay_frame, himage]
        exact hframe _

end Looking

theorem lookAt_delayed (d : Delay) (hslot : ∀ item ∈ o.slot, item.Bears d.text)
    (span : TimeSpan) :
    (o.delayed d).lookAt span = ((o.lookAt span).1.delayed d, (o.lookAt span).2) := by
  have hflow : (o.delayed d).flow = o.flow := rfl
  have hpending : (o.delayed d).slot = o.slot.map (·.delayed d.text) := rfl
  simp only [lookAt, hflow, hpending]
  cases o.flow.videoFault? with
  | some error => rfl
  | none =>
      cases hitem : o.slot with
      | none => simp only [Option.map_none, verdictAlone_delayed]
      | some item =>
          have hspan : (o.delayed d).textSegment.span? (item.delayed d.text) =
              o.textSegment.span? item := Segment.span?_delayed (hslot item hitem)
          simp only [Option.map_some, hspan]
          cases classify (o.textSegment.span? item) span with
          | stale =>
              have hrelease : (o.delayed d).release = o.release.delayed d := rfl
              simp only [hrelease, verdictAlone_delayed]
          | future => rfl
          | untimed => rfl
          | current consumed => rfl

theorem proceed_delayed (rasterizer : Rasterizer) (call : FrameCall) (d : Delay)
    (hslot : ∀ item ∈ o.slot, item.Bears d.text) :
    (o.delayed d).proceed rasterizer (call.delayed d.video) =
      ((o.proceed rasterizer call).1.delayed d, (o.proceed rasterizer call).2.1,
        (o.proceed rasterizer call).2.2.map (FrameResult.delayed · d.video)) := by
  have hspan : (call.delayed d.video).span = call.span := rfl
  simp only [proceed, hspan, lookAt_delayed d hslot]
  obtain ⟨seen, signal, verdict⟩ := o.lookAt call.span
  cases verdict with
  | refused error => rfl
  | waiting => rfl
  | decided decision =>
      simp only [finish_delayed]
      rfl

/-- A provider would be asked for the text at a timestamp, but none is while text is connected. -/
private theorem decisionAlone?_delayed (d : Delay) (hconnected : o.flow.textConnected = true)
    (call : FrameCall) :
    (o.delayed d).decisionAlone? (call.delayed d.video) = o.decisionAlone? call := by
  have hflow : (o.delayed d).flow.textConnected = true := hconnected
  have hconfig : (call.delayed d.video).config = call.config := rfl
  simp only [decisionAlone?, providedDecision?, hflow, hconnected, hconfig, if_true]

theorem schedule_delayed (rasterizer : Rasterizer) (d : Delay)
    (hopen : o.videoSegment.stop = none) (hstart : o.videoSegment.start = 0)
    (hconnected : o.flow.textConnected = true) (hslot : ∀ item ∈ o.slot, item.Bears d.text)
    {item : VideoItem} (hbears : FrameBears item d.video) :
    (o.delayed d).schedule rasterizer (item.delayed d.video) =
      ((o.schedule rasterizer item).1.delayed d, (o.schedule rasterizer item).2.1,
        (o.schedule rasterizer item).2.2.delayed d.video) := by
  have halone := decisionAlone?_delayed d hconnected
  simp only [schedule, admitFrame_delayed d hopen hstart hbears]
  cases o.admitFrame item with
  | dropped => rfl
  | refused error => rfl
  | unclocked part start => rfl
  | admitted call =>
      simp only [Admission.delayed, halone]
      cases o.decisionAlone? call with
      | some decision =>
          simp only [finish_delayed]
          rfl
      | none =>
          simp only [proceed_delayed rasterizer _ d hslot]
          obtain ⟨seen, signal, result⟩ := o.proceed rasterizer call
          cases result <;> rfl

/-! ## Overflows -/

/-- What a decision makes overflow does not depend on times. -/
private theorem finishOverflow?_delayed (o : Overlay) (d : Delay) (rasterizer : Rasterizer)
    (info : VideoInfo) (config : Config) (decision : Decision) :
    (o.delayed d).finishOverflow? rasterizer info config decision =
      o.finishOverflow? rasterizer info config decision := by
  cases decision <;> rfl

theorem lookOverflow?_delayed (rasterizer : Rasterizer) (info : VideoInfo) (config : Config)
    (d : Delay) (hslot : ∀ item ∈ o.slot, item.Bears d.text) (span : TimeSpan) :
    (o.delayed d).lookOverflow? rasterizer info config span =
      o.lookOverflow? rasterizer info config span := by
  simp only [lookOverflow?_eq, lookAt_delayed d hslot]
  cases (o.lookAt span).2.2.decision? with
  | none => rfl
  | some decision => exact finishOverflow?_delayed o d rasterizer info config decision

theorem arrivalOverflow?_delayed (rasterizer : Rasterizer) (d : Delay)
    (hopen : o.videoSegment.stop = none) (hstart : o.videoSegment.start = 0)
    (hconnected : o.flow.textConnected = true) (hslot : ∀ item ∈ o.slot, item.Bears d.text)
    {item : VideoItem} (hbears : FrameBears item d.video) :
    (o.delayed d).arrivalOverflow? rasterizer ((item.delayed d.video).map VideoFrame.info) =
      o.arrivalOverflow? rasterizer (item.map VideoFrame.info) := by
  have halone := decisionAlone?_delayed d hconnected
  rw [arrivalOverflow?_eq, arrivalOverflow?_eq, admitFrame_delayed d hopen hstart hbears]
  cases hadmission : o.admitFrame item with
  | dropped => rfl
  | refused error => rfl
  | unclocked part start =>
      obtain ⟨pts, hpts, hclip⟩ : ∃ pts, item.pts = some pts ∧
          clipFrame? o.videoSegment item pts = some (part, start) := by
        have hadmits := o.admitFrame_admits item
        rw [hadmission] at hadmits
        cases hadmits with
        | unclocked timed fault clip span => exact ⟨_, timed, clip⟩
      have hends := frameStop?_delayed o.videoSegment
        (bears_of_clipFrame? hopen hpts hbears.known hclip) start
        (estimated_of_clipFrame? hopen hpts (hstart ▸ Nat.zero_le pts) hbears hclip)
      have hpicture : (part.delayed d.video).payload = part.payload := rfl
      have hsegment : (o.delayed d).videoSegment = o.videoSegment.delayed d.video := rfl
      simp only [Admission.delayed, hpicture, hsegment, hends]
      cases frameStop? o.videoSegment part.payload.info part start <;> rfl
  | admitted call =>
      have hspan : (call.delayed d.video).span = call.span := rfl
      simp only [Admission.delayed, halone, hspan, lookAt_delayed d hslot]
      cases (o.decisionAlone? call).or (o.lookAt call.span).2.2.decision? with
      | none => rfl
      | some decision => exact finishOverflow?_delayed o d rasterizer _ _ decision

/-! ## Captions -/

section Captions

variable {item : TextItem}

private theorem cutText_delayed (d : ClockTime) (start : ClockTime) (stop : Option ClockTime) :
    cutText (item.delayed d) (start + d) (stop.map (· + d)) =
      (cutText item start stop).delayed d := by
  cases hduration : item.duration <;> cases stop <;>
    simp [cutText, StreamItem.delayed, hduration, Nat.add_sub_add_right]

theorem admitText_delayed (d : Delay) (hbears : item.Bears d.text) :
    (o.delayed d).admitText (item.delayed d.text) =
      (o.admitText item).map (Option.map (·.delayed d.text)) := by
  have hflow : (o.delayed d).flow = o.flow := rfl
  have hsegment : (o.delayed d).textSegment = o.textSegment.delayed d.text := rfl
  cases hfault : o.flow.textFault? with
  | some error => simp [admitText, hflow, hfault, Except.map]
  | none =>
      cases hpts : item.pts with
      | none =>
          have hlate : (item.delayed d.text).pts = none := by simp [StreamItem.delayed, hpts]
          simp only [admitText, hflow, hfault, hpts, hlate]
          rfl
      | some pts =>
          have hlate : (item.delayed d.text).pts = some (pts + d.text) := by
            simp [StreamItem.delayed, hpts]
          have hclip := o.textSegment.clip_delayed d.text (some pts) item.stop
          rw [Option.map_some] at hclip
          simp only [admitText, hflow, hfault, hpts, hlate, hsegment,
            StreamItem.stop_delayed hbears, hclip, Except.map, Option.map_map]
          refine congrArg Except.ok (congrFun (congrArg Option.map (funext ?_)) _)
          rintro ⟨first, last⟩
          have hfirst : (first.map (· + d.text)).getD (pts + d.text) = first.getD pts + d.text := by
            cases first <;> rfl
          simp only [Function.comp_apply, hfirst, cutText_delayed]

/-- An open segment leaves the end of a caption as it is. -/
theorem bears_of_admitText {part : TextItem} {d : ClockTime} (hopen : o.textSegment.stop = none)
    (hbears : item.Bears d) (hadmission : o.admitText item = .ok (some part)) : part.Bears d := by
  unfold admitText at hadmission
  split at hadmission
  · cases hadmission
  · split at hadmission
    next hpts =>
      obtain rfl := Option.some.inj (Except.ok.inj hadmission)
      exact hbears
    next pts hpts =>
      obtain ⟨ends, hends, rfl⟩ := Option.map_eq_some_iff.mp (Except.ok.inj hadmission)
      obtain ⟨rfl, hstart⟩ :=
      Segment.clip_of_open hopen hends fun _ => StreamItem.start_le_stop hpts
      refine StreamItem.bears_of_cut hbears hpts (Nat.le_max_left _ _) hstart rfl ?_
      intro duration hduration
      cases hlength : item.duration with
      | none => simp [cutText, hlength] at hduration
      | some length =>
          cases hstop : item.stop with
          | none => simp [cutText, hlength, hstop] at hduration
          | some stop =>
              refine .inr ⟨stop, rfl, ?_⟩
              simpa [cutText, hlength, hstop] using hduration.symm

theorem store_delayed (o : Overlay) (d : Delay) (item : TextItem) :
    (o.delayed d).store (item.delayed d.text) = (o.store item).delayed d := by
  have hsegment : (o.delayed d).textSegment = o.textSegment.delayed d.text := rfl
  cases hpts : item.pts with
  | none => simp [store, StreamItem.delayed, delayed, hpts]
  | some pts =>
      have hadvance := o.textSegment.advance_delayed d.text pts
      simp [store, StreamItem.delayed, delayed, hpts, hadvance]

end Captions

end Overlay

end Captioning
