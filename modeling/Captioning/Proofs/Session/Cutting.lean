import Captioning.Proofs.Segment.Instants
import Captioning.Proofs.Session.Calls
import Captioning.Proofs.Session.Segmented

/-!
# Frames are cut to the video segment

What leaves the overlay of a frame is its part in the video segment.  This is the segment at the
time of the arrival: a frame is cut once, before it can wait, and later segments are for later
frames.

## Strategy

The cut is settled at the arrival: either the frame misses the segment and nothing happens at all
(`Overlay.admitFrame_of_misses`), or a part of it is taken in (`Overlay.exists_part_of_not_misses`).
All that is done with a part afterwards keeps its timestamp and its duration, and the data of its
picture unless a text is drawn into it (`Overlay.Turn.answers`, `Overlay.Arrival.answers`).
`Session.Fares` follows the part through the steps in which its frame waits.
-/

namespace Captioning

/-! ## The part of a frame in a segment -/

namespace Segment

/-- A frame lies outside of a segment: the two have no instant in common.  A frame of unknown
duration is judged by its timestamp, which may be the end of a segment only if that has no
length. -/
def Misses (s : Segment) (pts : ClockTime) : Option ClockTime → Prop
  | some duration => ¬ s.Intersects pts (some (pts + duration))
  | none =>
      pts < s.start ∨ ∃ stop, s.stop = some stop ∧ (stop < pts ∨ (pts = stop ∧ s.start < stop))

/-- `part` has the times of the part of `item` that lies in the segment: from the later start to
the earlier end.  Of an unknown duration nothing becomes known. -/
structure IsCut (s : Segment) (pts : ClockTime) (item part : VideoItem) : Prop where
  begins : part.pts = some (max pts s.start)
  ends : ∀ duration, item.duration = some duration → ∃ rest, part.duration = some rest ∧
    max pts s.start + rest = s.stop.elim (pts + duration) (min (pts + duration))
  untimed : item.duration = none → part.duration = none

variable {s : Segment} {pts : ClockTime}

/-- A frame of unknown duration is judged like the rest of the stream from its timestamp on, but it
has to begin in the segment. -/
theorem misses_iff (hordered : s.IsOrdered) (duration : Option ClockTime) :
    s.Misses pts duration ↔
      (duration = none ∧ pts < s.start) ∨ ¬ s.Intersects pts (duration.map (pts + ·)) := by
  cases duration with
  | some duration => simp [Misses]
  | none =>
      rw [Misses, Option.map_none, intersects_iff, mem_instants, mem_instants]
      cases hstop : s.stop with
      | none => simp
      | some stop =>
          have hle := hordered stop hstop
          simp only [Option.some.injEq, exists_eq_left', forall_eq', reduceCtorEq, false_implies,
            implies_true, and_true, true_and]
          lia

end Segment

namespace Overlay

open Segment

section Cut

variable {o : Overlay} {segment : Segment} {item : VideoItem} {pts : ClockTime}
  (hpts : item.pts = some pts)
  (hlimit : ∀ duration, item.duration = some duration → pts + duration < ClockTime.limit)

include hpts hlimit

theorem stop_eq_map : item.stop = item.duration.map (pts + ·) := by
  cases hduration : item.duration with
  | none => simp [StreamItem.stop, hpts, hduration]
  | some duration =>
      exact StreamItem.stop_eq_some_iff.mpr
        ⟨pts, duration, hpts, hduration, hlimit _ hduration, rfl⟩

theorem clipFrame?_of_misses (husable : segment.isUsable = true)
    (h : segment.Misses pts item.duration) : clipFrame? segment item pts = none := by
  have hordered := isOrdered_of_isUsable husable
  unfold clipFrame?
  rw [clip_eq_ite (isTime_of_isUsable husable) hordered fun last => StreamItem.start_le_stop hpts,
    stop_eq_map hpts hlimit]
  rcases (misses_iff hordered _).mp h with ⟨hduration, hbefore⟩ | hoff
  · simp [hduration, hbefore]
  · simp [hoff]

theorem clipFrame?_of_not_misses (husable : segment.isUsable = true)
    (h : ¬ segment.Misses pts item.duration) :
    clipFrame? segment item pts =
      some (cutFrame item (max pts segment.start) (earlierStop item.stop segment.stop),
        max pts segment.start) := by
  have hordered := isOrdered_of_isUsable husable
  rw [misses_iff hordered, not_or, not_not] at h
  obtain ⟨hbegins, hmeets⟩ := h
  have hinside : ¬ (item.duration.isNone && decide (pts < segment.start)) = true := by
    simpa using hbegins
  unfold clipFrame?
  rw [if_neg hinside, clip_eq_ite (isTime_of_isUsable husable) hordered
    fun last => StreamItem.start_le_stop hpts, stop_eq_map hpts hlimit, if_pos hmeets]
  rfl

/-- What is cut out of a frame has the times of its part in the segment. -/
theorem isCut_cutFrame (husable : segment.isUsable = true)
    (h : ¬ segment.Misses pts item.duration) :
    segment.IsCut pts item
      (cutFrame item (max pts segment.start) (earlierStop item.stop segment.stop)) where
  begins := rfl
  ends duration hduration := by
    have hmeets : segment.Intersects pts (some (pts + duration)) := by
      simpa [Misses, hduration] using h
    have hend : earlierStop (some (pts + duration)) segment.stop =
        some (segment.stop.elim (pts + duration) (min (pts + duration))) := by
      cases segment.stop <;> rfl
    -- otherwise the length of the part would be zero, and not what is missing to its end
    have hle : max pts segment.start ≤
        segment.stop.elim (pts + duration) (min (pts + duration)) := by
      have hordered := (isIntersection_of_intersects (isTime_of_isUsable husable)
        (isOrdered_of_isUsable husable) hmeets).ordered
      rw [hend] at hordered
      exact WithTop.coe_le_coe.mp hordered
    refine ⟨_, ?_, Nat.add_sub_cancel' hle⟩
    rw [stop_eq_map hpts hlimit]
    simp only [cutFrame, hduration, Option.map_some, hend]
  untimed hduration := by simp [cutFrame, hduration]

theorem admitFrame_of_misses (ho : o.Segmented) (hfault : o.flow.videoFault? = none)
    (h : o.videoSegment.Misses pts item.duration) : o.admitFrame item = .dropped := by
  simp only [admitFrame, hpts, hfault, clipFrame?_of_misses hpts hlimit ho.video h]

/-- A frame that does not miss the segment is taken in with its part there. -/
theorem exists_part_of_not_misses (ho : o.Segmented) (hfault : o.flow.videoFault? = none)
    (h : ¬ o.videoSegment.Misses pts item.duration) :
    ∃ part, (o.admitFrame item).part? = some part ∧ part.payload = item.payload ∧
      o.videoSegment.IsCut pts item part := by
  have hcut := isCut_cutFrame hpts hlimit ho.video h
  refine ⟨cutFrame item _ _, ?_, rfl, hcut⟩
  simp only [admitFrame, hpts, hfault, clipFrame?_of_not_misses hpts hlimit ho.video h]
  split <;> rfl

end Cut

end Overlay

/-! ## What becomes of a part -/

/-- A frame that leaves has the times of a part, and its picture unless a text is drawn into
it. -/
structure ScheduledFrame.Bears (frame : ScheduledFrame) (part : VideoItem) : Prop where
  pts : frame.item.pts = part.pts
  duration : frame.item.duration = part.duration
  data : frame.outcome ≠ .blended → frame.item.payload.data = part.payload.data

/-- What a part of a frame can end as: an error, or a frame that leaves.  It is not dropped. -/
inductive Answers (part : VideoItem) : FrameResult → Prop
  | refused (error : CaptionError) : Answers part (.error error)
  | leaves {frame : ScheduledFrame} (bears : frame.Bears part) : Answers part (.ok (some frame))

theorem Segment.IsCut.of_bears {segment : Segment} {pts : ClockTime} {item part : VideoItem}
    {frame : ScheduledFrame} (h : segment.IsCut pts item part) (hbears : frame.Bears part) :
    segment.IsCut pts item frame.item where
  begins := hbears.pts.trans h.begins
  ends duration hduration := by
    rw [hbears.duration]
    exact h.ends duration hduration
  untimed hduration := hbears.duration.trans (h.untimed hduration)

theorem ScheduledFrame.bears_self (part : VideoItem) :
    (⟨part, .passthrough⟩ : ScheduledFrame).Bears part :=
  ⟨rfl, rfl, fun _ => rfl⟩

namespace Overlay

variable {o o' : Overlay} {rasterizer : Rasterizer} {call : FrameCall} {signal : Signal}

theorem compose_bears (call : FrameCall) (attach : Bool) (c? : Option Composition) :
    (compose call attach c?).Bears call.item := by
  cases c? with
  | none => exact ScheduledFrame.bears_self call.item
  | some c =>
      simp only [compose, VideoFrame.composite]
      split
      · exact ScheduledFrame.bears_self call.item
      · split
        · exact ⟨rfl, rfl, fun _ => rfl⟩
        · exact ⟨rfl, rfl, fun hblended => absurd rfl hblended⟩

theorem finish_bears (o : Overlay) (rasterizer : Rasterizer) (call : FrameCall) (d : Decision) :
    (o.finish rasterizer call d).2.2.Bears call.item := by
  cases d with
  | passthrough => exact ScheduledFrame.bears_self call.item
  | overlay text consume =>
      rw [finish_overlay_frame]
      exact compose_bears call _ _

theorem Turn.answers {result : FrameResult}
    (h : o.Turn rasterizer call o' signal (some result)) : Answers call.item result := by
  cases h with
  | refused fault => exact .refused _
  | passed fault cleared past => exact .leaves (ScheduledFrame.bears_self call.item)
  | future fault slot overlap => exact .leaves (ScheduledFrame.bears_self call.item)
  | shown fault slot overlap => exact .leaves (o.finish_bears rasterizer call _)

/-- A frame whose part is taken in ends as what becomes of the part, or waits with it. -/
theorem Arrival.answers {item part : VideoItem} {progress : Progress}
    (h : o.Arrival rasterizer item o' signal progress)
    (hpart : (o.admitFrame item).part? = some part) :
    (∃ result, progress = .done result ∧ Answers part result) ∨
      ∃ call, progress = .waits call ∧ call.item = part := by
  have htaken {admission : Admission} (hadmission : o.admitFrame item = admission) :
      admission.part? = some part := hadmission ▸ hpart
  cases h with
  | dropped admission => cases htaken admission
  | refused admission => cases htaken admission
  | unclocked admission =>
      obtain rfl := Option.some.inj (htaken admission)
      exact .inl ⟨_, rfl, .leaves (ScheduledFrame.bears_self _)⟩
  | silent admission silent =>
      obtain rfl := Option.some.inj (htaken admission)
      exact .inl ⟨_, rfl, .leaves (ScheduledFrame.bears_self _)⟩
  | provided admission silent connected d keeps alone =>
      obtain rfl := Option.some.inj (htaken admission)
      exact .inl ⟨_, rfl, .leaves (o.finish_bears rasterizer _ d)⟩
  | decided admission silent connected turn =>
      obtain rfl := Option.some.inj (htaken admission)
      exact .inl ⟨_, rfl, turn.answers⟩
  | waits admission silent connected turn =>
      obtain rfl := Option.some.inj (htaken admission)
      exact .inr ⟨_, rfl, rfl⟩

end Overlay

/-! ## Calls -/

namespace Session

variable {s s' : Session} {rasterizer : Rasterizer} {step : Step} {signal : Signal}
  {report : Report} {part item : VideoItem}

/-- How a part of a frame fares in a step: it waits on, or it comes to its end.  The two arguments
are the frame that is on its way afterwards and the result for frames. -/
inductive Fares (part : VideoItem) : Option FrameCall → Option FrameResult → Prop
  | waits {call : FrameCall} (same : call.item = part) : Fares part (some call) none
  | ends {result : FrameResult} (answers : Answers part result) : Fares part none (some result)

theorem Fares.wake {u u' : Session} {video result : Option FrameResult}
    (h : Fares part u.frame video) (hwake : u.FrameWake rasterizer u' result) :
    Fares part u'.frame (video.or result) := by
  cases hwake with
  | idle frame =>
      rw [Option.or_none]
      exact h
  | done frame turn =>
      rw [frame] at h
      cases h with
      | waits same => exact .ends (same ▸ turn.answers)
  | waits frame turn =>
      rw [Option.or_none]
      exact h

private theorem step_fares_of_enter
    (henter : s.enter rasterizer step = (s', signal, report))
    (h : Fares part s'.frame report.video) :
    Fares part (s.step rasterizer step).1.frame (s.step rasterizer step).2.video := by
  cases signal with
  | quiet =>
      rw [step_of_quiet henter]
      exact h
  | wake =>
      rw [step_of_wake henter]
      rw [← s'.wakeText_wake.frame] at h
      exact h.wake (s'.wakeText.1.wakeFrame_wake rasterizer)

/-- A frame that waits is left alone by all that others do. -/
theorem step_fares (step : Step) {call : FrameCall} (hframe : s.frame = some call) :
    Fares call.item (s.step rasterizer step).1.frame (s.step rasterizer step).2.video := by
  obtain ⟨s', signal, report, henter, hentry⟩ := s.exists_entry rasterizer step
  refine step_fares_of_enter henter ?_
  have hwaits : Fares call.item s.frame none := hframe ▸ .waits rfl
  cases hentry with
  | frame free arrival => cases hframe.symm.trans free
  | blockedFrame free arrival => cases hframe.symm.trans free
  | _ => exact hwaits

/-- A frame whose part is taken in fares as this part. -/
theorem step_frame_fares (hfree : s.frame = none)
    (hpart : (s.overlay.admitFrame item).part? = some part) :
    Fares part (s.step rasterizer (.frame item)).1.frame
      (s.step rasterizer (.frame item)).2.video := by
  obtain ⟨s', signal, report, henter, hentry⟩ := s.exists_entry rasterizer (.frame item)
  refine step_fares_of_enter henter ?_
  cases hentry with
  | busyFrame frame => simp [hfree] at frame
  | @frame _ o signal result free arrival =>
      obtain ⟨result', hresult, hanswers⟩ | ⟨call, hcall, -⟩ := arrival.answers hpart
      · obtain rfl := Progress.done.inj hresult
        exact hfree ▸ .ends hanswers
      · cases hcall
  | blockedFrame free arrival =>
      obtain ⟨result, hresult, -⟩ | ⟨call, hcall, hsame⟩ := arrival.answers hpart
      · cases hresult
      · obtain rfl := Progress.waits.inj hcall
        exact .waits hsame
  | control control => cases control

/-- The result that comes with the last of some steps is the end of the part that fares through
them. -/
theorem Fares.answers {video : Option FrameResult} {result : FrameResult} {during : List Step}
    (h : Fares part s.frame video)
    (hresults : video :: s.frameResults rasterizer during =
      List.replicate during.length none ++ [some result]) : Answers part result := by
  induction during generalizing s video with
  | nil =>
      obtain ⟨hvideo, -⟩ := List.cons.inj hresults
      generalize s.frame = frame at h
      cases h with
      | waits same => cases hvideo
      | ends answers =>
          obtain rfl := Option.some.inj hvideo
          exact answers
  | cons step during ih =>
      -- no result yet: the part still waits, and fares in the next step
      obtain ⟨hvideo, hrest⟩ := List.cons.inj hresults
      subst hvideo
      generalize hframe : s.frame = frame at h
      cases h with
      | waits same =>
          have hnext : Fares part (s.step rasterizer step).1.frame
              (s.step rasterizer step).2.video := by
            rw [← same]
            exact step_fares step hframe
          exact ih hnext hrest

/-- The result of a call whose frame is taken in is the end of the part that is taken in. -/
theorem Serves.answers {during : List Step} {result : FrameResult}
    (h : s.Serves rasterizer item during result)
    (hpart : (s.overlay.admitFrame item).part? = some part) : Answers part result :=
  (step_frame_fares h.free hpart).answers h.results

/-- A frame that is dropped leaves everything as it was. -/
theorem step_of_dropped (hfree : s.frame = none) (h : s.overlay.admitFrame item = .dropped) :
    s.step rasterizer (.frame item) = (s, ⟨.done, some (.ok none), none⟩) :=
  step_frame_of_schedule hfree (by simp only [Overlay.schedule, h])

/-- The result of a call whose frame is dropped comes at once. -/
theorem Serves.eq_of_dropped {during : List Step} {result : FrameResult}
    (h : s.Serves rasterizer item during result) (hdropped : s.overlay.admitFrame item = .dropped) :
    result = .ok none := by
  have hresults := h.results
  have hstep : s.frameResults rasterizer (.frame item :: during) =
      some (.ok none) :: s.frameResults rasterizer during := by
    rw [frameResults, run, step_of_dropped h.free hdropped]
    rfl
  rw [hstep] at hresults
  cases during with
  | nil => exact (Option.some.inj (List.cons.inj hresults).1).symm
  | cons step during => cases (List.cons.inj hresults).1

/-- **A scheduled frame is its part inside the video segment.**  While the video input takes data, a
frame is dropped exactly if it misses the video segment of the moment in which it is delivered, and
then nothing else happens.  Any other frame, if its call comes to its end without an error, leaves
with the times of its part in that segment, also when it has waited and other segments have been
announced meanwhile; its data is another only if a text has been drawn into it. -/
theorem frames_are_cut (rasterizer : Rasterizer) (steps : List Step) (item : VideoItem)
    (pts : ClockTime) (hpts : item.pts = some pts)
    (hlimit : ∀ duration, item.duration = some duration → pts + duration < ClockTime.limit) :
    let s := (initial.run rasterizer steps).1
    let segment := s.overlay.videoSegment
    s.overlay.flow.videoFlushing = false → s.overlay.flow.videoEnded = false →
      (s.frame = none → segment.Misses pts item.duration →
        s.step rasterizer (.frame item) = (s, ⟨.done, some (.ok none), none⟩)) ∧
      ∀ during result, s.Serves rasterizer item during result →
        (result = .ok none ↔ segment.Misses pts item.duration) ∧
        ∀ frame, result = .ok (some frame) →
          segment.IsCut pts item frame.item ∧
          (frame.item.payload.data ≠ item.payload.data → frame.outcome = .blended) := by
  intro s segment hflushing hended
  have hfault : s.overlay.flow.videoFault? = none := by
    simp [Flow.videoFault?, hflushing, hended]
  have hsegmented : s.overlay.Segmented :=
    initial.run_segmented rasterizer steps Overlay.initial_segmented
  clear_value s
  by_cases hmisses : segment.Misses pts item.duration
  · have hdropped := Overlay.admitFrame_of_misses hpts hlimit hsegmented hfault hmisses
    refine ⟨fun hfree _ => step_of_dropped hfree hdropped, ?_⟩
    intro during result hserves
    obtain rfl := hserves.eq_of_dropped hdropped
    refine ⟨iff_of_true rfl hmisses, fun frame hframe => ?_⟩
    cases hframe
  · refine ⟨fun _ h => absurd h hmisses, ?_⟩
    intro during result hserves
    obtain ⟨part, hpart, hpayload, hcut⟩ :=
      Overlay.exists_part_of_not_misses hpts hlimit hsegmented hfault hmisses
    have hanswers := hserves.answers hpart
    cases hanswers with
    | refused error =>
        refine ⟨iff_of_false (by simp) hmisses, fun frame hframe => ?_⟩
        cases hframe
    | @leaves left bears =>
        refine ⟨iff_of_false (by simp) hmisses, fun frame hframe => ?_⟩
        obtain rfl := Option.some.inj (Except.ok.inj hframe)
        refine ⟨hcut.of_bears bears, fun hdata => ?_⟩
        by_contra hkept
        exact hdata ((bears.data hkept).trans (congrArg VideoFrame.data hpayload))

/-- A frame from 50 to 140. -/
def earlyFrame : VideoItem :=
  ⟨some 50, some 90, .black ⟨.gray8, 2, 1, 0, 1, Nat.zero_lt_two, Nat.zero_lt_one⟩⟩

/-- Its part from 100 on with white pixels. -/
def lateFrame : ScheduledFrame :=
  ⟨⟨some 100, some 40, { earlyFrame.payload with
      data := #[235, 235, 0, 0]
      size_le := by decide }⟩, .blended⟩

/-- A frame that begins before the segment waits for its caption.  Meanwhile a segment is announced
that begins after its end, but the frame leaves as its part in the first segment. -/
theorem frame_cut_at_arrival :
    let s := (initial.run Rasterizer.white
      [.connect true, .videoEvent (.segment (.between 100 (some 1000)))]).1
    let during : List Step := [.videoEvent (.segment (.between 500 none)),
      .text ⟨some 0, some 40, .ofString "a" .plain⟩]
    s.overlay.flow.videoFlushing = false ∧ s.overlay.flow.videoEnded = false ∧
      s.Serves Rasterizer.white earlyFrame during (.ok (some lateFrame)) ∧
      ¬ s.overlay.videoSegment.Misses 50 (some 90) ∧
      s.overlay.videoSegment.IsCut 50 earlyFrame lateFrame.item := by
  intro s during
  have hopen : s.overlay.flow.videoFlushing = false ∧ s.overlay.flow.videoEnded = false :=
    ⟨rfl, rfl⟩
  have hserves : s.Serves Rasterizer.white earlyFrame during (.ok (some lateFrame)) :=
    ⟨rfl, by decide +kernel⟩
  have hlimit : ∀ duration, earlyFrame.duration = some duration →
      50 + duration < ClockTime.limit := by
    intro duration hduration
    obtain rfl : 90 = duration := Option.some.inj hduration
    decide
  obtain ⟨-, hcut⟩ := frames_are_cut Rasterizer.white _ earlyFrame 50 rfl hlimit hopen.1 hopen.2
  obtain ⟨hdropped, hleaves⟩ := hcut during _ hserves
  exact ⟨hopen.1, hopen.2, hserves, fun hmisses => absurd (hdropped.mpr hmisses) (by simp),
    (hleaves lateFrame rfl).1⟩

end Session

end Captioning
