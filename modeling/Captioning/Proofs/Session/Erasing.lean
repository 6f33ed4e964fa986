import Captioning.Proofs.Session.Failing
import Captioning.Proofs.Session.Halting
import Captioning.Proofs.Session.Waiting

/-!
# What a flush of the text input erases

A flush of the text input starts and is ended.  This file proves that nothing of the text side is
left of a session then: two sessions which differ in their captions, in the text segment, in a
flush or an end of the text input, or in the image that is kept, go on in the same way.

## Strategy

The two steps of a flush are computed: whatever the text side was, the same session is left
(`run_flush`).  In between a waiting frame looks twice.  It can pass at the first look or at the
second one, but it finds no caption, and `isTextPast_flushed` shows that whoever passes at the
first look would pass at the second one.

From then on the sessions differ in nothing but their caches, so they do the same
(`Session.step_congr`); that their frames leave in the same way, up to the numbers of images, is
read off the treatment of frames (`Stage.Twins.unnumbered_eq`).
-/

namespace Captioning

/-- A result for a frame without the number of the image that the frame carries, if any. -/
def unnumbered (result : FrameResult) : FrameResult :=
  result.map (Option.map ScheduledFrame.unnumbered)

/-- A report without the numbers of images. -/
def Report.unnumbered (report : Report) : Report :=
  { report with video := report.video.map Captioning.unnumbered }

namespace Overlay

variable {o : Overlay} {rasterizer : Rasterizer} {call : FrameCall}

/-- The overlay after a flush of the text input. -/
def flushed (o : Overlay) : Overlay :=
  { o with
    flow := { o.flow with textFlushing := false, textEnded := false }
    textSegment := .whole
    slot := none }

/-- Without a pending caption a frame passes, if none can come any more. -/
theorem proceed_of_past (hfault : o.flow.videoFault? = none) (hslot : o.slot = none)
    (hpast : o.isTextPast call.span.stop = true) :
    o.proceed rasterizer call =
      (o.reach call.start, .quiet, some (.ok (some ⟨call.item, .passthrough⟩))) := by
  simp [proceed, lookAt, hfault, hslot, verdictAlone, hpast, finish, Signal.both]

/-- A waiting frame that passes when the text input begins to be flushed would pass when the flush
is ended.  For those that end later than at running time zero, the reason can only be that
waiting has been turned off. -/
theorem isTextPast_flushed {stop : ClockTime} (hstarved : o.Starved stop)
    (hpast : o.isTextPast stop = true) : o.flushed.isTextPast stop = true := by
  cases hflushed : o.flushed.isTextPast stop with
  | true => rfl
  | false =>
      obtain ⟨-, -, hwait, hstart, -⟩ := isTextPast_eq_false_iff.mp hflushed
      have hstop : 0 < stop := hstart 0 (Segment.runningTime_whole 0)
      have hahead : o.isTextPast stop = false :=
        isTextPast_eq_false_iff.mpr ⟨hstarved.textEnded, hstarved.connected, hwait,
          hstarved.start hstop, hstarved.position hstop⟩
      exact absurd hpast (by simp [hahead])

end Overlay

namespace Session

variable {s s' : Session} {rasterizer : Rasterizer}

/-! ## The two steps of a flush -/

/-- What is left of a session after a flush of its text input.  A frame that waits passes if
nothing can come for it. -/
def flushed (s : Session) : Session :=
  match s.frame with
  | none => ⟨s.overlay.flushed, none, none⟩
  | some call =>
      if s.overlay.flushed.isTextPast call.span.stop then
        ⟨s.overlay.flushed.reach call.start, none, none⟩
      else ⟨s.overlay.flushed, some call, none⟩

theorem wakeFrame_of_empty {o : Overlay} {call : FrameCall} {text : Option TextItem}
    (hfault : o.flow.videoFault? = none) (hslot : o.slot = none) :
    ((⟨o, some call, text⟩ : Session).wakeFrame rasterizer).1 =
      if o.isTextPast call.span.stop then ⟨o.reach call.start, none, text⟩
      else ⟨o, some call, text⟩ := by
  cases hpast : o.isTextPast call.span.stop with
  | true => simp [wakeFrame, Overlay.proceed_of_past hfault hslot hpast]
  | false => simp [wakeFrame, Overlay.proceed_of_empty hfault hslot hpast]

private theorem step_flushStart (o : Overlay) (frame : Option FrameCall) (text : Option TextItem) :
    ((⟨o, frame, text⟩ : Session).step rasterizer (.textEvent .flushStart)).1 =
      ((⟨(o.textEvent .flushStart).1, frame, none⟩ : Session).wakeFrame rasterizer).1 := by
  have henter : (⟨o, frame, text⟩ : Session).enter rasterizer (.textEvent .flushStart) =
      (⟨(o.textEvent .flushStart).1, frame, text⟩, .wake, ⟨.done, none, none⟩) := rfl
  rw [step_of_wake henter, wakeText_of_flushing rfl]

private theorem step_flushStop (o : Overlay) (frame : Option FrameCall) :
    ((⟨o, frame, none⟩ : Session).step rasterizer (.textEvent .flushStop)).1 =
      ((⟨o.flushed, frame, none⟩ : Session).wakeFrame rasterizer).1 := by
  have henter : (⟨o, frame, none⟩ : Session).enter rasterizer (.textEvent .flushStop) =
      (⟨o.flushed, frame, none⟩, .wake, ⟨.done, none, none⟩) := rfl
  rw [step_of_wake henter, wakeText_of_none rfl]

/-- A flush leaves the same of a session, whatever its text side was. -/
theorem run_flush (hs : s.Settled) (rasterizer : Rasterizer) :
    (s.run rasterizer [.textEvent .flushStart, .textEvent .flushStop]).1 = s.flushed := by
  obtain ⟨o, frame, text⟩ := s
  simp only [run, step_flushStart]
  cases frame with
  | none =>
      rw [wakeFrame_of_none rfl, step_flushStop, wakeFrame_of_none rfl]
      rfl
  | some call =>
      have hstarved : o.Starved call.span.stop := hs.frame call rfl
      have hfault : o.flow.videoFault? = none :=
        (Overlay.videoFault?_eq_none_iff _).mpr ⟨hstarved.videoFlushing, hstarved.videoEnded⟩
      -- the start of a flush leaves the reasons of a frame to wait as they are
      have hstart : ((⟨(o.textEvent .flushStart).1, some call, none⟩ : Session).wakeFrame
          rasterizer).1 = if o.isTextPast call.span.stop then
            ⟨(o.textEvent .flushStart).1.reach call.start, none, none⟩
          else ⟨(o.textEvent .flushStart).1, some call, none⟩ :=
        wakeFrame_of_empty hfault hstarved.slot
      have hstop : ((⟨o.flushed, some call, none⟩ : Session).wakeFrame rasterizer).1 =
          (⟨o, some call, text⟩ : Session).flushed := wakeFrame_of_empty hfault rfl
      rw [hstart]
      split
      next hpast =>
        rw [step_flushStop, wakeFrame_of_none rfl]
        simp only [flushed, Overlay.isTextPast_flushed hstarved hpast, if_true]
        rfl
      next hahead =>
        rw [step_flushStop]
        exact hstop

/-- Two sessions that agree in everything but what belongs to the text input. -/
structure AgreesButText (s s' : Session) : Prop where
  videoFlushing : s'.overlay.flow.videoFlushing = s.overlay.flow.videoFlushing
  videoEnded : s'.overlay.flow.videoEnded = s.overlay.flow.videoEnded
  textConnected : s'.overlay.flow.textConnected = s.overlay.flow.textConnected
  videoSegment : s'.overlay.videoSegment = s.overlay.videoSegment
  config : s'.overlay.config = s.overlay.config
  provider : s'.overlay.provider = s.overlay.provider
  attach : s'.overlay.attach = s.overlay.attach
  state : s'.overlay.state = s.overlay.state
  frame : s'.frame = s.frame

theorem AgreesButText.flushed_uncached (h : s.AgreesButText s') :
    s'.flushed.uncached = s.flushed.uncached := by
  have ho : s'.overlay.flushed.uncached = s.overlay.flushed.uncached := by
    simp only [Overlay.uncached, Overlay.flushed, h.videoFlushing, h.videoEnded, h.textConnected,
      h.videoSegment, h.config, h.provider, h.attach, h.state]
  unfold flushed
  rw [h.frame]
  cases s.frame with
  | none => exact uncached_overlay ho none none
  | some call =>
      have hpast : s'.overlay.flushed.isTextPast call.span.stop =
          s.overlay.flushed.isTextPast call.span.stop := by
        simp only [Overlay.isTextPast, Overlay.flushed, h.textConnected, h.config]
      simp only [hpast]
      split
      next past => exact uncached_overlay (Overlay.reach_congr ho call.start) none none
      next ahead => exact uncached_overlay ho (some call) none

end Session

/-! ## Sessions with different caches -/

theorem unnumbered_eq_of_outline {result result' : FrameResult}
    (h : outline result' = outline result)
    (hframes : ∀ frame frame', result = .ok (some frame) → result' = .ok (some frame') →
      frame'.unnumbered = frame.unnumbered) : unnumbered result' = unnumbered result := by
  rcases result with error | _ | frame
  · rcases result' with error' | left
    · exact congrArg Except.error (Except.error.inj h)
    · cases h
  · rcases result' with error' | _ | frame'
    · cases h
    · rfl
    · cases h
  · obtain ⟨frame', rfl⟩ := outline_eq_ok_true_iff.mp h
    exact congrArg (Except.ok ∘ some) (hframes frame frame' rfl rfl)

/-- What a frame looks like when it leaves does not depend on the cache. -/
theorem Stage.Twins.unnumbered_eq {stage stage' : Stage} {rasterizer : Rasterizer}
    {frame frame' : ScheduledFrame} (h : stage.Twins stage') (htreats : stage.Treats rasterizer)
    (htreats' : stage'.Treats rasterizer) (hvideo : stage.video = some (.ok (some frame)))
    (hvideo' : stage'.video = some (.ok (some frame'))) :
    frame'.unnumbered = frame.unnumbered := by
  cases hdecision : stage.decision? with
  | none => rw [h.frames_of_undecided htreats htreats' hvideo hvideo' hdecision]
  | some decided =>
      obtain ⟨call, d⟩ := decided
      obtain ⟨left, hleft, htreated⟩ := htreats.decided call d hdecision
      obtain ⟨left', hleft', htreated'⟩ := htreats'.decided call d (h.decision?_eq.trans hdecision)
      obtain rfl : left = frame := by simpa [hvideo] using hleft.symm
      obtain rfl : left' = frame' := by simpa [hvideo'] using hleft'.symm
      rw [htreated, htreated', h.config, h.attach]

namespace Session

variable {rasterizer : Rasterizer} {first first' : List Step}

/-- Sessions that differ in their caches answer a step alike. -/
theorem step_unnumbered (h : (initial.run rasterizer first').1.uncached =
    (initial.run rasterizer first).1.uncached) (step : Step) :
    ((initial.run rasterizer first').1.step rasterizer step).2.unnumbered =
      ((initial.run rasterizer first).1.step rasterizer step).2.unnumbered := by
  obtain ⟨-, hreply, houtline, htext⟩ := step_congr rasterizer rasterizer h step
  have hvideo : ((initial.run rasterizer first').1.step rasterizer step).2.video.map
      Captioning.unnumbered =
        ((initial.run rasterizer first).1.step rasterizer step).2.video.map
          Captioning.unnumbered := by
    cases hresult : ((initial.run rasterizer first).1.step rasterizer step).2.video with
    | none =>
        rw [hresult] at houtline
        rw [Option.map_eq_none_iff.mp houtline]
    | some result =>
        rw [hresult] at houtline
        obtain ⟨result', hresult', houtline⟩ := Option.map_eq_some_iff.mp houtline
        rw [hresult']
        refine congrArg some (unnumbered_eq_of_outline houtline ?_)
        rintro frame frame' rfl rfl
        obtain ⟨left, stage, hmem, stage', hmem', htwins, hleaves, hleaves'⟩ :=
          exists_twin_of_frame rasterizer rasterizer h hresult
        obtain rfl : left = frame' := by
          simpa [hresult'] using (video_of_mem_stagesOf hmem' hleaves').symm
        exact htwins.unnumbered_eq
          (stages_treat rasterizer _ stage (mem_stages_of_mem_stagesOf first [] hmem))
          (stages_treat rasterizer _ stage' (mem_stages_of_mem_stagesOf first' [] hmem'))
          hleaves hleaves'
  simp only [Report.unnumbered, hreply, hvideo, htext]

theorem run_unnumbered (h : (initial.run rasterizer first').1.uncached =
    (initial.run rasterizer first).1.uncached) (further : List Step) :
    ((initial.run rasterizer first').1.run rasterizer further).2.map Report.unnumbered =
      ((initial.run rasterizer first).1.run rasterizer further).2.map Report.unnumbered := by
  induction further generalizing first first' with
  | nil => rfl
  | cons step further ih =>
      have hstep := (step_congr rasterizer rasterizer h step).1
      rw [← run_snoc, ← run_snoc] at hstep
      have hrest := ih hstep
      rw [run_snoc, run_snoc] at hrest
      simp only [run, List.map_cons, step_unnumbered h step, hrest]

/-- **A flush erases the text.**  Take two sessions that agree in the flow of the video, the
video segment, the settings, the state and the frame that waits, but not in the text side: the
pending caption, the one that waits, the text segment, the flow of the text and the cached image.
Once the text input of both has been flushed, they cannot be told apart.  After whatever further
steps, they are in the same state up to their caches, and they have answered each of the steps
alike, up to the numbers of attached images. -/
theorem flush_erases_text (rasterizer : Rasterizer) (first first' further : List Step)
    (h : (initial.run rasterizer first).1.AgreesButText (initial.run rasterizer first').1) :
    let flush := [.textEvent .flushStart, .textEvent .flushStop]
    let s := (initial.run rasterizer (first ++ flush)).1
    let s' := (initial.run rasterizer (first' ++ flush)).1
    (s'.run rasterizer further).1.uncached = (s.run rasterizer further).1.uncached ∧
      (s'.run rasterizer further).2.map Report.unnumbered =
        (s.run rasterizer further).2.map Report.unnumbered := by
  intro flush s s'
  have hflush (steps : List Step) : (initial.run rasterizer (steps ++ flush)).1 =
      (initial.run rasterizer steps).1.flushed := by
    rw [run_append]
    exact run_flush (run_settled rasterizer steps) rasterizer
  have hsame : s'.uncached = s.uncached := by
    have hs : s = (initial.run rasterizer first).1.flushed := hflush first
    have hs' : s' = (initial.run rasterizer first').1.flushed := hflush first'
    rw [hs, hs']
    exact h.flushed_uncached
  exact ⟨run_congr rasterizer rasterizer hsame further, run_unnumbered hsame further⟩

/-- In one session a caption has been shown and is still pending, and another one waits; in the
other session the text has ended. -/
theorem flush_erases_text_shown :
    let shown := [.connect true, .text lasting, .frame captionedFrame, .text early]
    let ended := [.connect true, .textEvent .eos]
    let flush := [.textEvent .flushStart, .textEvent .flushStop]
    let further := [.text lasting, .frame captionedFrame]
    let s := (initial.run Rasterizer.white shown).1
    let s' := (initial.run Rasterizer.white ended).1
    s.AgreesButText s' ∧ (s.overlay.slot = some lasting ∧ s.text = some early) ∧
      (s'.overlay.slot = none ∧ s'.overlay.flow.textEnded = true) ∧
      ((initial.run Rasterizer.white (ended ++ flush)).1.run Rasterizer.white further).2.map
          Report.unnumbered =
        ((initial.run Rasterizer.white (shown ++ flush)).1.run Rasterizer.white further).2.map
          Report.unnumbered := by
  intro shown ended flush further s s'
  have hagrees : s.AgreesButText s' := ⟨rfl, rfl, rfl, rfl, rfl, rfl, rfl, rfl, rfl⟩
  exact ⟨hagrees, ⟨rfl, rfl⟩, ⟨rfl, rfl⟩, (flush_erases_text .white shown ended further hagrees).2⟩

end Session

end Captioning
