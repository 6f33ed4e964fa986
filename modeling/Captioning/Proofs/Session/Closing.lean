import Captioning.Proofs.Overlay.Admitting
import Captioning.Proofs.Session.Deliberating
import Captioning.Proofs.Session.Halting
import Captioning.Proofs.Session.Waiting

/-!
# Sessions that are closed

A halt closes a session: whatever is delivered from then on is turned away, until the session is
started again.  But nothing marks a closed session except the flushes of its two inputs.  When
one of these flushes is ended, that input takes data again, although nobody has started the
session.
-/

namespace Captioning

/-! ## Overlays -/

/-- No caption is pending, and both inputs are flushed. -/
structure Overlay.Shut (o : Overlay) : Prop where
  slot : o.slot = none
  videoFlushing : o.flow.videoFlushing = true
  textFlushing : o.flow.textFlushing = true

namespace Overlay

variable {o o' : Overlay} {rasterizer : Rasterizer} {signal : Signal}

/-- Only a start and the ends of flushes open an overlay. -/
theorem Control.shut {step : Step} (h : o.Control step o' signal) (ho : o.Shut)
    (hstart : step ≠ .transit .start) (hvideo : step ≠ .videoEvent .flushStop)
    (htext : step ≠ .textEvent .flushStop) : o'.Shut := by
  obtain ⟨slot, videoFlushing, textFlushing⟩ := ho
  cases h with
  | videoEvent event =>
      cases event with
      | flushStart => exact ⟨slot, rfl, textFlushing⟩
      | flushStop => exact absurd rfl hvideo
      | _ => exact ⟨slot, videoFlushing, textFlushing⟩
  | textEvent event =>
      cases event with
      | flushStart => exact ⟨slot, videoFlushing, rfl⟩
      | flushStop => exact absurd rfl htext
      | _ => exact ⟨slot, videoFlushing, textFlushing⟩
  | transit transition =>
      cases transition with
      | start => exact absurd rfl hstart
      | halt => exact ⟨rfl, rfl, rfl⟩
  | connect on => exact ⟨slot, videoFlushing, textFlushing⟩
  | attach on => exact ⟨slot, videoFlushing, textFlushing⟩
  | configure config => exact ⟨by simpa, by simpa, by simpa⟩
  | provide provider => exact ⟨slot, videoFlushing, textFlushing⟩

theorem videoFlushing_of_videoFault? {f : Flow} (h : f.videoFault? = some .flushing) :
    f.videoFlushing = true := by
  cases hflushing : f.videoFlushing with
  | true => rfl
  | false => cases hended : f.videoEnded <;> simp [Flow.videoFault?, hflushing, hended] at h

theorem Turn.videoFlushing {call : FrameCall}
    (h : o.Turn rasterizer call o' signal (some (.error .flushing))) :
    o.flow.videoFlushing = true := by
  cases h with
  | refused fault => exact videoFlushing_of_videoFault? fault

theorem Arrival.videoFlushing {item : VideoItem}
    (h : o.Arrival rasterizer item o' signal (.done (.error .flushing))) :
    o.flow.videoFlushing = true := by
  cases h with
  | refused admission => exact videoFlushing_of_videoFault? (videoFault?_of_admitFrame admission)
  | decided admission silent connected turn => exact turn.videoFlushing

end Overlay

namespace Session

variable {s s' : Session} {rasterizer : Rasterizer} {step : Step} {signal : Signal}
  {report : Report}

/-! ## Closed sessions -/

/-- Both inputs are flushed, and nobody is inside. -/
structure Closed (s : Session) : Prop where
  overlay : s.overlay.Shut
  frame : s.frame = none
  text : s.text = none

theorem step_halt_closed (s : Session) (rasterizer : Rasterizer) :
    (s.step rasterizer (.transit .halt)).1.Closed := by
  rw [step_halt]
  exact ⟨⟨rfl, rfl, rfl⟩, rfl, rfl⟩

/-- A frame that is delivered to a closed session changes nothing.  Without a timestamp it is
dropped, as it always is. -/
theorem step_frame_of_closed (hs : s.Closed) (rasterizer : Rasterizer) (item : VideoItem) :
    s.step rasterizer (.frame item) =
      (s, ⟨.done, some (if item.pts.isSome then .error .flushing else .ok none), none⟩) := by
  have hfault : s.overlay.flow.videoFault? = some .flushing := by
    simp [Flow.videoFault?, hs.overlay.videoFlushing]
  refine step_frame_of_schedule hs.frame ?_
  simp only [Overlay.schedule, Overlay.admitFrame, hfault]
  cases item.pts <;> rfl

theorem step_text_of_closed (hs : s.Closed) (rasterizer : Rasterizer) (item : TextItem) :
    s.step rasterizer (.text item) = (s, ⟨.done, none, some (.error .flushing)⟩) := by
  have hfault : s.overlay.flow.textFault? = some .flushing := by
    simp [Flow.textFault?, hs.overlay.textFlushing]
  simp [Session.step, enter, conclude, hs.text, Overlay.admitText, hfault]

/-- Where nobody waits, nobody looks again. -/
theorem conclude_of_idle (s : Session) (hframe : s.frame = none) (htext : s.text = none)
    (signal : Signal) (reply : Reply) (video : Option FrameResult) (text : Option TextResult) :
    (s.conclude rasterizer signal reply video text).1 = s := by
  cases signal with
  | quiet => rfl
  | wake => simp only [conclude, settle, wakeText_of_none htext, wakeFrame_of_none hframe]

theorem conclude_flow (s : Session) (rasterizer : Rasterizer) (signal : Signal) (reply : Reply)
    (video : Option FrameResult) (text : Option TextResult) :
    (s.conclude rasterizer signal reply video text).1.overlay.flow = s.overlay.flow := by
  cases signal with
  | quiet => rfl
  | wake => exact (s.wakeText.1.wakeFrame_wake rasterizer).flow.trans s.wakeText_wake.flow

/-- Only a start and the ends of flushes open a closed session. -/
theorem step_closed (hs : s.Closed) (hstart : step ≠ .transit .start)
    (hvideo : step ≠ .videoEvent .flushStop) (htext : step ≠ .textEvent .flushStop) :
    (s.step rasterizer step).1.Closed := by
  have hcontrol {o : Overlay} {signal : Signal} (h : s.overlay.Control step o signal) :
      ({ s with overlay := o }.conclude rasterizer signal .done none none).1.Closed := by
    rw [conclude_of_idle { s with overlay := o } hs.frame hs.text]
    exact ⟨h.shut hs.overlay hstart hvideo htext, hs.frame, hs.text⟩
  cases step with
  | frame item =>
      rw [step_frame_of_closed hs]
      exact hs
  | text item =>
      rw [step_text_of_closed hs]
      exact hs
  | videoEvent event => exact hcontrol (.videoEvent event)
  | textEvent event => exact hcontrol (.textEvent event)
  | transit transition => exact hcontrol (.transit transition)
  | connect on => exact hcontrol (.connect on)
  | attach on => exact hcontrol (.attach on)
  | configure config => exact hcontrol (.configure config)
  | provide provider => exact hcontrol (.provide provider)

theorem run_closed (hs : s.Closed) (steps : List Step) (hstart : .transit .start ∉ steps)
    (hvideo : .videoEvent .flushStop ∉ steps) (htext : .textEvent .flushStop ∉ steps) :
    (s.run rasterizer steps).1.Closed := by
  induction steps generalizing s with
  | nil => exact hs
  | cons step steps ih =>
      simp only [List.mem_cons, not_or] at hstart hvideo htext
      exact ih (step_closed hs (Ne.symm hstart.1) (Ne.symm hvideo.1) (Ne.symm htext.1))
        hstart.2 hvideo.2 htext.2

/-! ## What is turned away -/

/-- No caption is pending, and whatever is delivered next is turned away with the error of a
flush: each caption, and each frame that has a timestamp. -/
structure TurnsAway (s : Session) (rasterizer : Rasterizer) : Prop where
  slot : s.overlay.slot = none
  text : ∀ item, (s.step rasterizer (.text item)).2.text = some (.error .flushing)
  frame : ∀ item, item.pts.isSome = true →
    (s.step rasterizer (.frame item)).2.video = some (.error .flushing)

theorem Closed.turnsAway (hs : s.Closed) (rasterizer : Rasterizer) : s.TurnsAway rasterizer where
  slot := hs.overlay.slot
  text item := by rw [step_text_of_closed hs]
  frame item hpts := by rw [step_frame_of_closed hs, if_pos hpts]

private theorem Entry.videoFlushing {item : VideoItem}
    (h : s.Entry rasterizer (.frame item) s' signal report)
    (hvideo : report.video = some (.error .flushing)) : s.overlay.flow.videoFlushing = true := by
  cases h with
  | busyFrame frame => cases hvideo
  | frame free arrival =>
      obtain rfl := Option.some.inj hvideo
      exact arrival.videoFlushing
  | blockedFrame free arrival => cases hvideo
  | control control => cases control

private theorem Entry.flow_of_frame {item : VideoItem}
    (h : s.Entry rasterizer (.frame item) s' signal report) :
    s'.overlay.flow = s.overlay.flow := by
  cases h with
  | busyFrame frame => rfl
  | frame free arrival => exact arrival.flow
  | blockedFrame free arrival => exact arrival.flow
  | control control => cases control

private theorem FrameWake.videoFlushing {result : Option FrameResult}
    (h : s.FrameWake rasterizer s' result) (hresult : result = some (.error .flushing)) :
    s.overlay.flow.videoFlushing = true := by
  cases h with
  | idle frame => cases hresult
  | done frame turn =>
      obtain rfl := Option.some.inj hresult
      exact turn.videoFlushing
  | waits frame turn => cases hresult

/-- A frame is turned away by a flush only if the video input is flushed. -/
theorem videoFlushing_of_turned_away {item : VideoItem}
    (h : (s.step rasterizer (.frame item)).2.video = some (.error .flushing)) :
    s.overlay.flow.videoFlushing = true := by
  obtain ⟨s', signal, report, henter, hentry⟩ := s.exists_entry rasterizer (.frame item)
  cases signal with
  | quiet =>
      rw [step_of_quiet henter] at h
      exact hentry.videoFlushing h
  | wake =>
      rw [step_of_wake henter] at h
      rcases Option.or_eq_some_iff.mp h with hreport | ⟨-, hlook⟩
      · exact hentry.videoFlushing hreport
      · rw [← hentry.flow_of_frame, ← s'.wakeText_wake.flow]
        exact (s'.wakeText.1.wakeFrame_wake rasterizer).videoFlushing hlook

/-- A caption is turned away by a flush only if the text input is flushed. -/
theorem textFlushing_of_turned_away {item : TextItem}
    (h : (s.step rasterizer (.text item)).2.text = some (.error .flushing)) :
    s.overlay.flow.textFlushing = true := by
  obtain ⟨s', signal, report, henter, hentry⟩ := s.exists_entry rasterizer (.text item)
  cases hentry with
  | busyText text =>
      rw [step_of_quiet henter] at h
      cases h
  | refusedText free admission =>
      rw [step_of_quiet henter] at h
      obtain rfl := Except.error.inj (Option.some.inj h)
      rw [Overlay.admitText] at admission
      split at admission
      next fault hfault =>
        obtain rfl := Except.error.inj admission
        by_contra hopen
        rw [Flow.textFault?, if_neg hopen] at hfault
        split at hfault <;> cases hfault
      next => split at admission <;> cases admission
  | discardedText free admission =>
      rw [step_of_quiet henter] at h
      cases h
  | blockedText free admission slot =>
      rw [step_of_quiet henter] at h
      cases h
  | storedText free admission slot =>
      -- a caption that becomes pending at once has its result
      rw [step_of_wake henter] at h
      cases h
  | control control => cases control

/-! ## Halted sessions -/

/-- **What keeps a halted session closed.**  From a halt on, as long as the session is not started
again, no caption is pending and everything that is delivered is turned away by a flush, exactly
if neither the flush of the video input nor that of the text input is ended meanwhile. -/
theorem turns_away_until_start_iff (rasterizer : Rasterizer) (before during : List Step) :
    (∀ done, done <+: during → .transit .start ∉ done →
        (initial.run rasterizer (before ++ .transit .halt :: done)).1.TurnsAway rasterizer) ↔
      ∀ done, done <+: during → .transit .start ∉ done →
        .videoEvent .flushStop ∉ done ∧ .textEvent .flushStop ∉ done := by
  have hrun : ∀ done, (initial.run rasterizer (before ++ .transit .halt :: done)).1 =
      (((initial.run rasterizer before).1.step rasterizer (.transit .halt)).1.run
        rasterizer done).1 := by
    intro done
    rw [run_append]
    rfl
  constructor
  · intro haway done hdone hstart
    -- right after the end of a flush that input takes data
    have hstop : ∀ step ∈ done, ∃ s : Session, (s.step rasterizer step).1.TurnsAway rasterizer := by
      intro step hstep
      obtain ⟨first, rest, rfl⟩ := List.append_of_mem hstep
      have hbegins : first ++ [step] <+: first ++ step :: rest := by simp
      have hturns := haway (first ++ [step]) (hbegins.trans hdone)
        fun hmem => hstart (hbegins.subset hmem)
      rw [hrun, run_snoc] at hturns
      exact ⟨_, hturns⟩
    constructor
    · intro hmem
      obtain ⟨s, hturns⟩ := hstop _ hmem
      have hflushing := videoFlushing_of_turned_away (hturns.frame later rfl)
      have hflow : (s.step rasterizer (.videoEvent .flushStop)).1.overlay.flow =
          (s.overlay.videoEvent .flushStop).1.flow := conclude_flow _ _ _ _ _ _
      rw [hflow] at hflushing
      cases hflushing
    · intro hmem
      obtain ⟨s, hturns⟩ := hstop _ hmem
      have hflushing := textFlushing_of_turned_away (hturns.text early)
      have hflow : (s.step rasterizer (.textEvent .flushStop)).1.overlay.flow =
          (s.overlay.textEvent .flushStop).1.flow := conclude_flow _ _ _ _ _ _
      rw [hflow] at hflushing
      cases hflushing
  · intro hflushed done hdone hstart
    obtain ⟨hvideo, htext⟩ := hflushed done hdone hstart
    rw [hrun]
    exact (run_closed (step_halt_closed _ rasterizer) done hstart hvideo htext).turnsAway rasterizer

/-- A halted session takes a caption when the flush of the text input is ended. -/
theorem halted_takes_caption :
    let s := (initial.run Rasterizer.white [.transit .halt, .textEvent .flushStop]).1
    s.overlay.state = .ready ∧ ¬ s.TurnsAway Rasterizer.white ∧
      (s.step Rasterizer.white (.text early)).2.text = some (.ok ()) ∧
      (s.step Rasterizer.white (.text early)).1.overlay.slot = some early := by
  refine ⟨rfl, fun haway => ?_, rfl, rfl⟩
  have htaken : (some (.ok ()) : Option TextResult) = some (.error .flushing) := haway.text early
  cases htaken

end Session

end Captioning
