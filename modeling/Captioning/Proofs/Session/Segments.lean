import Captioning.Proofs.Segment.Running
import Captioning.Proofs.Session.Waiting

/-!
# Segments in a session

Segments are set by events and by control.  Frames and captions leave the bounds of their segment
as they are: a frame moves the position of the video segment, and the position of the text segment
only goes onward, with gaps and with captions that become pending.
-/

namespace Captioning

/-- Whether a step puts another segment in the place of the video segment. -/
def Step.setsVideoSegment : Step → Bool
  | .videoEvent (.segment _) | .videoEvent .flushStop | .transit .start => true
  | _ => false

/-- Whether a step puts another segment in the place of the text segment. -/
def Step.setsTextSegment : Step → Bool
  | .textEvent (.segment _) | .textEvent .flushStop | .transit .start | .connect _ => true
  | _ => false

/-! ## Positions that go onward -/

/-- The second segment is the first one, with its position where it was or further along. -/
def Segment.Onward (s s' : Segment) : Prop :=
  ∃ p, s.position ≤ p ∧ s' = s.moveTo p

namespace Segment

variable {s s' s'' : Segment}

theorem Onward.refl (s : Segment) : s.Onward s :=
  ⟨s.position, Nat.le_refl _, rfl⟩

theorem onward_of_eq (h : s' = s) : s.Onward s' := by
  rw [h]
  exact .refl s

theorem Onward.trans (h : s.Onward s') (h' : s'.Onward s'') : s.Onward s'' := by
  obtain ⟨p, hp, rfl⟩ := h
  obtain ⟨q, hq, rfl⟩ := h'
  exact ⟨q, Nat.le_trans hp hq, rfl⟩

theorem Onward.position_le (h : s.Onward s') : s.position ≤ s'.position := by
  obtain ⟨p, hp, rfl⟩ := h
  exact hp

theorem onward_advance (s : Segment) (p : ClockTime) : s.Onward (s.advance p) :=
  ⟨max s.position p, Nat.le_max_left _ _, rfl⟩

end Segment

namespace Overlay

variable {o o' : Overlay} {rasterizer : Rasterizer} {call : FrameCall} {signal : Signal}

/-! ## Frames -/

theorem finish_textSegment (o : Overlay) (rasterizer : Rasterizer) (call : FrameCall)
    (d : Decision) : (o.finish rasterizer call d).1.textSegment = o.textSegment := by
  cases d with
  | passthrough => rfl
  | overlay text consume => cases consume <;> rfl

theorem finish_videoSegment (o : Overlay) (rasterizer : Rasterizer) (call : FrameCall)
    (d : Decision) :
    (o.finish rasterizer call d).1.videoSegment = o.videoSegment.moveTo call.start := by
  cases d with
  | passthrough => rfl
  | overlay text consume => cases consume <;> rfl

theorem Turn.textSegment {result : Option FrameResult}
    (h : o.Turn rasterizer call o' signal result) : o'.textSegment = o.textSegment := by
  cases h with
  | refused fault => rfl
  | passed fault cleared past => cases cleared <;> rfl
  | waits fault cleared ahead => cases cleared <;> rfl
  | future fault slot overlap => rfl
  | shown fault slot overlap => exact o.finish_textSegment _ _ _

theorem Turn.videoSegment {result : Option FrameResult}
    (h : o.Turn rasterizer call o' signal result) :
    ∃ p, o'.videoSegment = o.videoSegment.moveTo p := by
  cases h with
  | refused fault => exact ⟨o.videoSegment.position, rfl⟩
  | passed fault cleared past => cases cleared <;> exact ⟨call.start, rfl⟩
  | waits fault cleared ahead => cases cleared <;> exact ⟨o.videoSegment.position, rfl⟩
  | future fault slot overlap => exact ⟨call.start, rfl⟩
  | shown fault slot overlap => exact ⟨call.start, o.finish_videoSegment _ _ _⟩

theorem Arrival.textSegment {item : VideoItem} {progress : Progress}
    (h : o.Arrival rasterizer item o' signal progress) : o'.textSegment = o.textSegment := by
  cases h with
  | provided admission silent connected d => exact o.finish_textSegment _ _ d
  | decided admission silent connected turn => exact turn.textSegment
  | waits admission silent connected turn => exact turn.textSegment
  | _ => rfl

theorem Arrival.videoSegment {item : VideoItem} {progress : Progress}
    (h : o.Arrival rasterizer item o' signal progress) :
    ∃ p, o'.videoSegment = o.videoSegment.moveTo p := by
  cases h with
  | dropped admission => exact ⟨o.videoSegment.position, rfl⟩
  | refused admission => exact ⟨o.videoSegment.position, rfl⟩
  | @unclocked part start admission => exact ⟨start, rfl⟩
  | @silent call admission silent => exact ⟨call.start, rfl⟩
  | provided admission silent connected d => exact ⟨_, o.finish_videoSegment _ _ d⟩
  | decided admission silent connected turn => exact turn.videoSegment
  | waits admission silent connected turn => exact turn.videoSegment

/-! ## Captions and control -/

theorem store_onward (o : Overlay) (item : TextItem) :
    o.textSegment.Onward (o.store item).textSegment := by
  cases hpts : item.pts with
  | none =>
      have hsame : (o.store item).textSegment = o.textSegment := by simp only [store, hpts]
      rw [hsame]
      exact .refl _
  | some pts =>
      have hadvanced : (o.store item).textSegment = o.textSegment.advance pts := by
        simp only [store, hpts]
      rw [hadvanced]
      exact o.textSegment.onward_advance pts

theorem Control.onward {step : Step} (h : o.Control step o' signal)
    (hstep : step.setsTextSegment = false) : o.textSegment.Onward o'.textSegment := by
  cases h with
  | videoEvent event => cases event <;> exact .refl _
  | textEvent event =>
      cases event with
      | segment new => cases hstep
      | gap start duration => exact o.textSegment.onward_advance _
      | flushStart => exact .refl _
      | flushStop => cases hstep
      | eos => exact .refl _
  | transit transition =>
      cases transition with
      | start => cases hstep
      | halt => exact .refl _
  | connect on => cases hstep
  | attach on => exact .refl _
  | configure config =>
      rw [configure_textSegment]
      exact .refl _
  | provide provider => exact .refl _

theorem Control.videoSegment {step : Step} (h : o.Control step o' signal)
    (hstep : step.setsVideoSegment = false) : o'.videoSegment = o.videoSegment := by
  cases h with
  | videoEvent event =>
      cases event with
      | segment new => cases hstep
      | flushStop => cases hstep
      | _ => rfl
  | textEvent event => cases event <;> rfl
  | transit transition =>
      cases transition with
      | start => cases hstep
      | halt => rfl
  | connect on => rfl
  | attach on => rfl
  | configure config =>
      unfold Overlay.configure
      split
      · split <;> rfl
      · rfl
  | provide provider => rfl

theorem Control.connected {step : Step} (h : o.Control step o' signal)
    (hstep : step.setsTextSegment = false) : o'.flow.textConnected = o.flow.textConnected := by
  cases h with
  | videoEvent event => cases event <;> rfl
  | textEvent event => cases event <;> rfl
  | transit transition => cases transition <;> rfl
  | connect on => cases hstep
  | attach on => rfl
  | configure config => rw [configure_flow]
  | provide provider => rfl

end Overlay

namespace Session

variable {s s' : Session} {rasterizer : Rasterizer} {step : Step} {signal : Signal}
  {report : Report}

/-! ## Steps -/

theorem Entry.onward (h : s.Entry rasterizer step s' signal report)
    (hstep : step.setsTextSegment = false) :
    s.overlay.textSegment.Onward s'.overlay.textSegment := by
  cases h with
  | frame free arrival =>
      rw [arrival.textSegment]
      exact .refl _
  | blockedFrame free arrival =>
      rw [arrival.textSegment]
      exact .refl _
  | storedText free admission slot => exact s.overlay.store_onward _
  | control control => exact control.onward hstep
  | _ => exact .refl _

theorem Entry.connected (h : s.Entry rasterizer step s' signal report)
    (hstep : step.setsTextSegment = false) :
    s'.overlay.flow.textConnected = s.overlay.flow.textConnected := by
  cases h with
  | frame free arrival => rw [arrival.flow]
  | blockedFrame free arrival => rw [arrival.flow]
  | control control => exact control.connected hstep
  | _ => rfl

theorem TextWake.onward {result : Option TextResult} (h : s.TextWake s' result) :
    s.overlay.textSegment.Onward s'.overlay.textSegment := by
  cases h with
  | stored text flushing slot => exact s.overlay.store_onward _
  | _ => exact .refl _

theorem FrameWake.textSegment {result : Option FrameResult}
    (h : s.FrameWake rasterizer s' result) : s'.overlay.textSegment = s.overlay.textSegment := by
  cases h with
  | idle frame => rfl
  | done frame turn => exact turn.textSegment
  | waits frame turn => exact turn.textSegment

theorem Entry.videoSegment (h : s.Entry rasterizer step s' signal report)
    (hstep : step.setsVideoSegment = false) :
    ∃ p, s'.overlay.videoSegment = s.overlay.videoSegment.moveTo p := by
  cases h with
  | frame free arrival => exact arrival.videoSegment
  | blockedFrame free arrival => exact arrival.videoSegment
  | control control => exact ⟨_, control.videoSegment hstep⟩
  | _ => exact ⟨s.overlay.videoSegment.position, rfl⟩

theorem TextWake.videoSegment {result : Option TextResult} (h : s.TextWake s' result) :
    s'.overlay.videoSegment = s.overlay.videoSegment := by
  cases h <;> rfl

theorem FrameWake.videoSegment {result : Option FrameResult}
    (h : s.FrameWake rasterizer s' result) :
    ∃ p, s'.overlay.videoSegment = s.overlay.videoSegment.moveTo p := by
  cases h with
  | idle frame => exact ⟨s.overlay.videoSegment.position, rfl⟩
  | done frame turn => exact turn.videoSegment
  | waits frame turn => exact turn.videoSegment

theorem step_onward (s : Session) (rasterizer : Rasterizer) (step : Step)
    (hstep : step.setsTextSegment = false) :
    s.overlay.textSegment.Onward (s.step rasterizer step).1.overlay.textSegment := by
  obtain ⟨s', signal, report, henter, hentry⟩ := s.exists_entry rasterizer step
  have hentered := hentry.onward hstep
  cases signal with
  | quiet =>
      rw [step_of_quiet henter]
      exact hentered
  | wake =>
      rw [step_of_wake henter, (s'.wakeText.1.wakeFrame_wake rasterizer).textSegment]
      exact hentered.trans s'.wakeText_wake.onward

theorem step_connected (s : Session) (rasterizer : Rasterizer) (step : Step)
    (hstep : step.setsTextSegment = false) :
    (s.step rasterizer step).1.overlay.flow.textConnected = s.overlay.flow.textConnected := by
  obtain ⟨s', signal, report, henter, hentry⟩ := s.exists_entry rasterizer step
  have hentered := hentry.connected hstep
  cases signal with
  | quiet =>
      rw [step_of_quiet henter]
      exact hentered
  | wake =>
      rw [step_of_wake henter, (s'.wakeText.1.wakeFrame_wake rasterizer).flow,
        s'.wakeText_wake.flow]
      exact hentered

theorem step_videoSegment (s : Session) (rasterizer : Rasterizer) (step : Step)
    (hstep : step.setsVideoSegment = false) : ∃ p,
      (s.step rasterizer step).1.overlay.videoSegment = s.overlay.videoSegment.moveTo p := by
  obtain ⟨s', signal, report, henter, hentry⟩ := s.exists_entry rasterizer step
  obtain ⟨p, hentered⟩ := hentry.videoSegment hstep
  cases signal with
  | quiet =>
      rw [step_of_quiet henter]
      exact ⟨p, hentered⟩
  | wake =>
      obtain ⟨q, hlooked⟩ := (s'.wakeText.1.wakeFrame_wake rasterizer).videoSegment
      rw [step_of_wake henter, hlooked, s'.wakeText_wake.videoSegment, hentered]
      exact ⟨q, rfl⟩

/-- As long as the text segment is not set, its position goes onward and its bounds stay. -/
theorem run_onward (s : Session) (rasterizer : Rasterizer) (steps : List Step)
    (hsteps : ∀ step ∈ steps, step.setsTextSegment = false) :
    s.overlay.textSegment.Onward (s.run rasterizer steps).1.overlay.textSegment := by
  induction steps generalizing s with
  | nil => exact .refl _
  | cons step steps ih =>
      obtain ⟨hstep, hrest⟩ := List.forall_mem_cons.mp hsteps
      exact (s.step_onward rasterizer step hstep).trans (ih _ hrest)

theorem run_connected (s : Session) (rasterizer : Rasterizer) (steps : List Step)
    (hsteps : ∀ step ∈ steps, step.setsTextSegment = false) :
    (s.run rasterizer steps).1.overlay.flow.textConnected = s.overlay.flow.textConnected := by
  induction steps generalizing s with
  | nil => rfl
  | cons step steps ih =>
      obtain ⟨hstep, hrest⟩ := List.forall_mem_cons.mp hsteps
      exact (ih _ hrest).trans (s.step_connected rasterizer step hstep)

end Session

end Captioning
