import Captioning.Proofs.Session.Patience
import Captioning.Proofs.Session.Stages

/-!
# Settings

The configuration, and whether images stay beside the frames, are set from outside, and no signal
tells of it.  So nothing is set in the middle of a step, and what frames and captions do leaves
the settings alone.
-/

namespace Captioning

namespace Overlay

variable {o o' : Overlay} {rasterizer : Rasterizer} {call : FrameCall} {signal : Signal}
  {item : VideoItem}

/-- Two overlays are set in the same way. -/
structure Agrees (o o' : Overlay) : Prop where
  config : o'.config = o.config
  attach : o'.attach = o.attach
  provider : o'.provider = o.provider

theorem Agrees.trans {o'' : Overlay} (h : o.Agrees o') (h' : o'.Agrees o'') : o.Agrees o'' :=
  ⟨h'.config.trans h.config, h'.attach.trans h.attach, h'.provider.trans h.provider⟩

theorem agrees_finish (o : Overlay) (rasterizer : Rasterizer) (call : FrameCall) (d : Decision) :
    o.Agrees (o.finish rasterizer call d).1 := by
  cases d with
  | passthrough => exact ⟨rfl, rfl, rfl⟩
  | overlay text consume => cases consume <;> exact ⟨rfl, rfl, rfl⟩

theorem Turn.agrees {result : Option FrameResult} (h : o.Turn rasterizer call o' signal result) :
    o.Agrees o' := by
  cases h with
  | refused fault => exact ⟨rfl, rfl, rfl⟩
  | passed fault cleared past => cases cleared <;> exact ⟨rfl, rfl, rfl⟩
  | waits fault cleared ahead => cases cleared <;> exact ⟨rfl, rfl, rfl⟩
  | future fault slot overlap => exact ⟨rfl, rfl, rfl⟩
  | shown fault slot overlap => exact o.agrees_finish _ _ _

theorem Arrival.agrees {progress : Progress} (h : o.Arrival rasterizer item o' signal progress) :
    o.Agrees o' := by
  cases h with
  | provided admission silent connected d => exact o.agrees_finish _ _ d
  | decided admission silent connected turn => exact turn.agrees
  | waits admission silent connected turn => exact turn.agrees
  | _ => exact ⟨rfl, rfl, rfl⟩

/-- Settings are changed without a signal. -/
theorem Control.agrees_of_wake {step : Step} (h : o.Control step o' .wake) : o.Agrees o' := by
  generalize hsignal : Signal.wake = signal at h
  cases h with
  | videoEvent event => cases event <;> exact ⟨rfl, rfl, rfl⟩
  | textEvent event => cases event <;> exact ⟨rfl, rfl, rfl⟩
  | transit transition => cases transition <;> exact ⟨rfl, rfl, rfl⟩
  | connect on => exact ⟨rfl, rfl, rfl⟩
  | attach on => cases hsignal
  | configure config => cases hsignal
  | provide provider => cases hsignal

end Overlay

namespace Session

open Overlay (Agrees)

variable {s s' : Session} {rasterizer : Rasterizer} {step : Step} {signal : Signal}
  {report : Report}

theorem Entry.agrees_of_wake (h : s.Entry rasterizer step s' .wake report) :
    s.overlay.Agrees s'.overlay := by
  generalize hsignal : Signal.wake = signal at h
  cases h with
  | frame free arrival => exact arrival.agrees
  | blockedFrame free arrival => exact arrival.agrees
  | control control =>
      subst hsignal
      exact control.agrees_of_wake
  | _ => exact ⟨rfl, rfl, rfl⟩

theorem TextWake.agrees {result : Option TextResult} (h : s.TextWake s' result) :
    s.overlay.Agrees s'.overlay := by
  cases h <;> exact ⟨rfl, rfl, rfl⟩

theorem FrameWake.agrees {result : Option FrameResult} (h : s.FrameWake rasterizer s' result) :
    s.overlay.Agrees s'.overlay := by
  cases h with
  | idle frame => exact ⟨rfl, rfl, rfl⟩
  | done frame turn => exact turn.agrees
  | waits frame turn => exact turn.agrees

/-- Every stage of a step begins with the settings that the step found. -/
theorem stagesOf_agree (s : Session) (rasterizer : Rasterizer) (step : Step) :
    ∀ stage ∈ s.stagesOf rasterizer step, s.overlay.Agrees stage.before.overlay := by
  obtain ⟨s', signal, report, henter, hentry⟩ := s.exists_entry rasterizer step
  have hsame : s.overlay.Agrees s.overlay := ⟨rfl, rfl, rfl⟩
  cases signal with
  | quiet =>
      rw [stagesOf_of_quiet henter]
      simpa using hsame
  | wake =>
      rw [stagesOf_of_wake henter]
      have hentered := hentry.agrees_of_wake
      simp only [List.forall_mem_cons]
      exact ⟨hsame, hentered, hentered.trans s'.wakeText_wake.agrees, by simp⟩

private theorem Entry.config_of_unconfigured (h : s.Entry rasterizer step s' signal report)
    (hstep : ∀ config, step = .configure config → config.isValid = false) :
    s'.overlay.config = s.overlay.config := by
  cases h with
  | frame free arrival => exact arrival.agrees.config
  | blockedFrame free arrival => exact arrival.agrees.config
  | control control =>
      by_cases hconfigure : ∃ config, step = .configure config
      · obtain ⟨config, rfl⟩ := hconfigure
        cases control with
        | configure => rw [Overlay.configure_of_invalid (hstep config rfl)]
      · exact control.config fun config hconfig => hconfigure ⟨config, hconfig⟩
  | _ => rfl

theorem step_config_of_unconfigured (s : Session) (rasterizer : Rasterizer) (step : Step)
    (hstep : ∀ config, step = .configure config → config.isValid = false) :
    (s.step rasterizer step).1.overlay.config = s.overlay.config := by
  obtain ⟨s', signal, report, henter, hentry⟩ := s.exists_entry rasterizer step
  have hentered := hentry.config_of_unconfigured hstep
  cases signal with
  | quiet =>
      rw [step_of_quiet henter]
      exact hentered
  | wake =>
      rw [step_of_wake henter]
      have hlooked := (s'.wakeText.1.wakeFrame_wake rasterizer).agrees.config
      exact hlooked.trans (s'.wakeText_wake.agrees.config.trans hentered)

/-- The configuration stays as long as no valid one is set. -/
theorem run_config_of_unconfigured (s : Session) (rasterizer : Rasterizer) (steps : List Step)
    (h : ∀ config, .configure config ∈ steps → config.isValid = false) :
    (s.run rasterizer steps).1.overlay.config = s.overlay.config := by
  induction steps generalizing s with
  | nil => rfl
  | cons step steps ih =>
      rw [show (s.run rasterizer (step :: steps)).1 =
        ((s.step rasterizer step).1.run rasterizer steps).1 from rfl]
      rw [ih _ fun config hmem => h config (List.mem_cons_of_mem _ hmem)]
      refine s.step_config_of_unconfigured rasterizer step fun config hconfig => ?_
      exact h config (hconfig ▸ List.mem_cons_self)

end Session

end Captioning
