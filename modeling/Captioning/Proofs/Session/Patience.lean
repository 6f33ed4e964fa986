import Captioning.Proofs.Render.Depiction
import Captioning.Proofs.Session.Waiting
import Mathlib.Data.List.Induction
import Mathlib.Tactic.ByContra

/-!
# Waiting that was turned off

A frame begins to wait only if the configuration lets frames wait for their text, and it asks
again whenever it looks.  But a new configuration gives no signal.  So a frame that waits when
waiting is turned off goes on waiting, until something else wakes it.
-/

namespace Captioning

namespace Overlay

variable {o o' : Overlay}

/-- Configurations that count as equal agree on whether frames wait. -/
theorem waitText_eq_of_beq {a b : Config} (h : (a == b) = true) : a.waitText = b.waitText := by
  obtain ⟨_, _, _, _, _, _, _, _, _, _, _, _, _, _, _, _, _, waits, _, _⟩ := a
  obtain ⟨_, _, _, _, _, _, _, _, _, _, _, _, _, _, _, _, _, waits', _, _⟩ := b
  simp only [BEq.beq, instBEqConfig.beq, Bool.and_eq_true, decide_eq_true_eq] at h
  simp_all

theorem configure_waitText {config : Config} (h : config.isValid = true) :
    (o.configure config).1.config.waitText = config.waitText := by
  have hcheck : config.check = .ok () := (Config.check_eq_ok_iff config).mpr h
  simp only [configure, hcheck]
  split
  next hsame => exact waitText_eq_of_beq hsame
  next _ => rfl

theorem configure_of_invalid {config : Config} (h : config.isValid = false) :
    (o.configure config).1 = o := by
  simp [configure, Config.check, h]

theorem Control.config {step : Step} {signal : Signal} (h : o.Control step o' signal)
    (hstep : ∀ config, step ≠ .configure config) : o'.config = o.config := by
  cases h with
  | videoEvent event => cases event <;> rfl
  | textEvent event => cases event <;> rfl
  | transit transition => cases transition <;> rfl
  | connect on => rfl
  | attach on => rfl
  | configure config => exact absurd rfl (hstep config)
  | provide provider => rfl

end Overlay

namespace Session

variable {s s' : Session} {rasterizer : Rasterizer} {step : Step} {signal : Signal}
  {report : Report}

/-- A frame waits only if the configuration lets frames wait. -/
def Patient (s : Session) : Prop :=
  s.frame.isSome = true → s.overlay.config.waitText = true

/-- A frame that waits has just been allowed to, when it looked last. -/
theorem FrameWake.patient {result : Option FrameResult}
    (hwake : s.FrameWake rasterizer s' result) : s'.Patient := by
  intro hframe
  obtain ⟨call, hcall⟩ := Option.isSome_iff_exists.mp hframe
  exact (Overlay.isTextPast_eq_false_iff.mp (hwake.ahead call hcall)).2.2.1

private theorem Entry.patient (h : s.Entry rasterizer step s' .quiet report) (hs : s.Patient)
    (hstep : ∀ config, step = .configure config → config.isValid = true →
      config.waitText = false → s.frame = none) : s'.Patient := by
  generalize hsignal : Signal.quiet = signal at h
  cases h with
  | busyFrame frame => exact hs
  | frame free arrival =>
      intro hframe
      simp [free] at hframe
  | blockedFrame free arrival =>
      cases arrival with
      | waits admission silent connected turn =>
          intro _
          exact (Overlay.isTextPast_eq_false_iff.mp turn.ahead).2.2.1
  | busyText text => exact hs
  | refusedText free admission => exact hs
  | discardedText free admission => exact hs
  | blockedText free admission slot => exact hs
  | storedText free admission slot => cases hsignal
  | control control =>
      intro hframe
      by_cases hconfigure : ∃ config, step = .configure config
      · obtain ⟨config, rfl⟩ := hconfigure
        cases control with
        | configure =>
            cases hvalid : config.isValid with
            | true =>
                rw [Overlay.configure_waitText hvalid]
                by_contra hoff
                have hnone := hstep config rfl hvalid (by simpa using hoff)
                simp [hnone] at hframe
            | false =>
                rw [Overlay.configure_of_invalid hvalid]
                exact hs hframe
      · have hother : ∀ config, step ≠ .configure config := by
          intro config hconfig
          exact hconfigure ⟨config, hconfig⟩
        rw [control.config hother]
        exact hs hframe

/-- A step keeps waiting and the configuration in agreement, unless it turns waiting off while a
frame waits. -/
theorem step_patient (hs : s.Patient)
    (hstep : ∀ config, step = .configure config → config.isValid = true →
      config.waitText = false → s.frame = none) : (s.step rasterizer step).1.Patient := by
  obtain ⟨s', signal, report, henter, hentry⟩ := s.exists_entry rasterizer step
  cases signal with
  | quiet =>
      rw [step_of_quiet henter]
      exact hentry.patient hs hstep
  | wake =>
      rw [step_of_wake henter]
      exact (s'.wakeText.1.wakeFrame_wake rasterizer).patient

theorem step_configure (s : Session) (rasterizer : Rasterizer) (config : Config) :
    s.step rasterizer (.configure config) =
      ({ s with overlay := (s.overlay.configure config).1 },
        ⟨.configured (s.overlay.configure config).2, none, none⟩) := rfl

/-- **Waiting that was turned off.**  In a session frames wait only while the configuration lets
them, after every step, exactly when waiting is never turned off while a frame waits.  When it
is, the frame goes on waiting. -/
theorem waits_while_enabled_iff (rasterizer : Rasterizer) (steps : List Step) :
    ((∀ before, before <+: steps →
        (initial.run rasterizer before).1.frame.isSome = true →
          (initial.run rasterizer before).1.overlay.config.waitText = true) ↔
      ∀ before config, before ++ [.configure config] <+: steps → config.isValid = true →
        config.waitText = false → (initial.run rasterizer before).1.frame = none) ∧
    ∀ before config, before ++ [.configure config] <+: steps → config.isValid = true →
      config.waitText = false → (initial.run rasterizer before).1.frame.isSome = true →
        (initial.run rasterizer (before ++ [.configure config])).1.frame =
            (initial.run rasterizer before).1.frame ∧
          (initial.run rasterizer (before ++ [.configure config])).1.overlay.config.waitText =
            false := by
  -- the session right after waiting was turned off
  have hoff : ∀ before config, config.isValid = true → config.waitText = false →
      (initial.run rasterizer (before ++ [.configure config])).1.frame =
          (initial.run rasterizer before).1.frame ∧
        (initial.run rasterizer (before ++ [.configure config])).1.overlay.config.waitText =
          false := by
    intro before config hvalid hwait
    rw [run_snoc, step_configure]
    exact ⟨rfl, (Overlay.configure_waitText hvalid).trans hwait⟩
  refine ⟨⟨?_, ?_⟩, fun before config _ hvalid hwait _ => hoff before config hvalid hwait⟩
  · intro hpatient before config hbefore hvalid hwait
    obtain ⟨hframe, hconfig⟩ := hoff before config hvalid hwait
    have hafter := hpatient _ hbefore
    rw [hframe, hconfig] at hafter
    by_contra hnone
    exact absurd (hafter (Option.isSome_iff_ne_none.mpr hnone)) (by simp)
  · intro hkept before
    -- along the prefixes, each of which is the one before it and one more step
    induction before using List.reverseRecOn with
    | nil =>
        intro _ hframe
        simp [run, initial] at hframe
    | append_singleton before step ih =>
        intro hbefore
        rw [run_snoc]
        refine step_patient (ih ((List.prefix_append before [step]).trans hbefore)) ?_
        intro config hconfig hvalid hwait
        subst hconfig
        exact hkept before config hbefore hvalid hwait

/-- A frame goes on waiting when waiting is turned off meanwhile. -/
theorem frame_outwaits_configuration :
    let s := (initial.run Rasterizer.white
      [.connect true,
        .frame ⟨some 0, some 40, .black ⟨.gray8, 2, 1, 0, 1, by decide, by decide⟩⟩,
        .configure { Config.initial with waitText := false }]).1
    s.frame.isSome = true ∧ s.overlay.config.waitText = false := ⟨rfl, rfl⟩

end Session

end Captioning
