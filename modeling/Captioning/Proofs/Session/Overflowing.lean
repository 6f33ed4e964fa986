import Captioning.Proofs.Overlay.Overflowing
import Captioning.Proofs.Session.Treatment

/-!
# Steps that overflow

A step that is attempted either overflows or does what the step does.  A session in which nothing
overflows is therefore a session, and everything that is known of sessions is known of it.

Only frames overflow: the one that is delivered, at its arrival, and the one that waits, when it
looks again.  So a step overflows in its entry, or, if there is a signal, when the frame looks after
the caption (`overflow?_of_quiet`, `overflow?_of_wake`).  In both of these stages the frame has no
end, or what is decided upon it overflows (`Stage.overflow?_eq_some_iff`).
-/

namespace Captioning

namespace Session

variable {s s' : Session} {rasterizer : Rasterizer} {step : Step} {steps : List Step}
  {report : Report} {overflow : Overflow}

/-! ## One step -/

theorem attempt_eq_ok_iff {result : Session × Report} :
    s.attempt rasterizer step = .ok result ↔
      s.overflow? rasterizer step = none ∧ s.step rasterizer step = result := by
  unfold attempt
  cases s.overflow? rasterizer step <;> simp

theorem step_of_attempt (h : s.attempt rasterizer step = .ok (s', report)) :
    s' = (s.step rasterizer step).1 ∧ report = (s.step rasterizer step).2 := by
  obtain ⟨-, hstep⟩ := attempt_eq_ok_iff.mp h
  rw [hstep]
  exact ⟨rfl, rfl⟩

theorem attempt_of_none (h : s.overflow? rasterizer step = none) :
    s.attempt rasterizer step =
      .ok ((s.step rasterizer step).1, (s.step rasterizer step).2) :=
  attempt_eq_ok_iff.mpr ⟨h, rfl⟩

theorem attempt_eq_error_iff :
    s.attempt rasterizer step = .error overflow ↔
      s.overflow? rasterizer step = some overflow := by
  unfold attempt
  cases s.overflow? rasterizer step <;> simp

theorem overflow?_of_entry (h : s.entryOverflow? rasterizer step = some overflow) :
    s.overflow? rasterizer step = some overflow := by
  simp only [overflow?, h]

theorem overflow?_of_quiet (h : s.enter rasterizer step = (s', .quiet, report)) :
    s.overflow? rasterizer step = s.entryOverflow? rasterizer step := by
  unfold overflow?
  cases s.entryOverflow? rasterizer step with
  | some overflow => rfl
  | none => simp only [h]

theorem overflow?_of_wake (h : s.enter rasterizer step = (s', .wake, report)) :
    s.overflow? rasterizer step =
      (s.entryOverflow? rasterizer step).or (s'.wakeText.1.wakeOverflow? rasterizer) := by
  unfold overflow?
  cases s.entryOverflow? rasterizer step with
  | some overflow => rfl
  | none => simp only [h, Option.none_or]

/-- Where no frame is on its way, none looks again. -/
theorem wakeOverflow?_of_none (h : s.frame = none) : s.wakeOverflow? rasterizer = none := by
  simp only [wakeOverflow?, h, Option.bind_none]

/-- Where no frame waits after the entry of a step, only the entry overflows. -/
theorem overflow?_of_frame_none (h : (s.enter rasterizer step).1.frame = none) :
    s.overflow? rasterizer step = s.entryOverflow? rasterizer step := by
  rcases henter : s.enter rasterizer step with ⟨entered, signal, report⟩
  rw [henter] at h
  cases signal with
  | quiet => exact overflow?_of_quiet henter
  | wake =>
      have hfree : entered.wakeText.1.frame = none := entered.wakeText_wake.frame.trans h
      rw [overflow?_of_wake henter, wakeOverflow?_of_none hfree, Option.or_none]

/-- A frame that comes to its end overflows at its arrival or not at all. -/
theorem overflow?_of_schedule {item : VideoItem} {o : Overlay} {signal : Signal}
    {result : FrameResult} (hfree : s.frame = none)
    (h : s.overlay.schedule rasterizer item = (o, signal, .done result)) :
    s.overflow? rasterizer (.frame item) =
      s.overlay.arrivalOverflow? rasterizer (item.map VideoFrame.info) := by
  have hleft : (s.enter rasterizer (.frame item)).1.frame = none := by
    rw [enter_frame_of_schedule hfree h]
    exact hfree
  rw [overflow?_of_frame_none hleft]
  simp only [entryOverflow?, arrivalOverflow?, hfree, Option.isSome_none, Bool.false_eq_true,
    if_false]

/-- Where no frame is on its way, only frames overflow. -/
theorem overflow?_of_idle (hfree : s.frame = none) (hstep : ∀ item, step ≠ .frame item) :
    s.overflow? rasterizer step = none := by
  have hentry : s.entryOverflow? rasterizer step = none := by
    cases step with
    | frame item => exact absurd rfl (hstep item)
    | _ => rfl
  have hleft : (s.enter rasterizer step).1.frame = none := by
    have hentered := s.enter_entry rasterizer step
    generalize s.enter rasterizer step = entered at hentered
    obtain ⟨s', signal, report⟩ := entered
    cases hentered with
    | blockedFrame free arrival => exact absurd rfl (hstep _)
    | _ => exact hfree
  rw [overflow?_of_frame_none hleft, hentry]

end Session

/-! ## Stages -/

namespace Stage

variable {stage : Stage} {rasterizer : Rasterizer} {overflow : Overflow}

/-- What overflows in a stage, if anything does. -/
def overflow? (stage : Stage) (rasterizer : Rasterizer) : Option Overflow :=
  match stage.phase with
  | .entry step => stage.before.entryOverflow? rasterizer step
  | .textLook => none
  | .frameLook => stage.before.wakeOverflow? rasterizer

/-- A frame arrives in a stage, and it lies in its segment but has no end. -/
def Endless (stage : Stage) : Prop :=
  ∃ item part start, stage.phase = .entry (.frame item) ∧ stage.before.frame = none ∧
    stage.before.overlay.admitFrame item = .unclocked part start ∧
      Overlay.frameStop? stage.before.overlay.videoSegment part.payload.info part start = none

/-- A decision that is made for one frame. -/
private theorem exists_decided_iff {call : FrameCall} {d? : Option Decision}
    {p : FrameCall → Decision → Prop} :
    (∃ call' d, d?.map (fun d => (call, d)) = some (call', d) ∧ p call' d) ↔
      ∃ d, d? = some d ∧ p call d := by
  constructor
  · rintro ⟨call', d, hmap, hp⟩
    obtain ⟨d', hd, hpair⟩ := Option.map_eq_some_iff.mp hmap
    obtain ⟨rfl, rfl⟩ := Prod.mk.inj hpair
    exact ⟨d', hd, hp⟩
  · rintro ⟨d, rfl, hp⟩
    exact ⟨call, d, rfl, hp⟩

private theorem overflow?_of_arrival {item : VideoItem}
    (hphase : stage.phase = .entry (.frame item)) (hfree : stage.before.frame = none) :
    stage.overflow? rasterizer = some overflow ↔
      overflow = .frameStop ∧ stage.Endless ∨
        ∃ call d, stage.decision? = some (call, d) ∧
          stage.before.overlay.finishOverflow? rasterizer call.item.payload.info call.config d =
            some overflow := by
  have harrival : stage.overflow? rasterizer =
      stage.before.overlay.arrivalOverflow? rasterizer (item.map VideoFrame.info) := by
    simp only [overflow?, hphase, Session.entryOverflow?, Session.arrivalOverflow?, hfree,
      Option.isSome_none, Bool.false_eq_true, if_false]
  have hdecision : stage.decision? = stage.before.overlay.decision? item := by
    simp [decision?, hphase, hfree]
  have hendless : stage.Endless ↔ ∃ part start,
      stage.before.overlay.admitFrame item = .unclocked part start ∧
        Overlay.frameStop? stage.before.overlay.videoSegment part.payload.info part start =
          none := by
    constructor
    · rintro ⟨item', part, start, hphase', -, hadmission, hends⟩
      obtain rfl : item = item' := Step.frame.inj (Phase.entry.inj (hphase.symm.trans hphase'))
      exact ⟨part, start, hadmission, hends⟩
    · rintro ⟨part, start, hadmission, hends⟩
      exact ⟨item, part, start, hphase, hfree, hadmission, hends⟩
  rw [harrival, Overlay.arrivalOverflow?_eq, hdecision, hendless]
  unfold Overlay.decision?
  cases stage.before.overlay.admitFrame item with
  | dropped => simp
  | refused error => simp
  | unclocked part start =>
      have hsame : (∃ part' start', Admission.unclocked part start = .unclocked part' start' ∧
          Overlay.frameStop? stage.before.overlay.videoSegment part'.payload.info part' start' =
            none) ↔ Overlay.frameStop? stage.before.overlay.videoSegment part.payload.info part
              start = none := by
        constructor
        · rintro ⟨part', start', hunclocked, hends⟩
          obtain ⟨rfl, rfl⟩ := Admission.unclocked.inj hunclocked
          exact hends
        · exact fun hends => ⟨part, start, rfl, hends⟩
      simp only [hsame]
      cases Overlay.frameStop? stage.before.overlay.videoSegment part.payload.info part start <;>
        simp [eq_comm]
  | admitted call =>
      simp only [Option.bind_eq_some_iff, exists_decided_iff]
      simp

/-- What overflows in a stage is the end of a frame that has none, or what is decided upon it. -/
theorem overflow?_eq_some_iff :
    stage.overflow? rasterizer = some overflow ↔
      overflow = .frameStop ∧ stage.Endless ∨
        ∃ call d, stage.decision? = some (call, d) ∧
          stage.before.overlay.finishOverflow? rasterizer call.item.payload.info call.config d =
            some overflow := by
  cases hphase : stage.phase with
  | entry step =>
      have hstill (hnone : stage.overflow? rasterizer = none) (hdecision : stage.decision? = none)
          (hfrom : ¬ stage.Endless) : stage.overflow? rasterizer = some overflow ↔
            overflow = .frameStop ∧ stage.Endless ∨
              ∃ call d, stage.decision? = some (call, d) ∧
                stage.before.overlay.finishOverflow? rasterizer call.item.payload.info call.config
                  d = some overflow := by
        simp [hnone, hdecision, hfrom]
      cases step with
      | frame item =>
          cases hframe : stage.before.frame with
          | none => exact overflow?_of_arrival hphase hframe
          | some call =>
              exact hstill (by simp [overflow?, hphase, Session.entryOverflow?,
                Session.arrivalOverflow?, hframe]) (by simp [decision?, hphase, hframe])
                (by simp [Endless, hframe])
      | _ =>
          exact hstill (by simp [overflow?, hphase, Session.entryOverflow?])
            (by simp [decision?, hphase]) (by simp [Endless, hphase])
  | textLook => simp [overflow?, decision?, Endless, hphase]
  | frameLook =>
      have hendless : ¬ stage.Endless := by simp [Endless, hphase]
      cases hframe : stage.before.frame with
      | none => simp [overflow?, decision?, Session.wakeOverflow?, hphase, hframe, hendless]
      | some call =>
          simp only [overflow?, decision?, Session.wakeOverflow?, hphase, hframe, hendless,
            Option.bind_some, Overlay.lookOverflow?_eq, Option.bind_eq_some_iff,
            exists_decided_iff, and_false, false_or]

end Stage

namespace Session

variable {s s' : Session} {rasterizer : Rasterizer} {step : Step} {steps : List Step}
  {report : Report} {overflow : Overflow}

/-- What overflows in a step overflows in one of its stages. -/
theorem overflow?_eq_findSome? (s : Session) (rasterizer : Rasterizer) (step : Step) :
    s.overflow? rasterizer step =
      (s.stagesOf rasterizer step).findSome? (·.overflow? rasterizer) := by
  obtain ⟨s', signal, report, henter, -⟩ := s.exists_entry rasterizer step
  cases signal with
  | quiet =>
      rw [stagesOf_of_quiet henter, overflow?_of_quiet henter]
      simp [Stage.overflow?]
  | wake =>
      rw [stagesOf_of_wake henter, overflow?_of_wake henter]
      simp only [Stage.overflow?, List.findSome?_cons, List.findSome?_nil]
      cases s.entryOverflow? rasterizer step <;>
        cases s'.wakeText.1.wakeOverflow? rasterizer <;> rfl

/-! ## Runs -/

theorem attempts_nil (s : Session) (rasterizer : Rasterizer) :
    s.attempts rasterizer [] = .ok (s, []) :=
  rfl

theorem attempts_cons (s : Session) (rasterizer : Rasterizer) (step : Step) (steps : List Step) :
    s.attempts rasterizer (step :: steps) =
      match s.overflow? rasterizer step with
      | some overflow => .error overflow
      | none => ((s.step rasterizer step).1.attempts rasterizer steps).map fun rest =>
          (rest.1, (s.step rasterizer step).2 :: rest.2) := by
  rw [attempts, attempt]
  cases s.overflow? rasterizer step with
  | some overflow => rfl
  | none =>
      dsimp only [bind, Except.bind]
      cases (s.step rasterizer step).1.attempts rasterizer steps <;> rfl

theorem attempts_cons_eq_ok_iff {result : Session × List Report} :
    s.attempts rasterizer (step :: steps) = .ok result ↔
      s.overflow? rasterizer step = none ∧
        ∃ rest, (s.step rasterizer step).1.attempts rasterizer steps = .ok rest ∧
          (rest.1, (s.step rasterizer step).2 :: rest.2) = result := by
  rw [attempts_cons]
  cases s.overflow? rasterizer step with
  | some overflow => simp
  | none =>
      cases (s.step rasterizer step).1.attempts rasterizer steps with
      | error overflow => simp [Except.map]
      | ok rest => simp [Except.map]

/-- A session in which nothing overflows is what the steps make of it. -/
theorem run_of_attempts {result : Session × List Report}
    (h : s.attempts rasterizer steps = .ok result) : s.run rasterizer steps = result := by
  induction steps generalizing s result with
  | nil => exact Except.ok.inj h
  | cons step steps ih =>
      obtain ⟨-, rest, hrest, rfl⟩ := attempts_cons_eq_ok_iff.mp h
      simp only [run, ih hrest]

theorem attempts_eq_run (h : (s.attempts rasterizer steps).isOk = true) :
    s.attempts rasterizer steps = .ok (s.run rasterizer steps) := by
  cases hrun : s.attempts rasterizer steps with
  | error overflow =>
      rw [hrun] at h
      cases h
  | ok result => rw [run_of_attempts hrun]

/-- The first steps of a session in which nothing overflows. -/
theorem attempts_of_append {first second : List Step} {result : Session × List Report}
    (h : s.attempts rasterizer (first ++ second) = .ok result) :
    ∃ s' reports, s.attempts rasterizer first = .ok (s', reports) := by
  induction first generalizing s result with
  | nil => exact ⟨s, [], rfl⟩
  | cons step first ih =>
      obtain ⟨hnone, rest, hrest, -⟩ := attempts_cons_eq_ok_iff.mp h
      obtain ⟨s', reports, hfirst⟩ := ih hrest
      exact ⟨s', _, attempts_cons_eq_ok_iff.mpr ⟨hnone, _, hfirst, rfl⟩⟩

end Session

end Captioning
