import Captioning.Proofs.Session.Treatment
import Mathlib.Data.List.Induction

/-!
# The calls that deliver frames

At most one frame is on its way, so the results for frames come in the order in which the frames
were delivered, and each result belongs to the frame that was delivered last.  This file finds
the delivery that a result belongs to.
-/

namespace Captioning

namespace Session

variable {s s' : Session} {rasterizer : Rasterizer} {step : Step} {signal : Signal}
  {report : Report} {item : VideoItem} {call : FrameCall} {during : List Step}

/-! ## The frame on its way -/

/-- What a step does to the frame on its way: the frame that is on its way afterwards, and the
result for the one that came to its end. -/
inductive Carries (s : Session) (step : Step) : Option FrameCall → Option FrameResult → Prop
  | idle (free : s.frame = none) : Carries s step none none
  | begins {item : VideoItem} {call : FrameCall} (free : s.frame = none)
      (arrives : step = .frame item) (admission : s.overlay.admitFrame item = .admitted call) :
      Carries s step (some call) none
  | answered {item : VideoItem} {result : FrameResult} (free : s.frame = none)
      (arrives : step = .frame item) : Carries s step none (some result)
  | waits {call : FrameCall} (frame : s.frame = some call) : Carries s step (some call) none
  | ends {call : FrameCall} {result : FrameResult} (frame : s.frame = some call) :
      Carries s step none (some result)

private theorem carries_still (s : Session) (step : Step) : s.Carries step s.frame none := by
  cases hframe : s.frame with
  | none => exact .idle hframe
  | some call => exact .waits hframe

theorem Entry.carries (h : s.Entry rasterizer step s' signal report) :
    s.Carries step s'.frame report.video := by
  cases h with
  | @frame item o signal result free arrival =>
      have hcarries : s.Carries (.frame item) none (some result) := .answered free rfl
      rwa [← free] at hcarries
  | blockedFrame free arrival =>
      cases arrival with
      | waits admission silent connected turn => exact .begins free rfl admission
  | _ => exact s.carries_still _

private theorem Carries.wake {u u' : Session} {video result : Option FrameResult}
    (h : s.Carries step u.frame video) (hwake : u.FrameWake rasterizer u' result) :
    s.Carries step u'.frame (video.or result) := by
  cases hwake with
  | idle frame =>
      rw [Option.or_none]
      exact h
  | done frame turn =>
      rw [frame] at h
      cases h with
      | begins free arrives admission => exact .answered free arrives
      | waits frame => exact .ends frame
  | waits frame turn =>
      rw [Option.or_none]
      exact h

/-- What happens in a step to the frame on its way. -/
theorem step_carries (s : Session) (rasterizer : Rasterizer) (step : Step) :
    s.Carries step (s.step rasterizer step).1.frame (s.step rasterizer step).2.video := by
  obtain ⟨s', signal, report, henter, hentry⟩ := s.exists_entry rasterizer step
  cases signal with
  | quiet =>
      rw [step_of_quiet henter]
      exact hentry.carries
  | wake =>
      rw [step_of_wake henter]
      have hcarries := hentry.carries
      rw [← s'.wakeText_wake.frame] at hcarries
      exact hcarries.wake (s'.wakeText.1.wakeFrame_wake rasterizer)

/-- Where no frame is on its way, only an arriving one can be on its way afterwards. -/
theorem step_frame_of_idle (hfree : s.frame = none) (hstep : ∀ item, step ≠ .frame item) :
    (s.step rasterizer step).1.frame = none := by
  have hcarries := s.step_carries rasterizer step
  generalize (s.step rasterizer step).1.frame = after, (s.step rasterizer step).2.video = result
    at hcarries ⊢
  cases hcarries with
  | begins free arrives admission => exact absurd arrives (hstep _)
  | waits frame => exact frame.symm.trans hfree
  | _ => rfl

private theorem entered_of_decision? {stage : Stage} {d : Decision}
    (hphase : stage.phase = .entry step) (hdecision : stage.decision? = some (call, d)) :
    stage.before.frame = none ∧
      ∃ item, step = .frame item ∧ stage.before.overlay.admitFrame item = .admitted call := by
  unfold Stage.decision? at hdecision
  rw [hphase] at hdecision
  split at hdecision
  next item harrives =>
    split at hdecision
    next hframe => cases hdecision
    next hframe =>
      refine ⟨by simpa using hframe, item, Phase.entry.inj harrives, ?_⟩
      exact Overlay.admitted_of_decision? hdecision
  next harrives => cases harrives
  next _ => cases hdecision

/-- The frame that is decided upon in a step has been on its way, or it arrives. -/
theorem frame_of_decision? {stage : Stage} {d : Decision}
    (hmem : stage ∈ s.stagesOf rasterizer step) (hdecision : stage.decision? = some (call, d)) :
    s.frame = some call ∨ s.frame = none ∧
      ∃ item, step = .frame item ∧ s.overlay.admitFrame item = .admitted call := by
  obtain ⟨s', signal, report, henter, hentry⟩ := s.exists_entry rasterizer step
  cases signal with
  | quiet =>
      rw [stagesOf_of_quiet henter] at hmem
      obtain rfl := List.mem_singleton.mp hmem
      exact .inr (entered_of_decision? rfl hdecision)
  | wake =>
      rw [stagesOf_of_wake henter] at hmem
      rcases List.mem_cons.mp hmem with rfl | hmem
      · exact .inr (entered_of_decision? rfl hdecision)
      rcases List.mem_cons.mp hmem with rfl | hmem
      · cases hdecision
      · obtain rfl := List.mem_singleton.mp hmem
        obtain ⟨call', hframe, hlook⟩ := Option.bind_eq_some_iff.mp hdecision
        obtain ⟨d', -, hcall⟩ := Option.map_eq_some_iff.mp hlook
        obtain ⟨rfl, -⟩ := Prod.mk.inj hcall
        -- the frame that looks was on its way before, or has been admitted at the entry
        have hcarries := hentry.carries
        rw [← s'.wakeText_wake.frame, hframe] at hcarries
        generalize report.video = video at hcarries
        cases hcarries with
        | begins free arrives admission => exact .inr ⟨free, _, arrives, admission⟩
        | waits frame => exact .inl frame

/-! ## From the delivery to the result -/

/-- The results for frames that steps give, one after the other. -/
def frameResults (s : Session) (rasterizer : Rasterizer) (steps : List Step) :
    List (Option FrameResult) :=
  (s.run rasterizer steps).2.map (·.video)

/-- A frame is delivered while no other one is on its way, steps follow, and the result comes
with the last one of all. -/
structure Serves (s : Session) (rasterizer : Rasterizer) (item : VideoItem)
    (during : List Step) (result : FrameResult) : Prop where
  free : s.frame = none
  results : s.frameResults rasterizer (.frame item :: during) =
    List.replicate during.length none ++ [some result]

/-- A frame is delivered and admitted, steps follow, and it still waits. -/
structure Awaits (s : Session) (rasterizer : Rasterizer) (item : VideoItem)
    (during : List Step) (call : FrameCall) : Prop where
  free : s.frame = none
  admission : s.overlay.admitFrame item = .admitted call
  waiting : (s.run rasterizer (.frame item :: during)).1.frame = some call
  results : s.frameResults rasterizer (.frame item :: during) =
    List.replicate (during.length + 1) none

theorem frameResults_snoc (s : Session) (rasterizer : Rasterizer) (steps : List Step)
    (step : Step) : s.frameResults rasterizer (steps ++ [step]) =
      s.frameResults rasterizer steps ++
        [((s.run rasterizer steps).1.step rasterizer step).2.video] := by
  rw [frameResults, run_append, List.map_append]
  rfl

theorem Awaits.waits (h : s.Awaits rasterizer item during call)
    (hframe : ((s.run rasterizer (.frame item :: during)).1.step rasterizer step).1.frame =
      some call)
    (hvideo : ((s.run rasterizer (.frame item :: during)).1.step rasterizer step).2.video =
      none) : s.Awaits rasterizer item (during ++ [step]) call where
  free := h.free
  admission := h.admission
  waiting := by
    rw [← List.cons_append, run_snoc]
    exact hframe
  results := by
    rw [← List.cons_append, frameResults_snoc, h.results, hvideo, List.length_append,
      List.length_singleton, ← List.replicate_succ']

theorem Awaits.serves {result : FrameResult} (h : s.Awaits rasterizer item during call)
    (hvideo : ((s.run rasterizer (.frame item :: during)).1.step rasterizer step).2.video =
      some result) : s.Serves rasterizer item (during ++ [step]) result where
  free := h.free
  results := by
    rw [← List.cons_append, frameResults_snoc, h.results, hvideo, List.length_append,
      List.length_singleton]

/-- A frame that waits has been delivered and admitted before. -/
theorem exists_awaits (rasterizer : Rasterizer) (steps : List Step)
    (hframe : (initial.run rasterizer steps).1.frame = some call) :
    ∃ first item during, steps = first ++ .frame item :: during ∧
      (initial.run rasterizer first).1.Awaits rasterizer item during call := by
  induction steps using List.reverseRecOn with
  | nil => cases hframe
  | append_singleton steps step ih =>
      have hcarries := (initial.run rasterizer steps).1.step_carries rasterizer step
      rw [run_snoc] at hframe
      generalize hvideo :
        ((initial.run rasterizer steps).1.step rasterizer step).2.video = video at hcarries
      rw [hframe] at hcarries
      cases hcarries with
      | @begins item _ free arrives admission =>
          subst arrives
          refine ⟨steps, item, [], rfl, free, admission, hframe, ?_⟩
          exact congrArg (fun video => [video]) hvideo
      | waits frame =>
          obtain ⟨first, item, during, rfl, hawaits⟩ := ih frame
          have hrun : (initial.run rasterizer (first ++ .frame item :: during)).1 =
              ((initial.run rasterizer first).1.run rasterizer (.frame item :: during)).1 := by
            rw [run_append]
          rw [hrun] at hframe hvideo
          exact ⟨first, item, during ++ [step], by simp, hawaits.waits hframe hvideo⟩

/-- How the frame that a step answers has come there: it is delivered in that step, or it was
admitted before and has waited since. -/
inductive Comes (rasterizer : Rasterizer) (before : List Step) (step : Step)
    (first : List Step) (item : VideoItem) : Prop
  | arrives (free : (initial.run rasterizer before).1.frame = none) (now : first = before)
      (delivery : step = .frame item)
  | waited {call : FrameCall} (frame : (initial.run rasterizer before).1.frame = some call)
      (admission : (initial.run rasterizer first).1.overlay.admitFrame item = .admitted call)

/-- **Every result for a frame belongs to a delivery.** -/
theorem exists_serves (rasterizer : Rasterizer) (before : List Step) (step : Step)
    {result : FrameResult}
    (hvideo : ((initial.run rasterizer before).1.step rasterizer step).2.video = some result) :
    ∃ first item during, before ++ [step] = first ++ .frame item :: during ∧
      (initial.run rasterizer first).1.Serves rasterizer item during result ∧
      Comes rasterizer before step first item := by
  have hcarries := (initial.run rasterizer before).1.step_carries rasterizer step
  rw [hvideo] at hcarries
  generalize ((initial.run rasterizer before).1.step rasterizer step).1.frame = frame at hcarries
  cases hcarries with
  | @answered item _ free arrives =>
      subst arrives
      refine ⟨before, item, [], rfl, ⟨free, ?_⟩, .arrives free rfl rfl⟩
      exact congrArg (fun video => [video]) hvideo
  | @ends call _ frame =>
      obtain ⟨first, item, during, rfl, hawaits⟩ := exists_awaits rasterizer before frame
      have hrun : (initial.run rasterizer (first ++ .frame item :: during)).1 =
          ((initial.run rasterizer first).1.run rasterizer (.frame item :: during)).1 := by
        rw [run_append]
      rw [hrun] at hvideo
      exact ⟨first, item, during ++ [step], by simp, hawaits.serves hvideo,
        .waited frame hawaits.admission⟩

/-- The frame that is decided upon in a step is the one that was admitted at the delivery. -/
theorem Comes.admission {before first : List Step} {stage : Stage} {d : Decision}
    (h : Comes rasterizer before step first item)
    (hmem : stage ∈ (initial.run rasterizer before).1.stagesOf rasterizer step)
    (hdecision : stage.decision? = some (call, d)) :
    (initial.run rasterizer first).1.overlay.admitFrame item = .admitted call := by
  rcases frame_of_decision? hmem hdecision with hframe | ⟨hnone, item', hstep, hadmission⟩
  · cases h with
    | arrives free now delivery => cases free.symm.trans hframe
    | waited frame admission =>
        obtain rfl := Option.some.inj (hframe.symm.trans frame)
        exact admission
  · cases h with
    | arrives free now delivery =>
        obtain rfl := Step.frame.inj (hstep.symm.trans delivery)
        rwa [now]
    | waited frame admission => cases hnone.symm.trans frame

end Session

end Captioning
