import Captioning.Proofs.Session.Custody

/-!
# Halting

A halt does two things at once: it flushes both inputs, and it throws the pending caption away.
The second one frees the slot that a waiting caption waits for, and so it matters that a waiting
caption asks about the flush first.  This file proves that a halt lets nobody in: whoever waits
is turned away in the same step, and the halted session waits for nothing.
-/

namespace Captioning

namespace Overlay

variable {o : Overlay} {rasterizer : Rasterizer} {call : FrameCall}

theorem proceed_of_flushing (hflushing : o.flow.videoFlushing = true) :
    o.proceed rasterizer call = (o, .quiet, some (.error .flushing)) := by
  have hfault : o.flow.videoFault? = some .flushing := by simp [Flow.videoFault?, hflushing]
  simp only [proceed, lookAt, hfault]

end Overlay

namespace Session

variable {s : Session} {rasterizer : Rasterizer}

/-! ## Who looks during a flush -/

theorem wakeText_of_flushing (hflushing : s.overlay.flow.textFlushing = true) :
    s.wakeText = ({ s with text := none }, s.text.map fun _ => .error .flushing) := by
  unfold wakeText
  split
  next hnone =>
    obtain ⟨overlay, frame, text⟩ := s
    obtain rfl : text = none := hnone
    rfl
  next item hitem => rw [if_pos hflushing, hitem, Option.map_some]

theorem wakeFrame_of_flushing (hflushing : s.overlay.flow.videoFlushing = true) :
    s.wakeFrame rasterizer =
      ({ s with frame := none }, s.frame.map fun _ => .error .flushing) := by
  unfold wakeFrame
  split
  next hnone =>
    obtain ⟨overlay, frame, text⟩ := s
    obtain rfl : frame = none := hnone
    rfl
  next call hcall =>
    rw [Overlay.proceed_of_flushing hflushing, hcall, Option.map_some]

/-! ## The step -/

private theorem enter_halt (s : Session) (rasterizer : Rasterizer) :
    s.enter rasterizer (.transit .halt) =
      ({ s with overlay := (s.overlay.transit .halt).1 }, .wake, ⟨.done, none, none⟩) := rfl

/-- A halted session is the one before it with both inputs flushed, and without a pending caption
and without calls.  The calls that waited are turned away. -/
theorem step_halt (s : Session) (rasterizer : Rasterizer) :
    s.step rasterizer (.transit .halt) =
      (⟨(s.overlay.transit .halt).1, none, none⟩,
        ⟨.done, s.frame.map fun _ => .error .flushing, s.text.map fun _ => .error .flushing⟩) := by
  have htext : (s.overlay.transit .halt).1.flow.textFlushing = true := rfl
  have hvideo : (s.overlay.transit .halt).1.flow.videoFlushing = true := rfl
  rw [step_of_wake (enter_halt s rasterizer), wakeText_of_flushing htext,
    wakeFrame_of_flushing hvideo, Option.none_or, Option.none_or]

/-- None of the stages of a halt takes a caption in or asks for an image. -/
theorem stagesOf_halt (s : Session) (rasterizer : Rasterizer) :
    ∀ stage ∈ s.stagesOf rasterizer (.transit .halt),
      stage.stored? = none ∧ stage.after.overlay.cache = stage.before.overlay.cache := by
  have htext : (s.overlay.transit .halt).1.flow.textFlushing = true := rfl
  have hvideo : (s.overlay.transit .halt).1.flow.videoFlushing = true := rfl
  rw [stagesOf_of_wake (enter_halt s rasterizer), wakeText_of_flushing htext,
    wakeFrame_of_flushing hvideo]
  intro stage hmem
  rcases List.mem_cons.mp hmem with rfl | hmem
  · exact ⟨Stage.stored?_of_none rfl, rfl⟩
  rcases List.mem_cons.mp hmem with rfl | hmem
  · exact ⟨Stage.stored?_of_none rfl, rfl⟩
  · obtain rfl := List.mem_singleton.mp hmem
    exact ⟨Stage.stored?_of_none rfl, rfl⟩

/-- **A halt drains everything.**  Whatever has happened in a session, when it is halted each
call that waits comes to its end in that step, with the error of a flush.  No caption becomes
pending and no image is asked for on the way.  Afterwards no call waits, no caption is pending,
both inputs are flushed, and the overlay is stopped. -/
theorem halt_drains (rasterizer : Rasterizer) (steps : List Step) :
    let s := (initial.run rasterizer steps).1
    let halted := (s.step rasterizer (.transit .halt)).1
    let report := (s.step rasterizer (.transit .halt)).2
    (report.video = s.frame.map (fun _ => .error .flushing) ∧
        report.text = s.text.map (fun _ => .error .flushing)) ∧
      (∀ stage ∈ s.stagesOf rasterizer (.transit .halt),
        stage.stored? = none ∧ stage.after.overlay.cache = stage.before.overlay.cache) ∧
      (halted.frame = none ∧ halted.text = none) ∧ halted.overlay.slot = none ∧
      (halted.overlay.flow.videoFlushing = true ∧ halted.overlay.flow.textFlushing = true) ∧
      halted.overlay.state = .ready := by
  intro s halted report
  have hstep := s.step_halt rasterizer
  have hhalted : halted = ⟨(s.overlay.transit .halt).1, none, none⟩ := congrArg Prod.fst hstep
  have hreport : report = ⟨.done, s.frame.map fun _ => .error .flushing,
      s.text.map fun _ => .error .flushing⟩ := congrArg Prod.snd hstep
  refine ⟨?_, s.stagesOf_halt rasterizer, ?_⟩
  · rw [hreport]
    exact ⟨rfl, rfl⟩
  · rw [hhalted]
    exact ⟨⟨rfl, rfl⟩, rfl, ⟨rfl, rfl⟩, rfl⟩

end Session

end Captioning
