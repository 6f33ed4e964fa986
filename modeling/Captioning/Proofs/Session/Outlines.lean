import Captioning.Proofs.Session.Stages

/-!
# What does not depend on images

Two sessions in which the same is done, but with different rasterizers, hold different images in
their caches from then on.  This file proves that they differ in nothing else: what happens to
overlays, to those who wait and to captions does not depend on the rasterizer or on the cache, and
of the results for frames only the frames themselves do.

## Strategy

The state of a session is compared without its cache (`Session.uncached`) and the results for
frames without the frames (`outline`).  Then each function of a session takes equal arguments to
equal results, whatever the rasterizers are.  One lemma says so for each function, up to
`Session.step_congr` and `Session.run_congr`.
-/

namespace Captioning

/-- A result for a frame without the frame. -/
def outline (result : FrameResult) : Except CaptionError Bool :=
  result.map Option.isSome

/-- Where a frame has come to, without the frame that leaves. -/
def Progress.outline : Progress → Except CaptionError Bool ⊕ FrameCall
  | .done result => .inl (Captioning.outline result)
  | .waits call => .inr call

theorem outline_eq_ok_true_iff {result : FrameResult} :
    outline result = .ok true ↔ ∃ frame, result = .ok (some frame) := by
  cases result <;> simp [outline, Except.map, Option.isSome_iff_exists]

/-! ## Overlays -/

namespace Overlay

variable {o o' : Overlay}

/-- The overlay without the images in its cache. -/
def uncached (o : Overlay) : Overlay :=
  { o with cache := .empty }

theorem exists_cache (h : o'.uncached = o.uncached) : ∃ cache, o' = { o with cache := cache } := by
  refine ⟨o'.cache, ?_⟩
  obtain ⟨⟩ := o
  obtain ⟨⟩ := o'
  simp only [uncached, Overlay.mk.injEq] at h ⊢
  simp only [h, and_self]

theorem lookAt_congr (h : o'.uncached = o.uncached) (span : TimeSpan) :
    (o'.lookAt span).1.uncached = (o.lookAt span).1.uncached ∧
      (o'.lookAt span).2 = (o.lookAt span).2 := by
  obtain ⟨cache, rfl⟩ := exists_cache h
  obtain ⟨flow, videoSegment, textSegment, slot, -, config, provider, attach, state⟩ := o
  simp only [lookAt]
  cases flow.videoFault? with
  | some error => exact ⟨rfl, rfl⟩
  | none =>
      cases slot with
      | none => exact ⟨rfl, rfl⟩
      | some item =>
          dsimp only
          cases classify (textSegment.span? item) span <;> exact ⟨rfl, rfl⟩

theorem admitFrame_congr (h : o'.uncached = o.uncached) (item : VideoItem) :
    o'.admitFrame item = o.admitFrame item := by
  obtain ⟨cache, rfl⟩ := exists_cache h
  rfl

theorem decisionAlone?_congr (h : o'.uncached = o.uncached) (call : FrameCall) :
    o'.decisionAlone? call = o.decisionAlone? call := by
  obtain ⟨cache, rfl⟩ := exists_cache h
  rfl

theorem reach_congr (h : o'.uncached = o.uncached) (start : ClockTime) :
    (o'.reach start).uncached = (o.reach start).uncached := by
  obtain ⟨cache, rfl⟩ := exists_cache h
  rfl

section Rasterizers

variable (rasterizer rasterizer' : Rasterizer)

/-- A caption leaves at the decision, and not at the image. -/
theorem finish_congr (h : o'.uncached = o.uncached) (call : FrameCall) (d : Decision) :
    (o'.finish rasterizer' call d).1.uncached = (o.finish rasterizer call d).1.uncached ∧
      (o'.finish rasterizer' call d).2.1 = (o.finish rasterizer call d).2.1 := by
  obtain ⟨cache, rfl⟩ := exists_cache h
  cases d with
  | passthrough => exact ⟨rfl, rfl⟩
  | overlay text consume => cases consume <;> exact ⟨rfl, rfl⟩

theorem proceed_congr (h : o'.uncached = o.uncached) (call : FrameCall) :
    (o'.proceed rasterizer' call).1.uncached = (o.proceed rasterizer call).1.uncached ∧
      (o'.proceed rasterizer' call).2.1 = (o.proceed rasterizer call).2.1 ∧
      (o'.proceed rasterizer' call).2.2.map outline =
        (o.proceed rasterizer call).2.2.map outline := by
  obtain ⟨hseen, hfound⟩ := lookAt_congr h call.span
  unfold proceed
  revert hseen hfound
  obtain ⟨seen, signal, verdict⟩ := o.lookAt call.span
  obtain ⟨seen', signal', verdict'⟩ := o'.lookAt call.span
  intro hseen hfound
  obtain ⟨rfl, rfl⟩ := Prod.mk.inj hfound
  cases verdict' with
  | refused error => exact ⟨hseen, rfl, rfl⟩
  | waiting => exact ⟨hseen, rfl, rfl⟩
  | decided d =>
      obtain ⟨hdone, hsignal⟩ := finish_congr rasterizer rasterizer' hseen call d
      exact ⟨hdone, congrArg (Signal.both signal') hsignal, rfl⟩

theorem schedule_congr (h : o'.uncached = o.uncached) (item : VideoItem) :
    (o'.schedule rasterizer' item).1.uncached = (o.schedule rasterizer item).1.uncached ∧
      (o'.schedule rasterizer' item).2.1 = (o.schedule rasterizer item).2.1 ∧
      (o'.schedule rasterizer' item).2.2.outline = (o.schedule rasterizer item).2.2.outline := by
  unfold schedule
  rw [admitFrame_congr h]
  cases o.admitFrame item with
  | dropped => exact ⟨h, rfl, rfl⟩
  | refused error => exact ⟨h, rfl, rfl⟩
  | unclocked part start => exact ⟨reach_congr h start, rfl, rfl⟩
  | admitted call =>
      dsimp only
      rw [decisionAlone?_congr h]
      cases o.decisionAlone? call with
      | some d =>
          obtain ⟨hdone, hsignal⟩ := finish_congr rasterizer rasterizer' h call d
          exact ⟨hdone, hsignal, rfl⟩
      | none =>
          have hproceed := proceed_congr rasterizer rasterizer' h call
          revert hproceed
          obtain ⟨seen, signal, result⟩ := o.proceed rasterizer call
          obtain ⟨seen', signal', result'⟩ := o'.proceed rasterizer' call
          rintro ⟨hseen, hsignal, hresult⟩
          cases result with
          | none =>
              obtain rfl : result' = none := by simpa using hresult
              exact ⟨hseen, hsignal, rfl⟩
          | some result =>
              obtain ⟨result', rfl, hsame⟩ := Option.map_eq_some_iff.mp hresult
              exact ⟨hseen, hsignal, congrArg Sum.inl hsame⟩

end Rasterizers

theorem store_congr (h : o'.uncached = o.uncached) (item : TextItem) :
    (o'.store item).uncached = (o.store item).uncached := by
  obtain ⟨cache, rfl⟩ := exists_cache h
  rfl

theorem configure_congr (h : o'.uncached = o.uncached) (config : Config) :
    (o'.configure config).1.uncached = (o.configure config).1.uncached ∧
      (o'.configure config).2 = (o.configure config).2 := by
  obtain ⟨cache, rfl⟩ := exists_cache h
  unfold configure
  cases config.check with
  | error error => exact ⟨rfl, rfl⟩
  | ok valid =>
      refine ⟨?_, rfl⟩
      dsimp only
      split <;> rfl

end Overlay

/-! ## Sessions -/

namespace Session

variable {s s' : Session}

/-- The session without the images in its cache. -/
def uncached (s : Session) : Session :=
  { s with overlay := s.overlay.uncached }

theorem exists_overlay (h : s'.uncached = s.uncached) :
    ∃ o, o.uncached = s.overlay.uncached ∧ s' = { s with overlay := o } := by
  obtain ⟨o, frame, text⟩ := s
  obtain ⟨o', frame', text'⟩ := s'
  obtain ⟨ho, rfl, rfl⟩ := Session.mk.inj h
  exact ⟨o', ho, rfl⟩

theorem uncached_overlay {o o' : Overlay} (h : o'.uncached = o.uncached)
    (frame : Option FrameCall) (text : Option TextItem) :
    (⟨o', frame, text⟩ : Session).uncached = (⟨o, frame, text⟩ : Session).uncached :=
  congrArg (Session.mk · frame text) h

theorem wakeText_congr (h : s'.uncached = s.uncached) :
    s'.wakeText.1.uncached = s.wakeText.1.uncached ∧ s'.wakeText.2 = s.wakeText.2 := by
  obtain ⟨o, frame, text⟩ := s
  obtain ⟨o', ho, rfl⟩ := exists_overlay h
  obtain ⟨cache, rfl⟩ := Overlay.exists_cache ho
  cases text with
  | none => exact ⟨rfl, rfl⟩
  | some item =>
      simp only [wakeText]
      split
      · exact ⟨rfl, rfl⟩
      · split
        · exact ⟨rfl, rfl⟩
        · exact ⟨rfl, rfl⟩

section Rasterizers

variable (rasterizer rasterizer' : Rasterizer)

theorem wakeFrame_congr (h : s'.uncached = s.uncached) :
    (s'.wakeFrame rasterizer').1.uncached = (s.wakeFrame rasterizer).1.uncached ∧
      (s'.wakeFrame rasterizer').2.map outline = (s.wakeFrame rasterizer).2.map outline := by
  obtain ⟨o, frame, text⟩ := s
  obtain ⟨o', ho, rfl⟩ := exists_overlay h
  cases frame with
  | none => exact ⟨h, rfl⟩
  | some call =>
      have hproceed := Overlay.proceed_congr rasterizer rasterizer' ho call
      simp only [wakeFrame]
      revert hproceed
      obtain ⟨seen, signal, result⟩ := o.proceed rasterizer call
      obtain ⟨seen', signal', result'⟩ := o'.proceed rasterizer' call
      rintro ⟨hseen, -, hresult⟩
      cases result with
      | none =>
          obtain rfl : result' = none := by simpa using hresult
          exact ⟨uncached_overlay hseen _ _, rfl⟩
      | some result =>
          obtain ⟨result', rfl, hsame⟩ := Option.map_eq_some_iff.mp hresult
          exact ⟨uncached_overlay hseen _ _, congrArg some hsame⟩

/-- Two entries of a step differ in nothing but the cache and the frame that leaves. -/
structure Echoes (entered entered' : Session × Signal × Report) : Prop where
  session : entered'.1.uncached = entered.1.uncached
  signal : entered'.2.1 = entered.2.1
  reply : entered'.2.2.reply = entered.2.2.reply
  video : entered'.2.2.video.map outline = entered.2.2.video.map outline
  text : entered'.2.2.text = entered.2.2.text

theorem enter_congr (h : s'.uncached = s.uncached) (step : Step) :
    Echoes (s.enter rasterizer step) (s'.enter rasterizer' step) := by
  obtain ⟨o, frame, text⟩ := s
  obtain ⟨o', ho, rfl⟩ := exists_overlay h
  cases step with
  | frame item =>
      simp only [enter]
      split
      · exact ⟨h, rfl, rfl, rfl, rfl⟩
      · have hschedule := Overlay.schedule_congr rasterizer rasterizer' ho item
        revert hschedule
        obtain ⟨left, signal, progress⟩ := o.schedule rasterizer item
        obtain ⟨left', signal', progress'⟩ := o'.schedule rasterizer' item
        rintro ⟨hleft, hsignal, hprogress⟩
        cases progress <;> cases progress'
        · exact ⟨uncached_overlay hleft _ _, hsignal, rfl,
            congrArg some (Sum.inl.inj hprogress), rfl⟩
        · cases hprogress
        · cases hprogress
        · obtain rfl := Sum.inr.inj hprogress
          exact ⟨uncached_overlay hleft _ _, hsignal, rfl, rfl, rfl⟩
  | text item =>
      have hadmission : o'.admitText item = o.admitText item := by
        obtain ⟨cache, rfl⟩ := Overlay.exists_cache ho
        rfl
      have hslot : o'.slot = o.slot := by
        obtain ⟨cache, rfl⟩ := Overlay.exists_cache ho
        rfl
      simp only [enter, hadmission, hslot]
      split
      · exact ⟨h, rfl, rfl, rfl, rfl⟩
      · split
        · exact ⟨h, rfl, rfl, rfl, rfl⟩
        · exact ⟨h, rfl, rfl, rfl, rfl⟩
        · split
          · exact ⟨uncached_overlay ho _ _, rfl, rfl, rfl, rfl⟩
          · exact ⟨uncached_overlay (Overlay.store_congr ho _) _ _, rfl, rfl, rfl, rfl⟩
  | configure config =>
      obtain ⟨hleft, hresult⟩ := Overlay.configure_congr ho config
      exact ⟨uncached_overlay hleft _ _, rfl, congrArg Reply.configured hresult, rfl, rfl⟩
  | videoEvent event =>
      obtain ⟨cache, rfl⟩ := Overlay.exists_cache ho
      cases event <;> exact ⟨rfl, rfl, rfl, rfl, rfl⟩
  | textEvent event =>
      obtain ⟨cache, rfl⟩ := Overlay.exists_cache ho
      cases event <;> exact ⟨rfl, rfl, rfl, rfl, rfl⟩
  | transit transition =>
      obtain ⟨cache, rfl⟩ := Overlay.exists_cache ho
      cases transition <;> exact ⟨rfl, rfl, rfl, rfl, rfl⟩
  | connect on =>
      obtain ⟨cache, rfl⟩ := Overlay.exists_cache ho
      exact ⟨rfl, rfl, rfl, rfl, rfl⟩
  | attach on =>
      obtain ⟨cache, rfl⟩ := Overlay.exists_cache ho
      exact ⟨rfl, rfl, rfl, rfl, rfl⟩
  | provide provider =>
      obtain ⟨cache, rfl⟩ := Overlay.exists_cache ho
      exact ⟨rfl, rfl, rfl, rfl, rfl⟩

/-- What a step does, and what it answers, does not depend on the rasterizer: only the images in
the cache and the frames that leave do. -/
theorem step_congr (h : s'.uncached = s.uncached) (step : Step) :
    (s'.step rasterizer' step).1.uncached = (s.step rasterizer step).1.uncached ∧
      (s'.step rasterizer' step).2.reply = (s.step rasterizer step).2.reply ∧
      (s'.step rasterizer' step).2.video.map outline =
        (s.step rasterizer step).2.video.map outline ∧
      (s'.step rasterizer' step).2.text = (s.step rasterizer step).2.text := by
  obtain ⟨hsession, hsignal, hreply, hvideo, htext⟩ := enter_congr rasterizer rasterizer' h step
  revert hsession hsignal hreply hvideo htext
  rcases henter : s.enter rasterizer step with ⟨t, signal, report⟩
  rcases henter' : s'.enter rasterizer' step with ⟨t', signal', report'⟩
  intro hsession hsignal hreply hvideo htext
  obtain rfl : signal' = signal := hsignal
  cases signal' with
  | quiet =>
      rw [step_of_quiet henter, step_of_quiet henter']
      exact ⟨hsession, hreply, hvideo, htext⟩
  | wake =>
      rw [step_of_wake henter, step_of_wake henter']
      obtain ⟨hstored, hcaption⟩ := wakeText_congr hsession
      obtain ⟨hlooked, hframe⟩ := wakeFrame_congr rasterizer rasterizer' hstored
      refine ⟨hlooked, hreply, ?_, ?_⟩
      · rw [Option.map_or, Option.map_or, hframe]
        exact congrArg (Option.or · _) hvideo
      · rw [hcaption]
        exact congrArg (Option.or · _) htext

theorem run_congr (h : s'.uncached = s.uncached) (steps : List Step) :
    (s'.run rasterizer' steps).1.uncached = (s.run rasterizer steps).1.uncached := by
  induction steps generalizing s s' with
  | nil => exact h
  | cons step steps ih => exact ih (step_congr rasterizer rasterizer' h step).1

end Rasterizers

end Session

/-! ## Stages -/

/-- Two stages differ in nothing but the cache and the frame that leaves. -/
structure Stage.Twins (stage stage' : Stage) : Prop where
  phase : stage'.phase = stage.phase
  before : stage'.before.uncached = stage.before.uncached
  video : stage'.video.map outline = stage.video.map outline

theorem Stage.Twins.config {stage stage' : Stage} (h : stage.Twins stage') :
    stage'.before.overlay.config = stage.before.overlay.config :=
  congrArg (·.overlay.config) h.before

theorem Stage.Twins.attach {stage stage' : Stage} (h : stage.Twins stage') :
    stage'.before.overlay.attach = stage.before.overlay.attach :=
  congrArg (·.overlay.attach) h.before

theorem Session.exists_twin {s s' : Session} (rasterizer rasterizer' : Rasterizer)
    (h : s'.uncached = s.uncached) (step : Step) :
    ∀ stage ∈ s.stagesOf rasterizer step,
      ∃ stage' ∈ s'.stagesOf rasterizer' step, stage.Twins stage' := by
  obtain ⟨hsession, hsignal, -, hvideo, -⟩ := enter_congr rasterizer rasterizer' h step
  revert hsession hsignal hvideo
  rcases henter : s.enter rasterizer step with ⟨t, signal, report⟩
  rcases henter' : s'.enter rasterizer' step with ⟨t', signal', report'⟩
  intro hsession hsignal hvideo
  obtain rfl : signal' = signal := hsignal
  cases signal' with
  | quiet =>
      rw [stagesOf_of_quiet henter, stagesOf_of_quiet henter']
      intro stage hmem
      obtain rfl := List.mem_singleton.mp hmem
      exact ⟨_, List.mem_singleton_self _, rfl, h, hvideo⟩
  | wake =>
      rw [stagesOf_of_wake henter, stagesOf_of_wake henter']
      have hstored := (wakeText_congr hsession).1
      have hframe := (wakeFrame_congr rasterizer rasterizer' hstored).2
      intro stage hmem
      rcases List.mem_cons.mp hmem with rfl | hmem
      · exact ⟨_, List.mem_cons_self, rfl, h, hvideo⟩
      rcases List.mem_cons.mp hmem with rfl | hmem
      · exact ⟨_, List.mem_cons_of_mem _ List.mem_cons_self, rfl, hsession, rfl⟩
      · obtain rfl := List.mem_singleton.mp hmem
        exact ⟨_, List.mem_cons_of_mem _ (List.mem_cons_of_mem _ List.mem_cons_self), rfl,
          hstored, hframe⟩

/-- A frame that leaves has a counterpart, and both leave in stages that are twins. -/
theorem Session.exists_twin_of_frame {s s' : Session} (rasterizer rasterizer' : Rasterizer)
    (h : s'.uncached = s.uncached) {step : Step} {frame : ScheduledFrame}
    (hframe : (s.step rasterizer step).2.video = some (.ok (some frame))) :
    ∃ frame', ∃ stage ∈ s.stagesOf rasterizer step, ∃ stage' ∈ s'.stagesOf rasterizer' step,
      stage.Twins stage' ∧ stage.video = some (.ok (some frame)) ∧
        stage'.video = some (.ok (some frame')) := by
  obtain ⟨stage, hmem, hleaves⟩ := exists_stage_of_video hframe
  obtain ⟨stage', hmem', htwins⟩ := exists_twin rasterizer rasterizer' h step stage hmem
  have houtline := htwins.video
  rw [hleaves] at houtline
  obtain ⟨result', hleaves', hok⟩ := Option.map_eq_some_iff.mp houtline
  obtain ⟨frame', rfl⟩ := outline_eq_ok_true_iff.mp hok
  exact ⟨frame', stage, hmem, stage', hmem', htwins, hleaves, hleaves'⟩

end Captioning
