import Captioning.Proofs.Session.Stages
import Captioning.Proofs.Session.Tracking

/-!
# Every order of steps gives the same frames

In a screening both sides act in any order, and a call that has to wait is resumed by the other
side.  Whatever the order is, each frame leaves with the caption that belongs to it.

## Strategy

A session runs a screening if its overlay is on track for the captions and frames that are to
come, those that wait included.  The looks of those who wait keep it running
(`Running.textWake`, `Running.frameWake`), and so do the entries of the steps that a screening
consists of.  Each of them adds to the results so far at most the next one of a fixed list
(`Continues`), and by induction along the steps the results of a run are the first ones of this
list (`Running.run`).
-/

namespace Captioning

/-- Whether a step brings a frame. -/
def Step.isFrame : Step → Bool
  | .frame _ => true
  | _ => false

namespace Screening

/-- How far a screening has come in a session that still has to bring some captions and frames. -/
inductive Running (S : Screening) (s : Session) (cues : List TimedText) (shots : List TimedFrame)
    (ended : Bool) (done : List TimedFrame) : Prop
  | intro {gone : List TimedText} {pending : Option TimedText} (waiting : Option TimedText)
      (calling : Option TimedFrame) (text : s.text = waiting.map TimedText.item)
      (frame : s.frame = calling.map S.call)
      (onTrack : S.OnTrack s.overlay gone pending (waiting.toList ++ cues) done
        (calling.toList ++ shots) ended)

/-- The results up to the frames that are done now are those before and a new one, if any. -/
def Continues (S : Screening) (done done' : List TimedFrame) (new : Option FrameResult) : Prop :=
  S.results.take done'.length = S.results.take done.length ++ new.toList

variable {S : Screening} {s s' : Session} {cues : List TimedText} {shots : List TimedFrame}
  {shot : TimedFrame} {cue : TimedText} {ended : Bool} {done done' : List TimedFrame}

theorem continues_none : S.Continues done done none := by
  simp [Continues]

theorem continues_outcome {left : List TimedFrame} (hshots : S.shots = done ++ shot :: left) :
    S.Continues done (done ++ [shot]) (some (.ok (some (S.outcome done shot)))) := by
  have hnext : S.results[done.length]? = some (.ok (some (S.outcome done shot))) := by
    rw [results, List.getElem?_mapIdx, hshots]
    simp
  rw [Continues, List.length_append, List.length_singleton, List.take_add_one, hnext]

theorem Begins.running (h : S.Begins s) : S.Running s S.cues S.shots false [] := by
  have honTrack : S.OnTrack s.overlay [] none S.cues [] S.shots false := by
    refine ⟨rfl, rfl, by simp, by simp, h.flow, ⟨0, h.videoSegment⟩, ⟨0, h.textSegment, ?_⟩,
      h.config, h.attach, h.slot, by simp [shown], ?_, by simp⟩
    · exact fun t ht _ => ht
    · rw [h.cache]
      rfl
  exact .intro none none h.text h.frame honTrack

namespace Running

theorem textWake {result : Option TextResult} (h : S.Running s cues shots ended done)
    (hwake : s.TextWake s' result) : S.Running s' cues shots ended done := by
  obtain ⟨waiting, calling, htext, hframe, honTrack⟩ := h
  cases hwake with
  | idle text => exact .intro waiting calling htext hframe honTrack
  | blocked text flushing slot => exact .intro waiting calling htext hframe honTrack
  | flushed text flushing =>
      rw [honTrack.flow] at flushing
      cases flushing
  | stored text flushing slot =>
      obtain ⟨cue, rfl, rfl⟩ := Option.map_eq_some_iff.mp (htext.symm.trans text)
      obtain rfl := Option.map_eq_none_iff.mp (honTrack.slot.symm.trans slot)
      exact .intro none calling rfl hframe honTrack.store

private theorem turned {o : Overlay} {result : Option FrameResult} {waiting : Option TimedText}
    (htext : s.text = waiting.map TimedText.item)
    (hturned : S.Turned o (waiting.toList ++ cues) done shot shots ended result) :
    ∃ done', S.Continues done done' result ∧
      S.Running ⟨o, if result.isSome then none else some (S.call shot), s.text⟩
        cues shots ended done' := by
  cases hturned with
  | waits onTrack =>
      exact ⟨done, continues_none, .intro waiting (some shot) htext rfl onTrack⟩
  | done onTrack =>
      have hshots : S.shots = done ++ shot :: shots := by
        rw [onTrack.shots]
        simp
      exact ⟨done ++ [shot], continues_outcome hshots,
        .intro waiting none htext rfl onTrack⟩

theorem frameWake {result : Option FrameResult} (h : S.Running s cues shots ended done)
    (hwake : s.FrameWake S.rasterizer s' result) :
    ∃ done', S.Continues done done' result ∧ S.Running s' cues shots ended done' := by
  obtain ⟨waiting, calling, htext, hframe, honTrack⟩ := h
  cases hwake with
  | idle frame => exact ⟨done, continues_none, .intro waiting calling htext hframe honTrack⟩
  | done frame turn =>
      obtain ⟨shot, rfl, rfl⟩ := Option.map_eq_some_iff.mp (hframe.symm.trans frame)
      exact turned htext (honTrack.turn turn)
  | waits frame turn =>
      obtain ⟨shot, rfl, rfl⟩ := Option.map_eq_some_iff.mp (hframe.symm.trans frame)
      rw [frame]
      exact turned htext (honTrack.turn turn)

/-! ## The entries of steps -/

variable {signal : Signal} {report : Report}

theorem enter_frame (h : S.Running s cues (shot :: shots) ended done) (hfree : s.frame = none)
    (hentry : s.Entry S.rasterizer (.frame shot.item) s' signal report) :
    ∃ done', S.Continues done done' report.video ∧ S.Running s' cues shots ended done' := by
  obtain ⟨waiting, calling, htext, hframe, honTrack⟩ := h
  obtain rfl := Option.map_eq_none_iff.mp (hframe.symm.trans hfree)
  obtain ⟨p, hsegment⟩ := honTrack.video
  have hfault : s.overlay.flow.videoFault? = none := by
    rw [honTrack.flow]
    rfl
  have htaken : s.overlay.admitFrame shot.item = .admitted (S.call shot) := by
    rw [shot.admitFrame hfault hsegment, honTrack.config]
    rfl
  have hconnected : s.overlay.flow.textConnected = true := by rw [honTrack.flow]
  cases hentry with
  | busyFrame frame => simp [hfree] at frame
  | frame free arrival =>
      cases arrival with
      | dropped admission => simp [htaken] at admission
      | refused admission => simp [htaken] at admission
      | unclocked admission => simp [htaken] at admission
      | silent admission silent =>
          obtain rfl := Admission.admitted.inj (htaken.symm.trans admission)
          simp [call, S.speaks] at silent
      | provided admission silent connected d keeps => simp [hconnected] at connected
      | decided admission silent connected turn =>
          obtain rfl := Admission.admitted.inj (htaken.symm.trans admission)
          rw [free]
          exact turned htext (honTrack.turn turn)
  | blockedFrame free arrival =>
      cases arrival with
      | waits admission silent connected turn =>
          obtain rfl := Admission.admitted.inj (htaken.symm.trans admission)
          exact turned htext (honTrack.turn turn)
  | control control => cases control

theorem enter_text (h : S.Running s (cue :: cues) shots false done) (hfree : s.text = none)
    (hentry : s.Entry S.rasterizer (.text cue.item) s' signal report) :
    S.Continues done done report.video ∧ S.Running s' cues shots false done := by
  obtain ⟨waiting, calling, htext, hframe, honTrack⟩ := h
  obtain rfl := Option.map_eq_none_iff.mp (htext.symm.trans hfree)
  obtain ⟨p, hsegment, -⟩ := honTrack.text
  have hfault : s.overlay.flow.textFault? = none := by
    rw [honTrack.flow]
    rfl
  have htaken := cue.admitText hfault hsegment
  cases hentry with
  | busyText text => simp [hfree] at text
  | refusedText free admission => simp [htaken] at admission
  | discardedText free admission => simp [htaken] at admission
  | blockedText free admission slot =>
      obtain rfl := Option.some.inj (Except.ok.inj (htaken.symm.trans admission))
      exact ⟨continues_none, .intro (some cue) calling rfl hframe honTrack⟩
  | storedText free admission slot =>
      obtain rfl := Option.some.inj (Except.ok.inj (htaken.symm.trans admission))
      obtain rfl := Option.map_eq_none_iff.mp (honTrack.slot.symm.trans slot)
      exact ⟨continues_none, .intro none calling htext hframe honTrack.store⟩
  | control control => cases control

theorem enter_eos (h : S.Running s [] shots false done) (hfree : s.text = none)
    (hentry : s.Entry S.rasterizer (.textEvent .eos) s' signal report) :
    S.Continues done done report.video ∧ S.Running s' [] shots true done := by
  obtain ⟨waiting, calling, htext, hframe, honTrack⟩ := h
  obtain rfl := Option.map_eq_none_iff.mp (htext.symm.trans hfree)
  cases hentry with
  | control control =>
      cases control with
      | textEvent =>
          refine ⟨continues_none, .intro none calling htext hframe { honTrack with
            complete := fun _ => rfl
            flow := ?_ }⟩
          show { s.overlay.flow with textEnded := true } = _
          rw [honTrack.flow]

/-! ## Steps and runs -/

theorem conclude {step : Step} (henter : s.enter S.rasterizer step = (s', signal, report))
    (hcontinues : S.Continues done done' report.video)
    (h : S.Running s' cues shots ended done') :
    ∃ done'', S.Continues done done'' (s.step S.rasterizer step).2.video ∧
      S.Running (s.step S.rasterizer step).1 cues shots ended done'' := by
  cases signal with
  | quiet =>
      rw [Session.step_of_quiet henter]
      exact ⟨done', hcontinues, h⟩
  | wake =>
      have hstored := h.textWake s'.wakeText_wake
      obtain ⟨done'', hlooked, hrunning⟩ :=
        hstored.frameWake (s'.wakeText.1.wakeFrame_wake S.rasterizer)
      refine ⟨done'', ?_, ?_⟩
      · rw [Continues, hlooked, hcontinues, Session.video_of_wake henter, List.append_assoc]
      · rw [Session.step_of_wake henter]
        exact hrunning

theorem step_frame (h : S.Running s cues (shot :: shots) ended done) (hfree : s.frame = none) :
    ∃ done', S.Continues done done' (s.step S.rasterizer (.frame shot.item)).2.video ∧
      S.Running (s.step S.rasterizer (.frame shot.item)).1 cues shots ended done' := by
  obtain ⟨s', signal, report, henter, hentry⟩ := s.exists_entry S.rasterizer (.frame shot.item)
  obtain ⟨done', hcontinues, hentered⟩ := h.enter_frame hfree hentry
  exact conclude henter hcontinues hentered

theorem step_text (h : S.Running s (cue :: cues) shots false done) (hfree : s.text = none) :
    ∃ done', S.Continues done done' (s.step S.rasterizer (.text cue.item)).2.video ∧
      S.Running (s.step S.rasterizer (.text cue.item)).1 cues shots false done' := by
  obtain ⟨s', signal, report, henter, hentry⟩ := s.exists_entry S.rasterizer (.text cue.item)
  obtain ⟨hcontinues, hentered⟩ := h.enter_text hfree hentry
  exact conclude henter hcontinues hentered

theorem step_eos (h : S.Running s [] shots false done) (hfree : s.text = none) :
    ∃ done', S.Continues done done' (s.step S.rasterizer (.textEvent .eos)).2.video ∧
      S.Running (s.step S.rasterizer (.textEvent .eos)).1 [] shots true done' := by
  obtain ⟨s', signal, report, henter, hentry⟩ := s.exists_entry S.rasterizer (.textEvent .eos)
  obtain ⟨hcontinues, hentered⟩ := h.enter_eos hfree hentry
  exact conclude henter hcontinues hentered

private theorem results_cons {step : Step} {steps : List Step} {last : List TimedFrame}
    (hstep : S.Continues done done' (s.step S.rasterizer step).2.video)
    (hrest : S.results.take last.length = S.results.take done'.length ++
      ((s.step S.rasterizer step).1.run S.rasterizer steps).2.filterMap (·.video)) :
    S.results.take last.length = S.results.take done.length ++
      (s.run S.rasterizer (step :: steps)).2.filterMap (·.video) := by
  rw [hrest, hstep, List.append_assoc, Session.run, filterMap_cons_toList]

/-- What a run of a screening leads to: the results continue, as many frames were brought as are
not left, and an end of the text input lasts. -/
theorem run {steps : List Step} (h : S.Running s cues shots ended done)
    (hsteps : S.Interleaves s cues shots ended steps) :
    ∃ cues' shots' ended' last,
      S.Running (s.run S.rasterizer steps).1 cues' shots' ended' last ∧
      S.results.take last.length = S.results.take done.length ++
        (s.run S.rasterizer steps).2.filterMap (·.video) ∧
      steps.countP Step.isFrame + shots'.length = shots.length ∧
      (ended = true ∨ .textEvent .eos ∈ steps → ended' = true) := by
  -- along the steps, each of which may finish the frame that waits
  induction hsteps generalizing done with
  | stop =>
      refine ⟨_, _, _, done, h, ?_, by simp, by simp⟩
      simp [Session.run]
  | @text s cue cues shots steps free rest ih =>
      obtain ⟨done', hstep, hrunning⟩ := h.step_text free
      obtain ⟨cues', shots', ended', last, hlast, hresults, hcount, hended⟩ := ih hrunning
      refine ⟨cues', shots', ended', last, hlast, results_cons hstep hresults, ?_, ?_⟩
      · rw [List.countP_cons_of_neg (by simp [Step.isFrame])]
        exact hcount
      · simpa using hended
  | @frame s cues shot shots ended steps free rest ih =>
      obtain ⟨done', hstep, hrunning⟩ := h.step_frame free
      obtain ⟨cues', shots', ended', last, hlast, hresults, hcount, hended⟩ := ih hrunning
      refine ⟨cues', shots', ended', last, hlast, results_cons hstep hresults, ?_, ?_⟩
      · rw [List.countP_cons_of_pos (by simp [Step.isFrame]), List.length_cons, ← hcount]
        omega
      · simpa using hended
  | @eos s shots steps free rest ih =>
      obtain ⟨done', hstep, hrunning⟩ := h.step_eos free
      obtain ⟨cues', shots', ended', last, hlast, hresults, hcount, hended⟩ := ih hrunning
      refine ⟨cues', shots', ended', last, hlast, results_cons hstep hresults, ?_, ?_⟩
      · rw [List.countP_cons_of_neg (by simp [Step.isFrame])]
        exact hcount
      · exact fun _ => hended (.inl rfl)

end Running

/-- **Every order of steps gives the same frames.**  However the captions and the frames of a
screening come to a new overlay, the frames that are done are its first ones, and each has left
with the caption that belongs to it, or as it came if there is none.  Only the last frame that
was brought can still be waiting, and not once the text input has ended.  There has been one
image for each caption that was shown. -/
theorem outcomes_of_interleaves (S : Screening) {s : Session} (hs : S.Begins s)
    {steps : List Step} (hsteps : S.Interleaves s S.cues S.shots false steps) :
    let last := (s.run S.rasterizer steps).1
    let results := (s.run S.rasterizer steps).2.filterMap (·.video)
    (∀ k result, results[k]? = some result → ∃ shot, S.shots[k]? = some shot ∧
      result = .ok (some (S.outcome (S.shots.take k) shot)) ∧
      (S.outcome (S.shots.take k) shot).isOverlaid = (S.cueFor? shot).isSome) ∧
    steps.countP Step.isFrame = results.length + last.frame.toList.length ∧
    (.textEvent .eos ∈ steps → last.frame = none) ∧
    last.overlay.cache.renders = (S.shown (S.shots.take results.length)).card := by
  intro last results
  obtain ⟨cues, shots, ended, done, hrunning, hresults, hcount, hended⟩ :=
    hs.running.run hsteps
  obtain ⟨waiting, calling, htext, hframe, honTrack⟩ := hrunning
  -- the frames that are done are as many as there are results
  have hprefix : S.results.take done.length = results := hresults
  have hlength : results.length = done.length := by
    rw [← hprefix, List.length_take, Screening.results, List.length_mapIdx, honTrack.shots,
      List.length_append]
    omega
  refine ⟨?_, ?_, ?_, ?_⟩
  · intro k result hresult
    rw [← hprefix, List.getElem?_take, Screening.results, List.getElem?_mapIdx] at hresult
    split at hresult
    · obtain ⟨shot, hshot, rfl⟩ := Option.map_eq_some_iff.mp hresult
      exact ⟨shot, hshot, rfl, S.isOverlaid_outcome _ _⟩
    · cases hresult
  · have hshots := congrArg List.length honTrack.shots
    have hwaiting : last.frame.toList.length = calling.toList.length := by
      rw [show last.frame = calling.map S.call from hframe]
      cases calling <;> rfl
    rw [List.length_append, List.length_append] at hshots
    omega
  · -- a frame waits only as long as the text input is open
    intro heos
    have hsettled : last.Settled := by
      refine Session.run_invariant Session.Settled (fun _ step h => Session.step_settled h step)
        steps ?_
      exact ⟨.inl hs.frame, by simp [hs.text], by simp [hs.frame]⟩
    cases hcall : last.frame with
    | none => rfl
    | some call =>
        have hopen := (hsettled.frame call hcall).textEnded
        rw [show last.overlay.flow = _ from honTrack.flow, hended (.inr heos)] at hopen
        cases hopen
  · rw [hlength, honTrack.shots, List.take_left]
    exact honTrack.renders

/-- Two captions that overlap, and three frames. -/
def matinee : Screening where
  cues := [⟨⟨some 20, some 50, .ofString "a" .plain⟩, 20, 70, rfl, rfl⟩,
    ⟨⟨some 30, some 30, .ofString "b" .plain⟩, 30, 60, rfl, rfl⟩]
  shots :=
    let frame : VideoFrame := .black ⟨.gray8, 2, 1, 0, 1, Nat.zero_lt_two, Nat.zero_lt_one⟩
    [.ofStop ⟨some 0, some 40, frame⟩ 0 40 rfl rfl (by decide),
      .ofStop ⟨some 40, some 40, frame⟩ 40 80 rfl rfl (by decide),
      .ofStop ⟨some 80, some 40, frame⟩ 80 120 rfl rfl (by decide)]
  config := .initial
  attach := false
  width := 2
  height := 1
  draw text _ := Raster.whiteRow text
  ordered := by simp [TimedFrame.ofStop]
  sized := by simp [TimedFrame.ofStop, VideoFrame.black, VideoFrame.filled]
  waits := rfl
  speaks := rfl
  wellFormed _ _ := Raster.isWellFormed_ofFn _ _ _ _
  visible _ _ := by simp [Raster.whiteRow, Raster.isEmpty, Raster.ofFn]

/-- A session in which the matinee can begin. -/
def opened : Session :=
  (Session.initial.run matinee.rasterizer (matinee.setup true)).1

/-- The first frame waits for the first caption, the second caption waits until the second frame
has consumed the first one, and the third frame waits until the text input ends. -/
theorem renders_of_matinee :
    let frames := matinee.shots.map fun shot => Step.frame shot.item
    let texts := matinee.cues.map fun cue => Step.text cue.item
    let steps := frames.take 1 ++ texts ++ frames.drop 1 ++ [.textEvent .eos]
    matinee.Begins opened ∧ matinee.Interleaves opened matinee.cues matinee.shots false steps ∧
      (opened.run matinee.rasterizer steps).1.overlay.cache.renders = 1 := by
  intro frames texts steps
  have hbegins : matinee.Begins opened := matinee.begins_setup true rfl
  have hsteps : matinee.Interleaves opened matinee.cues matinee.shots false steps :=
    .frame rfl <| .text rfl <| .text rfl <| .frame rfl <| .frame rfl <| .eos rfl .stop
  obtain ⟨-, hcount, hended, hrenders⟩ := outcomes_of_interleaves matinee hbegins hsteps
  have hframes : steps.countP Step.isFrame = 3 := rfl
  rw [hframes, hended (by simp [steps]), Option.toList_none, List.length_nil,
    Nat.add_zero] at hcount
  refine ⟨hbegins, hsteps, ?_⟩
  rw [hrenders, ← hcount]
  decide

end Screening

end Captioning
