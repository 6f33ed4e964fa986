import Captioning.Proofs.Session.Overflowing
import Captioning.Proofs.Session.Playing
import Captioning.Scenario.Play

/-!
# Players that the two sides of a scenario reach

One side of a scenario delivers frames, the other one captions.  When the side of the captions is
stuck, either a caption waits, and then no frame does; or the captions have ended, and no frame
waits for one that cannot come any more (`Player.Running.free_of_stuck`).  Both are properties of
settled sessions (`Session.Settled`), so what has to be followed along a scenario is only that
nothing is flushed and that the end of the captions has been noted (`Player.Running`).  This holds
of every player that the two sides reach, in whatever order they go (`Player.Reaches`).

The bound on the number of images is followed along with it (`Player.Paid`).
-/

namespace Captioning

/-! ## Transcripts -/

/-- The steps of a run, each with its answer. -/
abbrev Transcript := List (Step × Report)

/-- The frame that a step delivers. -/
def Step.frame? : Step → Option VideoItem
  | .frame item => some item
  | _ => none

namespace Transcript

/-- The frames that were delivered. -/
def frames (t : Transcript) : List VideoItem :=
  t.filterMap (·.1.frame?)

/-- The results for frames. -/
def results (t : Transcript) : List FrameResult :=
  t.filterMap (·.2.video)

/-- The results for captions. -/
def replies (t : Transcript) : List TextResult :=
  t.filterMap (·.2.text)

variable (t t' : Transcript)

@[simp] theorem frames_append : Transcript.frames (t ++ t') = t.frames ++ t'.frames :=
  List.filterMap_append

@[simp] theorem results_append : Transcript.results (t ++ t') = t.results ++ t'.results :=
  List.filterMap_append

@[simp] theorem replies_append : Transcript.replies (t ++ t') = t.replies ++ t'.replies :=
  List.filterMap_append

variable (step : Step) (answer : Report)

@[simp] theorem frames_singleton : Transcript.frames [(step, answer)] = step.frame?.toList :=
  (filterMap_cons_toList _ _ _).trans (List.append_nil _)

@[simp] theorem results_singleton : Transcript.results [(step, answer)] = answer.video.toList :=
  (filterMap_cons_toList _ _ _).trans (List.append_nil _)

@[simp] theorem replies_singleton : Transcript.replies [(step, answer)] = answer.text.toList :=
  (filterMap_cons_toList _ _ _).trans (List.append_nil _)

theorem taken_snoc : taken (Transcript.replies (t ++ [(step, answer)])) =
    taken t.replies + taken answer.text.toList := by
  rw [replies_append, replies_singleton]
  exact taken_append _ _

end Transcript

namespace Player

variable {p : Player} {rasterizer : Rasterizer} {step : Step} {info : VideoInfo}
  {connected : Bool} {session : Session} {answer : Report}

/-! ## Steps of a player -/

/-- The player after a step of its session.  A caption that is turned away ends the delivery. -/
def answered (p : Player) (session : Session) (answer : Report) : Player :=
  match answer.text with
  | some (.ok ()) => { p with session := session, delivered := p.delivered + 1 }
  | some (.error _) => { p with session := session, ended := true }
  | none => { p with session := session }

theorem act_eq (p : Player) (rasterizer : Rasterizer) (step : Step) :
    p.act rasterizer step = (p.session.attempt rasterizer step).map fun made =>
      (p.answered made.1 made.2, made.2.video) := by
  unfold act answered
  cases p.session.attempt rasterizer step with
  | error overflow => rfl
  | ok made =>
      obtain ⟨session, reply, video, text⟩ := made
      rcases text with - | error | ⟨⟩ <;> rfl

@[simp] theorem answered_session : (p.answered session answer).session = session := by
  unfold answered
  split <;> rfl

@[simp] theorem answered_cues : (p.answered session answer).cues = p.cues := by
  unfold answered
  split <;> rfl

/-- A step does not look at the captions that are still to be delivered. -/
theorem answered_withCues (cues : List Cue) :
    ({ p with cues := cues } : Player).answered session answer =
      { p.answered session answer with cues := cues } := by
  unfold answered
  split <;> rfl

theorem answered_delivered :
    (p.answered session answer).delivered = p.delivered + taken answer.text.toList := by
  unfold answered
  split
  next htext => rw [htext]; rfl
  next htext => rw [htext]; rfl
  next htext => rw [htext]; rfl

/-- The side of the captions ends when one of them is turned away. -/
theorem ended_of_answered (h : (p.answered session answer).ended = true) :
    p.ended = true ∨ ∃ error, answer.text = some (.error error) := by
  unfold answered at h
  split at h
  next htext => exact .inl h
  next error htext => exact .inr ⟨error, htext⟩
  next htext => exact .inl h

theorem answered_ended (h : p.ended = true) : (p.answered session answer).ended = true := by
  unfold answered
  split
  · exact h
  · rfl
  · exact h

/-! ## Invariants of a scenario -/

/-- The bill of the session is covered by the captions that were taken. -/
structure Paid (p : Player) (info : VideoInfo) : Prop where
  bills : p.session.Bills info
  bill : p.session.overlay.bill info ≤ p.delivered

/-- A player whose session takes frames, and takes captions until they have ended. -/
structure Running (p : Player) (rasterizer : Rasterizer) (info : VideoInfo) (connected : Bool) :
    Prop where
  steady : p.session.Steady
  input : p.session.overlay.flow.textConnected = connected
  ended : p.ended = true → connected = false ∨ p.session.overlay.flow.textEnded = true
  paid : connected = true → rasterizer.Draws → p.Paid info

theorem Paid.answered (h : p.Paid info) (hdraws : rasterizer.Draws) (hplays : step.Plays info)
    (hmade : p.session.attempt rasterizer step = .ok (session, answer)) :
    (p.answered session answer).Paid info := by
  obtain ⟨rfl, rfl⟩ := Session.step_of_attempt hmade
  obtain ⟨hbills, hbill⟩ := Session.step_bill_le hdraws hplays h.bills
  refine ⟨?_, ?_⟩
  · rw [answered_session]
    exact hbills
  · rw [answered_session, answered_delivered]
    exact Nat.le_trans hbill (Nat.add_le_add_right h.bill _)

theorem Running.answered (h : p.Running rasterizer info connected) (hairs : step.Airs info)
    (hmade : p.session.attempt rasterizer step = .ok (session, answer)) :
    (p.answered session answer).Running rasterizer info connected := by
  have hpaid : connected = true → rasterizer.Draws → (p.answered session answer).Paid info :=
    fun hconnected hdraws => (h.paid hconnected hdraws).answered hdraws hairs.plays hmade
  obtain ⟨rfl, rfl⟩ := Session.step_of_attempt hmade
  refine ⟨?_, ?_, ?_, hpaid⟩
  · rw [answered_session]
    exact Session.step_steady rasterizer h.steady hairs
  · have hsets : step.setsTextSegment = false := by cases hairs <;> rfl
    rw [answered_session, Session.step_connected _ _ _ hsets]
    exact h.input
  · intro hended
    rw [answered_session]
    rcases ended_of_answered hended with hbefore | ⟨error, herror⟩
    · exact (h.ended hbefore).imp_right fun htext =>
        Session.textEnded_of_airs hairs (.inl htext)
    · exact .inr (Session.textEnded_of_error h.steady hairs herror)

/-- Captions that are still to be delivered make no difference. -/
theorem Running.withCues (h : p.Running rasterizer info connected) (cues : List Cue) :
    ({ p with cues := cues } : Player).Running rasterizer info connected :=
  ⟨h.steady, h.input, h.ended, fun hconnected hdraws =>
    ⟨(h.paid hconnected hdraws).bills, (h.paid hconnected hdraws).bill⟩⟩

/-- When the side of the captions cannot go on, no frame waits. -/
theorem Running.free_of_stuck (h : p.Running rasterizer info connected)
    (hstuck : p.isStuck = true) : p.session.frame = none := by
  cases hframe : p.session.frame with
  | none => rfl
  | some call =>
      have hstarved := h.steady.settled.frame call hframe
      rcases Bool.or_eq_true_iff.mp hstuck with hended | htext
      · rcases h.ended hended with hdisconnected | htextEnded
        · have hconnected := hstarved.connected
          rw [h.input, hdisconnected] at hconnected
          cases hconnected
        · rw [hstarved.textEnded] at htextEnded
          cases htextEnded
      · rcases h.steady.settled.apart with hnone | hnone
        · exact hframe.symm.trans hnone
        · rw [hnone] at htext
          cases htext

/-! ## Players that are reached -/

/-- The players that the two sides reach without an overflow, and the transcript of their steps.
The one side delivers a frame when none is on its way, the other one goes on with its captions
unless it is stuck.  Whoever comes first, or, on the schedule, the captions are ahead: the side of
the frames waits until the other one is stuck. -/
inductive Reaches (rasterizer : Rasterizer) (info : VideoInfo) (ahead : Bool) (start : Player) :
    Transcript → Player → Prop
  | start : Reaches rasterizer info ahead start [] start
  | frame {t : Transcript} {p : Player} {item : VideoItem} {session : Session} {answer : Report}
      (before : Reaches rasterizer info ahead start t p) (free : p.session.frame = none)
      (turn : ahead = true → p.isStuck = true) (timed : item.pts.isSome = true)
      (picture : item.payload.info = info)
      (made : p.session.attempt rasterizer (.frame item) = .ok (session, answer)) :
      Reaches rasterizer info ahead start (t ++ [(.frame item, answer)])
        (p.answered session answer)
  | caption {t : Transcript} {p : Player} {cue : Cue} {cues : List Cue} {item : TextItem}
      {session : Session} {answer : Report} (before : Reaches rasterizer info ahead start t p)
      (stuck : p.isStuck = false) (rest : p.cues = cue :: cues) (delivers : cue.toItem = .ok item)
      (made : p.session.attempt rasterizer (.text item) = .ok (session, answer)) :
      Reaches rasterizer info ahead start (t ++ [(.text item, answer)])
        { p.answered session answer with cues := cues }
  | captionsEnd {t : Transcript} {p : Player} {session : Session} {answer : Report}
      (before : Reaches rasterizer info ahead start t p) (stuck : p.isStuck = false)
      (rest : p.cues = [])
      (made : p.session.attempt rasterizer (.textEvent .eos) = .ok (session, answer)) :
      Reaches rasterizer info ahead start (t ++ [(.textEvent .eos, answer)])
        { p.answered session answer with ended := true }

namespace Reaches

variable {ahead : Bool} {start : Player} {t t' : Transcript}

theorem trans {last : Player} (h : Reaches rasterizer info ahead start t p)
    (h' : Reaches rasterizer info ahead p t' last) :
    Reaches rasterizer info ahead start (t ++ t') last := by
  induction h' with
  | start =>
      rw [List.append_nil]
      exact h
  | frame before free turn timed picture made ih =>
      rw [← List.append_assoc]
      exact ih.frame free turn timed picture made
  | caption before stuck rest delivers made ih =>
      rw [← List.append_assoc]
      exact ih.caption stuck rest delivers made
  | captionsEnd before stuck rest made ih =>
      rw [← List.append_assoc]
      exact ih.captionsEnd stuck rest made

theorem running (h : Reaches rasterizer info ahead start t p)
    (hstart : start.Running rasterizer info connected) :
    p.Running rasterizer info connected := by
  induction h with
  | start => exact hstart
  | frame before free turn timed picture made ih =>
      exact ih.answered (.frame timed picture) made
  | caption before stuck rest delivers made ih =>
      exact (ih.answered (.text _) made).withCues _
  | captionsEnd before stuck rest made ih =>
      obtain ⟨hsteady, hinput, -, hpaid⟩ := ih.answered .textEnd made
      refine ⟨hsteady, hinput, fun _ => .inr ?_, fun hconnected hdraws =>
        ⟨(hpaid hconnected hdraws).bills, (hpaid hconnected hdraws).bill⟩⟩
      obtain ⟨rfl, rfl⟩ := Session.step_of_attempt made
      rw [answered_session]
      exact Session.textEnded_of_airs (.textEnd : Step.Airs info _) (.inr rfl)

/-- The captions that were taken are counted. -/
theorem delivered (h : Reaches rasterizer info ahead start t p) :
    p.delivered = start.delivered + taken t.replies := by
  induction h with
  | start => rfl
  | frame before free turn timed picture made ih =>
      rw [answered_delivered, ih, Transcript.taken_snoc, Nat.add_assoc]
  | caption before stuck rest delivers made ih =>
      rw [answered_delivered, ih, Transcript.taken_snoc, Nat.add_assoc]
  | captionsEnd before stuck rest made ih =>
      rw [answered_delivered, ih, Transcript.taken_snoc, Nat.add_assoc]

end Reaches

end Player

end Captioning
