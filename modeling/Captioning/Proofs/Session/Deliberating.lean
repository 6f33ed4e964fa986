import Captioning.Proofs.Overlay.Deliberation
import Captioning.Proofs.Render.Depiction
import Captioning.Proofs.Session.Stages

/-!
# Frames in the loop

A frame enters its loop when it arrives, unless it is silent or there is no text input, and again
whenever it is woken.  This file follows a frame from there to the end of the stage: the loop
comes to a verdict by the rules, and the session does what the verdict says.
-/

namespace Captioning

/-- The frame that enters its loop in a stage: it arrives, or it is woken. -/
inductive Stage.Enters (stage : Stage) (call : FrameCall) : Prop
  | arrives {item : VideoItem} (phase : stage.phase = .entry (.frame item))
      (free : stage.before.frame = none)
      (admission : stage.before.overlay.admitFrame item = .admitted call)
      (speaks : call.config.silent = false)
      (connected : stage.before.overlay.flow.textConnected = true)
  | woken (phase : stage.phase = .frameLook) (frame : stage.before.frame = some call)

/-- A stage does what the verdict on a frame says.  The loop has left the overlay `o` behind. -/
inductive Stage.Obeys (stage : Stage) (rasterizer : Rasterizer) (call : FrameCall) (o : Overlay) :
    Verdict → Prop
  | refused {error : CaptionError}
      (after : stage.after = { stage.before with overlay := o, frame := none })
      (video : stage.video = some (.error error)) :
      Obeys stage rasterizer call o (.refused error)
  | waiting (after : stage.after = { stage.before with overlay := o, frame := some call })
      (video : stage.video = none) : Obeys stage rasterizer call o .waiting
  | passed
      (after : stage.after = { stage.before with overlay := o.reach call.start, frame := none })
      (video : stage.video = some (.ok (some ⟨call.item, .passthrough⟩))) :
      Obeys stage rasterizer call o (.decided .passthrough)
  | overlaid {text : List Char} {consume : Bool} {done : Overlay}
      (after : stage.after = { stage.before with overlay := done, frame := none })
      (video : stage.video = some (.ok (some (Overlay.compose call o.attach
        (o.composeText rasterizer text call.item.payload.info).2))))
      (slot : done.slot = if consume then none else o.slot) :
      Obeys stage rasterizer call o (.decided (.overlay text consume))

/-! ## Turns and the loop -/

namespace Overlay

open Deliberation

variable {o o' : Overlay} {rasterizer : Rasterizer} {call : FrameCall} {signal : Signal}

theorem Cleared.ends {span : TimeSpan} (h : o.Cleared span o' signal)
    (hfault : o.flow.videoFault? = none) :
    Ends span (start o) o' (o'.verdictAlone span.stop) := by
  cases h with
  | empty slot => exact ends_of_empty hfault slot
  | stale slot overlap => exact ends_of_stale hfault slot overlap

/-- What a frame comes to in a turn is what the verdict of its loop says. -/
theorem Turn.obeys {result : Option FrameResult} {stage : Stage}
    (h : stage.before.overlay.Turn rasterizer call o' signal result)
    (hafter : stage.after = { stage.before with
      overlay := o', frame := if result.isSome then none else some call })
    (hvideo : stage.video = result) :
    ∃ left verdict, Ends call.span (start stage.before.overlay) left verdict ∧
      stage.Obeys rasterizer call left verdict := by
  cases h with
  | refused fault => exact ⟨_, _, ends_of_fault fault, .refused hafter hvideo⟩
  | @passed left signal fault cleared past =>
      have hends := cleared.ends fault
      rw [verdictAlone_eq_passthrough_iff.mpr past] at hends
      exact ⟨_, _, hends, .passed hafter hvideo⟩
  | waits fault cleared ahead =>
      have hends := cleared.ends fault
      have hwaiting : o'.verdictAlone call.span.stop = .waiting := by simp [verdictAlone, ahead]
      rw [hwaiting] at hends
      exact ⟨_, _, hends, .waiting hafter hvideo⟩
  | future fault slot overlap =>
      exact ⟨_, _, ends_of_future fault slot overlap, .passed hafter hvideo⟩
  | @shown item consume fault slot overlap =>
      have hobeys : stage.Obeys rasterizer call stage.before.overlay
          (.decided (.overlay item.payload.prepare consume)) :=
        .overlaid hafter hvideo (finish_overlay_slot _ _ consume)
      rcases overlap with ⟨huntimed, rfl⟩ | hcurrent
      · exact ⟨_, _, ends_of_untimed fault slot huntimed, hobeys⟩
      · exact ⟨_, _, ends_of_current fault slot hcurrent, hobeys⟩

end Overlay

/-- A frame that arrives, is not silent, and finds a text input goes through its loop. -/
theorem Overlay.Arrival.turn {o o' : Overlay} {rasterizer : Rasterizer} {item : VideoItem}
    {call : FrameCall} {signal : Signal} {progress : Progress}
    (h : o.Arrival rasterizer item o' signal progress)
    (hadmission : o.admitFrame item = .admitted call) (hspeaks : call.config.silent = false)
    (hconnected : o.flow.textConnected = true) :
    (∃ result, o.Turn rasterizer call o' signal (some result) ∧ progress = .done result) ∨
      o.Turn rasterizer call o' signal none ∧ progress = .waits call := by
  cases h with
  | dropped admission => cases hadmission.symm.trans admission
  | refused admission => cases hadmission.symm.trans admission
  | unclocked admission => cases hadmission.symm.trans admission
  | silent admission silent =>
      obtain rfl := Admission.admitted.inj (hadmission.symm.trans admission)
      simp [hspeaks] at silent
  | provided admission silent connected d keeps => simp [hconnected] at connected
  | decided admission silent connected turn =>
      obtain rfl := Admission.admitted.inj (hadmission.symm.trans admission)
      exact .inl ⟨_, turn, rfl⟩
  | waits admission silent connected turn =>
      obtain rfl := Admission.admitted.inj (hadmission.symm.trans admission)
      exact .inr ⟨turn, rfl⟩

private theorem with_frame {s : Session} {frame : Option FrameCall} (h : s.frame = frame)
    (o : Overlay) : { s with overlay := o } = { s with overlay := o, frame := frame } := by
  subst h
  rfl

/-- The stage in which a frame enters its loop is a turn of that frame. -/
theorem Stage.Sound.turn {stage : Stage} {rasterizer : Rasterizer} {call : FrameCall}
    (h : stage.Sound rasterizer) (henters : stage.Enters call) :
    ∃ o signal result, stage.before.overlay.Turn rasterizer call o signal result ∧
      stage.after = { stage.before with
        overlay := o, frame := if result.isSome then none else some call } ∧
      stage.video = result := by
  cases h with
  | @entry s s' step signal report entry =>
      cases henters with
      | woken phase frame => cases phase
      | arrives phase free admission speaks connected =>
          obtain rfl := Phase.entry.inj phase
          cases entry with
          | busyFrame frame =>
              have hfree : s.frame = none := free
              simp [hfree] at frame
          | frame _ arrival =>
              rcases arrival.turn admission speaks connected with
                ⟨result, hturn, hdone⟩ | ⟨-, hwaits⟩
              · obtain rfl := Progress.done.inj hdone
                exact ⟨_, _, _, hturn, with_frame free _, rfl⟩
              · cases hwaits
          | blockedFrame _ arrival =>
              rcases arrival.turn admission speaks connected with
                ⟨result, -, hdone⟩ | ⟨hturn, hwaits⟩
              · cases hdone
              · obtain rfl := Progress.waits.inj hwaits
                exact ⟨_, _, _, hturn, rfl, rfl⟩
          | control control => cases control
  | textLook wake =>
      cases henters with
      | arrives phase => cases phase
      | woken phase frame => cases phase
  | frameLook wake =>
      cases henters with
      | arrives phase => cases phase
      | woken phase frame =>
          cases wake with
          | @idle idle =>
              rw [idle] at frame
              cases frame
          | done frame' turn =>
              obtain rfl := Option.some.inj (frame.symm.trans frame')
              exact ⟨_, _, _, turn, rfl, rfl⟩
          | waits frame' turn =>
              obtain rfl := Option.some.inj (frame.symm.trans frame')
              exact ⟨_, _, _, turn, with_frame frame _, rfl⟩

namespace Session

open Deliberation

/-- **A frame is decided upon by the rules.**  Wherever a frame enters its loop in a session, be it
that it arrives or that it is woken, and a text input is connected, the loop has ended after four
turns, with at most one caption let go.  How it ends follows the list of rules, and the session
does what the verdict says. -/
theorem frames_decide (rasterizer : Rasterizer) (steps : List Step) :
    ∀ stage ∈ initial.stages rasterizer steps, ∀ call, stage.Enters call →
      stage.before.overlay.flow.textConnected = true →
        ∃ left verdict removals,
          (next call.span)^[4] (start stage.before.overlay) = ⟨left, .ended verdict, removals⟩ ∧
          removals ≤ 1 ∧ stage.before.overlay.Decides call.span left verdict ∧
          stage.Obeys rasterizer call left verdict := by
  intro stage hmem call henters hconnected
  have hsound : stage.Sound rasterizer := initial.stages_sound rasterizer steps stage hmem
  obtain ⟨o, signal, result, hturn, hafter, hvideo⟩ := hsound.turn henters
  obtain ⟨left, verdict, hends, hobeys⟩ := hturn.obeys hafter hvideo
  obtain ⟨removals, hfour⟩ := hends.after_four
  refine ⟨left, verdict, removals, hfour, ?_, hends.decides hconnected, hobeys⟩
  have hone := removals_le_one call.span stage.before.overlay 4
  rwa [hfour] at hone

/-- A caption of the first ten nanoseconds. -/
def early : TextItem :=
  ⟨some 0, some 10, .ofString "a" .plain⟩

/-- A frame that begins when the caption has ended. -/
def later : VideoItem :=
  ⟨some 20, some 20, .black ⟨.gray8, 2, 1, 0, 1, by decide, by decide⟩⟩

/-- A session in which the caption is pending. -/
def captioned : Session :=
  (initial.run Rasterizer.white [.connect true, .text early]).1

/-- The caption is let go, and then the frame waits. -/
theorem early_caption_let_go :
    ∃ stage ∈ initial.stages Rasterizer.white [.connect true, .text early, .frame later], ∃ call,
      stage.Enters call ∧ stage.before.overlay.flow.textConnected = true ∧
        stage.before.overlay.slot = some early ∧
          stage.Obeys Rasterizer.white call stage.before.overlay.release .waiting := by
  obtain ⟨stage, hmem, hphase, hbefore⟩ :=
    captioned.entry_mem_stagesOf Rasterizer.white (.frame later)
  have hlast : stage ∈ initial.stages Rasterizer.white [.connect true, .text early, .frame later] :=
    mem_stages_of_mem_stagesOf [.connect true, .text early] [] hmem
  have hadmission : captioned.overlay.admitFrame later =
      .admitted ⟨later, 20, ⟨20, 40⟩, .initial⟩ := rfl
  rw [← hbefore] at hadmission
  have hfree : stage.before.frame = none := by rw [hbefore]; rfl
  have hconnected : stage.before.overlay.flow.textConnected = true := by rw [hbefore]; rfl
  have hslot : stage.before.overlay.slot = some early := by rw [hbefore]; rfl
  have henters : stage.Enters ⟨later, 20, ⟨20, 40⟩, .initial⟩ :=
    .arrives hphase hfree hadmission rfl hconnected
  obtain ⟨left, verdict, removals, -, -, hdecides, hobeys⟩ :=
    frames_decide Rasterizer.white _ stage hlast _ henters hconnected
  have hspan : stage.before.overlay.textSegment.span? early = some ⟨0, 10⟩ := by rw [hbefore]; rfl
  obtain ⟨rfl, hends⟩ := hdecides.stale (by rw [hbefore]; rfl) (by rw [hbefore]; rfl) early ⟨0, 10⟩
    hslot hspan (by decide)
  have hwaits : Ends ⟨20, 40⟩ (start stage.before.overlay.release) stage.before.overlay.release
      .waiting := by
    rw [hbefore]
    exact ends_of_empty rfl rfl
  obtain ⟨-, rfl⟩ := hends.unique hwaits
  exact ⟨stage, hlast, _, henters, hconnected, hslot, hobeys⟩

end Session

end Captioning
