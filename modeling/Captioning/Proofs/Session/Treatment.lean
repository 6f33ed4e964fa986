import Captioning.Proofs.Session.Caching
import Captioning.Proofs.Session.Deliberating

/-!
# What becomes of a frame

A frame is decided upon when it arrives or when it is woken.  What it looks like when it leaves is
then a function of a few things: the text of the decision, what the rasterizer draws for it, and
two configurations.  The one that the frame was admitted under says whether it is silent and how
the box behind the text is darkened; the one at the time of the decision says in which style the
text is drawn and where.
-/

namespace Captioning

/-! ## Frames without the numbers of images -/

/-- A composition without the number of its image. -/
def Composition.unnumbered (c : Composition) : Composition :=
  { c with image := c.image.unnumbered }

/-- A frame that leaves, without the number of the image that has been attached to it, if any. -/
def ScheduledFrame.unnumbered (f : ScheduledFrame) : ScheduledFrame :=
  match f.outcome with
  | .attached =>
      { f with item := { f.item with payload := { f.item.payload with
          composition := f.item.payload.composition.map Composition.unnumbered } } }
  | _ => f

@[simp] theorem ScheduledFrame.unnumbered_outcome (f : ScheduledFrame) :
    f.unnumbered.outcome = f.outcome := by
  unfold unnumbered
  split <;> rfl

/-- Frames that pass carry nothing that could have a number. -/
theorem ScheduledFrame.eq_of_unnumbered {f : ScheduledFrame} {item : VideoItem}
    (h : f.unnumbered = ⟨item, .passthrough⟩) : f = ⟨item, .passthrough⟩ := by
  have houtcome : f.outcome = .passthrough := by
    rw [← f.unnumbered_outcome, h]
  rw [← h, unnumbered, houtcome]

/-! ## The treatment of a frame -/

/-- The image of a text at its place on a frame, as a configuration has it drawn, if it can be
drawn. -/
def Config.composition? (config : Config) (rasterizer : Rasterizer) (text : List Char)
    (info : VideoInfo) : Option Composition :=
  let style := config.textStyle info.width info.height true
  (rasterizer.drawn? text style).map fun raster =>
    let (x, y) := config.layout.place raster.width raster.height raster.baseline info.width
      info.height
    ⟨⟨raster, style.sourceKey text, 0⟩, x, y⟩

/-- A frame as it leaves when it is to carry a text, or none.  The configuration `said` decides
whether it is silent and how the box behind the text is darkened, `drawn` decides on the style
and the place of the text. -/
def treat (rasterizer : Rasterizer) (attach : Bool) (item : VideoItem) (said drawn : Config)
    (text? : Option (List Char)) : ScheduledFrame :=
  let shown := if said.silent then none else text?
  match shown.bind fun text => drawn.composition? rasterizer text item.payload.info with
  | none => ⟨item, .passthrough⟩
  | some c =>
      let (frame, outcome) := item.payload.composite c attach (Overlay.shading said)
      ⟨{ item with payload := frame }, outcome⟩

/-- The text that a decision puts on a frame. -/
def Decision.text? : Decision → Option (List Char)
  | .passthrough => none
  | .overlay text _ => some text

/-- The frame that is decided upon in a stage, if there is one, and the decision. -/
def Stage.decision? (stage : Stage) : Option (FrameCall × Decision) :=
  match stage.phase with
  | .entry (.frame item) =>
      if stage.before.frame.isSome then none else stage.before.overlay.decision? item
  | .frameLook =>
      stage.before.frame.bind fun call =>
        (stage.before.overlay.lookAt call.span).2.2.decision?.map fun d => (call, d)
  | _ => none

namespace Overlay

variable {o o' : Overlay} {rasterizer : Rasterizer} {call : FrameCall} {signal : Signal}

theorem compose_unnumbered (call : FrameCall) (attach : Bool) (c? : Option Composition) :
    (compose call attach c?).unnumbered = compose call attach (c?.map Composition.unnumbered) := by
  cases c? with
  | none => rfl
  | some c =>
      simp only [compose, Option.map_some, VideoFrame.composite, Composition.unnumbered,
        RenderedImage.unnumbered]
      split
      · rfl
      · cases attach <;> rfl

/-- The image of a text is the one that the configuration has drawn, whatever the cache holds. -/
theorem composeText_unnumbered (ho : o.cache.Exact rasterizer) (text : List Char)
    (info : VideoInfo) :
    (o.composeText rasterizer text info).2.map Composition.unnumbered =
      o.config.composition? rasterizer text info := by
  have hrendering := o.cache.render_rendering rasterizer text
    (o.config.textStyle info.width info.height true)
  have himage := hrendering.unnumbered_eq ho
  unfold Config.composition?
  cases hresult : (o.cache.render rasterizer text
      (o.config.textStyle info.width info.height true)).2 with
  | error error =>
      rw [hresult] at himage
      rw [composeText_of_error o text info hresult]
      have hnone : rasterizer.drawn? text (o.config.textStyle info.width info.height true) = none :=
        Option.map_eq_none_iff.mp himage.symm
      simp only [hnone, Option.map_none]
  | ok image =>
      rw [hresult] at himage
      rw [composeText_of_ok o text info hresult]
      obtain ⟨raster, hdrawn, hraster⟩ := Option.map_eq_some_iff.mp himage.symm
      simp only [RenderedImage.unnumbered, RenderedImage.mk.injEq] at hraster
      obtain ⟨rfl, hsource, -⟩ := hraster
      simp only [hdrawn, Option.map_some, Composition.unnumbered, RenderedImage.unnumbered,
        hsource]

/-- A frame leaves as its treatment says. -/
theorem finish_unnumbered (call : FrameCall) (ho : o.cache.Exact rasterizer) (d : Decision)
    (hspeaks : d ≠ .passthrough → call.config.silent = false) :
    (o.finish rasterizer call d).2.2.unnumbered =
      treat rasterizer o.attach call.item call.config o.config d.text? := by
  cases d with
  | passthrough =>
      have hshown : (if call.config.silent then none else Decision.passthrough.text?) = none := by
        split <;> rfl
      simp only [treat, hshown]
      rfl
  | overlay text consume =>
      have hsilent : call.config.silent = false := hspeaks (by simp)
      rw [finish_overlay_frame, compose_unnumbered, composeText_unnumbered ho]
      simp only [treat, hsilent, Decision.text?]
      rfl

/-- A frame that is decided upon without a look leaves as its treatment says. -/
theorem Arrival.treated {item : VideoItem} {progress : Progress} {d : Decision}
    (h : o.Arrival rasterizer item o' signal progress)
    (hadmission : o.admitFrame item = .admitted call) (halone : o.decisionAlone? call = some d)
    (ho : o.cache.Exact rasterizer) :
    ∃ frame, progress = .done (.ok (some frame)) ∧
      frame.unnumbered = treat rasterizer o.attach call.item call.config o.config d.text? := by
  -- the look is left to those for whom nothing else decides
  have hlook : ¬ (call.config.silent = false ∧ o.flow.textConnected = true) := by
    rw [← decisionAlone?_eq_none_iff, halone]
    simp
  cases h with
  | dropped admission => cases hadmission.symm.trans admission
  | refused admission => cases hadmission.symm.trans admission
  | unclocked admission => cases hadmission.symm.trans admission
  | silent admission silent =>
      obtain rfl := Admission.admitted.inj (hadmission.symm.trans admission)
      have hpass : o.decisionAlone? call = some .passthrough := by
        simp [decisionAlone?, providedDecision?, silent]
      obtain rfl := Option.some.inj (halone.symm.trans hpass)
      exact ⟨_, rfl, finish_unnumbered call ho .passthrough (by simp)⟩
  | provided admission silent connected d' keeps alone =>
      obtain rfl := Admission.admitted.inj (hadmission.symm.trans admission)
      obtain rfl := Option.some.inj (halone.symm.trans alone)
      exact ⟨_, rfl, finish_unnumbered _ ho d fun _ => silent⟩
  | decided admission silent connected turn =>
      obtain rfl := Admission.admitted.inj (hadmission.symm.trans admission)
      exact absurd ⟨silent, connected⟩ hlook
  | waits admission silent connected turn =>
      obtain rfl := Admission.admitted.inj (hadmission.symm.trans admission)
      exact absurd ⟨silent, connected⟩ hlook

/-- A frame that is not admitted is not decided upon; if it leaves, it has no running time. -/
theorem Arrival.unclocked_of_not_admitted {item : VideoItem} {progress : Progress}
    {frame : ScheduledFrame} (h : o.Arrival rasterizer item o' signal progress)
    (hadmission : ∀ call, o.admitFrame item ≠ .admitted call)
    (hdone : progress = .done (.ok (some frame))) :
    ∃ part start, o.admitFrame item = .unclocked part start ∧ frame = ⟨part, .passthrough⟩ := by
  cases h with
  | dropped admission => cases hdone
  | refused admission => cases hdone
  | unclocked admission =>
      cases hdone
      exact ⟨_, _, admission, rfl⟩
  | silent admission silent => exact absurd admission (hadmission _)
  | provided admission silent connected d keeps alone => exact absurd admission (hadmission _)
  | decided admission silent connected turn => exact absurd admission (hadmission _)
  | waits admission silent connected turn => exact absurd admission (hadmission _)

end Overlay

/-! ## Stages in which frames leave -/

/-- No frame that waits is silent. -/
def Session.Speaks (s : Session) : Prop :=
  ∀ call, s.frame = some call → call.config.silent = false

namespace Stage

variable {stage : Stage} {rasterizer : Rasterizer} {call : FrameCall} {d : Decision}
  {frame : ScheduledFrame}

theorem Sound.speaks (h : stage.Sound rasterizer) (hbefore : stage.before.Speaks) :
    stage.after.Speaks := by
  cases h with
  | @entry s s' step signal report entry =>
      cases entry with
      | blockedFrame free arrival =>
          cases arrival with
          | waits admission silent connected turn =>
              intro call hcall
              obtain rfl := Option.some.inj hcall
              exact silent
      | _ => exact hbefore
  | textLook wake =>
      intro call hcall
      exact hbefore call (wake.frame ▸ hcall)
  | frameLook wake =>
      cases wake with
      | idle frame => exact hbefore
      | done frame turn =>
          intro call hcall
          cases hcall
      | waits frame turn => exact hbefore

/-- A frame that goes through its loop leaves exactly when it is decided upon, and then as its
treatment says. -/
theorem Obeys.treated {o : Overlay} {verdict : Verdict}
    (h : stage.Obeys rasterizer call o verdict) (ho : o.cache.Exact rasterizer)
    (hspeaks : call.config.silent = false) :
    match verdict.decision? with
    | some d => ∃ frame, stage.video = some (.ok (some frame)) ∧
        frame.unnumbered = treat rasterizer o.attach call.item call.config o.config d.text?
    | none => ∀ frame, stage.video ≠ some (.ok (some frame)) := by
  cases h with
  | refused after video => simp [Verdict.decision?, video]
  | waiting after video => simp [Verdict.decision?, video]
  | passed after video =>
      exact ⟨_, video, Overlay.finish_unnumbered call ho .passthrough (by simp)⟩
  | @overlaid text consume done after video slot =>
      exact ⟨_, video, Overlay.finish_unnumbered call ho (.overlay text consume) fun _ => hspeaks⟩

private theorem Sound.treated_of_enters (h : stage.Sound rasterizer) (henters : stage.Enters call)
    (ho : stage.before.overlay.cache.Exact rasterizer) (hspeaks : call.config.silent = false) :
    match (stage.before.overlay.lookAt call.span).2.2.decision? with
    | some d => ∃ frame, stage.video = some (.ok (some frame)) ∧
        frame.unnumbered = treat rasterizer stage.before.overlay.attach call.item call.config
          stage.before.overlay.config d.text?
    | none => ∀ frame, stage.video ≠ some (.ok (some frame)) := by
  obtain ⟨o, signal, result, hturn, hafter, hvideo⟩ := h.turn henters
  obtain ⟨left, verdict, hends, hobeys⟩ := hturn.obeys hafter hvideo
  -- the loop is the look
  obtain ⟨rfl, rfl⟩ := hends.unique (stage.before.overlay.ends_lookAt call.span)
  obtain ⟨slot, hleft⟩ := stage.before.overlay.lookAt_fst call.span
  rw [hleft] at hobeys
  exact hobeys.treated ho hspeaks

/-- How frames leave in a stage: one that is decided upon as its treatment says, and any other
one without a running time. -/
structure Treats (stage : Stage) (rasterizer : Rasterizer) : Prop where
  decided : ∀ call d, stage.decision? = some (call, d) →
    ∃ frame, stage.video = some (.ok (some frame)) ∧
      frame.unnumbered = treat rasterizer stage.before.overlay.attach call.item call.config
        stage.before.overlay.config d.text?
  unclocked : stage.decision? = none → ∀ frame, stage.video = some (.ok (some frame)) →
    ∃ item part start, stage.phase = .entry (.frame item) ∧ stage.before.frame = none ∧
      stage.before.overlay.admitFrame item = .unclocked part start ∧
        frame = ⟨part, .passthrough⟩

theorem treats_of_none (hdecision : stage.decision? = none)
    (hvideo : ∀ frame, stage.video ≠ some (.ok (some frame))) : stage.Treats rasterizer where
  decided call d h := by
    rw [hdecision] at h
    cases h
  unclocked _ frame h := absurd h (hvideo frame)

theorem treats_of_some (hdecision : stage.decision? = some (call, d))
    (hvideo : ∃ frame, stage.video = some (.ok (some frame)) ∧
      frame.unnumbered = treat rasterizer stage.before.overlay.attach call.item call.config
        stage.before.overlay.config d.text?) : stage.Treats rasterizer where
  decided call' d' h := by
    obtain ⟨rfl, rfl⟩ := Prod.mk.inj (Option.some.inj (hdecision.symm.trans h))
    exact hvideo
  unclocked h := by
    rw [hdecision] at h
    cases h

/-- A frame that goes through its loop is decided upon if the loop decides. -/
private theorem Sound.treats_of_enters (h : stage.Sound rasterizer) (henters : stage.Enters call)
    (ho : stage.before.overlay.cache.Exact rasterizer) (hspeaks : call.config.silent = false)
    (hdecision : stage.decision? =
      (stage.before.overlay.lookAt call.span).2.2.decision?.map fun d => (call, d)) :
    stage.Treats rasterizer := by
  have htreated := h.treated_of_enters henters ho hspeaks
  cases hverdict : (stage.before.overlay.lookAt call.span).2.2.decision? with
  | none =>
      rw [hverdict] at hdecision htreated
      exact treats_of_none hdecision htreated
  | some d =>
      rw [hverdict] at hdecision htreated
      exact treats_of_some hdecision htreated

private theorem Sound.arrival {item : VideoItem} (h : stage.Sound rasterizer)
    (hphase : stage.phase = .entry (.frame item)) (hfree : stage.before.frame = none) :
    ∃ o signal progress, stage.before.overlay.Arrival rasterizer item o signal progress ∧
      ∀ result, stage.video = some result ↔ progress = .done result := by
  cases h with
  | @entry s s' step signal report entry =>
      obtain rfl := Phase.entry.inj hphase
      cases entry with
      | busyFrame frame =>
          have hnone : s.frame = none := hfree
          simp [hnone] at frame
      | frame free arrival => exact ⟨_, _, _, arrival, by simp⟩
      | blockedFrame free arrival => exact ⟨_, _, _, arrival, by simp⟩
      | control control => cases control
  | textLook wake => cases hphase
  | frameLook wake => cases hphase

private theorem Sound.treats_arrival {item : VideoItem} (h : stage.Sound rasterizer)
    (hphase : stage.phase = .entry (.frame item)) (hfree : stage.before.frame = none)
    (ho : stage.before.overlay.cache.Exact rasterizer) : stage.Treats rasterizer := by
  obtain ⟨o, signal, progress, harrival, hvideo⟩ := h.arrival hphase hfree
  have hdecision : stage.decision? = stage.before.overlay.decision? item := by
    simp [decision?, hphase, hfree]
  by_cases hadmitted : ∃ call, stage.before.overlay.admitFrame item = .admitted call
  · obtain ⟨call, hadmission⟩ := hadmitted
    simp only [Overlay.decision?, hadmission] at hdecision
    cases halone : stage.before.overlay.decisionAlone? call with
    | none =>
        obtain ⟨hspeaks, hconnected⟩ := Overlay.decisionAlone?_eq_none_iff.mp halone
        rw [halone, Option.none_or] at hdecision
        exact h.treats_of_enters (.arrives hphase hfree hadmission hspeaks hconnected) ho hspeaks
          hdecision
    | some d =>
        rw [halone, Option.some_or, Option.map_some] at hdecision
        obtain ⟨frame, hdone, htreated⟩ := harrival.treated hadmission halone ho
        exact treats_of_some hdecision ⟨frame, (hvideo _).mpr hdone, htreated⟩
  · have hrefused : ∀ call, stage.before.overlay.admitFrame item ≠ .admitted call := by
      intro call hadmission
      exact hadmitted ⟨call, hadmission⟩
    refine ⟨fun call d hsome => ?_, fun _ frame hframe => ?_⟩
    · rw [hdecision] at hsome
      exact absurd (Overlay.admitted_of_decision? hsome) (hrefused call)
    · obtain ⟨part, start, hadmission, hpart⟩ :=
        harrival.unclocked_of_not_admitted hrefused ((hvideo _).mp hframe)
      exact ⟨item, part, start, hphase, hfree, hadmission, hpart⟩

/-- In every sound stage frames leave as they should. -/
theorem Sound.treats (h : stage.Sound rasterizer)
    (ho : stage.before.overlay.cache.Exact rasterizer) (hspeaks : stage.before.Speaks) :
    stage.Treats rasterizer := by
  have hsound := h
  cases h with
  | @entry s s' step signal report entry =>
      cases entry with
      | busyFrame frame => exact treats_of_none (by simp [decision?, frame]) (by simp)
      | frame free arrival => exact hsound.treats_arrival rfl free ho
      | blockedFrame free arrival => exact hsound.treats_arrival rfl free ho
      | busyText text => exact treats_of_none rfl (by simp)
      | refusedText free admission => exact treats_of_none rfl (by simp)
      | discardedText free admission => exact treats_of_none rfl (by simp)
      | blockedText free admission slot => exact treats_of_none rfl (by simp)
      | storedText free admission slot => exact treats_of_none rfl (by simp)
      | control control => cases control <;> exact treats_of_none rfl (by simp)
  | textLook wake => exact treats_of_none rfl (by simp)
  | @frameLook s s' result wake =>
      cases hframe : s.frame with
      | none =>
          cases wake with
          | idle idle => exact treats_of_none (by simp [decision?, hframe]) (by simp)
          | done frame turn => simp [hframe] at frame
          | waits frame turn => simp [hframe] at frame
      | some call =>
          refine hsound.treats_of_enters (.woken rfl hframe) ho (hspeaks call hframe) ?_
          simp only [decision?, hframe, Option.bind_some]

end Stage

/-- No frame that waits in a session is silent. -/
theorem Session.stages_speak (rasterizer : Rasterizer) (steps : List Step) :
    ∀ stage ∈ initial.stages rasterizer steps, stage.before.Speaks :=
  (initial.stages_leads rasterizer steps).invariant Speaks
    (fun stage hmem => (initial.stages_sound rasterizer steps stage hmem).speaks)
    (by simp [Speaks, initial])

/-- In every stage of a session frames leave as they should. -/
theorem Session.stages_treat (rasterizer : Rasterizer) (steps : List Step) :
    ∀ stage ∈ initial.stages rasterizer steps, stage.Treats rasterizer := fun stage hmem =>
  (initial.stages_sound rasterizer steps stage hmem).treats
    (stages_exact rasterizer steps stage hmem) (stages_speak rasterizer steps stage hmem)

end Captioning
