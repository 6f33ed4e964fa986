import Captioning.Proofs.Overlay.Admitting
import Captioning.Proofs.Session.Calls
import Captioning.Proofs.Session.Settings

/-!
# Configurations that change while a frame waits

A frame is admitted under a configuration, and goes on under it: whether it is silent and how the
box behind its text is darkened was settled at its admission.  The style and the place of the
text come from the configuration at the moment when the text is drawn.  Both are the same unless
a configuration is set while the frame waits; then the frame is treated by a mixture of the two.
-/

namespace Captioning

/-- The text that is put on the frame which is decided upon in a stage. -/
def Stage.text? (stage : Stage) : Option (List Char) :=
  stage.decision?.bind fun (_, d) => d.text?

/-- Two transparent pixels. -/
def Raster.clearPair : Raster :=
  ⟨2, 1, 0, Array.replicate 8 0⟩

/-- Draws two transparent pixels for every text. -/
def Rasterizer.clear : Rasterizer :=
  ⟨fun _ _ => .ok .clearPair⟩

namespace Session

variable {rasterizer : Rasterizer} {item : VideoItem} {during : List Step}
  {frame : ScheduledFrame}

/-- A configuration that is in force at some moment from the delivery of a frame on until the
steps that follow have been done. -/
def InForce (s : Session) (rasterizer : Rasterizer) (item : VideoItem) (during : List Step)
    (config : Config) : Prop :=
  ∃ done, done <+: .frame item :: during ∧ (s.run rasterizer done).1.overlay.config = config

/-- Nothing is set between the delivery and the last step. -/
private theorem config_of_unconfigured {before first : List Step} {step : Step}
    (hsteps : before ++ [step] = first ++ .frame item :: during)
    (h : ∀ config, .configure config ∈ during → config.isValid = false) :
    (initial.run rasterizer before).1.overlay.config =
      (initial.run rasterizer first).1.overlay.config := by
  rcases during.eq_nil_or_concat with rfl | ⟨middle, last, rfl⟩
  · obtain ⟨rfl, -⟩ := List.append_inj' hsteps rfl
    rfl
  · rw [List.concat_eq_append, ← List.cons_append, ← List.append_assoc] at hsteps
    obtain ⟨rfl, -⟩ := List.append_inj' hsteps rfl
    rw [run_append]
    refine run_config_of_unconfigured _ rasterizer (.frame item :: middle) fun config hmem => ?_
    have hmiddle : .configure config ∈ middle := by simpa using hmem
    exact h config (by simp [hmiddle])

/-- **Which configuration decides on what.**  A frame that leaves a session has been delivered in
it, and leaves as its treatment says.  Silence and darkening are those of the configuration at the
delivery, style and place those of the configuration before the last step.  Both are the same if
no valid configuration is set in between. -/
theorem frames_treated (rasterizer : Rasterizer) (before : List Step) (step : Step)
    (frame : ScheduledFrame)
    (hvideo : ((initial.run rasterizer before).1.step rasterizer step).2.video =
      some (.ok (some frame))) :
    ∃ first item during, before ++ [step] = first ++ .frame item :: during ∧
      let opening := (initial.run rasterizer first).1
      let closing := (initial.run rasterizer before).1
      opening.Serves rasterizer item during (.ok (some frame)) ∧
      (∃ part, (opening.overlay.admitFrame item).part? = some part ∧
        ∃ stage ∈ closing.stagesOf rasterizer step, stage.video = some (.ok (some frame)) ∧
          frame.unnumbered = treat rasterizer closing.overlay.attach part opening.overlay.config
            closing.overlay.config stage.text?) ∧
      ((∀ config, .configure config ∈ during → config.isValid = false) →
        closing.overlay.config = opening.overlay.config) := by
  obtain ⟨first, item, during, hsteps, hserves, hcomes⟩ :=
    exists_serves rasterizer before step hvideo
  refine ⟨first, item, during, hsteps, hserves, ?_, config_of_unconfigured hsteps⟩
  obtain ⟨stage, hmem, hresult⟩ := exists_stage_of_video hvideo
  obtain ⟨hconfig, hattach⟩ := stagesOf_agree _ rasterizer step stage hmem
  have htreats := stages_treat rasterizer _ stage (mem_stages_of_mem_stagesOf before [] hmem)
  cases hdecision : stage.decision? with
  | some decided =>
      obtain ⟨call, d⟩ := decided
      have hadmission := hcomes.admission hmem hdecision
      obtain ⟨frame', hresult', htreated⟩ := htreats.decided call d hdecision
      obtain rfl : frame' = frame := by simpa [hresult] using hresult'.symm
      have htext : stage.text? = d.text? := by simp [Stage.text?, hdecision]
      refine ⟨call.item, by rw [hadmission]; rfl, stage, hmem, hresult, ?_⟩
      rw [htreated, htext, hconfig, hattach, Overlay.config_of_admitFrame hadmission]
  | none =>
      obtain ⟨item', part, start, hphase, hfree, hadmission, rfl⟩ :=
        htreats.unclocked hdecision frame hresult
      obtain ⟨rfl, hbefore⟩ := stagesOf_entry hmem hphase
      rw [hbefore] at hfree hadmission
      cases hcomes with
      | arrives free now delivery =>
          obtain rfl := Step.frame.inj delivery
          have htext : stage.text? = none := by simp [Stage.text?, hdecision]
          refine ⟨part, by rw [now, hadmission]; rfl, stage, hmem, hresult, ?_⟩
          simp only [htext, treat, ite_self, Option.bind_none]
          rfl
      | waited frame admission => cases hfree.symm.trans frame

/-! ## A frame treated by two configurations -/

/-- A frame of two gray pixels. -/
def grayFrame : VideoItem :=
  ⟨some 0, some 40,
    ⟨⟨.gray8, 2, 1, 0, 1, Nat.zero_lt_two, Nat.zero_lt_one⟩, #[16, 16, 0, 0], none, by decide⟩⟩

/-- A caption for that frame. -/
def grayCaption : TextItem :=
  ⟨some 0, some 40, .ofString "a" .plain⟩

/-- Texts stand on a darkened box, but far away from the frame. -/
def aside : Config :=
  { Config.initial with shadedBackground := true, deltax := 1000 }

/-- The frame with both of its pixels darkened. -/
def darkened : ScheduledFrame :=
  ⟨{ grayFrame with payload := { grayFrame.payload with
      data := #[0, 0, 0, 0]
      size_le := by decide } }, .blended⟩

/-- The frame is delivered while texts stand aside, and its caption comes when they do not. -/
theorem darkened_served :
    (initial.run Rasterizer.clear [.connect true, .configure aside]).1.Serves Rasterizer.clear
      grayFrame [.configure .initial, .text grayCaption] (.ok (some darkened)) where
  free := rfl
  results := by decide +kernel

theorem frames_treated_darkened :
    ∃ part text?, part.payload = grayFrame.payload ∧
      darkened.unnumbered = treat Rasterizer.clear false part aside .initial text? := by
  obtain ⟨first, item, during, hsteps, -, ⟨part, hpart, stage, -, -, htreated⟩, -⟩ :=
    frames_treated Rasterizer.clear
      [.connect true, .configure aside, .frame grayFrame, .configure .initial]
      (.text grayCaption) darkened (by decide +kernel)
  -- there is only one frame among the steps
  obtain ⟨rfl, rfl⟩ : first = [.connect true, .configure aside] ∧ item = grayFrame := by
    rcases first with _ | ⟨a, _ | ⟨b, _ | ⟨c, _ | ⟨d, _ | ⟨e, rest⟩⟩⟩⟩⟩ <;> simp at hsteps
    exact ⟨by rw [← hsteps.1, ← hsteps.2.1], hsteps.2.2.1.symm⟩
  exact ⟨part, stage.text?, Overlay.payload_of_admitFrame hpart, htreated⟩

/-- The pixels that are drawn do not depend on the key of the image. -/
theorem data_drawn_source (frame : VideoFrame) (raster : Raster) (source source' : SourceKey)
    (x y : Int) (shading : Option UInt8) :
    (frame.drawn ⟨⟨raster, source, 0⟩, x, y⟩ shading).data =
      (frame.drawn ⟨⟨raster, source', 0⟩, x, y⟩ shading).data := by
  unfold VideoFrame.drawn
  cases shading <;> rfl

/-- A single configuration leaves the pixels of the frame alone: one has the box elsewhere, the
other one has none. -/
theorem data_treat_clear (attach : Bool) (part : VideoItem) (text? : Option (List Char))
    (config : Config) (hpart : part.payload = grayFrame.payload)
    (hconfig : config = aside ∨ config = .initial) :
    (treat Rasterizer.clear attach part config config text?).item.payload.data =
      grayFrame.payload.data := by
  obtain ⟨pts, duration, payload⟩ := part
  obtain rfl : payload = grayFrame.payload := hpart
  cases text? with
  | none => rcases hconfig with rfl | rfl <;> rfl
  | some text =>
      cases attach with
      | true => rcases hconfig with rfl | rfl <;> rfl
      | false =>
          have hsource := data_drawn_source grayFrame.payload Raster.clearPair
            ((config.textStyle 2 1 true).sourceKey text) ((config.textStyle 2 1 true).sourceKey [])
            (config.layout.place 2 1 0 2 1).1 (config.layout.place 2 1 0 2 1).2
            (Overlay.shading config)
          rcases hconfig with rfl | rfl
          · exact hsource.trans (by decide +kernel)
          · exact hsource.trans (by decide +kernel)

/-- There is a frame that leaves in a way which no configuration that was in force during its call
explains, whatever its text is. -/
theorem frame_mixes_configurations :
    ¬ ∀ (rasterizer : Rasterizer) (first : List Step) (item : VideoItem) (during : List Step)
        (frame : ScheduledFrame),
      (initial.run rasterizer first).1.Serves rasterizer item during (.ok (some frame)) →
        ∃ config, (initial.run rasterizer first).1.InForce rasterizer item during config ∧
          ∃ attach part text?, part.payload = item.payload ∧
            frame.unnumbered = treat rasterizer attach part config config text? := by
  intro h
  obtain ⟨config, ⟨done, hdone, hconfig⟩, attach, part, text?, hpart, htreated⟩ :=
    h _ _ _ _ _ darkened_served
  have hforce : config = aside ∨ config = .initial := by
    simp only [List.prefix_cons_iff, List.prefix_nil] at hdone
    rcases hdone with rfl | ⟨_, rfl, rfl | ⟨_, rfl, rfl | ⟨_, rfl, rfl⟩⟩⟩
    · exact .inl hconfig.symm
    · exact .inl hconfig.symm
    · exact .inr hconfig.symm
    · exact .inr hconfig.symm
  have hdata := data_treat_clear attach part text? config hpart hforce
  rw [← htreated] at hdata
  exact absurd hdata (by decide)

end Session

end Captioning
