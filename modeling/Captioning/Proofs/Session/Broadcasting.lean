import Captioning.Proofs.Session.Captions
import Captioning.Proofs.Session.Overflowing
import Captioning.Proofs.Session.Playing
import Captioning.Proofs.Session.Settings
import Captioning.Proofs.Session.Unattended

/-!
# What is shown while a scenario is played

While a scenario is played nothing is set any more, so every text on a frame is one of a few: the
text of a caption that was delivered, or, without a text input, what the provider says for the
frame.  Every caption in a session was delivered (`Session.Entry.mem_captions`), so that this is an
invariant of the stages of a session.

A frame whose end is known does not overflow at its arrival.  If the images of the texts fit as
well, only a darkened box is left to overflow (`Session.Broadcasts.overshadows_of_overflow?`).
-/

namespace Captioning

/-! ## The texts of decisions -/

namespace Overlay

variable {o : Overlay} {text : List Char} {consume : Bool}

theorem payload_of_admitText {item part : TextItem} (h : o.admitText item = .ok (some part)) :
    part.payload = item.payload := by
  unfold admitText at h
  split at h
  · cases h
  · split at h
    · obtain rfl := Option.some.inj (Except.ok.inj h)
      rfl
    · obtain ⟨ends, -, rfl⟩ := Option.map_eq_some_iff.mp (Except.ok.inj h)
      rfl

/-- A look shows nothing but the pending caption. -/
theorem caption_of_lookAt {span : TimeSpan}
    (h : (o.lookAt span).2.2.decision? = some (.overlay text consume)) :
    ∃ item, o.slot = some item ∧ text = item.payload.prepare := by
  have halone (stop : ClockTime) :
      (o.verdictAlone stop).decision? ≠ some (.overlay text consume) := by
    unfold verdictAlone
    split <;> simp [Verdict.decision?]
  have hreleased (stop : ClockTime) :
      (o.release.verdictAlone stop).decision? ≠ some (.overlay text consume) := by
    unfold verdictAlone
    split <;> simp [Verdict.decision?]
  unfold lookAt at h
  split at h
  · cases h
  · split at h
    · exact absurd h (halone _)
    next item hslot =>
      refine ⟨item, hslot, ?_⟩
      split at h
      · exact absurd h (hreleased _)
      · cases h
      · simp only [Verdict.decision?, Option.some.injEq, Decision.overlay.injEq] at h
        exact h.1.symm
      · simp only [Verdict.decision?, Option.some.injEq, Decision.overlay.injEq] at h
        exact h.1.symm

/-- A text that is not that of a caption is what the provider says. -/
theorem provided_of_decisionAlone? {call : FrameCall}
    (h : o.decisionAlone? call = some (.overlay text consume)) :
    o.flow.textConnected = false ∧
      text = o.provider.text call.start (some call.span.start) call.config := by
  unfold decisionAlone? providedDecision? at h
  split at h
  · cases h
  · split at h
    · cases h
    next hconnected =>
      refine ⟨by simpa using hconnected, ?_⟩
      have hdecision := Option.some.inj h
      split at hdecision
      · cases hdecision
      · exact (Decision.overlay.inj hdecision).1.symm

/-- A frame of the whole stream is admitted as it is. -/
theorem TakesFrames.admits_shot {width height : ℕ} {item : VideoItem} (ho : o.TakesFrames)
    (hshot : IsShot width height item) :
    ∃ pts stop, item.pts = some pts ∧
      o.admitFrame item = .admitted ⟨item, pts, ⟨pts, stop⟩, o.config⟩ := by
  obtain ⟨pts, hpts, hlimit⟩ := hshot.timed
  obtain ⟨position, hwhole⟩ := ho.whole
  exact ⟨pts, _, hpts, admitFrame_whole hpts ho.open_ hwhole (frameSpan?_whole hpts hlimit)⟩

end Overlay

/-! ## The stages of a scenario -/

/-- The images of some texts in one style have a size that fits. -/
def Rasterizer.Fits (rasterizer : Rasterizer) (style : TextStyle) (texts : Set (List Char)) :
    Prop :=
  ∀ text ∈ texts, ∀ raster, rasterizer.rasterize (spaced text) style = .ok raster →
    raster.expectedSize < longCount

/-- A step of a scenario in which nothing is said but the given texts: a frame of the given
description, a caption, or the end of the captions. -/
inductive Step.Says (o : Overlay) (info : VideoInfo) (connected : Bool)
    (texts : Set (List Char)) : Step → Prop
  | frame {item : VideoItem} (shot : IsShot info.width info.height item)
      (picture : item.payload.info = info)
      (said : connected = false → o.said item ∈ texts) : Says o info connected texts (.frame item)
  | text {item : TextItem} (said : item.payload.prepare ∈ texts) :
      Says o info connected texts (.text item)
  | textEnd : Says o info connected texts (.textEvent .eos)

theorem Step.Says.airs {o : Overlay} {info : VideoInfo} {connected : Bool}
    {texts : Set (List Char)} {step : Step} (h : step.Says o info connected texts) :
    step.Airs info := by
  cases h with
  | frame shot picture said =>
      obtain ⟨pts, hpts, -⟩ := shot.timed
      exact .frame (by rw [hpts]; rfl) picture
  | text said => exact .text _
  | textEnd => exact .textEnd

/-- A session in which nothing is said but the given texts: it is set as it was at first, the
captions in it are of these texts, and the frame that waits has the given description. -/
structure Session.Broadcasts (s : Session) (o : Overlay) (info : VideoInfo)
    (texts : Set (List Char)) : Prop where
  settings : o.Agrees s.overlay
  captions : ∀ item ∈ s.captions, item.payload.prepare ∈ texts
  frame : ∀ call, s.frame = some call → call.item.payload.info = info ∧ call.config = o.config

variable {s : Session} {o : Overlay} {rasterizer : Rasterizer} {info : VideoInfo}
  {connected : Bool} {texts : Set (List Char)}

namespace Stage

variable {stage : Stage}

private theorem Sound.agrees (h : stage.Sound rasterizer)
    (hvoice : ∀ step, stage.phase = .entry step → step.Says o info connected texts) :
    stage.before.overlay.Agrees stage.after.overlay := by
  cases h with
  | textLook wake => exact wake.agrees
  | frameLook wake => exact wake.agrees
  | entry entry =>
      have hstep := hvoice _ rfl
      cases entry with
      | frame free arrival => exact arrival.agrees
      | blockedFrame free arrival => exact arrival.agrees
      | control control =>
          cases hstep with
          | textEnd => cases control; exact ⟨rfl, rfl, rfl⟩
          | _ => cases control
      | _ => exact ⟨rfl, rfl, rfl⟩

/-- A frame that waits is the one that waited before, or the one that arrived. -/
private theorem Sound.frame_cases (h : stage.Sound rasterizer) {call : FrameCall}
    (hcall : stage.after.frame = some call) :
    stage.before.frame = some call ∨ ∃ item, stage.phase = .entry (.frame item) ∧
      stage.before.overlay.admitFrame item = .admitted call := by
  cases h with
  | textLook wake =>
      rw [wake.frame] at hcall
      exact .inl hcall
  | frameLook wake =>
      cases wake with
      | idle frame => exact .inl hcall
      | done frame turn => cases hcall
      | waits frame turn => exact .inl hcall
  | entry entry =>
      cases entry with
      | blockedFrame free arrival =>
          obtain rfl := Option.some.inj hcall
          cases arrival with
          | waits admission silent connected turn => exact .inr ⟨_, rfl, admission⟩
      | _ => exact .inl hcall

/-- A stage of a scenario says nothing new. -/
theorem Sound.broadcasts (h : stage.Sound rasterizer)
    (hvoice : ∀ step, stage.phase = .entry step → step.Says o info connected texts)
    (hbefore : stage.before.Broadcasts o info texts) : stage.after.Broadcasts o info texts where
  settings := hbefore.settings.trans (h.agrees hvoice)
  captions := by
    intro part hpart
    rcases h.mem_captions hpart with hsame | ⟨item, hphase, hadmission⟩
    · exact hbefore.captions part hsame
    · cases hvoice _ hphase with
      | text said =>
          rw [Overlay.payload_of_admitText hadmission]
          exact said
  frame := by
    intro call hcall
    rcases h.frame_cases hcall with hsame | ⟨item, hphase, hadmission⟩
    · exact hbefore.frame call hsame
    · cases hvoice _ hphase with
      | frame shot picture said =>
          have hpayload : call.item.payload = item.payload :=
            Overlay.payload_of_admitFrame (by rw [hadmission]; rfl)
          refine ⟨by rw [hpayload, picture], ?_⟩
          rw [Overlay.config_of_admitFrame hadmission, hbefore.settings.config]

/-- The frame that is decided upon in a scenario, and the text that it is to show. -/
private theorem text_of_decision? {call : FrameCall} {text : List Char} {consume : Bool}
    (hbefore : stage.before.Broadcasts o info texts)
    (hvoice : ∀ step, stage.phase = .entry step → step.Says o info connected texts)
    (hentry : ∀ item, stage.phase = .entry (.frame item) → stage.before.overlay.TakesFrames ∧
      stage.before.overlay.flow.textConnected = connected)
    (h : stage.decision? = some (call, .overlay text consume)) :
    (call.item.payload.info = info ∧ call.config = o.config) ∧ text ∈ texts := by
  have hlook (seen : Overlay) (hseen : seen = stage.before.overlay) {span : TimeSpan}
      (hd : (seen.lookAt span).2.2.decision? = some (.overlay text consume)) : text ∈ texts := by
    obtain ⟨item, hslot, rfl⟩ := Overlay.caption_of_lookAt hd
    exact hbefore.captions item (Session.mem_captions.mpr (.inl (hseen ▸ hslot)))
  unfold decision? at h
  split at h
  next item hphase =>
    split at h
    · cases h
    · obtain ⟨htakes, hconnected⟩ := hentry item hphase
      cases hvoice _ hphase with
      | frame shot picture said =>
          obtain ⟨pts, stop, hpts, hadmission⟩ := htakes.admits_shot shot
          unfold Overlay.decision? at h
          rw [hadmission] at h
          obtain ⟨d, hd, hcall⟩ := Option.map_eq_some_iff.mp h
          obtain ⟨rfl, rfl⟩ := Prod.mk.inj hcall
          refine ⟨⟨picture, hbefore.settings.config⟩, ?_⟩
          rcases Option.or_eq_some_iff.mp hd with halone | ⟨-, hlooked⟩
          · obtain ⟨hunconnected, rfl⟩ := Overlay.provided_of_decisionAlone? halone
            have hsaid := said (hconnected ▸ hunconnected)
            simp only [Overlay.said, hpts, Option.getD_some] at hsaid
            simp only [hbefore.settings.config, hbefore.settings.provider]
            exact hsaid
          · exact hlook _ rfl hlooked
  next hphase =>
    obtain ⟨waiting, hwaiting, hmap⟩ := Option.bind_eq_some_iff.mp h
    obtain ⟨d, hd, hcall⟩ := Option.map_eq_some_iff.mp hmap
    obtain ⟨rfl, rfl⟩ := Prod.mk.inj hcall
    exact ⟨hbefore.frame _ hwaiting, hlook _ rfl hd⟩
  next => cases h

/-- If the images of the texts fit, only a darkened box overflows. -/
theorem overshadows_of_overflow? {overflow : Overflow}
    (hbefore : stage.before.Broadcasts o info texts)
    (hvoice : ∀ step, stage.phase = .entry step → step.Says o info connected texts)
    (hentry : ∀ item, stage.phase = .entry (.frame item) → stage.before.overlay.TakesFrames ∧
      stage.before.overlay.flow.textConnected = connected)
    (hfits : rasterizer.Fits (o.config.textStyle info.width info.height true) texts)
    (h : stage.overflow? rasterizer = some overflow) :
    overflow = .frameSide ∧ o.config.Overshadows o.attach info.width info.height := by
  rcases overflow?_eq_some_iff.mp h with ⟨-, item, part, start, hphase, -, hadmission, -⟩ |
    ⟨call, d, hdecision, hfinish⟩
  · -- a frame of the whole stream has an end
    cases hvoice _ hphase with
    | frame shot picture said =>
        obtain ⟨pts, stop, -, hwhole⟩ := (hentry item hphase).1.admits_shot shot
        cases hadmission.symm.trans hwhole
  · cases d with
    | passthrough => cases hfinish
    | overlay text consume =>
        obtain ⟨⟨rfl, hconfig⟩, htext⟩ := text_of_decision? hbefore hvoice hentry hdecision
        obtain ⟨hside, hdrawn, hdarkened, hwide⟩ :=
          Overlay.overshadows_of_showingOverflow? (by
            rw [hbefore.settings.config]
            exact hfits text htext) hfinish
        exact ⟨hside, hbefore.settings.attach ▸ hdrawn, hconfig ▸ hdarkened, hwide⟩

end Stage

namespace Session

variable {next : Step}

private theorem stagesOf_voice (hvoice : next.Says o info connected texts) :
    ∀ stage ∈ s.stagesOf rasterizer next, ∀ step, stage.phase = .entry step →
      step.Says o info connected texts := by
  intro stage hstage step hphase
  obtain ⟨rfl, -⟩ := stagesOf_entry hstage hphase
  exact hvoice

private theorem stagesOf_keep (hvoice : next.Says o info connected texts) :
    ∀ stage ∈ s.stagesOf rasterizer next,
      stage.before.Broadcasts o info texts → stage.after.Broadcasts o info texts :=
  fun stage hstage => (s.stagesOf_sound rasterizer next stage hstage).broadcasts
    (stagesOf_voice hvoice stage hstage)

theorem Broadcasts.step (hs : s.Broadcasts o info texts)
    (hvoice : next.Says o info connected texts) :
    (s.step rasterizer next).1.Broadcasts o info texts :=
  (s.stagesOf_leads rasterizer next).keeps_last (·.Broadcasts o info texts)
    (stagesOf_keep hvoice) hs

/-- Nothing overflows in a step of a scenario but the size of a frame with a darkened box. -/
theorem Broadcasts.overshadows_of_overflow? {overflow : Overflow} (hs : s.Broadcasts o info texts)
    (htakes : s.overlay.TakesFrames) (hconnected : s.overlay.flow.textConnected = connected)
    (hvoice : next.Says o info connected texts)
    (hfits : rasterizer.Fits (o.config.textStyle info.width info.height true) texts)
    (h : s.overflow? rasterizer next = some overflow) :
    overflow = .frameSide ∧ o.config.Overshadows o.attach info.width info.height := by
  rw [overflow?_eq_findSome?] at h
  obtain ⟨stage, hstage, hoverflow⟩ := List.exists_of_findSome?_eq_some h
  have hbefore := (s.stagesOf_leads rasterizer next).invariant (·.Broadcasts o info texts)
    (stagesOf_keep hvoice) hs stage hstage
  refine Stage.overshadows_of_overflow? hbefore (stagesOf_voice hvoice stage hstage)
    (fun item hphase => ?_) hfits hoverflow
  obtain ⟨-, hsame⟩ := stagesOf_entry hstage hphase
  rw [hsame]
  exact ⟨htakes, hconnected⟩

end Session

end Captioning
