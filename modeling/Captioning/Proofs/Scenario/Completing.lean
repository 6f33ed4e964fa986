import Captioning.Proofs.Scenario.Reaching
import Captioning.Proofs.Session.Broadcasting
import Captioning.Proofs.Session.Calls

/-!
# Scenarios are played to their end

No frame waits for a side of the captions that is stuck, so that every frame of a scenario leaves,
whatever the captions are and in whatever order they come.

## Strategy

The schedule of a scenario only goes through players that its two sides reach (`Player.Reaches`).
Each of its deliveries ends with the side of the captions stuck, and a frame that was on its way
before and is not any more has left in between (`Brings`).  A stretch of the schedule is followed
together with the transcript of its steps and of the answers to them (`Player.Stretch`), and this
transcript is what the report tells (`Scenario.Performs`).

On the schedule a step may overflow.  What is said in a scenario is known in advance
(`Player.Airing`), so that if the images of its texts fit, a scenario fails only with a darkened box
(`Yields`, `Player.act_yields`).
-/

namespace Captioning

/-! ## Computations that may fail -/

/-- A computation comes to something good, or fails in a way that is accounted for. -/
def Yields {ε α : Type} (fails : ε → Prop) (good : α → Prop) : Except ε α → Prop
  | .error e => fails e
  | .ok a => good a

namespace Yields

variable {ε α β : Type} {fails : ε → Prop} {good : α → Prop} {x : Except ε α}

theorem bind {good' : β → Prop} {f : α → Except ε β} (h : Yields fails good x)
    (hf : ∀ a, good a → Yields fails good' (f a)) : Yields fails good' (x >>= f) := by
  cases x with
  | error e => exact h
  | ok a => exact hf a h

end Yields

namespace Player

variable {p : Player} {rasterizer : Rasterizer} {step : Step} {info : VideoInfo}
  {connected : Bool} {session : Session} {answer : Report}

/-! ## What is said on the schedule -/

section Schedule

/-- How a scenario may fail: a box is to be darkened on frames that are too large for it. -/
abbrev Darkens (o : Overlay) (info : VideoInfo) (overflow : Overflow) : Prop :=
  overflow = .frameSide ∧ o.config.Overshadows o.attach info.width info.height

/-- A scenario comes to no report because a box is to be darkened on frames that are too large. -/
abbrev Fails (o : Overlay) (info : VideoInfo) (failure : PlayFailure) : Prop :=
  failure = .overflow .frameSide ∧ o.config.Overshadows o.attach info.width info.height

theorem fails_of_darkens {o : Overlay} {α : Type} {good : α → Prop} {x : Except Overflow α}
    (h : Yields (Darkens o info) good x) :
    Yields (Fails o info) good (x.mapError PlayFailure.overflow) := by
  cases x with
  | error overflow => exact ⟨congrArg _ h.1, h.2⟩
  | ok a => exact h

/-- A player on the schedule says nothing but the given texts, and so do its captions that are still
to be delivered.  Without a text input they are not. -/
structure Airing (p : Player) (o : Overlay) (info : VideoInfo) (connected : Bool)
    (texts : Set (List Char)) : Prop where
  broadcasts : p.session.Broadcasts o info texts
  cues : connected = true → ∀ cue ∈ p.cues, ∃ item, cue.toItem = .ok item ∧
    item.payload.prepare ∈ texts
  alone : connected = false → p.ended = true

variable {o : Overlay} {texts : Set (List Char)}

theorem Airing.answered (h : p.Airing o info connected texts)
    (hvoice : step.Says o info connected texts)
    (hmade : p.session.attempt rasterizer step = .ok (session, answer)) :
    (p.answered session answer).Airing o info connected texts where
  broadcasts := by
    obtain ⟨rfl, rfl⟩ := Session.step_of_attempt hmade
    rw [answered_session]
    exact h.broadcasts.step hvoice
  cues := by
    rw [answered_cues]
    exact h.cues
  alone hconnected := answered_ended (h.alone hconnected)

/-- A step on the schedule overflows only with a darkened box. -/
theorem act_yields (h : p.Running rasterizer info connected)
    (hair : p.session.Broadcasts o info texts)
    (hfits : rasterizer.Fits (o.config.textStyle info.width info.height true) texts)
    (hvoice : step.Says o info connected texts) :
    Yields (Darkens o info) (fun made => ∃ session answer,
      p.session.attempt rasterizer step = .ok (session, answer) ∧
        made = (p.answered session answer, answer.video)) (p.act rasterizer step) := by
  rw [act_eq]
  cases hmade : p.session.attempt rasterizer step with
  | error overflow =>
      exact hair.overshadows_of_overflow? h.steady.frames h.input hvoice hfits
        (Session.attempt_eq_error_iff.mp hmade)
  | ok made =>
      obtain ⟨session, answer⟩ := made
      exact ⟨session, answer, rfl, rfl⟩

/-- A stretch of the schedule, from one player to another one.  At most one frame is delivered in
it, and at most one leaves. -/
structure Stretch (rasterizer : Rasterizer) (info : VideoInfo) (p : Player)
    (item? : Option VideoItem) (result : Option FrameResult) (t : Transcript) (last : Player) :
    Prop where
  reaches : Reaches rasterizer info true p t last
  frames : t.frames = item?.toList
  results : t.results = result.toList
  brings : Brings (p.session.frame.isSome || item?.isSome) last.session.frame.isSome result

variable {item? : Option VideoItem} {result result' : Option FrameResult} {t t' : Transcript}
  {next last : Player}

theorem Stretch.still (rasterizer : Rasterizer) (info : VideoInfo) (p : Player) :
    Stretch rasterizer info p none none [] p where
  reaches := .start
  frames := rfl
  results := rfl
  brings := by
    cases p.session.frame.isSome with
    | true => exact .waits
    | false => exact .idle

theorem Stretch.trans (h : Stretch rasterizer info p item? result t next)
    (h' : Stretch rasterizer info next none result' t' last) :
    Stretch rasterizer info p item? (result.or result') (t ++ t') last where
  reaches := h.reaches.trans h'.reaches
  frames := by
    rw [Transcript.frames_append, h.frames, h'.frames]
    exact List.append_nil _
  results := by
    have hbrings := h.brings
    have hbrings' := h'.brings
    rw [Transcript.results_append, h.results, h'.results]
    rw [Option.isSome_none, Bool.or_false] at hbrings'
    generalize (p.session.frame.isSome || item?.isSome) = before,
      next.session.frame.isSome = during, last.session.frame.isSome = after at hbrings hbrings'
    -- when a frame has left, none is on its way any more
    cases hbrings with
    | idle => rfl
    | waits => rfl
    | leaves shown =>
        cases hbrings' with
        | idle => rfl
  brings := by
    have hbrings' := h'.brings
    rw [Option.isSome_none, Bool.or_false] at hbrings'
    exact h.brings.trans hbrings'

/-- A step on the schedule is a stretch of it. -/
theorem Stretch.single (h : p.Running rasterizer info connected) (hairs : step.Airs info)
    (hfree : step.frame?.isSome = true → p.session.frame = none)
    (hmade : p.session.attempt rasterizer step = .ok (session, answer))
    (hsession : next.session = session)
    (hreaches : Reaches rasterizer info true p [(step, answer)] next) :
    Stretch rasterizer info p step.frame? answer.video [(step, answer)] next where
  reaches := hreaches
  frames := Transcript.frames_singleton _ _
  results := Transcript.results_singleton _ _
  brings := by
    have hframe : step.frame?.isSome = step.isFrame := by cases step <;> rfl
    obtain ⟨rfl, rfl⟩ := Session.step_of_attempt hmade
    rw [hsession, hframe]
    exact Session.step_brings h.steady hairs fun hstep => hfree (hframe.trans hstep)

/-! ## The side of the captions -/

/-- The side of the captions ends stuck, and a frame that was on its way leaves or goes on
waiting. -/
theorem deliverAll_yields
    (hfits : rasterizer.Fits (o.config.textStyle info.width info.height true) texts)
    (cues : List Cue) (h : p.Running rasterizer info connected)
    (hair : ({ p with cues := cues } : Player).Airing o info connected texts) :
    Yields (Darkens o info) (fun made => made.1.isStuck = true ∧
      made.1.Airing o info connected texts ∧
        ∃ t, Stretch rasterizer info { p with cues := cues } none made.2 t made.1)
      (deliverAll rasterizer cues p) := by
  induction cues generalizing p with
  | nil =>
      unfold deliverAll
      by_cases hstuck : p.isStuck = true
      · rw [if_pos hstuck]
        exact ⟨hstuck, hair, [], .still _ _ _⟩
      · rw [if_neg hstuck]
        refine (act_yields h hair.broadcasts hfits .textEnd).bind ?_
        rintro _ ⟨session, answer, hmade, rfl⟩
        have hreaches : Reaches rasterizer info true { p with cues := [] } _ _ :=
          .captionsEnd .start (Bool.eq_false_iff.mpr hstuck) rfl hmade
        rw [answered_withCues] at hreaches
        have hnext := hair.answered .textEnd hmade
        rw [answered_withCues] at hnext
        exact ⟨rfl, ⟨hnext.broadcasts, hnext.cues, fun _ => rfl⟩, _,
          .single (h.withCues []) .textEnd nofun hmade answered_session hreaches⟩
  | cons cue cues ih =>
      unfold deliverAll
      by_cases hstuck : p.isStuck = true
      · rw [if_pos hstuck]
        exact ⟨hstuck, hair, [], .still _ _ _⟩
      · rw [if_neg hstuck]
        have hconnected : connected = true := by
          cases hunconnected : connected with
          | true => rfl
          | false => exact absurd (Bool.or_eq_true_iff.mpr (.inl (hair.alone hunconnected))) hstuck
        obtain ⟨⟨item, hitem, hsaid⟩, hcues⟩ :=
          List.forall_mem_cons.mp (hair.cues hconnected)
        rw [hitem]
        refine (act_yields h hair.broadcasts hfits (.text hsaid)).bind ?_
        rintro _ ⟨session, answer, hmade, rfl⟩
        have hreaches : Reaches rasterizer info true { p with cues := cue :: cues } _ _ :=
          .caption .start (Bool.eq_false_iff.mpr hstuck) rfl hitem hmade
        rw [answered_withCues] at hreaches
        have hnext := hair.answered (.text hsaid) hmade
        rw [answered_withCues] at hnext
        refine (ih (h.answered (.text item) hmade)
          ⟨hnext.broadcasts, fun _ => hcues, hnext.alone⟩).bind ?_
        rintro ⟨last, result⟩ ⟨hlast, hair, t, hrest⟩
        have hfirst : Stretch rasterizer info { p with cues := cue :: cues } none answer.video _
            { p.answered session answer with cues := cues } :=
          .single (h.withCues _) (.text item) nofun hmade answered_session hreaches
        exact ⟨hlast, hair, _, hfirst.trans hrest⟩

/-- The side of the captions goes on until it is stuck. -/
theorem deliver_yields
    (hfits : rasterizer.Fits (o.config.textStyle info.width info.height true) texts)
    (h : p.Running rasterizer info connected) (hair : p.Airing o info connected texts) :
    Yields (Darkens o info) (fun made => made.1.isStuck = true ∧
      made.1.Airing o info connected texts ∧ ∃ t, Stretch rasterizer info p none made.2 t made.1)
      (p.deliver rasterizer) :=
  deliverAll_yields hfits p.cues h hair

/-! ## The side of the frames -/

/-- When the side of the captions is stuck, the next frame leaves before it is stuck again. -/
theorem advance_yields
    (hfits : rasterizer.Fits (o.config.textStyle info.width info.height true) texts)
    (h : p.Running rasterizer info connected) (hair : p.Airing o info connected texts)
    (hstuck : p.isStuck = true) {item : VideoItem}
    (hvoice : (Step.frame item).Says o info connected texts) :
    Yields (Darkens o info) (fun made => made.1.isStuck = true ∧
      made.1.Airing o info connected texts ∧ ∃ shown t, made.2 = some (.ok (some shown)) ∧
        Stretch rasterizer info p (some item) made.2 t made.1)
      (p.advance rasterizer (.frame item)) := by
  have hfree := h.free_of_stuck hstuck
  unfold advance
  refine (act_yields h hair.broadcasts hfits hvoice).bind ?_
  rintro _ ⟨session, answer, hmade, rfl⟩
  have hairs := hvoice.airs
  obtain ⟨htimed, hpicture⟩ : item.pts.isSome = true ∧ item.payload.info = info := by
    cases hairs with
    | frame timed picture => exact ⟨timed, picture⟩
  have hreaches : Reaches rasterizer info true p _ _ :=
    .frame .start hfree (fun _ => hstuck) htimed hpicture hmade
  have hfirst : Stretch rasterizer info p (some item) answer.video _ (p.answered session answer) :=
    .single h hairs (fun _ => hfree) hmade answered_session hreaches
  refine (deliver_yields hfits (h.answered hairs hmade) (hair.answered hvoice hmade)).bind ?_
  rintro ⟨last, result⟩ ⟨hlast, hlastAir, t, hrest⟩
  have hstretch := hfirst.trans hrest
  -- the frame has left, since none waits for a side of the captions that is stuck
  have hgone := (hstretch.reaches.running h).free_of_stuck hlast
  have hbrings := hstretch.brings
  rw [hgone, hfree] at hbrings
  obtain ⟨shown, hshown⟩ : ∃ shown, answer.video.or result = some (.ok (some shown)) := by
    generalize answer.video.or result = left at hbrings
    cases hbrings with
    | leaves shown => exact ⟨shown, rfl⟩
  exact ⟨hlast, hlastAir, shown, _, hshown, hstretch⟩

/-- The black frame of a given number. -/
def blackFrame (info : VideoInfo) (duration : ClockTime) (index : Nat) : VideoItem :=
  ⟨some (index * duration), some duration, .black info⟩

/-- A black frame overflows as it is delivered or not at all. -/
theorem frameItem_yields {duration : ClockTime} {index : Nat}
    (hfits : rasterizer.Fits (o.config.textStyle info.width info.height true) texts)
    (h : p.Running rasterizer info connected) (hair : p.Airing o info connected texts)
    (hvoice : (Step.frame (blackFrame info duration index)).Says o info connected texts)
    (htime : index * duration < ClockTime.limit) (hsize : info.size < longCount) :
    Yields (Darkens o info) (· = blackFrame info duration index)
      (p.frameItem rasterizer info duration index) := by
  have hpts : ClockTime.ofNat? (index * duration) = some (index * duration) := if_pos htime
  unfold frameItem
  rw [hpts, VideoInfo.sizeOverflow?_eq_none_iff.mpr hsize]
  cases harrival : p.session.arrivalOverflow? rasterizer
      ⟨some (index * duration), some duration, info⟩ with
  | none =>
      simp only [harrival]
      exact rfl
  | some overflow =>
      simp only [harrival]
      exact hair.broadcasts.overshadows_of_overflow? h.steady.frames h.input hvoice hfits
        (Session.overflow?_of_entry harrival)

/-- What is reported of a frame that leaves. -/
def reportOf (duration : ClockTime) (shown : ScheduledFrame) (index : Nat) : FrameReport :=
  ⟨index, index * duration, some shown.outcome⟩

/-- Every frame leaves, and this is what is reported of it. -/
theorem playFrames_yields
    (hfits : rasterizer.Fits (o.config.textStyle info.width info.height true) texts)
    (hsize : info.size < longCount) {duration : ClockTime} (count index : Nat)
    (hvoice : ∀ i ∈ List.range' index count, i * duration < ClockTime.limit ∧
      (Step.frame (blackFrame info duration i)).Says o info connected texts)
    (h : p.Running rasterizer info connected) (hair : p.Airing o info connected texts)
    (hstuck : p.isStuck = true) :
    Yields (Fails o info) (fun made => made.1.isStuck = true ∧
      ∃ (t : Transcript) (shown : List ScheduledFrame),
        Reaches rasterizer info true p t made.1 ∧
        t.frames = (List.range' index count).map (blackFrame info duration) ∧
        t.results = shown.map (fun frame => .ok (some frame)) ∧ shown.length = count ∧
        made.2 = (shown.zipIdx index).map fun (frame, i) => reportOf duration frame i)
      (playFrames rasterizer info duration count index p) := by
  induction count generalizing index p with
  | zero => exact ⟨hstuck, [], [], .start, rfl, rfl, rfl, rfl⟩
  | succ count ih =>
      rw [List.range'_succ] at hvoice ⊢
      obtain ⟨⟨htime, hfirst⟩, hrest⟩ := List.forall_mem_cons.mp hvoice
      unfold playFrames
      refine (fails_of_darkens (frameItem_yields hfits h hair hfirst htime hsize)).bind ?_
      rintro _ rfl
      refine (fails_of_darkens (advance_yields hfits h hair hstuck hfirst)).bind ?_
      rintro ⟨next, result⟩ ⟨hnext, hnextAir, frame, t, rfl, hstretch⟩
      refine (ih (index + 1) hrest (hstretch.reaches.running h) hnextAir hnext).bind ?_
      rintro ⟨last, reports⟩ ⟨hlast, t', shown, hreaches, hframes, hresults, hlength, rfl⟩
      refine ⟨hlast, t ++ t', frame :: shown, hstretch.reaches.trans hreaches, ?_, ?_, ?_, ?_⟩
      · rw [Transcript.frames_append, hstretch.frames, hframes]
        rfl
      · rw [Transcript.results_append, hstretch.results, hresults]
        rfl
      · rw [List.length_cons, hlength]
      · rfl

end Schedule

/-! ## After the last frame -/

/-- When the overlay has been halted, no more images were made than captions were taken. -/
theorem Paid.renders_le {ended halted : Session} {goodbye answer : Report} (h : p.Paid info)
    (hdraws : rasterizer.Draws)
    (hended : p.session.attempt rasterizer (.videoEvent .eos) = .ok (ended, goodbye))
    (hhalted : ended.attempt rasterizer (.transit .halt) = .ok (halted, answer)) :
    halted.overlay.cache.renders ≤
      ((p.answered ended goodbye).answered halted answer).delivered := by
  have hlast : ((p.answered ended goodbye).answered halted answer).Paid info :=
    (h.answered hdraws .videoEnd hended).answered hdraws .halt (by rwa [answered_session])
  have hbill := hlast.bill
  rw [answered_session] at hbill
  exact Nat.le_trans (Overlay.renders_le_bill _ info) hbill

/-- The video input ends and the overlay is halted, when no frame is on its way. -/
theorem farewell (p : Player) (rasterizer : Rasterizer) (hfree : p.session.frame = none) :
    ∃ (ended halted : Session) (goodbye answer : Report),
      p.session.attempt rasterizer (.videoEvent .eos) = .ok (ended, goodbye) ∧
      ended.attempt rasterizer (.transit .halt) = .ok (halted, answer) ∧
      p.act rasterizer (.videoEvent .eos) = .ok (p.answered ended goodbye, goodbye.video) ∧
      (p.answered ended goodbye).act rasterizer (.transit .halt) =
        .ok ((p.answered ended goodbye).answered halted answer, answer.video) := by
  have hidle : p.session.overflow? rasterizer (.videoEvent .eos) = none :=
    Session.overflow?_of_idle hfree fun item h => by cases h
  have hgone : (p.session.step rasterizer (.videoEvent .eos)).1.frame = none :=
    Session.step_frame_of_idle hfree fun item h => by cases h
  have hhalted : (p.session.step rasterizer (.videoEvent .eos)).1.overflow? rasterizer
      (.transit .halt) = none :=
    Session.overflow?_of_idle hgone fun item h => by cases h
  have hfirst := Session.attempt_of_none hidle
  have hsecond := Session.attempt_of_none hhalted
  refine ⟨_, _, _, _, hfirst, hsecond, ?_, ?_⟩
  · rw [act_eq, hfirst]
    rfl
  · rw [act_eq, answered_session, hsecond]
    rfl

end Player

/-! ## Scenarios -/

/-- Whether the times of a caption fit, and the image of its text in a given style. -/
def Cue.fits (cue : Cue) (rasterizer : Rasterizer) (style : TextStyle) : Bool :=
  match cue.toItem with
  | .ok item =>
      match rasterizer.rasterize (spaced item.payload.prepare) style with
      | .ok raster => decide (raster.expectedSize < longCount)
      | .error _ => true
  | .error _ => false

theorem Cue.fits_eq_true_iff {cue : Cue} {rasterizer : Rasterizer} {style : TextStyle} :
    cue.fits rasterizer style = true ↔ ∃ item, cue.toItem = .ok item ∧
      ∀ raster, rasterizer.rasterize (spaced item.payload.prepare) style = .ok raster →
        raster.expectedSize < longCount := by
  unfold fits
  cases cue.toItem with
  | error overflow => simp
  | ok item =>
      simp only [Except.ok.injEq, exists_eq_left']
      cases rasterizer.rasterize (spaced item.payload.prepare) style <;> simp

namespace Scenario

variable {s : Scenario} {rasterizer : Rasterizer} {info : VideoInfo} {session : Session}
  {p : Player}

/-- The duration of a frame. -/
def frameDuration (s : Scenario) : ClockTime :=
  ClockTime.second * s.fpsD.toNat / s.fpsN.toNat

theorem check_ok (h : s.check = .ok ()) :
    s.fpsN ≠ 0 ∧ s.fpsD ≠ 0 ∧ s.config.check = .ok () ∧ ∃ info, s.videoInfo = .ok info := by
  unfold check at h
  by_cases hrate : s.fpsN = 0 ∨ s.fpsD = 0
  · rw [if_pos hrate] at h
    cases h
  · rw [if_neg hrate] at h
    obtain ⟨hfpsN, hfpsD⟩ := not_or.mp hrate
    cases hconfig : s.config.check with
    | error error =>
        rw [hconfig] at h
        cases h
    | ok result =>
        cases hinfo : s.videoInfo with
        | error error =>
            rw [hconfig, hinfo] at h
            cases h
        | ok info => exact ⟨hfpsN, hfpsD, rfl, info, rfl⟩

theorem frameDuration_of_videoInfo (hinfo : s.videoInfo = .ok info) (hfpsN : s.fpsN ≠ 0)
    (hfpsD : s.fpsD ≠ 0) : info.frameDuration = some s.frameDuration := by
  have hrate : info.fpsN = s.fpsN.toNat ∧ info.fpsD = s.fpsD.toNat := by
    unfold videoInfo at hinfo
    cases hmade : VideoInfo.make s.format s.width.toNat s.height.toNat with
    | error error =>
        rw [hmade] at hinfo
        cases hinfo
    | ok made =>
        rw [hmade] at hinfo
        obtain rfl := Except.ok.inj hinfo
        exact ⟨rfl, rfl⟩
  have hn : s.fpsN.toNat ≠ 0 := fun h => hfpsN (UInt32.toNat_inj.mp h)
  have hd : s.fpsD.toNat ≠ 0 := fun h => hfpsD (UInt32.toNat_inj.mp h)
  have hlimit : s.frameDuration < ClockTime.limit := by
    refine Nat.lt_of_le_of_lt (Nat.div_le_self _ _) ?_
    refine Nat.lt_of_lt_of_le (Nat.mul_lt_mul_of_pos_left s.fpsD.toNat_lt (by decide)) ?_
    decide
  rw [VideoInfo.frameDuration, hrate.1, hrate.2, if_neg (not_or.mpr ⟨hn, hd⟩),
    ClockTime.scale?, if_neg hn, ClockTime.ofNat?]
  exact if_pos hlimit

/-- The session of a scenario before its first frame. -/
structure Opened (s : Scenario) (session : Session) : Prop where
  frame : session.frame = none
  text : session.text = none
  flow : session.overlay.flow = { Flow.initial with textConnected := s.connected }
  videoSegment : session.overlay.videoSegment = .whole
  slot : session.overlay.slot = none
  renders : session.overlay.cache.renders = 0
  config : session.overlay.config = (Overlay.initial.configure s.config).1.config
  provider : session.overlay.provider = if s.runningTime then .clock else .configured

theorem exists_opened (hconfig : s.config.check = .ok ()) (rasterizer : Rasterizer) :
    ∃ session, s.openSession rasterizer = .ok session ∧ s.Opened session := by
  have hconfigured : (Overlay.initial.configure s.config).2 = .ok () := by
    unfold Overlay.configure
    rw [hconfig]
  have hslot := Overlay.configure_slot (o := Overlay.initial) s.config
  obtain ⟨hrenders, hprovider⟩ : (Overlay.initial.configure s.config).1.cache.renders = 0 ∧
      (Overlay.initial.configure s.config).1.provider = .configured := by
    unfold Overlay.configure
    rw [hconfig]
    dsimp only
    split <;> exact ⟨rfl, rfl⟩
  unfold openSession Session.withConfig
  generalize hmade : Overlay.initial.configure s.config = made
    at hconfigured hslot hrenders hprovider
  obtain ⟨o, result⟩ := made
  obtain rfl : result = .ok () := hconfigured
  have hsame : o.config = (Overlay.initial.configure s.config).1.config := by rw [hmade]
  cases hclock : s.runningTime with
  | true =>
      exact ⟨_, rfl, rfl, rfl, rfl, rfl, hslot, hrenders, hsame, by rw [hclock]; rfl⟩
  | false =>
      exact ⟨_, rfl, rfl, rfl, rfl, rfl, hslot, hrenders, hsame, by rw [hclock]; exact hprovider⟩

theorem opened_of_openSession (hcheck : s.check = .ok ())
    (hsession : s.openSession rasterizer = .ok session) : s.Opened session := by
  obtain ⟨-, -, hconfig, -⟩ := check_ok hcheck
  obtain ⟨opened, hopen, hopened⟩ := exists_opened hconfig rasterizer
  obtain rfl := Except.ok.inj (hopen.symm.trans hsession)
  exact hopened

/-- The player of a scenario before its first step. -/
def player (s : Scenario) (session : Session) : Player :=
  ⟨session, s.cues, 0, !s.connected⟩

theorem Opened.steady (h : s.Opened session) : session.Steady where
  settled := {
    apart := .inl h.frame
    text := by simp [h.text]
    frame := by simp [h.frame] }
  frames := {
    open_ := by
      rw [h.flow]
      rfl
    whole := ⟨_, h.videoSegment⟩ }
  textFlushing := by
    rw [h.flow]
    rfl

theorem Opened.running (h : s.Opened session) (rasterizer : Rasterizer) (info : VideoInfo) :
    (s.player session).Running rasterizer info s.connected := by
  have hinput : session.overlay.flow.textConnected = s.connected := by
    rw [h.flow]
  refine ⟨h.steady, hinput, fun hended => .inl (by simpa [player] using hended), ?_⟩
  intro hconnected _
  refine ⟨⟨hinput.trans hconnected, fun call hcall => ?_⟩, ?_⟩
  · cases h.frame.symm.trans hcall
  · have hbill : session.overlay.bill info = 0 :=
      (Overlay.bill_of_empty h.slot).trans h.renders
    exact Nat.le_of_eq hbill

/-- What is said in a scenario: the texts of its captions, or, without a text input, what the
provider says for its frames. -/
def texts (s : Scenario) (info : VideoInfo) (o : Overlay) : Set (List Char) :=
  {text |
    if s.connected then ∃ cue ∈ s.cues, ∃ item, cue.toItem = .ok item ∧ item.payload.prepare = text
    else ∃ index < s.frames.toNat, o.said (Player.blackFrame info s.frameDuration index) = text}

/-- The times of a scenario and the sizes of its frames and images fit their widths. -/
structure Fits (s : Scenario) (rasterizer : Rasterizer) (info : VideoInfo) (o : Overlay) :
    Prop where
  times : s.frames.toNat * s.frameDuration < ClockTime.limit
  cues : s.connected = true → ∀ cue ∈ s.cues, ∃ item, cue.toItem = .ok item
  picture : info.size < longCount
  images : rasterizer.Fits (o.config.textStyle info.width info.height true) (s.texts info o)

/-- A run of a scenario on its schedule, and the report of it.  The frames are delivered one after
the other and at their times, each leaves, and the captions go on until they are stuck; then the
video input ends and the overlay is halted.  The report tells what became of the frames, how many
captions were taken, and what the rasterizer was asked for. -/
inductive Performs (s : Scenario) (rasterizer : Rasterizer) (info : VideoInfo) (session : Session) :
    PlayReport → Prop
  | intro {t : Transcript} {played : Player} {shown : List ScheduledFrame} {ended halted : Session}
      {goodbye answer : Report}
      (reaches : Player.Reaches rasterizer info true (s.player session) t played)
      (stuck : played.isStuck = true)
      (frames : t.frames =
        (List.range s.frames.toNat).map (Player.blackFrame info s.frameDuration))
      (results : t.results = shown.map fun frame => .ok (some frame))
      (count : shown.length = s.frames.toNat)
      (ends : played.session.attempt rasterizer (.videoEvent .eos) = .ok (ended, goodbye))
      (halts : ended.attempt rasterizer (.transit .halt) = .ok (halted, answer)) :
      Performs s rasterizer info session {
        frames := shown.zipIdx.map fun (frame, index) => Player.reportOf s.frameDuration frame index
        cuesDelivered := taken (t.replies ++ goodbye.text.toList ++ answer.text.toList)
        renders := halted.overlay.cache.renders
        requests := halted.overlay.cache.requests.reverse }

theorem Opened.airing (h : s.Opened session) (hfits : s.Fits rasterizer info session.overlay) :
    (s.player session).Airing session.overlay info s.connected (s.texts info session.overlay) where
  broadcasts := {
    settings := ⟨rfl, rfl, rfl⟩
    captions := by simp [player, Session.captions, h.slot, h.text]
    frame := by simp [player, h.frame] }
  cues := by
    intro hconnected cue hcue
    obtain ⟨item, hitem⟩ := hfits.cues hconnected cue hcue
    refine ⟨item, hitem, ?_⟩
    rw [texts, Set.mem_ofPred_eq, if_pos hconnected]
    exact ⟨cue, hcue, item, hitem, rfl⟩
  alone := by simp [player]

/-- The frames of a scenario end at clock times, and what is said for them is said in it. -/
theorem Fits.voiced {o : Overlay} (hfits : s.Fits rasterizer info o) :
    ∀ index ∈ List.range' 0 s.frames.toNat, index * s.frameDuration < ClockTime.limit ∧
      (Step.frame (Player.blackFrame info s.frameDuration index)).Says o info s.connected
        (s.texts info o) := by
  intro index hindex
  have hlt : index < s.frames.toNat := by simpa using hindex
  have hstop : index * s.frameDuration + s.frameDuration < ClockTime.limit := by
    rw [← Nat.succ_mul]
    exact Nat.lt_of_le_of_lt (Nat.mul_le_mul_right _ hlt) hfits.times
  refine ⟨Nat.lt_of_le_of_lt (Nat.le_add_right _ _) hstop, .frame ⟨rfl, rfl, _, rfl, hstop⟩ rfl ?_⟩
  intro hunconnected
  rw [texts, Set.mem_ofPred_eq, if_neg (by simp [hunconnected])]
  exact ⟨index, hlt, rfl⟩

/-- The report of a scenario lists its frames in their order and at their times, and none is
missing. -/
theorem Performs.complete {report : PlayReport} (h : s.Performs rasterizer info session report) :
    report.frames.map (·.index) = List.range s.frames.toNat ∧
      ∀ f ∈ report.frames, f.pts = f.index * s.frameDuration ∧ f.outcome.isSome = true := by
  cases h with
  | @intro t played shown ended halted goodbye answer reaches stuck frames results count ends
      halts =>
      refine ⟨?_, fun f hf => ?_⟩
      · rw [List.map_map, List.range_eq_range', ← count, ← List.zipIdx_map_snd 0 shown]
        rfl
      · obtain ⟨⟨frame, index⟩, -, rfl⟩ := List.mem_map.mp hf
        exact ⟨rfl, rfl⟩

/-- A scenario whose numbers fit comes to the report of its run unless it is to darken a box. -/
theorem play_yields (hcheck : s.check = .ok ()) (hinfo : s.videoInfo = .ok info)
    (hduration : info.frameDuration = some s.frameDuration)
    (hsession : s.openSession rasterizer = .ok session) (hopened : s.Opened session)
    (hfits : s.Fits rasterizer info session.overlay) :
    Yields (Player.Fails session.overlay info) (fun report =>
      s.Performs rasterizer info session report ∧
        (s.connected = true → rasterizer = blockGlyphs → report.renders ≤ report.cuesDelivered))
      (s.play rasterizer) := by
  have hstart := hopened.running rasterizer info
  have hair := hopened.airing hfits
  unfold play
  rw [hcheck, hinfo]
  simp only [Except.mapError, bind, Except.bind, hduration, Option.getD_some, hsession]
  refine (Player.fails_of_darkens (Player.deliver_yields hfits.images hstart hair)).bind ?_
  rintro ⟨first, result⟩ ⟨hfirst, hfirstAir, before, hstretch⟩
  refine (Player.playFrames_yields hfits.images hfits.picture s.frames.toNat 0 hfits.voiced
    (hstretch.reaches.running hstart) hfirstAir hfirst).bind ?_
  rintro ⟨played, reports⟩ ⟨hplayed, during, shown, hreaches, hframes, hresults, hcount, rfl⟩
  have hreached := hstretch.reaches.trans hreaches
  have hrunning := hreached.running hstart
  obtain ⟨ended, halted, goodbye, answer, hended, hhalted, hend, hhalt⟩ :=
    played.farewell rasterizer (hrunning.free_of_stuck hplayed)
  rw [hend]
  simp only [hhalt, Player.answered_session]
  have hdelivered : ((played.answered ended goodbye).answered halted answer).delivered =
      taken (Transcript.replies (before ++ during) ++ goodbye.text.toList ++
        answer.text.toList) := by
    rw [Player.answered_delivered, Player.answered_delivered, hreached.delivered, taken_append,
      taken_append]
    exact congrArg (· + _ + _) (Nat.zero_add _)
  rw [hdelivered]
  refine ⟨.intro hreached hplayed ?_ ?_ hcount hended hhalted, ?_⟩
  · rw [Transcript.frames_append, hstretch.frames, hframes, List.range_eq_range']
    rfl
  · have hbrings := hstretch.brings
    rw [show (s.player session).session.frame = none from hopened.frame] at hbrings
    rw [Transcript.results_append, hstretch.results, hresults]
    -- no frame was on its way while the side of the captions got ahead
    generalize first.session.frame.isSome = waits at hbrings
    cases hbrings with
    | idle => rfl
  · rintro hconnected rfl
    rw [← hdelivered]
    exact ((hrunning.paid hconnected draws_blockGlyphs).renders_le draws_blockGlyphs hended hhalted)

/-- **Scenarios are played to their end.**  A frame never waits for a side of the captions that is
stuck, whichever side goes first.  If the numbers of a scenario fit, it is played on its schedule
until every frame has left, in its order and at its time; it fails only if images are to be drawn on
darkened boxes and the frames have a side that leaves no room for them.  With a text input and the
rasterizer of blocks no more images are made than captions are taken. -/
theorem play_completes (s : Scenario) (hcheck : s.check = .ok ()) (rasterizer : Rasterizer) :
    ∃ info session, s.videoInfo = .ok info ∧ s.openSession rasterizer = .ok session ∧
      (∀ t p, Player.Reaches rasterizer info false (s.player session) t p → p.isStuck = true →
        p.session.frame = none) ∧
      (s.Fits rasterizer info session.overlay →
        s.play rasterizer = .error (.overflow .frameSide) ∧
            session.overlay.config.Overshadows session.overlay.attach info.width info.height ∨
          ∃ report, s.play rasterizer = .ok report ∧ s.Performs rasterizer info session report ∧
            report.frames.map (·.index) = List.range s.frames.toNat ∧
            (∀ f ∈ report.frames, f.pts = f.index * s.frameDuration ∧ f.outcome.isSome = true) ∧
            (s.connected = true → rasterizer = blockGlyphs →
              report.renders ≤ report.cuesDelivered)) := by
  obtain ⟨hfpsN, hfpsD, hconfig, info, hinfo⟩ := check_ok hcheck
  obtain ⟨session, hsession, hopened⟩ := exists_opened hconfig rasterizer
  refine ⟨info, session, hinfo, hsession, fun t p hreached hstuck => ?_, fun hfits => ?_⟩
  · exact (hreached.running (hopened.running rasterizer info)).free_of_stuck hstuck
  · have hyields := play_yields hcheck hinfo (frameDuration_of_videoInfo hinfo hfpsN hfpsD)
      hsession hopened hfits
    cases hplay : s.play rasterizer with
    | error failure =>
        rw [hplay] at hyields
        obtain ⟨rfl, hdark⟩ := hyields
        exact .inl ⟨rfl, hdark⟩
    | ok report =>
        rw [hplay] at hyields
        obtain ⟨hperforms, hrenders⟩ := hyields
        obtain ⟨hindices, hreports⟩ := hperforms.complete
        exact .inr ⟨report, rfl, hperforms, hindices, hreports, hrenders⟩

/-- With a text input it is the captions whose numbers have to fit. -/
theorem Fits.of_cues {o : Overlay} (hconnected : s.connected = true)
    (htimes : s.frames.toNat * s.frameDuration < ClockTime.limit) (hsize : info.size < longCount)
    (hcues : ∀ cue ∈ s.cues,
      cue.fits rasterizer (o.config.textStyle info.width info.height true) = true) :
    s.Fits rasterizer info o where
  times := htimes
  cues _ cue hcue := by
    obtain ⟨item, hitem, -⟩ := Cue.fits_eq_true_iff.mp (hcues cue hcue)
    exact ⟨item, hitem⟩
  picture := hsize
  images := by
    intro text htext
    rw [texts, Set.mem_ofPred_eq, if_pos hconnected] at htext
    obtain ⟨cue, hcue, item, hitem, rfl⟩ := htext
    obtain ⟨item', hitem', hdrawn⟩ := Cue.fits_eq_true_iff.mp (hcues cue hcue)
    obtain rfl := Except.ok.inj (hitem.symm.trans hitem')
    exact hdrawn

/-- Captions of all kinds: one that waits behind a later one, one of no length, one without an end
and one without a time. -/
def jumbled : Scenario :=
  { initial with
    frames := 3
    cues := [
      ⟨some 60, some 40, "late", false⟩, ⟨some 0, some 40, "early", false⟩,
      ⟨some 40, some 0, "brief", false⟩, ⟨some 80, none, "open", false⟩,
      ⟨none, none, "timeless", false⟩] }

theorem jumbled_completes :
    jumbled.check = .ok () ∧ ∃ report, jumbled.play blockGlyphs = .ok report ∧
      report.frames.map (·.index) = [0, 1, 2] ∧ report.renders ≤ report.cuesDelivered := by
  have hcheck : jumbled.check = .ok () := by decide +kernel
  obtain ⟨info, session, hinfo, hsession, -, hplays⟩ := play_completes jumbled hcheck blockGlyphs
  have hopened := opened_of_openSession hcheck hsession
  have hsize : info.width = 320 ∧ info.height = 240 ∧ info.size < longCount := by
    have hmade : (match jumbled.videoInfo with
        | .ok info => decide (info.width = 320 ∧ info.height = 240 ∧ info.size < longCount)
        | .error _ => false) = true := by decide +kernel
    rw [hinfo] at hmade
    exact of_decide_eq_true hmade
  have hfits : jumbled.Fits blockGlyphs info session.overlay := by
    refine .of_cues rfl (by decide +kernel) hsize.2.2 ?_
    rw [hopened.config, hsize.1, hsize.2.1]
    decide +kernel
  rcases hplays hfits with ⟨-, -, hdarkened, -⟩ | ⟨report, hplay, -, hindices, -, hrenders⟩
  · rw [hopened.config] at hdarkened
    exact absurd hdarkened (by decide +kernel)
  · exact ⟨hcheck, report, hplay, hindices, hrenders rfl rfl⟩

/-- A scenario that darkens the boxes behind its text. -/
def overshadowed : Scenario :=
  { initial with
    config := { Config.initial with shadedBackground := true, autoResize := false, text := "a" }
    format := .gray8
    width := 2147483648
    height := 1
    frames := 1
    connected := false }

/-- Nothing about the scenario is out of the ordinary but the width of its frames, and it comes to
no report. -/
theorem overshadowed_overflows :
    overshadowed.check = .ok () ∧
      (∀ info session, overshadowed.videoInfo = .ok info →
        overshadowed.openSession .white = .ok session →
          overshadowed.Fits .white info session.overlay) ∧
      overshadowed.play .white = .error (.overflow .frameSide) := by
  have hcheck : overshadowed.check = .ok () := by decide +kernel
  refine ⟨hcheck, fun info session hinfo hsession => ?_, ?_⟩
  · have hopened := opened_of_openSession hcheck hsession
    have hsize : info.size < longCount := by
      have hmade : (match overshadowed.videoInfo with
          | .ok info => decide (info.size < longCount)
          | .error _ => false) = true := by decide +kernel
      rw [hinfo] at hmade
      exact of_decide_eq_true hmade
    have hsaid : session.overlay.config.text.toList = ['a'] := by
      rw [hopened.config]
      decide +kernel
    refine ⟨by decide +kernel, nofun, hsize, ?_⟩
    rintro text ⟨index, -, rfl⟩ raster hraster
    have hspoken : session.overlay.said (Player.blackFrame info overshadowed.frameDuration index) =
        ['a'] := by
      rw [Overlay.said, hopened.provider]
      exact hsaid
    rw [hspoken] at hraster
    obtain rfl := Except.ok.inj hraster
    decide +kernel
  · have hfails : (match overshadowed.play .white with
        | .error failure => decide (failure = .overflow .frameSide)
        | .ok _ => false) = true := by decide +kernel
    split at hfails
    next failure hplay =>
      rw [hplay, of_decide_eq_true hfails]
    next => cases hfails

end Scenario

end Captioning
