import Captioning.Proofs.Render.Drawing

/-!
# Caches that nobody notices

A cache is asked for the images of texts, and meanwhile its image is made stale or dropped.  This
file follows a cache through any sequence of such calls and compares its answers with those of
the rasterizer alone.

## Strategy

What has happened to a cache is written down, the last event first.  The record says whether an
image may be handed out again: `StillShows` looks for the last rendering that gave an image, and
finds none if the image was made stale afterwards.  `RenderCache.Accounts` ties a cache to its
record, and each call keeps the two together.
-/

namespace Captioning

/-! ## Calls and their record -/

/-- A call of a cache. -/
inductive CacheCall where
  | render (text : List Char) (style : TextStyle)
  | invalidate
  | clear

/-- What has happened to a cache. -/
inductive CacheEvent where
  | rendered (text : List Char) (style : TextStyle) (result : Except CaptionError RenderedImage)
  | invalidated
  | cleared

/-- The last rendering that gave an image gave this one, for this text in this style, and nothing
has made it stale since. -/
inductive StillShows : List CacheEvent → List Char → TextStyle → RenderedImage → Prop
  | last {past : List CacheEvent} {text : List Char} {style : TextStyle} {image : RenderedImage} :
      StillShows (.rendered text style (.ok image) :: past) text style image
  | failed {past : List CacheEvent} {text text' : List Char} {style style' : TextStyle}
      {image : RenderedImage} {error : CaptionError} (earlier : StillShows past text style image) :
      StillShows (.rendered text' style' (.error error) :: past) text style image

theorem StillShows.mem {past : List CacheEvent} {text : List Char} {style : TextStyle}
    {image : RenderedImage} (h : StillShows past text style image) :
    .rendered text style (.ok image) ∈ past := by
  induction h with
  | last => exact List.mem_cons_self
  | failed earlier ih => exact List.mem_cons_of_mem _ ih

/-- The image of a text in a style without a cache, or why there is none. -/
def Rasterizer.image (rasterizer : Rasterizer) (text : List Char) (style : TextStyle) :
    Except CaptionError RenderedImage :=
  match rasterizer.rasterize (spaced text) style with
  | .error error => .error error
  | .ok raster =>
      if raster.isWellFormed then .ok ⟨raster, style.sourceKey text, 0⟩
      else .error raster.sizeError

/-- Whether the rasterizer gives something when it is asked. -/
def RenderRequest.succeeds (request : RenderRequest) (rasterizer : Rasterizer) : Bool :=
  (rasterizer.rasterize request.text request.style).isOk

namespace RenderCache

/-- What a call makes of a cache, and what has happened then. -/
def call (c : RenderCache) (rasterizer : Rasterizer) : CacheCall → RenderCache × CacheEvent
  | .render text style =>
      ((c.render rasterizer text style).1, .rendered text style (c.render rasterizer text style).2)
  | .invalidate => (c.invalidate, .invalidated)
  | .clear => (c.clear, .cleared)

/-- What calls make of a cache, and the record of all that has happened to it. -/
def run (c : RenderCache) (rasterizer : Rasterizer) (past : List CacheEvent) :
    List CacheCall → RenderCache × List CacheEvent
  | [] => (c, past)
  | next :: calls =>
      (c.call rasterizer next).1.run rasterizer ((c.call rasterizer next).2 :: past) calls

variable {c c' : RenderCache} {rasterizer : Rasterizer} {text : List Char} {style : TextStyle}
  {result : Except CaptionError RenderedImage} {past : List CacheEvent}

/-! ## One call -/

theorem kept?_of_dirty (hdirty : c.dirty = true) (key : SourceKey) : c.kept? key = none := by
  simp [kept?, hdirty]

theorem kept?_eq_some_iff {image : RenderedImage} (hclean : c.dirty = false)
    (himage : c.image = some image) {key : SourceKey} {found : RenderedImage} :
    c.kept? key = some found ↔ image = found ∧ image.source = key := by
  simp only [kept?, hclean, himage, Bool.false_eq_true, if_false, Option.filter_eq_some_iff,
    Option.some.injEq, decide_eq_true_eq]
  exact and_congr_right fun h => by rw [h]

theorem image_of_drawn? {raster : Raster} (h : rasterizer.drawn? text style = some raster) :
    rasterizer.image text style = .ok ⟨raster, style.sourceKey text, 0⟩ := by
  unfold Rasterizer.drawn? at h
  unfold Rasterizer.image
  split at h
  next drawn hdrawn =>
    split at h
    next hsize =>
      obtain rfl := Option.some.inj h
      rw [hdrawn]
      exact if_pos hsize
    next _ => cases h
  next _ => cases h

/-- What is handed out is what the rasterizer alone would give, up to the number of the image. -/
theorem Rendering.map_unnumbered_eq (h : c.Rendering rasterizer text style c' result)
    (hc : c.Exact rasterizer) :
    result.map RenderedImage.unnumbered = rasterizer.image text style := by
  cases h with
  | @kept image clean current source =>
      -- the image was drawn for a text with the same key, which is this text
      obtain ⟨text', style', hsource, hdrawn⟩ := hc image current
      obtain ⟨rfl, rfl⟩ := TextStyle.sourceKey_inj (hsource.symm.trans source)
      rw [image_of_drawn? hdrawn, ← source]
      rfl
  | failed stale drawn => simp only [Rasterizer.image, drawn, Except.map]
  | malformed stale drawn size => simp [Rasterizer.image, drawn, size, Except.map]
  | drawn stale drawn size =>
      rw [image_of_drawn? (Rasterizer.drawn?_of_ok drawn size)]
      rfl

/-- A failure leaves the image and the mark of staleness as they are. -/
theorem Rendering.of_error {error : CaptionError}
    (h : c.Rendering rasterizer text style c' (.error error)) :
    c'.image = c.image ∧ c'.dirty = c.dirty := by
  cases h <;> exact ⟨rfl, rfl⟩

/-- A cache that does not keep the image asks the rasterizer once. -/
theorem Rendering.requests_of_stale (h : c.Rendering rasterizer text style c' result)
    (hstale : c.kept? (style.sourceKey text) = none) :
    c'.requests = ⟨spaced text, style⟩ :: c.requests := by
  cases h with
  | @kept image clean current source =>
      rw [(kept?_eq_some_iff clean current).mpr ⟨rfl, source⟩] at hstale
      cases hstale
  | failed stale drawn => rfl
  | malformed stale drawn size => rfl
  | drawn stale drawn size => rfl

/-- A new image has a new number. -/
theorem Rendering.serial_of_stale {image : RenderedImage}
    (h : c.Rendering rasterizer text style c' (.ok image))
    (hstale : c.kept? (style.sourceKey text) = none) : image.serial = c.renders + 1 := by
  cases h with
  | kept clean current source =>
      rw [(kept?_eq_some_iff clean current).mpr ⟨rfl, source⟩] at hstale
      cases hstale
  | drawn stale drawn size => rfl

/-! ## The record of a cache -/

/-- A cache agrees with the record of what has happened to it. -/
structure Accounts (rasterizer : Rasterizer) (c : RenderCache) (past : List CacheEvent) :
    Prop where
  exact : c.Exact rasterizer
  kept : ∀ text style image,
    c.kept? (style.sourceKey text) = some image ↔ StillShows past text style image
  renders : c.renders = c.requests.countP (·.succeeds rasterizer)
  numbered : ∀ text style image, .rendered text style (.ok image) ∈ past →
    image.serial ≤ c.renders

theorem Accounts.of_no_image (rasterizer : Rasterizer) (himage : c.image = none)
    (hrequests : c.requests = []) (hrenders : c.renders = 0) : Accounts rasterizer c [] where
  exact := by simp [Exact, himage]
  kept text style image := by
    refine ⟨fun h => ?_, nofun⟩
    simp [kept?, himage] at h
  renders := by simp [hrequests, hrenders]
  numbered := by simp

theorem Accounts.stale (h : Accounts rasterizer c past) {event : CacheEvent}
    (hexact : c'.Exact rasterizer) (hdirty : c'.dirty = true) (hrenders : c'.renders = c.renders)
    (hrequests : c'.requests = c.requests) (hevent : event = .invalidated ∨ event = .cleared) :
    Accounts rasterizer c' (event :: past) where
  exact := hexact
  kept text style image := by
    rw [kept?_of_dirty hdirty]
    rcases hevent with rfl | rfl <;> exact ⟨nofun, nofun⟩
  renders := by rw [hrenders, hrequests, h.renders]
  numbered text style image hmem := by
    rw [hrenders]
    rcases hevent with rfl | rfl <;> exact h.numbered text style image (by simpa using hmem)

/-- A cache that keeps an image, which was handed out for a text just now, hands it out for that
text only. -/
private theorem kept_iff_of_handed_out {image : RenderedImage} (hclean : c'.dirty = false)
    (himage : c'.image = some image) (hsource : image.source = style.sourceKey text)
    (text' : List Char) (style' : TextStyle) (found : RenderedImage) :
    c'.kept? (style'.sourceKey text') = some found ↔
      StillShows (.rendered text style (.ok image) :: past) text' style' found := by
  rw [kept?_eq_some_iff hclean himage]
  constructor
  · rintro ⟨rfl, hkey⟩
    obtain ⟨rfl, rfl⟩ := TextStyle.sourceKey_inj (hsource.symm.trans hkey)
    exact .last
  · intro h
    cases h with
    | last => exact ⟨rfl, hsource⟩

/-- A failure changes nothing in what may be handed out. -/
private theorem kept_iff_of_failure (h : Accounts rasterizer c past)
    (hkept : ∀ key, c'.kept? key = c.kept? key) (error : CaptionError) (text' : List Char)
    (style' : TextStyle) (found : RenderedImage) :
    c'.kept? (style'.sourceKey text') = some found ↔
      StillShows (.rendered text style (.error error) :: past) text' style' found := by
  rw [hkept, h.kept]
  constructor
  · exact .failed
  · intro hstill
    cases hstill with
    | failed earlier => exact earlier

private theorem numbered_of_handed_out (h : Accounts rasterizer c past)
    (hrenders : c.renders ≤ c'.renders)
    (hresult : ∀ image, result = .ok image → image.serial ≤ c'.renders) (text' : List Char)
    (style' : TextStyle) (image : RenderedImage)
    (hmem : .rendered text' style' (.ok image) ∈ CacheEvent.rendered text style result :: past) :
    image.serial ≤ c'.renders := by
  rcases List.mem_cons.mp hmem with hlast | hearlier
  · obtain ⟨-, -, hresult'⟩ := CacheEvent.rendered.inj hlast
    exact hresult image hresult'.symm
  · exact Nat.le_trans (h.numbered text' style' image hearlier) hrenders

theorem Accounts.rendered (h : Accounts rasterizer c past)
    (hrendering : c.Rendering rasterizer text style c' result) :
    Accounts rasterizer c' (.rendered text style result :: past) := by
  have hexact := hrendering.exact h.exact
  cases hrendering with
  | @kept image clean current source =>
      have hkept : c.kept? (style.sourceKey text) = some image :=
        (kept?_eq_some_iff clean current).mpr ⟨rfl, source⟩
      refine ⟨hexact, kept_iff_of_handed_out clean current source, h.renders, ?_⟩
      refine numbered_of_handed_out h (Nat.le_refl _) fun found hfound => ?_
      -- the same image has been handed out before
      obtain rfl := Except.ok.inj hfound
      exact h.numbered text style image ((h.kept text style image).mp hkept).mem
  | @failed error stale drawn =>
      refine ⟨hexact, kept_iff_of_failure h (fun _ => rfl) error, ?_,
        numbered_of_handed_out h (Nat.le_refl _) nofun⟩
      simp [ask, h.renders, RenderRequest.succeeds, drawn, Except.isOk, Except.toBool]
  | @malformed raster stale drawn size =>
      refine ⟨hexact, kept_iff_of_failure h (fun _ => rfl) raster.sizeError, ?_,
        numbered_of_handed_out h (Nat.le_succ _) nofun⟩
      simp [ask, count, h.renders, RenderRequest.succeeds, drawn, Except.isOk, Except.toBool]
  | @drawn raster stale drawn size =>
      refine ⟨hexact, kept_iff_of_handed_out rfl rfl rfl, ?_, ?_⟩
      · simp [ask, count, keep, h.renders, RenderRequest.succeeds, drawn, Except.isOk,
          Except.toBool]
      · refine numbered_of_handed_out h (Nat.le_succ _) fun found hfound => ?_
        obtain rfl := Except.ok.inj hfound
        exact Nat.le_refl _

/-- Each call keeps a cache in agreement with its record. -/
theorem Accounts.call (h : Accounts rasterizer c past) (next : CacheCall) :
    Accounts rasterizer (c.call rasterizer next).1 ((c.call rasterizer next).2 :: past) := by
  cases next with
  | render text style => exact h.rendered (c.render_rendering rasterizer text style)
  | invalidate => exact h.stale h.exact rfl rfl rfl (.inl rfl)
  | clear =>
      refine h.stale ?_ rfl rfl rfl (.inr rfl)
      intro image himage
      cases himage

theorem Accounts.run (h : Accounts rasterizer c past) (calls : List CacheCall) :
    Accounts rasterizer (c.run rasterizer past calls).1 (c.run rasterizer past calls).2 := by
  induction calls generalizing c past with
  | nil => exact h
  | cons next calls ih => exact ih (h.call next)

/-! ## Any sequence of calls -/

/-- **A cache is transparent and exact.**  Whatever has been asked of a cache, which at first held
no image and may or may not have counted as stale:

* what it hands out for a text is what the rasterizer alone would give, be it an image or an
  error;
* if the last rendering that gave an image was for this text in this style, and nothing has made
  the image stale since, the cache hands out that very image and stays as it is;
* otherwise it asks the rasterizer exactly once, and an image that it gets is none of those which
  were handed out before;
* it has counted the calls in which the rasterizer gave something;
* a rendering that fails leaves the image and the mark of staleness as they are. -/
theorem render_transparent (rasterizer : Rasterizer) (dirty : Bool) (calls : List CacheCall)
    (text : List Char) (style : TextStyle) :
    let start : RenderCache := if dirty then .empty else .blank
    let c := (start.run rasterizer [] calls).1
    let past := (start.run rasterizer [] calls).2
    let after := (c.render rasterizer text style).1
    let result := (c.render rasterizer text style).2
    result.map RenderedImage.unnumbered = rasterizer.image text style ∧
      (∀ image, StillShows past text style image → result = .ok image ∧ after = c) ∧
      ((∀ image, ¬ StillShows past text style image) →
        after.requests = ⟨spaced text, style⟩ :: c.requests ∧
          ∀ image, result = .ok image → ∀ text' style' earlier,
            .rendered text' style' (.ok earlier) ∈ past → earlier.serial ≠ image.serial) ∧
      c.renders = c.requests.countP (·.succeeds rasterizer) ∧
      ∀ error, result = .error error → after.image = c.image ∧ after.dirty = c.dirty := by
  intro start c past after result
  have hstart : Accounts rasterizer start [] := by
    cases dirty <;> exact .of_no_image rasterizer rfl rfl rfl
  have haccounts : Accounts rasterizer c past := hstart.run calls
  have hrendering : c.Rendering rasterizer text style after result :=
    c.render_rendering rasterizer text style
  refine ⟨hrendering.map_unnumbered_eq haccounts.exact, ?_, ?_, haccounts.renders, ?_⟩
  · intro image hstill
    have hkept := (haccounts.kept text style image).mpr hstill
    have hrender : c.render rasterizer text style = (c, .ok image) := by
      simp only [render, hkept]
    exact ⟨congrArg Prod.snd hrender, congrArg Prod.fst hrender⟩
  · intro hnone
    have hstale : c.kept? (style.sourceKey text) = none := by
      cases hkept : c.kept? (style.sourceKey text) with
      | none => rfl
      | some image => exact absurd ((haccounts.kept text style image).mp hkept) (hnone image)
    refine ⟨hrendering.requests_of_stale hstale, ?_⟩
    intro image himage text' style' earlier hmem
    rw [himage] at hrendering
    have hnew := hrendering.serial_of_stale hstale
    have hold := haccounts.numbered text' style' earlier hmem
    omega
  · intro error herror
    rw [herror] at hrendering
    exact hrendering.of_error

end RenderCache

end Captioning
