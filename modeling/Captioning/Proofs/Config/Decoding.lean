import Captioning.Config.Json
import Captioning.Proofs.Json.Fields

/-!
# Configurations read what they write

Each setting reads back from the value that it is written as.  So some of the fields of a
configuration, in any order, denote the initial configuration with these settings in it.
-/

namespace Captioning

open Captioning.Json

/-! ## Settings -/

theorem readByte?_ofNat (b : UInt8) : readByte? (ofNat b.toNat) = some b := by
  have hbound : b.toNat < byteCount := UInt8.toNat_lt b
  rw [readByte?, toNat?_ofNat hbound, Option.map_some, UInt8.ofNat_toNat]

theorem readWord?_ofNat (w : UInt32) : readWord? (ofNat w.toNat) = some w := by
  have hbound : w.toNat < wordCount := UInt32.toNat_lt w
  rw [readWord?, toNat?_ofNat hbound, Option.map_some, UInt32.ofNat_toNat]

theorem readPixels?_ofInt (n : Int32) : readPixels? (ofInt n.toInt) = some n := by
  have hlow : -(signedWordCount : Int) ≤ n.toInt := Int32.le_toInt n
  have hhigh : n.toInt < signedWordCount := Int32.toInt_lt n
  rw [readPixels?, toInt?_ofInt hlow hhigh, Option.map_some, Int32.ofInt_toInt]

theorem HAlign.toName?_name (a : HAlign) : toName? names (ofString a.name) = some a := by
  cases a <;> rfl

theorem VAlign.toName?_name (a : VAlign) : toName? names (ofString a.name) = some a := by
  cases a <;> rfl

theorem WrapMode.toName?_name (m : WrapMode) : toName? names (ofString m.name) = some m := by
  cases m <;> rfl

theorem LineAlign.toName?_name (a : LineAlign) : toName? names (ofString a.name) = some a := by
  cases a <;> rfl

namespace Config

variable {c : Config} {fields : Fields}

/-! ## Fields -/

theorem names_toFields (c : Config) : c.toFields.names = fieldNames :=
  rfl

theorem nodup_fieldNames : fieldNames.Nodup := by
  decide

/-- All settings can be written. -/
theorem proper_toFields (c : Config) : ∀ f ∈ c.toFields, Proper f.2 := by
  simp only [toFields, List.forall_mem_cons, List.not_mem_nil, false_implies, implies_true,
    ofString, Proper.text, Proper.bool, proper_ofNat, proper_ofInt, proper_ofDouble, and_true]

/-- The initial configuration with the settings of `c` that have the given names. -/
def overridden (given : List String) (c : Config) : Config where
  text := if "text" ∈ given then c.text else initial.text
  shadedBackground :=
    if "shaded-background" ∈ given then c.shadedBackground else initial.shadedBackground
  shadingValue := if "shading-value" ∈ given then c.shadingValue else initial.shadingValue
  halignment := if "halignment" ∈ given then c.halignment else initial.halignment
  valignment := if "valignment" ∈ given then c.valignment else initial.valignment
  xpad := if "xpad" ∈ given then c.xpad else initial.xpad
  ypad := if "ypad" ∈ given then c.ypad else initial.ypad
  deltax := if "deltax" ∈ given then c.deltax else initial.deltax
  deltay := if "deltay" ∈ given then c.deltay else initial.deltay
  xpos := if "xpos" ∈ given then c.xpos else initial.xpos
  ypos := if "ypos" ∈ given then c.ypos else initial.ypos
  wrapMode := if "wrap-mode" ∈ given then c.wrapMode else initial.wrapMode
  lineAlignment := if "line-alignment" ∈ given then c.lineAlignment else initial.lineAlignment
  fontDesc := if "font-desc" ∈ given then c.fontDesc else initial.fontDesc
  color := if "color" ∈ given then c.color else initial.color
  outlineColor := if "outline-color" ∈ given then c.outlineColor else initial.outlineColor
  silent := if "silent" ∈ given then c.silent else initial.silent
  waitText := if "wait-text" ∈ given then c.waitText else initial.waitText
  autoResize := if "auto-resize" ∈ given then c.autoResize else initial.autoResize
  verticalRender := if "vertical-render" ∈ given then c.verticalRender else initial.verticalRender

/-- With all settings given, nothing of the initial configuration is left. -/
theorem overridden_of_all {given : List String} (h : fieldNames ⊆ given) :
    c.overridden given = c := by
  simp only [fieldNames, List.cons_subset, List.nil_subset, and_true] at h
  simp only [overridden, h, if_true]

/-- Fields of a configuration denote its settings wherever they are given; the doubles among them
must read back. -/
theorem ofFields?_of_subset (hsub : fields ⊆ c.toFields) (hnodup : fields.names.Nodup)
    (hxpos : "xpos" ∈ fields.names → ReadsBack c.xpos)
    (hypos : "ypos" ∈ fields.names → ReadsBack c.ypos) :
    ofFields? fields = some (c.overridden fields.names) := by
  have get : ∀ {α : Type} {name : String} {value : Json} {read : Json → Option α} {a absent : α},
      c.toFields.lookup name = some value → (name ∈ fields.names → read value = some a) →
        fields.get? name read (some absent) =
          some (if name ∈ fields.names then a else absent) :=
    fun hvalue hread =>
      Fields.get?_of_subset (names_toFields c ▸ nodup_fieldNames) hsub hnodup hvalue hread
  unfold ofFields?
  rw [get (by rfl) fun _ => toText?_ofString c.text,
    get (by rfl) fun _ => toBool?_bool c.shadedBackground,
    get (by rfl) fun _ => readByte?_ofNat c.shadingValue,
    get (by rfl) fun _ => c.halignment.toName?_name,
    get (by rfl) fun _ => c.valignment.toName?_name,
    get (by rfl) fun _ => readPixels?_ofInt c.xpad,
    get (by rfl) fun _ => readPixels?_ofInt c.ypad,
    get (by rfl) fun _ => readPixels?_ofInt c.deltax,
    get (by rfl) fun _ => readPixels?_ofInt c.deltay,
    get (by rfl) hxpos,
    get (by rfl) hypos,
    get (by rfl) fun _ => c.wrapMode.toName?_name,
    get (by rfl) fun _ => c.lineAlignment.toName?_name,
    get (by rfl) fun _ => toText?_ofString c.fontDesc,
    get (by rfl) fun _ => readWord?_ofNat c.color,
    get (by rfl) fun _ => readWord?_ofNat c.outlineColor,
    get (by rfl) fun _ => toBool?_bool c.silent,
    get (by rfl) fun _ => toBool?_bool c.waitText,
    get (by rfl) fun _ => toBool?_bool c.autoResize,
    get (by rfl) fun _ => toBool?_bool c.verticalRender]
  rfl

/-- A configuration denotes itself. -/
theorem ofJson?_toJson (hxpos : ReadsBack c.xpos) (hypos : ReadsBack c.ypos) :
    ofJson? c.toJson = some c := by
  have hnodup : c.toFields.names.Nodup := names_toFields c ▸ nodup_fieldNames
  rw [ofJson?, toJson, toFields?_of_names_eq (names_toFields c) nodup_fieldNames,
    Option.bind_some,
    ofFields?_of_subset (List.Subset.refl _) hnodup (fun _ => hxpos) fun _ => hypos,
    overridden_of_all (names_toFields c ▸ List.Subset.refl _)]

/-! ## Validity -/

theorem isValid_iff : c.isValid = true ↔ ∀ rule, c.keeps rule = true := by
  have hall : ∀ rule, rule ∈ ConfigRule.all := fun rule => by cases rule <;> decide
  simp only [isValid, broken, List.isEmpty_iff, List.filter_eq_nil_iff, Bool.not_eq_true',
    Bool.not_eq_false]
  exact ⟨fun h rule => h rule (hall rule), fun h rule _ => h rule⟩

theorem isValid_initial : initial.isValid = true := by
  decide +kernel

/-- Each rule is about one setting, so settings of valid configurations can be mixed. -/
theorem isValid_overridden (h : c.isValid = true) (given : List String) :
    (c.overridden given).isValid = true := by
  rw [isValid_iff] at h ⊢
  have hinitial := isValid_iff.mp isValid_initial
  intro rule
  have hboth := And.intro (h rule) (hinitial rule)
  cases rule <;> simp only [keeps, overridden] at hboth ⊢ <;> split
  all_goals first | exact hboth.1 | exact hboth.2

end Config

end Captioning
