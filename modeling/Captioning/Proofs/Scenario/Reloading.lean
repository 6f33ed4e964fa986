import Captioning.Proofs.Config.Decoding
import Captioning.Proofs.Json.Reading
import Captioning.Proofs.Text.Encoding
import Captioning.Scenario.Json

/-!
# Scenarios are loaded as they were printed

The text of a scenario over several lines denotes the scenario, and so does a file that holds this
text.
-/

namespace Captioning

open Captioning.Json

theorem VideoFormat.toName?_name (f : VideoFormat) : toName? names (ofString f.name) = some f := by
  cases f <;> rfl

/-! ## Captions -/

namespace Cue

theorem readMillis?_ofNat (n : UInt64) : readMillis? (ofNat n.toNat) = some n := by
  have hbound : n.toNat < longCount := UInt64.toNat_lt n
  rw [readMillis?, toNat?_ofNat hbound, Option.map_some, UInt64.ofNat_toNat]

theorem toOption?_readMillis? (t : Option UInt64) :
    toOption? readMillis? (ofOption (fun n => ofNat n.toNat) t) = some t := by
  cases t with
  | none => rfl
  | some n => exact congrArg (Option.map some) (readMillis?_ofNat n)

/-- The fields of a caption in declaration order. -/
def toFields (c : Cue) : Fields :=
  [("start-ms", ofOption (fun n => ofNat n.toNat) c.startMs),
    ("duration-ms", ofOption (fun n => ofNat n.toNat) c.durationMs),
    ("text", ofString c.text),
    ("markup", .bool c.markup)]

theorem toJson_eq (c : Cue) : c.toJson = record c.toFields :=
  rfl

theorem nodup_fieldNames : fieldNames.Nodup := by
  decide

theorem proper_ofMillis (t : Option UInt64) : Proper (ofOption (fun n => ofNat n.toNat) t) := by
  cases t with
  | none => exact .null
  | some n => exact proper_ofNat n.toNat

/-- A caption can be written. -/
theorem proper_toJson (c : Cue) : Proper c.toJson := by
  rw [toJson_eq]
  refine proper_record ?_
  simp only [toFields, List.forall_mem_cons, List.not_mem_nil, false_implies, implies_true,
    ofString, Proper.text, Proper.bool, proper_ofMillis, and_true]

/-- A caption denotes itself. -/
theorem ofJson?_toJson (c : Cue) : ofJson? c.toJson = some c := by
  have hnames : c.toFields.names = fieldNames := rfl
  rw [ofJson?, toJson_eq, toFields?_of_names_eq hnames nodup_fieldNames,
    Option.bind_eq_bind, Option.bind_some,
    Fields.get?_of_lookup (by rfl) (toOption?_readMillis? c.startMs),
    Fields.get?_of_lookup (by rfl) (toOption?_readMillis? c.durationMs),
    Fields.get?_of_lookup (by rfl) (toText?_ofString c.text),
    Fields.get?_of_lookup (by rfl) (toBool?_bool c.markup)]
  rfl

end Cue

/-- A list denotes itself if each of its items does. -/
theorem toList?_map {α : Type} {read : Json → Option α} {write : α → Json}
    (h : ∀ a, read (write a) = some a) (as : List α) :
    toList? read (.array (as.map write)) = some as := by
  rw [toList?]
  induction as with
  | nil => rfl
  | cons a as ih =>
      rw [List.map_cons, List.mapM_cons, h, ih]
      rfl

/-! ## Scenarios -/

namespace Scenario

variable {s : Scenario}

/-- The fields of a scenario in declaration order. -/
def toFields (s : Scenario) : Fields :=
  [("config", s.config.toJson),
    ("format", ofString s.format.name),
    ("width", ofNat s.width.toNat),
    ("height", ofNat s.height.toNat),
    ("fps-n", ofNat s.fpsN.toNat),
    ("fps-d", ofNat s.fpsD.toNat),
    ("frames", ofNat s.frames.toNat),
    ("connected", .bool s.connected),
    ("attach", .bool s.attach),
    ("running-time", .bool s.runningTime),
    ("cues", .array (s.cues.map Cue.toJson))]

theorem toJson_eq (s : Scenario) : s.toJson = record s.toFields :=
  rfl

theorem nodup_fieldNames : fieldNames.Nodup := by
  decide

/-- A scenario can be written. -/
theorem proper_toJson (s : Scenario) : Proper s.toJson := by
  have hconfig : Proper s.config.toJson := proper_record s.config.proper_toFields
  have hcues : Proper (.array (s.cues.map Cue.toJson)) := .array fun j hj => by
    obtain ⟨cue, -, rfl⟩ := List.mem_map.mp hj
    exact cue.proper_toJson
  rw [toJson_eq]
  refine proper_record ?_
  simp only [toFields, List.forall_mem_cons, List.not_mem_nil, false_implies, implies_true,
    ofString, Proper.text, Proper.bool, proper_ofNat, hconfig, hcues, and_true]

/-- A scenario denotes itself if the doubles of its configuration read back. -/
theorem ofJson?_toJson (hxpos : ReadsBack s.config.xpos) (hypos : ReadsBack s.config.ypos) :
    ofJson? s.toJson = some s := by
  have hnames : s.toFields.names = fieldNames := rfl
  rw [ofJson?, toJson_eq, toFields?_of_names_eq hnames nodup_fieldNames,
    Option.bind_eq_bind, Option.bind_some,
    Fields.get?_of_lookup (by rfl) (Config.ofJson?_toJson hxpos hypos),
    Fields.get?_of_lookup (by rfl) s.format.toName?_name,
    Fields.get?_of_lookup (by rfl) (readWord?_ofNat s.width),
    Fields.get?_of_lookup (by rfl) (readWord?_ofNat s.height),
    Fields.get?_of_lookup (by rfl) (readWord?_ofNat s.fpsN),
    Fields.get?_of_lookup (by rfl) (readWord?_ofNat s.fpsD),
    Fields.get?_of_lookup (by rfl) (readWord?_ofNat s.frames),
    Fields.get?_of_lookup (by rfl) (toBool?_bool s.connected),
    Fields.get?_of_lookup (by rfl) (toBool?_bool s.attach),
    Fields.get?_of_lookup (by rfl) (toBool?_bool s.runningTime),
    Fields.get?_of_lookup (by rfl) (toList?_map Cue.ofJson?_toJson s.cues)]
  rfl

/-- Whatever spells the value of a playable scenario denotes the scenario. -/
theorem parse_of_spells {text : String} (hspells : Spells text s.toJson) (hcheck : s.check = .ok ())
    (hxpos : ReadsBack s.config.xpos) (hypos : ReadsBack s.config.ypos) : parse text = .ok s := by
  rw [parse, hspells.parse?_eq, Option.bind_some, ofJson?_toJson hxpos hypos]
  dsimp only
  rw [hcheck]
  rfl

/-- A playable scenario is read from its text over several lines, also when blanks follow. -/
theorem parse_pretty (hcheck : s.check = .ok ()) (hxpos : ReadsBack s.config.xpos)
    (hypos : ReadsBack s.config.ypos) {after : List Char} (hafter : Blank after) :
    parse (s.toJson.pretty ++ String.ofList after) = .ok s :=
  parse_of_spells (spells_pretty s.proper_toJson hafter) hcheck hxpos hypos

/-- A file that holds a text is read as the text. -/
theorem load_encode (text : String) : load (some (Utf8.encode text)) = parse text := by
  rw [load, if_pos (Utf8.isValid_encode text), Utf8.repair_encode, String.ofList_toList]

theorem check_of_parse {text : String} (h : parse text = .ok s) : s.check = .ok () := by
  unfold parse at h
  split at h
  next scenario _ =>
    cases hcheck : scenario.check with
    | error e =>
        rw [hcheck] at h
        cases h
    | ok =>
        rw [hcheck] at h
        obtain rfl : scenario = s := Except.ok.inj h
        exact hcheck
  next => cases h

/-- What is loaded can be played. -/
theorem check_of_load {bytes : Option (List UInt8)} (h : load bytes = .ok s) :
    s.check = .ok () := by
  unfold load at h
  split at h
  · split at h
    · exact check_of_parse h
    · cases h
  · cases h

end Scenario

end Captioning
