import Captioning.Proofs.Config.Decoding
import Captioning.Proofs.Json.Reading

/-!
# Texts of configurations

Any fields of a configuration, in any order and with any blanks between tokens, are read as the
initial configuration with these settings in it.  No field may come twice, and no other may stand
beside them.
-/

namespace Captioning.Config

open Captioning.Json

variable {c : Config} {fields : Fields} {text : String}

/-- What a text means is decided by the value that it spells. -/
theorem parse_of_spells {j : Json} (h : Spells text j) :
    parse text = match ofJson? j with
      | some config => config.check.map fun _ => config
      | none => .error (.invalidConfig .malformed) := by
  rw [parse, h.parse?_eq, Option.bind_some]
  cases ofJson? j with
  | none => rfl
  | some config => cases config.check <;> rfl

/-- **Fields of a configuration override the initial one.**  Every text that consists of fields of
a valid configuration, in whatever order and with whatever blanks, denotes the initial
configuration overridden by them; their compact text is one of these texts.  With all fields the
configuration itself is read.  A text with a further field, whose name is not declared or comes
twice, is malformed. -/
theorem given_fields_override (c : Config) (hvalid : c.isValid = true) (fields : Fields)
    (hsub : fields ⊆ c.toFields) (hnodup : fields.names.Nodup)
    (hxpos : "xpos" ∈ fields.names → ReadsBack c.xpos)
    (hypos : "ypos" ∈ fields.names → ReadsBack c.ypos) :
    (∀ text, Spells text (record fields) → parse text = .ok (c.overridden fields.names)) ∧
      Spells (record fields).compact (record fields) ∧
      (fieldNames ⊆ fields.names → c.overridden fields.names = c) ∧
      ∀ first second name value text, fields = first ++ second →
        (name ∉ fieldNames ∨ name ∈ fields.names) →
        Spells text (record (first ++ (name, value) :: second)) →
        parse text = .error (.invalidConfig .malformed) := by
  have hdeclared : fields.names ⊆ fieldNames :=
    names_toFields c ▸ List.map_subset Prod.fst hsub
  refine ⟨fun text hspells => ?_, ?_, overridden_of_all, ?_⟩
  · have hread : ofJson? (record fields) = some (c.overridden fields.names) := by
      rw [ofJson?, toFields?_of_names hdeclared hnodup, Option.bind_some,
        ofFields?_of_subset hsub hnodup hxpos hypos]
    have hcheck := (check_eq_ok_iff _).mpr (isValid_overridden hvalid fields.names)
    rw [parse_of_spells hspells, hread]
    dsimp only
    rw [hcheck]
    rfl
  · exact spells_compact (proper_record fun f hf => proper_toFields c f (hsub hf))
  · rintro first second name value text rfl hname hspells
    rw [parse_of_spells hspells, ofJson?, toFields?_inserted value hname]
    rfl

theorem ofDouble_quarter : ofDouble 0.25 = .number ⟨false, ['0'], some ['2', '5'], none⟩ := by
  have hnumeral : doubleLayout.numeral? 0.25 = some ⟨false, ['0'], some ['2', '5'], none⟩ := by
    decide +kernel
  rw [ofDouble, hnumeral]

/-- Two fields in another order, with blanks around tokens and with escaped characters; and a third
field beside them. -/
theorem reordered_fields_override :
    parse "\x7b\n  \"xpos\" : 0.25,\t\"text\":\"\\\"hi\\\"\\u0001\" \x7d\n" =
        .ok { initial with xpos := 0.25, text := "\"hi\"\x01" } ∧
      parse "\x7b\"xpos\":0.25,\"text\":\"\\\"hi\\\"\\u0001\",\"size\":7\x7d" =
        .error (.invalidConfig .malformed) := by
  obtain ⟨hparse, -, -, hrefuse⟩ := given_fields_override
    { initial with xpos := 0.25, text := "\"hi\"\x01" } (by decide +kernel)
    [("xpos", ofDouble 0.25), ("text", ofString "\"hi\"\x01")]
    (by simp [toFields]) (by decide) (fun _ => by decide +kernel) (fun h => absurd h (by decide))
  have hspace : Blank [' '] := by simp [Blank, Json.isBlank]
  have hbreak : Blank ['\n'] := by simp [Blank, Json.isBlank]
  constructor
  · refine (hparse _ ?_).trans rfl
    have hxpos : Padded (quoted "xpos".toList) _ :=
      ⟨['\n', ' ', ' '], [' '], by simp [Blank, Json.isBlank], hspace, rfl⟩
    have hnumber : Spelled (ofDouble 0.25) ['0', '.', '2', '5'] := by
      have hproper := proper_ofDouble 0.25
      rw [ofDouble_quarter] at hproper ⊢
      exact hproper.spelled_compactChars
    have hvalue : Padded ['0', '.', '2', '5'] _ := ⟨[' '], [], hspace, blank_nil, rfl⟩
    have htext : Padded (quoted "text".toList) _ :=
      ⟨['\t'], [], by simp [Blank, Json.isBlank], blank_nil, rfl⟩
    have hstring : Padded (quoted "\"hi\"\x01".toList) _ := ⟨[], [' '], blank_nil, hspace, rfl⟩
    exact ⟨_, .object (.next hxpos hnumber hvalue (.last htext (.text _) hstring)), [], ['\n'],
      blank_nil, hbreak, by decide +kernel⟩
  · have hproper : Proper (record [("xpos", ofDouble 0.25), ("text", ofString "\"hi\"\x01"),
        ("size", ofNat 7)]) := by
      refine proper_record ?_
      simp only [List.forall_mem_cons, List.not_mem_nil, false_implies, implies_true, ofString,
        proper_ofDouble, Proper.text, proper_ofNat, and_true]
    have hcompact : (record [("xpos", ofDouble 0.25), ("text", ofString "\"hi\"\x01"),
        ("size", ofNat 7)]).compact =
        "\x7b\"xpos\":0.25,\"text\":\"\\\"hi\\\"\\u0001\",\"size\":7\x7d" := by
      rw [ofDouble_quarter]
      decide +kernel
    rw [← hcompact]
    exact hrefuse _ [] "size" (ofNat 7) _ (List.append_nil _).symm (.inl (by decide))
      (spells_compact hproper)

end Captioning.Config
