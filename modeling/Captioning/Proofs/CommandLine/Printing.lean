import Captioning.Proofs.CommandLine.Arguments
import Captioning.Proofs.Scenario.Reloading

/-!
# Printed scenarios are a fixed point

The program prints the scenario that it would play.  A file with what was printed holds the same
scenario, so it is printed with the same bytes again.
-/

namespace Captioning.CommandLine

open Captioning.Json

variable {files : String → Option (List UInt8)} {args : List Argument} {path : String}
  {s : Scenario}

/-- What the program prints for its arguments, where `files` gives the bytes of each file that
exists. -/
def output (files : String → Option (List UInt8)) (args : List String) : Output :=
  match plan args with
  | .finished output => output
  | .load path options => answer path options (files path)

/-- What is changed in a scenario does not matter for whether it can be played. -/
theorem check_effective (args : List Argument) (s : Scenario) :
    (effective args s).check = s.check :=
  rfl

/-- The program prints the scenario in the last file that is named, with what the other arguments
change in it. -/
theorem output_words (h : ∀ a ∈ args, a.IsReadable) (hprint : .printScenario ∈ args)
    (hpath : (args.filterMap Argument.path?).getLast? = some path)
    (hload : Scenario.load (files path) = .ok s) :
    output files (words args) = ⟨(effective args s).toJson.pretty ++ "\n", "", 0⟩ := by
  rw [output, plan_words h hpath]
  exact answer_words h hprint hload

/-! ## Arguments that change nothing -/

/-- Arguments that only ask for the scenario in one file. -/
def IsPlain (path : String) (args : List Argument) : Prop :=
  ∀ a ∈ args, a = .printScenario ∨ a = .file path

namespace IsPlain

variable (h : IsPlain path args)
include h

theorem isReadable (hpath : (Argument.file path).IsReadable) : ∀ a ∈ args, a.IsReadable := by
  intro a ha
  rcases h a ha with rfl | rfl
  · trivial
  · exact hpath

theorem effective_eq (s : Scenario) : effective args s = s := by
  have hcounts : args.filterMap Argument.count? = [] := by
    rw [List.filterMap_eq_nil_iff]
    intro a ha
    rcases h a ha with rfl | rfl <;> rfl
  have hattach : .attach ∉ args := fun ha => by simpa using h _ ha
  have hdisconnected : .disconnected ∉ args := fun ha => by simpa using h _ ha
  rw [effective, hcounts]
  simp [hattach, hdisconnected]

theorem getLast?_paths (hfile : .file path ∈ args) :
    (args.filterMap Argument.path?).getLast? = some path := by
  have hne : args.filterMap Argument.path? ≠ [] :=
    List.ne_nil_of_mem (List.mem_filterMap.mpr ⟨_, hfile, rfl⟩)
  obtain ⟨a, ha, hlast⟩ := List.mem_filterMap.mp (List.getLast_mem hne)
  rw [List.getLast?_eq_some_getLast hne]
  rcases h a ha with rfl | rfl
  · cases hlast
  · exact hlast.symm

end IsPlain

/-! ## Printing twice -/

/-- A file with the text of a playable scenario is loaded as the scenario. -/
theorem load_printed (hcheck : s.check = .ok ()) (hxpos : ReadsBack s.config.xpos)
    (hypos : ReadsBack s.config.ypos) :
    Scenario.load (some (Utf8.encode (s.toJson.pretty ++ "\n"))) = .ok s := by
  have hbreak : Blank ['\n'] := by simp [Blank, Json.isBlank]
  rw [Scenario.load_encode]
  exact Scenario.parse_pretty hcheck hxpos hypos hbreak

/-- **Printing a scenario is a fixed point.**  Let arguments in any order ask for a scenario to be
printed, among them any that change the number of frames, attach the images or disconnect the text
input; and let the last file that they name hold a scenario whose doubles read back.  Then the
scenario is printed with these changes and no others.  Where a file holds what was printed, the
same is printed for it without further arguments.  In other words, every playable scenario whose
doubles read back is read from its text over several lines. -/
theorem printed_scenario_is_fixed (files : String → Option (List UInt8)) (args : List Argument)
    (path : String) (s : Scenario) (hargs : ∀ a ∈ args, a.IsReadable)
    (hprint : .printScenario ∈ args)
    (hpath : (args.filterMap Argument.path?).getLast? = some path)
    (hload : Scenario.load (files path) = .ok s)
    (hxpos : ReadsBack s.config.xpos) (hypos : ReadsBack s.config.ypos) :
    output files (words args) = ⟨(effective args s).toJson.pretty ++ "\n", "", 0⟩ ∧
      (∀ (files' : String → Option (List UInt8)) (path' : String) (args' : List Argument),
        (Argument.file path').IsReadable → IsPlain path' args' →
        .printScenario ∈ args' → .file path' ∈ args' →
        files' path' = some (Utf8.encode (output files (words args)).stdout) →
        output files' (words args') = output files (words args)) ∧
      ∀ t : Scenario, t.check = .ok () → ReadsBack t.config.xpos → ReadsBack t.config.ypos →
        Scenario.parse t.toJson.pretty = .ok t := by
  have hprinted := output_words hargs hprint hpath hload
  refine ⟨hprinted, ?_, ?_⟩
  · intro files' path' args' hreadable hplain hprint' hfile hholds
    have hcheck : (effective args s).check = .ok () :=
      (check_effective args s).trans (Scenario.check_of_load hload)
    have hloaded : Scenario.load (files' path') = .ok (effective args s) := by
      rw [hholds, hprinted]
      exact load_printed hcheck hxpos hypos
    rw [output_words (hplain.isReadable hreadable) hprint' (hplain.getLast?_paths hfile) hloaded,
      hplain.effective_eq, hprinted]
  · intro t hcheck htx hty
    have hparse := Scenario.parse_pretty hcheck htx hty blank_nil
    rwa [String.ofList_nil, String.append_empty] at hparse

/-- Of two numbers of frames the last one counts, and what is printed is printed again. -/
theorem changed_scenario_is_fixed :
    let held : Scenario := { Scenario.initial with frames := 3 }
    let printed :=
      { held with frames := 9, attach := true, connected := false }.toJson.pretty ++ "\n"
    output (fun _ => some (Utf8.encode (held.toJson.pretty ++ "\n")))
        ["--attach", "--frames", "7", "a.json", "--print-scenario", "--frames=9",
          "--disconnected"] =
        ⟨printed, "", 0⟩ ∧
      output (fun _ => some (Utf8.encode printed)) ["--print-scenario", "b.json"] =
        ⟨printed, "", 0⟩ := by
  intro held printed
  have hxpos : ReadsBack held.config.xpos := by decide +kernel
  obtain ⟨hfirst, hagain, -⟩ := printed_scenario_is_fixed
    (fun _ => some (Utf8.encode (held.toJson.pretty ++ "\n")))
    [.attach, .frames "7", .file "a.json", .printScenario, .framesJoined "9", .disconnected]
    "a.json" held (by decide +kernel) (by decide) (by decide)
    (load_printed (by decide +kernel) hxpos hxpos) hxpos hxpos
  have hcounts : List.filterMap Argument.count? [.attach, .frames "7", .file "a.json",
      .printScenario, .framesJoined "9", .disconnected] = [7, 9] := by
    decide +kernel
  have heffective : effective [.attach, .frames "7", .file "a.json", .printScenario,
      .framesJoined "9", .disconnected] held =
      { held with frames := 9, attach := true, connected := false } := by
    rw [effective, hcounts]
    simp
  rw [heffective] at hfirst
  refine ⟨hfirst, ?_⟩
  have hsecond := hagain (fun _ => some (Utf8.encode printed)) "b.json"
    [.printScenario, .file "b.json"] (by decide) (by simp [IsPlain]) (by decide) (by decide)
    (by rw [hfirst])
  exact hsecond.trans hfirst

end Captioning.CommandLine
