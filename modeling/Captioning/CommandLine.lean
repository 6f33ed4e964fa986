import Captioning.Render.BlockGlyphs
import Captioning.Scenario.Json
import Captioning.Scenario.Play

/-!
# The command line

The program plays the scenario in a file and prints what became of each frame.
-/

namespace Captioning.CommandLine

/-- What the arguments ask for. -/
structure Options where
  /-- The last file that was named. -/
  file : Option String
  /-- The number of frames to play instead of that in the file. -/
  frames : Option UInt32
  attach : Bool
  disconnected : Bool
  printScenario : Bool
  help : Bool
  /-- The flags that are not known, in their order. -/
  unknown : List String

/-- Nothing is asked for. -/
def Options.initial : Options :=
  ⟨none, none, false, false, false, false, []⟩

/-- Why arguments are refused. -/
inductive Fault where
  /-- The number of frames is missing. -/
  | missingCount
  /-- The number of frames is no number. -/
  | badCount (value : String)

/-- The wording of a fault. -/
def Fault.message : Fault → String
  | missingCount => "--frames requires a number"
  | badCount value => "invalid frame count '" ++ value ++ "'"

/-- Sets the number of frames. -/
def setFrames (o : Options) (value : String) : Except Fault Options :=
  match Decimal.readCount? wordCount value.toList with
  | some n => .ok { o with frames := some (UInt32.ofNat n) }
  | none => .error (.badCount value)

/-- What follows `--frames=` in an argument. -/
def attachedCount? (arg : String) : Option String :=
  let flag := "--frames=".toList
  if flag.isPrefixOf arg.toList then some (String.ofList (arg.toList.drop flag.length)) else none

/-- Takes an argument that stands alone.  Unknown flags lead to the help text. -/
def takeArgument (o : Options) (arg : String) : Except Fault Options :=
  if arg = "--help" ∨ arg = "-h" then .ok { o with help := true }
  else if arg = "--attach" then .ok { o with attach := true }
  else if arg = "--disconnected" then .ok { o with disconnected := true }
  else if arg = "--print-scenario" then .ok { o with printScenario := true }
  else match attachedCount? arg with
    | some value => setFrames o value
    | none =>
        if arg.toList.head? = some '-' then
          .ok { o with help := true, unknown := o.unknown ++ [arg] }
        else .ok { o with file := some arg }

/-- What the arguments ask for, and the fault at which reading them ended, if there is one. -/
def parse (o : Options) : List String → Options × Option Fault
  | [] => (o, none)
  | arg :: args =>
      if arg = "--frames" then
        match args with
        | [] => (o, some .missingCount)
        | value :: rest =>
            match setFrames o value with
            | .ok next => parse next rest
            | .error fault => (o, some fault)
      else
        match takeArgument o arg with
        | .ok next => parse next args
        | .error fault => (o, some fault)

/-- What the program prints, and its exit code. -/
structure Output where
  stdout : String
  stderr : String
  code : UInt8

/-- The help text. -/
def usage : String :=
  "Usage:\n  textoverlay-sim [options] <scenario.json>\n\nOptions:\n" ++
  "  --frames <n>       Override the number of video frames\n" ++
  "  --attach           Attach overlays instead of blending them\n" ++
  "  --disconnected     Run without a text input (default text only)\n" ++
  "  --print-scenario   Print the effective scenario as JSON and exit\n" ++
  "  -h, --help         Show this help\n\n" ++
  "Logging is controlled with RUST_LOG (default: info).\n"

/-- The complaints about unknown flags. -/
def complaints (o : Options) : String :=
  String.join (o.unknown.map fun flag => "Unknown flag: " ++ flag ++ "\n")

/-- The output of a run that failed. -/
def failure (o : Options) (message : String) : Output :=
  ⟨"", complaints o ++ "Error: " ++ message ++ "\n", 1⟩

/-- A message with what led to it. -/
def withCause (message : String) (cause : CaptionError) : String :=
  message ++ "\n\nCaused by:\n    " ++ cause.message

/-- The answer, or the file that is needed for it. -/
inductive Plan where
  | finished (output : Output)
  | load (path : String) (options : Options)

/-- What is to be done for the given arguments. -/
def plan (args : List String) : Plan :=
  match parse .initial args with
  | (o, some fault) => .finished (failure o fault.message)
  | (o, none) =>
      match o.help, o.file with
      | false, some path => .load path o
      | _, _ => .finished ⟨"", complaints o ++ usage, 0⟩

/-- A scenario with what the options change in it. -/
def override (o : Options) (s : Scenario) : Scenario :=
  { s with
    frames := o.frames.getD s.frames
    attach := s.attach || o.attach
    connected := s.connected && !o.disconnected }

/-- The output for a scenario. -/
def outputOf (o : Options) (s : Scenario) : Output :=
  if o.printScenario then ⟨s.toJson.pretty ++ "\n", complaints o, 0⟩
  else
    match s.play blockGlyphs with
    | .ok report => ⟨report.render ++ "\n", complaints o, 0⟩
    | .error (.error error) => failure o (withCause "simulation failed" error)
    | .error (.overflow _) => ⟨"", complaints o ++ "A number does not fit its width\n", 101⟩

/-- The answer for the file at `path`, whose bytes are given if it exists. -/
def answer (path : String) (o : Options) (bytes : Option (List UInt8)) : Output :=
  match Scenario.load bytes with
  | .ok s => outputOf o (override o s)
  | .error error => failure o (withCause ("failed to load scenario '" ++ path ++ "'") error)

end Captioning.CommandLine
