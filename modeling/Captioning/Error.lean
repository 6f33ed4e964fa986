import Captioning.Config.Rule
import Captioning.Video.Format

/-!
# Errors

An error is a kind and a cause; `CaptionError.message` alone gives the wording.
-/

namespace Captioning

/-- Why a configuration is refused. -/
inductive ConfigFault where
  /-- The text is not a configuration written in JSON. -/
  | malformed
  /-- The given rules are broken. -/
  | broken (rules : List ConfigRule)
  /-- A reason in the words of the caller. -/
  | other (reason : String)
  deriving DecidableEq

/-- Why a frame is refused. -/
inductive FrameFault where
  /-- A side of the frame is zero. -/
  | zeroSized (width height : Nat)
  /-- Less data is given than the frame has bytes. -/
  | tooShort (format : VideoFormat) (width height needed given : Nat)
  /-- A reason in the words of the caller. -/
  | other (reason : String)
  deriving DecidableEq

/-- Why no image of a text could be had. -/
inductive RasterFault where
  /-- The pixels do not fill the image. -/
  | wrongSize (width height given expected : Nat)
  /-- A reason in the words of the rasterizer. -/
  | other (reason : String)
  deriving DecidableEq

/-- Why a scenario cannot be played. -/
inductive ScenarioFault where
  /-- The text is not a scenario written in JSON. -/
  | malformed
  /-- The frame rate is zero or has a zero denominator. -/
  | unplayableRate (fpsN fpsD : Nat)
  /-- A reason in the words of the caller. -/
  | other (reason : String)
  deriving DecidableEq

/-- Why a file could not be read. -/
inductive FileFault where
  /-- There is no such file, or it is not text. -/
  | unreadable
  /-- A reason in the words of the caller. -/
  | other (reason : String)
  deriving DecidableEq

/-- What can go wrong. -/
inductive CaptionError where
  /-- The input is being flushed: nothing is taken until the flush stops. -/
  | flushing
  /-- The input has ended. -/
  | endOfStream
  | invalidConfig (fault : ConfigFault)
  | invalidFrame (fault : FrameFault)
  | rasterizer (fault : RasterFault)
  | scenario (fault : ScenarioFault)
  | file (fault : FileFault)
  | other (reason : String)
  deriving DecidableEq

/-- The wording of a refused configuration. -/
def ConfigFault.message : ConfigFault → String
  | malformed => "not a configuration in JSON"
  | broken rules => ", ".intercalate (rules.map ConfigRule.demand)
  | other reason => reason

/-- The wording of a refused frame. -/
def FrameFault.message : FrameFault → String
  | zeroSized width height => "zero sized frame " ++ Nat.repr width ++ "x" ++ Nat.repr height
  | tooShort format width height needed given =>
      format.title ++ " " ++ Nat.repr width ++ "x" ++ Nat.repr height ++ " needs " ++
        Nat.repr needed ++ " bytes, got " ++ Nat.repr given
  | other reason => reason

/-- The wording of a failed rendering. -/
def RasterFault.message : RasterFault → String
  | wrongSize width height given expected =>
      Nat.repr width ++ "x" ++ Nat.repr height ++ " image carries " ++ Nat.repr given ++
        " bytes, expected " ++ Nat.repr expected
  | other reason => reason

/-- The wording of a refused scenario. -/
def ScenarioFault.message : ScenarioFault → String
  | malformed => "not a scenario in JSON"
  | unplayableRate fpsN fpsD =>
      "frame rate " ++ Nat.repr fpsN ++ "/" ++ Nat.repr fpsD ++ " is not playable"
  | other reason => reason

/-- The wording of an unreadable file. -/
def FileFault.message : FileFault → String
  | unreadable => "not a readable text file"
  | other reason => reason

namespace CaptionError

/-- The wording of an error. -/
def message : CaptionError → String
  | flushing => "Stream is flushing"
  | endOfStream => "End of stream"
  | invalidConfig fault => "Invalid configuration: " ++ fault.message
  | invalidFrame fault => "Invalid frame: " ++ fault.message
  | rasterizer fault => "Rasterizer error: " ++ fault.message
  | scenario fault => "Scenario error: " ++ fault.message
  | file fault => "IO error: " ++ fault.message
  | other reason => reason

/-- Whether the error is an expected signal to stop and no fault. -/
def isFlowSignal : CaptionError → Bool
  | flushing | endOfStream => true
  | _ => false

end CaptionError

end Captioning
