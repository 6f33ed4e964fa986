import Captioning.Error

/-!
# Flow

Whether an input takes data: it takes none while it is being flushed and after it has ended, and
the text input takes none either while it is not connected.
-/

namespace Captioning

/-- The state of the flow of both inputs. -/
structure Flow where
  videoFlushing : Bool
  textFlushing : Bool
  videoEnded : Bool
  textEnded : Bool
  textConnected : Bool
  deriving DecidableEq

namespace Flow

/-- Both inputs take data; there is no text input. -/
def initial : Flow :=
  ⟨false, false, false, false, false⟩

/-- Why the video input takes no data, if it does not. -/
def videoFault? (f : Flow) : Option CaptionError :=
  if f.videoFlushing then some .flushing
  else if f.videoEnded then some .endOfStream
  else none

/-- Why the text input takes no data, if it does not. -/
def textFault? (f : Flow) : Option CaptionError :=
  if f.textFlushing then some .flushing
  else if f.textEnded then some .endOfStream
  else none

/-- The flags in ascending order, each with its name in messages. -/
def flags (f : Flow) : List (String × Bool) :=
  [("PRIMARY_FLUSHING", f.videoFlushing), ("SECONDARY_FLUSHING", f.textFlushing),
    ("PRIMARY_EOS", f.videoEnded), ("SECONDARY_EOS", f.textEnded),
    ("SECONDARY_CONNECTED", f.textConnected)]

/-- The flags as the bits of a number, the first one lowest. -/
def bits (f : Flow) : Nat :=
  f.flags.foldr (fun (_, set) n => 2 * n + if set then 1 else 0) 0

/-- The names of the flags that are set. -/
def render (f : Flow) : String :=
  let names := (f.flags.filter (·.2)).map (·.1)
  if names.isEmpty then "0x0" else " | ".intercalate names

end Flow

end Captioning
