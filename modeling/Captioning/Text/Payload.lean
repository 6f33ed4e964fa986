import Captioning.Text.Markup
import Captioning.Text.Utf8

/-!
# Caption payloads

A payload is the content of one caption: bytes, and whether they are markup already.
-/

namespace Captioning

/-- What the bytes of a payload mean. -/
inductive TextFormat where
  /-- Plain text. -/
  | plain
  /-- Markup. -/
  | markup
  deriving DecidableEq

/-- The content of a caption. -/
structure TextPayload where
  bytes : List UInt8
  format : TextFormat
  deriving DecidableEq

namespace TextPayload

/-- The payload of a text. -/
def ofString (s : String) (format : TextFormat) : TextPayload :=
  ⟨Utf8.encode s, format⟩

/-- Whether a character breaks a line. -/
def isLineBreak (c : Char) : Bool :=
  c = '\n' || c = '\r'

/-- Drops the line breaks at the end. -/
def trimBreaks (cs : List Char) : List Char :=
  (cs.reverse.dropWhile isLineBreak).reverse

/-- The markup of a payload, as characters. -/
def markupChars (p : TextPayload) : List Char :=
  let text := Utf8.repair p.bytes
  match p.format with
  | .plain => Markup.escape text
  | .markup => text

/-- The markup to render: repaired, escaped if it is plain text, without line breaks at the
end.  An empty caption is shown as a space. -/
def prepare (p : TextPayload) : List Char :=
  let text := trimBreaks p.markupChars
  if text.isEmpty then [' '] else text

end TextPayload

/-- A text with tabs and carriage returns turned into spaces. -/
def spaced (cs : List Char) : List Char :=
  cs.map fun c => if c = '\r' ∨ c = '\t' then ' ' else c

end Captioning
