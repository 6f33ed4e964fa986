import Captioning.ClockTime
import Captioning.Config.Basic

/-!
# Texts without a text input

While no text input is connected, a provider says what each frame shows.
-/

namespace Captioning

/-- What says which markup a frame shows, from its timestamp, its running time and the
configuration.  An empty text stands for none. -/
structure TextProvider where
  text : ClockTime → Option ClockTime → Config → List Char

namespace TextProvider

/-- Each frame shows the configured text. -/
def configured : TextProvider where
  text := fun _ _ config => config.text.toList

/-- Each frame shows its running time after the configured text, if there is one.  A frame
without a running time shows its timestamp. -/
def clock : TextProvider where
  text := fun pts runningTime config =>
    let time := (ClockTime.renderMillis (runningTime.getD pts)).toList
    if config.text.isEmpty then time else config.text.toList ++ ' ' :: time

end TextProvider

end Captioning
