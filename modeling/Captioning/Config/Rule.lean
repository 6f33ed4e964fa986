/-!
# Rules for configurations

A configuration is valid when it keeps five rules about single settings.
-/

namespace Captioning

/-- A rule that a valid configuration keeps. -/
inductive ConfigRule where
  | shadingValue
  | xpad
  | ypad
  | xpos
  | ypos
  deriving DecidableEq

namespace ConfigRule

/-- The rules in the order in which broken ones are reported. -/
def all : List ConfigRule :=
  [shadingValue, xpad, ypad, xpos, ypos]

/-- What the rule demands. -/
def demand : ConfigRule → String
  | shadingValue => "shading-value must be 1..=255"
  | xpad => "xpad must be >= 0"
  | ypad => "ypad must be >= 0"
  | xpos => "xpos must be 0.0..=1.0"
  | ypos => "ypos must be 0.0..=1.0"

end ConfigRule

end Captioning
