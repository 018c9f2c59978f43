import TagLint.Tag.Key
/-!
Findings: warnings about a tag, placed where the tag stands.
-/

namespace TagLint

/-- A warning about a stretch of a line. -/
structure Finding where
  line : Nat
  start : Nat
  stop : Nat
  message : Text
  kind : Tag.Kind
deriving DecidableEq, Repr

namespace Finding

/-- The severity of every finding. -/
def severity : Text := "warning".toList

/-- A warning about a tag. -/
def ofTag (tag : Tag) (message : Text) : Finding where
  line := tag.line
  start := tag.start
  stop := tag.stop
  message := message
  kind := tag.kind

end Finding

end TagLint
