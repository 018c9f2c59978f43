import TagLint.Reference.Target
import TagLint.Settings.Basic
import TagLint.Tag.Scan
/-!
Inspecting a document: what there is to say about its tags. Expiry tags come first, sync tags after
them, each in the order of the document.
-/

namespace TagLint

/-- The obstacle of a target that is missing. -/
def Reference.Target.obstacle? : Reference.Target → Option Reference.Obstacle
  | .missing _ o => some o
  | .found .. => none

/-- The wording for a missing target. -/
def Reference.Obstacle.message (o : Reference.Obstacle) : Text := "@AI:SYNC ".toList ++ o.reason

/-- The findings about one tag: a warning for each missing target of a sync tag. -/
def Reference.judge (w : Workspace) (document : Text) (tag : Tag) :
    Except Failure (List Finding) := do
  if tag.kind ≠ .sync then return []
  let targets ← Reference.targets w document tag.payload false
  return (targets.filterMap Target.obstacle?).map fun o => Finding.ofTag tag o.message

/-- The findings about the sync tags among these, in order. -/
def Reference.findings (policy : Reference.Policy) (w : Workspace) (document : Text)
    (tags : List Tag) : Except Failure (List Finding) :=
  if policy.enabled && policy.warnOnMissing then do
    let found ← tags.mapM (Reference.judge w document)
    return found.flatten
  else .ok []

/-- The findings about a document at a point in time. -/
def Document.findings (d : Document) (settings : Settings) (w : Workspace)
    (now : Calendar.Instant) : Except Failure (List Finding) := do
  let expired ← Expiry.findings settings.expiry now (d.tags.filter (·.kind = .expiry))
  let missing ← Reference.findings settings.sync w d.path (d.tags.filter (·.kind = .sync))
  return expired ++ missing

end TagLint
