import TagLint.Expiry
import TagLint.Toml.Value
/-!
The settings: what is checked, what is warned about, and which files are looked at.
-/

namespace TagLint

/-- How sync tags are judged. -/
structure Reference.Policy where
  enabled : Bool := true
  warnOnMissing : Bool := true
deriving DecidableEq, Repr

/-- Which files are looked at. Values in the list of excluded folders that are no text exclude
nothing. -/
structure Settings.Limits where
  excluded : List Toml.Value :=
    ["node_modules", ".git", "dist", "out", "build", "coverage", ".vscode"].map
      fun s => Toml.Value.text s.toList
  maxSize : Int := 1024 * 1024

/-- All settings. Only a text makes a level of logging, but any value may be set. -/
structure Settings where
  expiry : Expiry.Policy := {}
  sync : Reference.Policy := {}
  limits : Settings.Limits := {}
  logLevel : Toml.Value := .text "INFO".toList

/-- The names of the excluded folders. It fails if the list holds an array or a table. -/
def Settings.Limits.excludedNames (l : Settings.Limits) : Except Failure (List Text) :=
  if l.excluded.any Toml.Value.isContainer then .error .wrongType
  else .ok <| l.excluded.filterMap fun
    | .text t => some t
    | _ => none

end TagLint
