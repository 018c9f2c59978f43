import Mathlib.Data.Rat.Floor
import TagLint.Proofs.Number.Binary64
import TagLint.Proofs.Traverse
import TagLint.Settings.Load
/-!
The layers of the settings. Each field has layers of its own, the environment above the settings
file above the default, and its value is what the first layer asks for that is not silent. Most
layers are silent not only where nothing is set but also where what is set means nothing for the
field. Since a field looks at one variable only, environments that differ in one variable make
settings that differ in one field.
-/

namespace TagLint.Settings

variable {α β : Type} {a b : α}

/-! ## Values from layers -/

/-- What a layer says about a field: whether it says nothing, and which values it asks for. -/
structure Layer (α : Type) where
  IsSilent : Prop
  Asks : α → Prop

/-- The layer below all others. -/
def Layer.default (a : α) : Layer α where
  IsSilent := False
  Asks b := b = a

/-- A value is settled by the first layer that is not silent. -/
inductive Settled : List (Layer α) → α → Prop
  | top {l : Layer α} {ls : List (Layer α)} {a : α} (hasks : l.Asks a) : Settled (l :: ls) a
  | lower {l : Layer α} {ls : List (Layer α)} {a : α} (hsilent : l.IsSilent)
      (hrest : Settled ls a) : Settled (l :: ls) a

/-- A layer asks for one value only, and for none if it is silent. -/
structure Layer.IsDefinite (l : Layer α) : Prop where
  unique : ∀ a b, l.Asks a → l.Asks b → a = b
  silent : l.IsSilent → ∀ a, ¬l.Asks a

variable {ls : List (Layer α)} {raw : Option β} {Means : β → α → Prop}

/-- Definite layers settle one value only. -/
theorem Settled.unique (hls : ∀ l ∈ ls, l.IsDefinite) (ha : Settled ls a) (hb : Settled ls b) :
    a = b := by
  induction ha with
  | top hasks =>
    have hl := hls _ List.mem_cons_self
    cases hb with
    | top hasks' => exact hl.unique _ _ hasks hasks'
    | lower hsilent _ => exact absurd hasks (hl.silent hsilent _)
  | lower hsilent _ ih =>
    rw [List.forall_mem_cons] at hls
    cases hb with
    | top hasks => exact absurd hasks (hls.1.silent hsilent _)
    | lower _ hrest => exact ih hls.2 hrest

variable {env env' : Environment} {file : Toml.Table} {s s' : Settings} {name : String}

/-- The value of a key in a section of the file. -/
def valueAt? (file : Toml.Table) (part key : String) : Option Toml.Value :=
  ((file.lookup part.toList).bind Toml.Value.table?).bind fun es => es.lookup key.toList

end TagLint.Settings
