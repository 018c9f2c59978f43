import TagLint.Text.Lines
import TagLint.Text.LetterCase
import TagLint.Path
/-!
Documents: a path, its lines and a language. The language decides only one thing here: whether
code fences are looked for.
-/

namespace TagLint

/-- The language that each file extension stands for. -/
def languageOfExtension : List (Text × Text) :=
  [(".md", "markdown"), (".markdown", "markdown"), (".py", "python"), (".ts", "typescript"),
    (".tsx", "typescriptreact"), (".js", "javascript"), (".jsx", "javascriptreact"),
    (".html", "html"), (".css", "css"), (".sh", "shellscript"), (".yaml", "yaml"),
    (".yml", "yaml"), (".toml", "toml")].map fun p => (p.1.toList, p.2.toList)

/-- The language that a path's extension, in any letter case, stands for. -/
def languageOf (path : Text) : Text :=
  (languageOfExtension.lookup (Text.lower (Path.extension path))).getD "plaintext".toList

/-- A text file held in memory. -/
structure Document where
  path : Text
  lines : List Text := []
  language : Text := "plaintext".toList
deriving DecidableEq, Repr

namespace Document

/-- The document of a text; without a language, or with an empty one, its path decides. -/
def ofText (path text : Text) (language : Option Text := none) : Document where
  path := path
  lines := Text.lines text
  language :=
    match language with
    | some (c :: r) => c :: r
    | _ => languageOf path

/-- Whether code fences count: by its language, or by a path that ends in `.md`. -/
def isMarkdown (d : Document) : Bool :=
  d.language == "markdown".toList || Text.endsWith (Text.lower d.path) ".md".toList

@[simp] theorem path_ofText (p t : Text) (l : Option Text) : (ofText p t l).path = p := rfl

@[simp] theorem lines_ofText (p t : Text) (l : Option Text) :
    (ofText p t l).lines = Text.lines t := rfl

end Document

end TagLint
