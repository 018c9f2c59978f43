import TagLint.Reference.Target
import TagLint.Proofs.Traverse
/-!
Where a path leads before anything is looked up. Finding a target has two parts: the path alone
decides on a destination or an obstacle, and only then the file system is asked, about the
destination and nothing else.
-/

namespace TagLint.Reference

/-- The place that a path means, or why it means none. No file system has a part in it. -/
def destination (w : Workspace) (document path : Text) : Except Obstacle Text :=
  if path.isEmpty then .error .noPath
  else if Path.isAbsolute path then .error .absolutePath
  else
    match w.folderFor? document with
    | none => .error .noFolder
    | some root =>
      match place? w document root path with
      | none => .error .outside
      | some target => .ok target

/-- The answer about a destination, once it has been probed. -/
def answer (path target : Text) : Option Storage.Probe → Except Obstacle (Text × Bool)
  | none => .error (.notFound path target)
  | some found => .ok (target, found.isFolder)

theorem locate_eq (w : Workspace) (document path : Text) :
    locate w document path =
      match destination w document path with
      | .error o => .ok (.error o)
      | .ok target => (probe w.files target).map (answer path target) := by
  unfold locate destination
  split
  · rfl
  · split
    · rfl
    · cases w.folderFor? document with
      | none => rfl
      | some root =>
        dsimp only
        cases place? w document root path with
        | none => rfl
        | some target =>
          dsimp only
          cases probe w.files target with
          | error failure => rfl
          | ok found => cases found <;> rfl

/-- An obstacle met before anything is looked up names no candidate, and a destination has passed
the check against the root. -/
theorem destination_cases (w : Workspace) (document path : Text) :
    (∃ o, destination w document path = .error o ∧ o.candidate? = none ∧
      o.allowsCreation = false) ∨
    ∃ root target, destination w document path = .ok target ∧
      w.folderFor? document = some root ∧ place? w document root path = some target := by
  unfold destination
  split
  · exact Or.inl ⟨_, rfl, rfl, rfl⟩
  · split
    · exact Or.inl ⟨_, rfl, rfl, rfl⟩
    · cases w.folderFor? document with
      | none => exact Or.inl ⟨_, rfl, rfl, rfl⟩
      | some root =>
        dsimp only
        cases hplace : place? w document root path with
        | none => exact Or.inl ⟨_, rfl, rfl, rfl⟩
        | some target => exact Or.inr ⟨root, target, rfl, rfl, hplace⟩

/-- The targets of a token whose path has this destination. -/
def targetsAt (w : Workspace) (expandFolders : Bool) (token : Text) (r : Reference)
    (target : Text) : Except Failure (List Target) := do
  match ← probe w.files target with
  | none => return [.missing token (.notFound r.path target)]
  | some found =>
    if found.isFolder && expandFolders then expand w token target r.place
    else return [.found token target found.isFolder false r.place]

theorem targetsOfToken_eq (w : Workspace) (document : Text) (expandFolders : Bool) (token : Text) :
    targetsOfToken w document expandFolders token =
      ofToken token >>= fun r =>
        match destination w document r.path with
        | .error o => .ok [.missing token o]
        | .ok target => targetsAt w expandFolders token r target := by
  unfold targetsOfToken
  cases ofToken token with
  | error failure => rfl
  | ok r =>
    rw [Traverse.ok_bind, Traverse.ok_bind, locate_eq]
    cases destination w document r.path with
    | error o => rfl
    | ok target =>
      unfold targetsAt
      dsimp only
      cases probe w.files target with
      | error failure => rfl
      | ok found => cases found <;> rfl

/-- The targets of all tokens together; a payload without tokens has one that is missing. -/
theorem targets_eq (w : Workspace) (document payload : Text) (expandFolders : Bool) :
    targets w document payload expandFolders =
      if tokens payload = [] then .ok [.missing [] .noPath]
      else (tokens payload).mapM (targetsOfToken w document expandFolders) >>= fun found =>
        .ok found.flatten := by
  unfold targets
  cases tokens payload with
  | nil => rfl
  | cons token ts =>
    rw [if_neg (List.cons_ne_nil token ts)]
    rfl

end TagLint.Reference
