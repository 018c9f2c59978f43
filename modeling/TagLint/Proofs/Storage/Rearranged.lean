import TagLint.Proofs.Storage.Tree
import TagLint.Settings.Load
import TagLint.Workspace.Walk
/-!
Disks that hold the same items in another order. On a tree the order of the items plays no part:
every question about a path has the same answer, the same files are walked to in the same order, and
the same settings are loaded.
-/

namespace TagLint

namespace Storage.Disk

/-- Two disks hold the same items at the same trails, and as many. -/
structure IsRearranged (d d' : Disk) : Prop where
  item? : d.item? = d'.item?
  entriesAt : d.entriesAt = d'.entriesAt
  length : d.items.length = d'.items.length

variable {d d' : Disk}

/-! ## Items in another order -/

/-- The items of a tree may stand in any order. -/
theorem IsTree.isRearranged (h : d.IsTree) (hperm : d.items.Perm d'.items) : d.IsRearranged d' where
  item? := by
    funext trail
    unfold Disk.item?
    rw [Lists.lookup_eq_of_perm h.nodup hperm]
  entriesAt := by
    funext folder
    unfold Disk.entriesAt
    exact Text.sortBy_eq_of_perm (h.nodup_names folder) (hperm.filterMap _)
  length := hperm.length_eq

/-! ## Answers -/

namespace IsRearranged

variable (h : d.IsRearranged d')

include h

theorem descend_eq (jump : Trail → List Text → Except Fault Trail) (followLast : Bool)
    (trail : Trail) (ss : List Text) :
    descend d jump followLast trail ss = descend d' jump followLast trail ss := by
  induction ss generalizing trail with
  | nil => rfl
  | cons name rest ih => simp only [descend, h.item?, ih]

theorem follow_eq (followLast : Bool) (links : Nat) :
    d.follow followLast links = d'.follow followLast links := by
  induction links with
  | zero =>
    funext trail ss
    exact h.descend_eq _ followLast trail ss
  | succ links ih =>
    funext trail ss
    rw [follow, follow, ih]
    exact h.descend_eq _ followLast trail ss

theorem locate_eq : d.locate = d'.locate := by
  funext followLast path
  unfold locate
  rw [h.follow_eq]

theorem find_eq : d.find = d'.find := by
  funext path
  unfold find
  rw [h.locate_eq, h.item?]

theorem entries_eq : d.entries = d'.entries := by
  funext path
  unfold entries
  rw [h.locate_eq, h.item?, h.entriesAt]

theorem target?_eq : d.target? = d'.target? := by
  funext folder e
  unfold target?
  rw [h.find_eq]

theorem fileSystem_eq : d.fileSystem = d'.fileSystem := by
  have hprobe : d.probe = d'.probe := by
    funext path
    unfold probe
    rw [h.find_eq]
  have hlist : d.list = d'.list := by
    funext path
    unfold list
    rw [h.entries_eq, h.target?_eq]
  have hread : d.read = d'.read := by
    funext path
    unfold read
    rw [h.find_eq]
  unfold fileSystem
  rw [hprobe, hlist, hread]

theorem walkDown_eq (excluded : List Text) (depth : Nat) (folder : Text) :
    d.walkDown excluded depth folder = d'.walkDown excluded depth folder := by
  have hleads : d.leadsToFolder = d'.leadsToFolder := by
    funext folder e
    unfold leadsToFolder
    rw [h.target?_eq]
  induction depth generalizing folder with
  | zero => rfl
  | succ depth ih => simp only [walkDown, h.entries_eq, hleads, ih]

theorem walk_eq : d.walk = d'.walk := by
  funext excluded folder
  unfold walk
  rw [h.walkDown_eq, h.length]

end IsRearranged

end Storage.Disk

/-! ## Walks and settings -/

section Rearranged

variable {d d' : Storage.Disk} (h : d.IsRearranged d')

include h

theorem Workspace.walk_eq_of_isRearranged (w : Workspace) (limits : Settings.Limits) :
    w.walk d limits = w.walk d' limits := by
  unfold Workspace.walk
  rw [h.walk_eq]

theorem Settings.load_eq_of_isRearranged (env : Settings.Environment) (cwd home : Text)
    (asked : Option Text) :
    Settings.load d env cwd home asked = Settings.load d' env cwd home asked := by
  have hthere : Settings.isThere d = Settings.isThere d' := by
    funext path
    unfold Settings.isThere
    rw [h.locate_eq]
  have hfirst : ∀ paths, Settings.firstThere d paths = Settings.firstThere d' paths := by
    intro paths
    induction paths with
    | nil => rfl
    | cons path paths ih => rw [Settings.firstThere, Settings.firstThere, hthere, ih]
  have hread : d.read = d'.read := congrArg Storage.FileSystem.read h.fileSystem_eq
  unfold Settings.load
  rw [hfirst, hread]

end Rearranged

end TagLint
