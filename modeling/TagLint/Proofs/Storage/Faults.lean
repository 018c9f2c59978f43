import TagLint.Storage.Disk
import TagLint.Storage.Staged
import TagLint.Proofs.ByPath
import TagLint.Proofs.Traverse
/-!
The faults of file systems. A disk answers every question or gives a fault that may be passed over:
it never breaks down.
-/

namespace TagLint.Storage

/-- An answer, or a fault that may be passed over. -/
def Tolerable {α : Type} (r : Except Fault α) : Prop :=
  ∀ fault, r = .error fault → fault.isTolerable = true

/-- A file system whose faults may all be passed over. -/
structure FileSystem.IsTolerable (files : FileSystem) : Prop where
  probe : ∀ p, Tolerable (files.probe p)
  list : ∀ p, Tolerable (files.list p)
  read : ∀ p, Tolerable (files.read p)

section Answers

variable {α β : Type}

theorem tolerable_ok (a : α) : Tolerable (.ok a) := by
  intro fault h
  cases h

theorem tolerable_error {fault : Fault} (h : fault.isTolerable = true) :
    Tolerable (.error fault : Except Fault α) := by
  intro fault' h'
  cases h'
  exact h

theorem tolerable_bind {x : Except Fault α} {f : α → Except Fault β} (hx : Tolerable x)
    (hf : ∀ a, x = .ok a → Tolerable (f a)) : Tolerable (x >>= f) := by
  intro fault h
  rcases Traverse.bind_eq_error.mp h with h | ⟨a, ha, h⟩
  · exact hx fault h
  · exact hf a ha fault h

theorem tolerable_map {x : Except Fault α} (hx : Tolerable x) (f : α → β) :
    Tolerable (x.map f) := by
  cases x with
  | error fault => exact tolerable_error (hx fault rfl)
  | ok a => exact tolerable_ok (f a)

theorem tolerable_mapM {f : α → Except Fault β} {xs : List α} (h : ∀ x ∈ xs, Tolerable (f x)) :
    Tolerable (xs.mapM f) := by
  intro fault hfault
  obtain ⟨x, hx, hfx⟩ := Traverse.exists_of_mapM_eq_error hfault
  exact h x hx fault hfx

end Answers

theorem isTolerable_ofStages {stages : List (Text × Stage)}
    (h : ∀ s ∈ stages, (∀ answer ∈ s.2.probe, Tolerable answer) ∧
      (∀ answer ∈ s.2.list, Tolerable answer) ∧ ∀ answer ∈ s.2.read, Tolerable answer) :
    (FileSystem.ofStages stages).IsTolerable := by
  constructor
  · intro p
    dsimp only [FileSystem.ofStages]
    split
    · rename_i hlookup
      exact tolerable_map ((h _ (ByPath.mem_of_find? hlookup)).1 _ rfl) some
    · exact tolerable_ok none
  · intro p
    dsimp only [FileSystem.ofStages]
    split
    · rename_i hlookup
      exact (h _ (ByPath.mem_of_find? hlookup)).2.1 _ rfl
    · exact tolerable_error rfl
  · intro p
    dsimp only [FileSystem.ofStages]
    split
    · rename_i hlookup
      exact (h _ (ByPath.mem_of_find? hlookup)).2.2 _ rfl
    · exact tolerable_error rfl

/-! ## Disks -/

namespace Disk

theorem tolerable_descend (d : Disk) {jump : Trail → List Text → Except Fault Trail}
    (hjump : ∀ trail steps, Tolerable (jump trail steps)) (followLast : Bool) (trail : Trail)
    (steps : List Text) : Tolerable (descend d jump followLast trail steps) := by
  induction steps generalizing trail with
  | nil => exact tolerable_ok trail
  | cons name rest ih =>
    rw [descend]
    split
    · exact tolerable_error rfl
    split
    · exact ih trail
    split
    · exact ih trail.dropLast
    split
    · exact tolerable_error rfl
    split
    · exact tolerable_error rfl
    · split
      · exact tolerable_ok _
      · exact hjump _ _
    · exact ih _

theorem tolerable_follow (d : Disk) (followLast : Bool) (links : Nat) (trail : Trail)
    (steps : List Text) : Tolerable (d.follow followLast links trail steps) := by
  induction links generalizing trail steps with
  | zero => exact tolerable_descend d (fun _ _ => tolerable_error rfl) followLast trail steps
  | succ links ih => exact tolerable_descend d ih followLast trail steps

theorem tolerable_locate (d : Disk) (followLast : Bool) (path : Text) :
    Tolerable (d.locate followLast path) := by
  unfold locate
  split
  · exact tolerable_error rfl
  split
  · exact tolerable_error rfl
  split
  · exact tolerable_error rfl
  · exact tolerable_follow d followLast linkLimit [] _

theorem tolerable_find (d : Disk) (path : Text) : Tolerable (d.find path) := by
  unfold find
  split
  · rename_i fault h
    exact tolerable_error (tolerable_locate d true path fault h)
  · split
    · exact tolerable_error rfl
    · exact tolerable_ok _

theorem tolerable_probe (d : Disk) (path : Text) : Tolerable (d.probe path) := by
  unfold probe
  split
  · exact tolerable_ok _
  · exact tolerable_ok _
  · exact tolerable_ok _
  · exact tolerable_ok _
  · rename_i fault _ _ h
    exact tolerable_error (tolerable_find d path fault h)

theorem tolerable_entries (d : Disk) (path : Text) : Tolerable (d.entries path) := by
  refine tolerable_bind (tolerable_locate d true path) fun trail _ => ?_
  split
  · exact tolerable_error rfl
  · exact tolerable_ok _
  · exact tolerable_error rfl

theorem tolerable_target? (d : Disk) (folder : Text) (e : Entry) :
    Tolerable (d.target? folder e) := by
  unfold target?
  split
  · split
    · exact tolerable_ok _
    · exact tolerable_ok _
    · rename_i fault _ h
      exact tolerable_error (tolerable_find d _ fault h)
  · exact tolerable_ok _

theorem tolerable_list (d : Disk) (path : Text) : Tolerable (d.list path) := by
  refine tolerable_bind (tolerable_entries d path) fun found _ => ?_
  refine tolerable_mapM fun e _ => ?_
  exact tolerable_bind (tolerable_target? d path e) fun item _ => tolerable_ok _

theorem tolerable_read (d : Disk) (path : Text) : Tolerable (d.read path) := by
  refine tolerable_bind (tolerable_find d (tidy path)) fun item _ => ?_
  split
  · split
    · exact tolerable_ok _
    · exact tolerable_error rfl
  · exact tolerable_error rfl

/-- A disk never breaks down. -/
theorem isTolerable_fileSystem (d : Disk) : d.fileSystem.IsTolerable where
  probe := tolerable_probe d
  list := tolerable_list d
  read := tolerable_read d

end Disk

end TagLint.Storage
