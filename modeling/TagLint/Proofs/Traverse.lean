import Mathlib.Data.List.Forall2
/-!
Going through a list with a step that can fail. The traversal succeeds exactly when every step does,
its results are those of the steps in order, and it sees the step only at the members of the list.
-/

namespace TagLint.Traverse

variable {α β ε : Type}

theorem ok_bind (a : α) (f : α → Except ε β) : (Except.ok a >>= f) = f a := rfl

theorem bind_eq_ok {x : Except ε α} {f : α → Except ε β} {b : β} :
    x >>= f = .ok b ↔ ∃ a, x = .ok a ∧ f a = .ok b := by
  cases x with
  | error e => simp [bind, Except.bind]
  | ok a => simp [bind, Except.bind]

theorem bind_eq_error {x : Except ε α} {f : α → Except ε β} {e : ε} :
    x >>= f = .error e ↔ x = .error e ∨ ∃ a, x = .ok a ∧ f a = .error e := by
  cases x with
  | error e' => simp [bind, Except.bind]
  | ok a => simp [bind, Except.bind]

theorem toOption_eq_some_iff {x : Except ε α} {a : α} : x.toOption = some a ↔ x = .ok a := by
  cases x <;> simp [Except.toOption]

theorem mapM_eq_ok_iff (f : α → Except ε β) (xs : List α) (ys : List β) :
    xs.mapM f = .ok ys ↔ List.Forall₂ (fun x y => f x = .ok y) xs ys := by
  induction xs generalizing ys with
  | nil =>
    rw [List.mapM_nil, List.forall₂_nil_left_iff]
    constructor
    · intro h; cases h; rfl
    · rintro rfl; rfl
  | cons x xs ih =>
    rw [List.mapM_cons, List.forall₂_cons_left_iff, bind_eq_ok]
    constructor
    · rintro ⟨y, hy, h⟩
      obtain ⟨ys', hys, h⟩ := bind_eq_ok.mp h
      cases h
      exact ⟨y, ys', hy, (ih ys').mp hys, rfl⟩
    · rintro ⟨y, ys', hy, hys, rfl⟩
      exact ⟨y, hy, bind_eq_ok.mpr ⟨ys', (ih ys').mpr hys, rfl⟩⟩

theorem mem_of_mapM_eq_ok {f : α → Except ε β} {xs : List α} {ys : List β}
    (h : xs.mapM f = .ok ys) (y : β) : y ∈ ys ↔ ∃ x ∈ xs, f x = .ok y := by
  have hall := (mapM_eq_ok_iff f xs ys).mp h
  clear h
  induction hall with
  | nil => simp
  | @cons x z xs ys hx _ ih => simp [List.mem_cons, ih, hx, eq_comm]

/-- Results that can be told from what they are the results of. -/
theorem map_eq_of_mapM_eq_ok {γ : Type} {f : α → Except ε β} {xs : List α} {ys : List β} {g : β → γ}
    {g' : α → γ} (h : xs.mapM f = .ok ys) (hg : ∀ x y, f x = .ok y → g y = g' x) :
    ys.map g = xs.map g' := by
  have hall := (mapM_eq_ok_iff f xs ys).mp h
  clear h
  induction hall with
  | nil => rfl
  | cons hx _ ih => rw [List.map_cons, List.map_cons, hg _ _ hx, ih]

theorem mapM_eq_ok_map {f : α → Except ε β} {g : α → β} {xs : List α}
    (h : ∀ x ∈ xs, f x = .ok (g x)) : xs.mapM f = .ok (xs.map g) := by
  rw [mapM_eq_ok_iff, List.forall₂_map_right_iff, List.forall₂_same]
  exact h

theorem exists_mapM_eq_ok_iff (f : α → Except ε β) (xs : List α) :
    (∃ ys, xs.mapM f = .ok ys) ↔ ∀ x ∈ xs, ∃ y, f x = .ok y := by
  induction xs with
  | nil => exact ⟨fun _ x hx => by simp at hx, fun _ => ⟨[], rfl⟩⟩
  | cons x xs ih =>
    rw [List.forall_mem_cons, ← ih]
    constructor
    · rintro ⟨ys, h⟩
      rw [List.mapM_cons] at h
      obtain ⟨y, hy, h⟩ := bind_eq_ok.mp h
      obtain ⟨ys', hys, -⟩ := bind_eq_ok.mp h
      exact ⟨⟨y, hy⟩, ys', hys⟩
    · rintro ⟨⟨y, hy⟩, ys, hys⟩
      refine ⟨y :: ys, ?_⟩
      rw [mapM_eq_ok_iff]
      exact List.Forall₂.cons hy ((mapM_eq_ok_iff f xs ys).mp hys)

/-- A traversal that is made only on a condition. -/
theorem exists_ite_mapM_eq_ok_iff {γ : Type} (c : Bool) (f : α → Except ε β) (g : List β → γ)
    (r : γ) (xs : List α) :
    (∃ z, (if c = true then (do let ys ← xs.mapM f; return g ys) else .ok r) = .ok z) ↔
      (c = true → ∀ x ∈ xs, ∃ y, f x = .ok y) := by
  cases c with
  | false => exact ⟨fun _ h => absurd h Bool.false_ne_true, fun _ => ⟨r, rfl⟩⟩
  | true =>
    rw [if_pos rfl, ← exists_mapM_eq_ok_iff]
    constructor
    · rintro ⟨z, h⟩ -
      obtain ⟨ys, hys, -⟩ := bind_eq_ok.mp h
      exact ⟨ys, hys⟩
    · intro h
      obtain ⟨ys, hys⟩ := h rfl
      rw [hys]
      exact ⟨g ys, rfl⟩

theorem exists_of_mapM_eq_error {f : α → Except ε β} {xs : List α} {e : ε}
    (h : xs.mapM f = .error e) : ∃ x ∈ xs, f x = .error e := by
  induction xs with
  | nil => cases h
  | cons x xs ih =>
    rw [List.mapM_cons] at h
    rcases bind_eq_error.mp h with hx | ⟨y, -, h⟩
    · exact ⟨x, List.mem_cons_self, hx⟩
    · rcases bind_eq_error.mp h with hxs | ⟨ys, -, h⟩
      · obtain ⟨z, hz, hfz⟩ := ih hxs
        exact ⟨z, List.mem_cons_of_mem x hz, hfz⟩
      · cases h

theorem mapM_congr {f g : α → Except ε β} {xs : List α} (h : ∀ x ∈ xs, f x = g x) :
    xs.mapM f = xs.mapM g := by
  induction xs with
  | nil => rfl
  | cons x xs ih =>
    rw [List.forall_mem_cons] at h
    rw [List.mapM_cons, List.mapM_cons, h.1, ih h.2]

end TagLint.Traverse
