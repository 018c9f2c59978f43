import TagLint.Text.Basic
/-!
Values kept by path, one for each path. The order in which they are kept tells nothing.
-/

namespace TagLint

/-- Values by path. -/
abbrev ByPath (α : Type) := List (Text × α)

namespace ByPath

variable {α : Type}

/-- The value of a path. -/
def find? (m : ByPath α) (path : Text) : Option α := m.lookup path

/-- All values but the one of a path. -/
def erase (m : ByPath α) (path : Text) : ByPath α := m.filter (·.1 != path)

/-- The values with a new one for a path. -/
def put (m : ByPath α) (path : Text) (a : α) : ByPath α := erase m path ++ [(path, a)]

@[simp] theorem find?_erase_self (m : ByPath α) (p : Text) : find? (erase m p) p = none := by
  induction m with
  | nil => rfl
  | cons e m ih =>
    obtain ⟨q, a⟩ := e
    by_cases h : q = p
    · simpa [find?, erase, h] using ih
    · have hb : (p == q) = false := by simpa using Ne.symm h
      simpa [find?, erase, h, List.lookup_cons, hb] using ih

theorem find?_erase_other (m : ByPath α) {p q : Text} (h : q ≠ p) :
    find? (erase m p) q = find? m q := by
  induction m with
  | nil => rfl
  | cons e m ih =>
    obtain ⟨r, a⟩ := e
    by_cases hr : r = p
    · have hb : (q == p) = false := by simpa using h
      subst hr
      simpa [find?, erase, List.lookup_cons, hb] using ih
    · simp only [find?, erase] at ih
      simp [find?, erase, hr, List.lookup_cons, ih]

theorem lookup_append (p : Text) (m n : ByPath α) :
    (m ++ n).lookup p = (m.lookup p).or (n.lookup p) := by
  induction m with
  | nil => simp
  | cons e m ih =>
    obtain ⟨q, a⟩ := e
    rw [List.cons_append, List.lookup_cons, List.lookup_cons]
    split
    · simp
    · exact ih

@[simp] theorem find?_put_self (m : ByPath α) (p : Text) (a : α) :
    find? (put m p a) p = some a := by
  have h := find?_erase_self m p
  simp only [find?] at h
  simp [find?, put, lookup_append, h]

theorem find?_put_other (m : ByPath α) {p q : Text} (h : q ≠ p) (a : α) :
    find? (put m p a) q = find? m q := by
  have hb : (q == p) = false := by simpa using h
  have he := find?_erase_other m h
  simp only [find?] at he
  simp [find?, put, lookup_append, he, List.lookup_cons, hb]

end ByPath

end TagLint
