import Mathlib.Data.List.Forall2
import Mathlib.Data.List.Perm.Basic

/-!
# Computations that may fail

A computation that gives a result has done so in each of its steps.
-/

namespace DocStore

variable {ε ε' α β : Type}

theorem bind_ok {x : Except ε α} {f : α → Except ε β} {b : β} (ok : (x >>= f) = .ok b) :
    ∃ a, x = .ok a ∧ f a = .ok b := by
  cases x with
  | ok a => exact ⟨a, rfl, ok⟩
  | error e => cases ok

theorem map_ok {x : Except ε α} {f : α → β} {b : β} (ok : x.map f = .ok b) :
    ∃ a, x = .ok a ∧ f a = b := by
  cases x with
  | ok a => exact ⟨a, rfl, Except.ok.inj ok⟩
  | error e => cases ok

theorem mapError_eq_ok_iff {x : Except ε α} {f : ε → ε'} {a : α} :
    x.mapError f = .ok a ↔ x = .ok a := by
  cases x with
  | ok b => simp [Except.mapError]
  | error e => simp [Except.mapError]

theorem mapError_ok {x : Except ε α} {f : ε → ε'} {a : α} (ok : x.mapError f = .ok a) :
    x = .ok a := mapError_eq_ok_iff.1 ok

theorem toOption_eq_some_iff {x : Except ε α} {a : α} : x.toOption = some a ↔ x = .ok a := by
  cases x <;> simp [Except.toOption]

/-- A row of computations gives the row of their results. -/
theorem mapM_ok_iff {f : α → Except ε β} {xs : List α} {ys : List β} :
    xs.mapM f = .ok ys ↔ List.Forall₂ (fun x y => f x = .ok y) xs ys := by
  induction xs generalizing ys with
  | nil =>
    rw [List.mapM_nil, List.forall₂_nil_left_iff]
    exact ⟨fun h => (Except.ok.inj h).symm, fun h => by rw [h]; rfl⟩
  | cons x rest ih =>
    rw [List.mapM_cons]
    constructor
    · intro ok
      obtain ⟨y, first, ok⟩ := bind_ok ok
      obtain ⟨others, more, ok⟩ := bind_ok ok
      rw [← Except.ok.inj ok]
      exact .cons first (ih.1 more)
    · intro each
      cases each with
      | cons first more =>
        rw [first, ih.2 more]
        rfl

/-- The same computations in another order give the same results in another order. -/
theorem exists_mapM_of_perm {f : α → Except ε β} {xs xs' : List α} {ys : List β}
    (perm : xs.Perm xs') (ok : xs.mapM f = .ok ys) : ∃ ys', xs'.mapM f = .ok ys' ∧ ys.Perm ys' := by
  obtain ⟨ys', each, results⟩ := List.perm_comp_forall₂ perm.symm (mapM_ok_iff.1 ok)
  exact ⟨ys', mapM_ok_iff.2 each, results.symm⟩

/-- Each result of a row of computations comes from one of them. -/
theorem exists_of_mem_results {f : α → Except ε β} {xs : List α} {ys : List β}
    (ok : xs.mapM f = .ok ys) {y : β} (present : y ∈ ys) : ∃ x ∈ xs, f x = .ok y := by
  have each := mapM_ok_iff.1 ok
  clear ok
  induction each with
  | nil => cases present
  | @cons x z xs ys first more ih =>
    rcases List.mem_cons.1 present with rfl | later
    · exact ⟨x, List.mem_cons_self, first⟩
    · obtain ⟨w, isLater, result⟩ := ih later
      exact ⟨w, List.mem_cons_of_mem x isLater, result⟩

/-- Each of a row of computations that succeeds gives one of the results. -/
theorem exists_result_of_mem {f : α → Except ε β} {xs : List α} {ys : List β}
    (ok : xs.mapM f = .ok ys) {x : α} (present : x ∈ xs) : ∃ y ∈ ys, f x = .ok y := by
  have each := mapM_ok_iff.1 ok
  clear ok
  induction each with
  | nil => cases present
  | @cons z y xs ys first more ih =>
    rcases List.mem_cons.1 present with rfl | later
    · exact ⟨y, List.mem_cons_self, first⟩
    · obtain ⟨w, isLater, result⟩ := ih later
      exact ⟨w, List.mem_cons_of_mem y isLater, result⟩

end DocStore
