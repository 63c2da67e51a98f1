import Mathlib.Data.List.DropRight
import Mathlib.Data.List.TakeWhile

/-!
# Lists up to a stop

What is taken of a list, or dropped, up to the first element without a property, when the
list is made of two: a stop in the first part hides the second, and one that the second
begins with ends the first.
-/

namespace ExplorerProxy

set_option autoImplicit false

variable {α : Type} {p : α → Bool} {xs ys : List α}

/-- Up to a list that is empty or begins with a stop. -/
theorem takeWhile_append_of_head (hxs : ∀ x ∈ xs, p x = true) (hys : ∀ y ∈ ys.head?, p y = false) :
    (xs ++ ys).takeWhile p = xs := by
  rw [List.takeWhile_append_of_pos hxs]
  cases ys with
  | nil => exact List.append_nil xs
  | cons y ys => rw [List.takeWhile_cons_of_neg (by simp [hys y rfl]), List.append_nil]

theorem dropWhile_append_of_head (hxs : ∀ x ∈ xs, p x = true) (hys : ∀ y ∈ ys.head?, p y = false) :
    (xs ++ ys).dropWhile p = ys := by
  rw [List.dropWhile_append_of_pos hxs]
  cases ys with
  | nil => rfl
  | cons y ys => exact List.dropWhile_cons_of_neg (by simp [hys y rfl])

theorem takeWhile_append_of_stop (h : ∃ x ∈ xs, p x = false) (ys : List α) :
    (xs ++ ys).takeWhile p = xs.takeWhile p := by
  obtain ⟨x, hx, hpx⟩ := h
  rw [List.takeWhile_append, if_neg]
  intro hlen
  have hall := List.takeWhile_eq_self_iff.mp ((List.takeWhile_prefix p).eq_of_length hlen)
  exact Bool.false_ne_true (hpx.symm.trans (hall x hx))

theorem dropWhile_append_of_stop (h : ∃ x ∈ xs, p x = false) (ys : List α) :
    (xs ++ ys).dropWhile p = xs.dropWhile p ++ ys := by
  obtain ⟨x, hx, hpx⟩ := h
  rw [List.dropWhile_append, if_neg]
  intro hempty
  have hall := List.dropWhile_eq_nil_iff.mp (List.isEmpty_iff.mp hempty)
  exact Bool.false_ne_true (hpx.symm.trans (hall x hx))

theorem takeWhile_append_cons {x : α} (hx : p x = false) (xs ys : List α) :
    (xs ++ x :: ys).takeWhile p = xs.takeWhile p := by
  rw [List.append_cons, takeWhile_append_of_stop ⟨x, by simp, hx⟩, List.takeWhile_append,
    List.takeWhile_cons_of_neg (by simp [hx])]
  split
  · rename_i hlen
    rw [List.append_nil, (List.takeWhile_prefix p).eq_of_length hlen]
  · rfl

theorem takeWhile_append_replicate {x : α} (hx : p x = false) (xs : List α) (n : Nat) :
    (xs ++ List.replicate n x).takeWhile p = xs.takeWhile p := by
  cases n with
  | zero => rw [List.replicate_zero, List.append_nil]
  | succ n => exact takeWhile_append_cons hx xs _

theorem dropWhile_append_cons {x : α} (hx : p x = false) (xs ys : List α) :
    (xs ++ x :: ys).dropWhile p = xs.dropWhile p ++ x :: ys := by
  have hcons : (x :: ys).dropWhile p = x :: ys := List.dropWhile_cons_of_neg (by simp [hx])
  rw [List.dropWhile_append, hcons]
  split
  · rename_i hempty
    rw [List.isEmpty_iff.mp hempty, List.nil_append]
  · rfl

theorem rdropWhile_append_cons {x : α} (hx : p x = false) (xs ys : List α) :
    (xs ++ x :: ys).rdropWhile p = xs ++ x :: ys.rdropWhile p := by
  have hreverse : (xs ++ x :: ys).reverse = ys.reverse ++ x :: xs.reverse := by simp
  rw [List.rdropWhile, hreverse, dropWhile_append_cons hx]
  simp [List.rdropWhile]

end ExplorerProxy
