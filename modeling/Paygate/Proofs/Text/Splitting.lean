import Mathlib.Data.List.TakeDrop
import Mathlib.Data.List.TakeWhile

/-!
# Where texts divide

* `span_append`, `exists_run`: a text divides where a run of one kind of characters ends.
* `exists_last`, `span_reverse_last`: it divides at the last place of a character.
-/

namespace Paygate.Text

variable {α : Type}

/-- A text divides where a run of one kind of characters is followed by something else. -/
theorem span_append {p : α → Bool} {xs ys : List α} (hxs : ∀ c ∈ xs, p c = true)
    (hys : ∀ c, ys.head? = some c → p c = false) : (xs ++ ys).span p = (xs, ys) := by
  rw [List.span_eq_takeWhile_dropWhile, List.takeWhile_append_of_pos hxs,
    List.dropWhile_append_of_pos hxs]
  cases ys with
  | nil => simp
  | cons c ys => simp [hys c rfl]

/-- Every text divides where its first run of one kind of characters ends. -/
theorem exists_run (p : Char → Bool) (cs : List Char) : ∃ xs ys, cs = xs ++ ys ∧
    (∀ c ∈ xs, p c = true) ∧ ∀ c, ys.head? = some c → p c = false := by
  refine ⟨cs.takeWhile p, cs.dropWhile p, List.takeWhile_append_dropWhile.symm,
    fun c hc => List.mem_takeWhile_imp hc, fun c hc => ?_⟩
  have hhead := List.head?_dropWhile_not p cs
  rw [hc] at hhead
  exact hhead

/-- A text that has a character has it in a last place. -/
theorem exists_last {c : α} {cs : List α} (h : c ∈ cs) :
    ∃ before after, cs = before ++ c :: after ∧ c ∉ after := by
  obtain ⟨after, before, hreverse, hafter⟩ := List.eq_append_cons_of_mem (List.mem_reverse.mpr h)
  refine ⟨before.reverse, after.reverse, ?_, by simpa using hafter⟩
  rw [← List.reverse_reverse cs, hreverse]
  simp

/-- Read from its end, a text divides at the last place of a character. -/
theorem span_reverse_last [DecidableEq α] {c : α} (before : List α) {after : List α} (h : c ∉ after) :
    (before ++ c :: after).reverse.span (· ≠ c) = (after.reverse, c :: before.reverse) := by
  rw [List.reverse_append, List.reverse_cons, List.append_assoc, List.singleton_append]
  refine span_append (fun d hd => ?_) fun d hd => ?_
  · exact decide_eq_true (ne_of_mem_of_not_mem (List.mem_reverse.mp hd) h)
  · obtain rfl := Option.some.inj hd
    simp

end Paygate.Text
