/-!
# Named values

A list of names with values in which setting a name keeps its place: the new value stands where the
old one stood, and a new name comes last. `lookup_set` says what a name has afterwards.
-/

namespace Paygate

/-- Names are strings where nothing else is said. -/
abbrev Entries (α : Type) (κ : Type := String) := List (κ × α)

namespace Entries

variable {κ α : Type} [DecidableEq κ]

def set (name : κ) (value : α) : Entries α κ → Entries α κ
  | [] => [(name, value)]
  | (other, old) :: rest =>
    if other = name then (name, value) :: rest else (other, old) :: set name value rest

/-- Pairs set one after the other, so that of two values of a name the later counts. -/
def ofPairs (pairs : List (κ × α)) : Entries α κ :=
  pairs.foldl (fun entries (name, value) => set name value entries) []

theorem lookup_cons_ite (name key : κ) (value : α) (rest : Entries α κ) :
    List.lookup name ((key, value) :: rest) = if name = key then some value else rest.lookup name := by
  by_cases h : name = key
  · simp [h]
  · rw [List.lookup_cons, beq_eq_false_iff_ne.2 h, if_neg h]

@[simp] theorem lookup_set (name other : κ) (value : α) (entries : Entries α κ) :
    (set name value entries).lookup other = if other = name then some value else entries.lookup other := by
  induction entries with
  | nil => rw [set, lookup_cons_ite]
  | cons entry rest ih =>
    obtain ⟨key, old⟩ := entry
    rw [set, lookup_cons_ite]
    split
    · next hk => rw [lookup_cons_ite, hk]; split <;> rfl
    · next hk =>
      rw [lookup_cons_ite, ih]
      by_cases h : other = key
      · subst h; simp [hk]
      · simp [h]

end Entries

end Paygate
