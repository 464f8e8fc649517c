import Paygate.Json.Basic

/-!
# Values without hidden members

* `names`: the names of all members of a value, at every depth.
* `names_without`: of these only the hidden ones are dropped, with what stands under them.
* `without_eq_self_iff`: a value stays as it is if and only if none of its names is hidden.
-/

namespace Paygate.Json

mutual
/-- The names of all members, at every depth. -/
def names : Json → List Str
  | .arr items => itemsNames items
  | .obj members => membersNames members
  | _ => []

def itemsNames : List Json → List Str
  | [] => []
  | item :: rest => item.names ++ itemsNames rest

def membersNames : List (Str × Json) → List Str
  | [] => []
  | (name, value) :: rest => name :: value.names ++ membersNames rest
end

variable {hidden : Str → Bool}

mutual
/-- No hidden name is left. -/
theorem names_without (json : Json) : ∀ name ∈ (json.without hidden).names, hidden name = false := by
  cases json with
  | arr items =>
    rw [without, names]
    exact itemsNames_without items
  | obj members =>
    rw [without, names]
    exact membersNames_without members
  | _ => exact List.forall_mem_nil _

theorem itemsNames_without (items : List Json) :
    ∀ name ∈ itemsNames (itemsWithout hidden items), hidden name = false := by
  cases items with
  | nil => exact List.forall_mem_nil _
  | cons item rest =>
    rw [itemsWithout, itemsNames, List.forall_mem_append]
    exact ⟨names_without item, itemsNames_without rest⟩

theorem membersNames_without (members : List (Str × Json)) :
    ∀ name ∈ membersNames (membersWithout hidden members), hidden name = false := by
  cases members with
  | nil => exact List.forall_mem_nil _
  | cons member rest =>
    obtain ⟨name, value⟩ := member
    rw [membersWithout]
    split
    · exact membersNames_without rest
    · rename_i hname
      rw [membersNames, List.cons_append, List.forall_mem_cons, List.forall_mem_append]
      exact ⟨Bool.not_eq_true _ ▸ hname, names_without value, membersNames_without rest⟩
end

mutual
theorem without_eq_self (json : Json) (h : ∀ name ∈ json.names, hidden name = false) :
    json.without hidden = json := by
  cases json with
  | arr items =>
    rw [names] at h
    rw [without, itemsWithout_eq_self items h]
  | obj members =>
    rw [names] at h
    rw [without, membersWithout_eq_self members h]
  | _ => rfl

theorem itemsWithout_eq_self (items : List Json) (h : ∀ name ∈ itemsNames items, hidden name = false) :
    itemsWithout hidden items = items := by
  cases items with
  | nil => rfl
  | cons item rest =>
    rw [itemsNames, List.forall_mem_append] at h
    rw [itemsWithout, without_eq_self item h.1, itemsWithout_eq_self rest h.2]

theorem membersWithout_eq_self (members : List (Str × Json))
    (h : ∀ name ∈ membersNames members, hidden name = false) : membersWithout hidden members = members := by
  cases members with
  | nil => rfl
  | cons member rest =>
    obtain ⟨name, value⟩ := member
    rw [membersNames, List.cons_append, List.forall_mem_cons, List.forall_mem_append] at h
    obtain ⟨hname, hvalue, hrest⟩ := h
    rw [membersWithout, hname, without_eq_self value hvalue, membersWithout_eq_self rest hrest]
    rfl
end

/-- A value stays as it is if and only if none of its names is hidden. -/
theorem without_eq_self_iff {json : Json} :
    json.without hidden = json ↔ ∀ name ∈ json.names, hidden name = false := by
  constructor
  · intro h
    rw [← h]
    exact names_without json
  · exact without_eq_self json

end Paygate.Json
