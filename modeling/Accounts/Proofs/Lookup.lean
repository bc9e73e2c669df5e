/-!
# Look-ups in lists of pairs

* `lookup_cons_of_ne`, `lookup_of_new`: names that are not the one that is looked for;
* `mem_of_lookup`: what is found is in the list;
* `lookup_map_snd`: values that are mapped.
-/

namespace Accounts

theorem lookup_cons_of_ne {κ α : Type} [BEq κ] [LawfulBEq κ] {k l : κ} (h : k ≠ l) (v : α)
    (ms : List (κ × α)) : List.lookup k ((l, v) :: ms) = List.lookup k ms := by
  rw [List.lookup_cons, beq_eq_false_iff_ne.2 h]

variable {α β : Type} {entries : List (String × α)} {name : String} {a : α}

theorem lookup_of_new (h : name ∉ entries.map Prod.fst) : entries.lookup name = none := by
  rw [List.lookup_eq_none_iff]
  rintro e he
  rw [bne_iff_ne]
  rintro rfl
  exact h (List.mem_map_of_mem he)

theorem mem_of_lookup (h : entries.lookup name = some a) : (name, a) ∈ entries := by
  obtain ⟨before, after, rfl, -⟩ := List.lookup_eq_some_iff.1 h
  exact List.mem_append_right _ List.mem_cons_self

theorem lookup_map_snd (f : α → β) (name : String) (entries : List (String × α)) :
    (entries.map fun e => (e.1, f e.2)).lookup name = (entries.lookup name).map f := by
  induction entries with
  | nil => rfl
  | cons e entries ih =>
    by_cases h : name = e.1
    · subst h
      rw [List.map_cons, List.lookup_cons_self, List.lookup_cons_self, Option.map_some]
    · rw [List.map_cons, lookup_cons_of_ne h, lookup_cons_of_ne h, ih]

end Accounts
