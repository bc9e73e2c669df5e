import Accounts.Revocation.Table
import Mathlib.Data.Finset.Card

/-!
# The table of revoked tokens and its history

A put drops what is over, so a table is less than its history. What it answers is not: the last put
of an identifier decides about it, as if nothing were ever dropped.

* `TableCall`: a call to a table; `RevocationTable.run`: a table after many calls;
* `RevocationTable.putsOf`: the puts of an identifier in a history; `RevocationTable.live`: whether
  they still hold at an instant;
* **`RevocationTable.holds_run`**: what a table answers about an identifier;
* **`RevocationTable.exists_card_size`**: a table whose identifiers are distinct counts those that
  it holds; `RevocationTable.nodup_run`: they are distinct after every history.
-/

namespace Accounts

/-- A call to a table of revoked tokens; times are in nanoseconds. -/
inductive TableCall
  | put (id : String) (ttl : Nat)
  | holds (id : String)
  | size

namespace RevocationTable

/-- The puts of an identifier in a history of calls: when each was made, and for how long. -/
def putsOf (id : String) (calls : List (Nat × TableCall)) : List (Nat × Nat) :=
  calls.filterMap fun
    | (now, .put other ttl) => if other = id then some (now, ttl) else none
    | (_, .holds _) => none
    | (_, .size) => none

/-- Whether puts of one identifier still hold at an instant: the last one counts. -/
def live (puts : List (Nat × Nat)) (now : Nat) : Bool :=
  puts.getLast?.any fun p => now < p.1 + p.2

theorem live_eq_true_iff {puts : List (Nat × Nat)} {now : Nat} :
    live puts now = true ↔
      ∃ start ttl, puts.getLast? = some (start, ttl) ∧ now < start + ttl := by
  simp [live, Option.any_eq_true]

theorem live_append_singleton (puts : List (Nat × Nat)) (start ttl now : Nat) :
    live (puts ++ [(start, ttl)]) now = decide (now < start + ttl) := by
  rw [live, List.getLast?_concat, Option.any_some]

theorem putsOf_append (id : String) (calls more : List (Nat × TableCall)) :
    putsOf id (calls ++ more) = putsOf id calls ++ putsOf id more := List.filterMap_append

/-- The table after a call at an instant. -/
def after (t : RevocationTable) (now : Nat) : TableCall → RevocationTable
  | .put id ttl => t.put now id ttl
  | .holds _ => t
  | .size => t

/-- The table after many calls, one after the other. -/
def run (t : RevocationTable) (calls : List (Nat × TableCall)) : RevocationTable :=
  calls.foldl (fun t c => t.after c.1 c.2) t

variable {t : RevocationTable} {calls : List (Nat × TableCall)} {now later : Nat} {id : String}

theorem run_append_singleton (t : RevocationTable) (calls : List (Nat × TableCall))
    (c : Nat × TableCall) : t.run (calls ++ [c]) = (t.run calls).after c.1 c.2 :=
  List.foldl_append

/-! ## What is answered about an identifier -/

/-- **The last put of an identifier decides about it**, at its instant and at all later ones. -/
theorem holds_run (h : ∀ c ∈ calls, c.1 ≤ later) :
    (run {} calls).holds later id = live (putsOf id calls) later := by
  induction calls using List.reverseRecOn with
  | nil => rfl
  | append_singleton calls c ih =>
    obtain ⟨now, call⟩ := c
    rw [List.forall_mem_append, List.forall_mem_singleton] at h
    obtain ⟨hcalls, hnow⟩ := h
    rw [run_append_singleton, putsOf_append]
    cases call with
    | put other ttl =>
      by_cases hid : other = id
      · -- the put decides, whatever was there
        subst hid
        have hown : putsOf other [(now, .put other ttl)] = [(now, ttl)] := by simp [putsOf]
        rw [hown, live_append_singleton, Bool.eq_iff_iff, after, holds_put_self, decide_eq_true_eq]
      · have hother : putsOf id [(now, .put other ttl)] = [] := by simp [putsOf, hid]
        rw [hother, List.append_nil, ← ih hcalls]
        exact holds_put_of_ne _ hnow (Ne.symm hid) ttl
    | holds other => exact (ih hcalls).trans (by simp [putsOf])
    | size => exact (ih hcalls).trans (by simp [putsOf])

/-! ## How many are held -/

theorem nodup_put (h : (t.entries.map Prod.fst).Nodup) (now : Nat) (id : String) (ttl : Nat) :
    ((t.put now id ttl).entries.map Prod.fst).Nodup := by
  rw [put, List.map_cons, List.nodup_cons]
  constructor
  · intro hmem
    obtain ⟨e, he, hid⟩ := List.mem_map.1 hmem
    have hne := (List.mem_filter.1 he).2
    simp only [ne_eq, decide_eq_true_eq] at hne
    exact hne.2 hid
  · exact h.sublist (List.filter_sublist.map _)

theorem nodup_run (calls : List (Nat × TableCall)) : ((run {} calls).entries.map Prod.fst).Nodup := by
  induction calls using List.reverseRecOn with
  | nil => exact List.nodup_nil
  | append_singleton calls c ih =>
    rw [run_append_singleton]
    cases c.2 with
    | put id ttl => exact nodup_put ih c.1 id ttl
    | holds id => exact ih
    | size => exact ih

/-- **A table whose identifiers are distinct counts those that it holds.** -/
theorem exists_card_size (h : (t.entries.map Prod.fst).Nodup) (now : Nat) :
    ∃ ids : Finset String, (∀ id, id ∈ ids ↔ t.holds now id = true) ∧ t.size now = ids.card := by
  let held := t.entries.filter fun e => now < e.2
  have hnodup : (held.map Prod.fst).Nodup := h.sublist (List.filter_sublist.map _)
  refine ⟨(held.map Prod.fst).toFinset, fun id => ?_, ?_⟩
  · rw [List.mem_toFinset, holds_iff, List.mem_map]
    constructor
    · rintro ⟨⟨i, d⟩, hmem, rfl⟩
      obtain ⟨hmem, hd⟩ := List.mem_filter.1 hmem
      exact ⟨d, hmem, of_decide_eq_true hd⟩
    · rintro ⟨d, hmem, hd⟩
      exact ⟨(id, d), List.mem_filter.2 ⟨hmem, decide_eq_true hd⟩, rfl⟩
  · rw [List.toFinset_card_of_nodup hnodup, List.length_map, size, List.countP_eq_length_filter]

end RevocationTable

end Accounts
