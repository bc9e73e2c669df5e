/-!
# The table of revoked tokens

Identifiers of tokens with the instant up to which each is revoked, on a clock that only goes
forward.

* `RevocationTable.put`: revokes an identifier for some time, and drops what is over;
* `RevocationTable.holds`, `RevocationTable.size`: what is revoked at an instant;
* **`holds_put_self`**, **`holds_put_of_ne`**: the last put counts, and dropping is never seen.
-/

namespace Accounts

/-- Identifiers with the instants, in nanoseconds, before which they are revoked. -/
structure RevocationTable where
  entries : List (String × Nat) := []

namespace RevocationTable

/-- Revokes an identifier for `ttl` nanoseconds from now. -/
def put (t : RevocationTable) (now : Nat) (id : String) (ttl : Nat) : RevocationTable :=
  ⟨(id, now + ttl) :: t.entries.filter fun e => now < e.2 ∧ e.1 ≠ id⟩

/-- Whether an identifier is revoked now. -/
def holds (t : RevocationTable) (now : Nat) (id : String) : Bool :=
  t.entries.any fun e => e.1 = id ∧ now < e.2

/-- How many identifiers are revoked now. -/
def size (t : RevocationTable) (now : Nat) : Nat := t.entries.countP fun e => now < e.2

theorem holds_iff {t : RevocationTable} {now : Nat} {id : String} :
    t.holds now id = true ↔ ∃ deadline, (id, deadline) ∈ t.entries ∧ now < deadline := by
  simp only [holds, List.any_eq_true, decide_eq_true_eq]
  constructor
  · rintro ⟨⟨i, d⟩, hmem, rfl, h⟩
    exact ⟨d, hmem, h⟩
  · rintro ⟨d, hmem, h⟩
    exact ⟨(id, d), hmem, rfl, h⟩

/-- **The last put of an identifier counts.** -/
theorem holds_put_self (t : RevocationTable) (now ttl later : Nat) (id : String) :
    (t.put now id ttl).holds later id = true ↔ later < now + ttl := by
  rw [holds_iff]
  constructor
  · rintro ⟨d, hmem, h⟩
    simp only [put, List.mem_cons, Prod.mk.injEq, List.mem_filter, ne_eq, decide_eq_true_eq] at hmem
    rcases hmem with ⟨-, rfl⟩ | ⟨-, -, hne⟩
    · exact h
    · exact absurd trivial hne
  · exact fun h => ⟨now + ttl, by simp [put], h⟩

/-- **A put of one identifier is not seen at another**, at its instant or later. -/
theorem holds_put_of_ne (t : RevocationTable) {now later : Nat} (h : now ≤ later)
    {id other : String} (hne : other ≠ id) (ttl : Nat) :
    (t.put now id ttl).holds later other = t.holds later other := by
  rw [Bool.eq_iff_iff, holds_iff, holds_iff]
  constructor
  · rintro ⟨d, hmem, hd⟩
    simp only [put, List.mem_cons, Prod.mk.injEq, List.mem_filter] at hmem
    rcases hmem with ⟨rfl, -⟩ | ⟨hmem, -⟩
    · exact absurd rfl hne
    · exact ⟨d, hmem, hd⟩
  · rintro ⟨d, hmem, hd⟩
    refine ⟨d, ?_, hd⟩
    simp only [put, List.mem_cons, List.mem_filter, ne_eq, decide_eq_true_eq]
    exact .inr ⟨hmem, by omega, hne⟩

end RevocationTable

end Accounts
