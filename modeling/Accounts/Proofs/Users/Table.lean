import Mathlib.Data.List.Nodup
import Accounts.Proofs.Outcome
import Accounts.Users.Store

/-!
# What changes of the table of users leave

* `UserTable.mem_insert_iff`, `UserTable.mem_replace_iff`, `UserTable.mem_erase_iff`: who is in the
  table after a change;
* `UserTable.filter_replace`: another record of a user touches no other record;
* `UserTable.Distinct`: no two users agree in something, such as their name; a user whom no other
  agrees with may be inserted;
* `UserTable.DistinctIds`: no two users have one identifier, and every change keeps it so;
* `UserTable.create_eq_ok_iff`, `UserTable.update_eq_ok_iff`, `UserTable.delete_eq_ok_iff`: when a
  change succeeds, and what it gives;
* `UserStore.create_eq_ok_iff`, `UserStore.update_eq_ok_iff`, `UserStore.delete_eq_ok_iff`: the same
  for a store, which must not have a fault.
-/

namespace Accounts

namespace UserTable

variable {t t' : UserTable} {u v : User} {id : Uuid}

/-! ## Who is in the table -/

theorem mem_insert_iff : v ∈ (t.insert u).users ↔ v = u ∨ v ∈ t.users ∧ v.id ≠ u.id := by
  simp [insert, or_comm]

theorem mem_erase_iff : v ∈ (t.erase id).users ↔ v ∈ t.users ∧ v.id ≠ id := by
  simp [erase]

theorem mem_replace_iff : v ∈ (t.replace u).users ↔
    (v ∈ t.users ∧ v.id ≠ u.id) ∨ v = u ∧ ∃ w ∈ t.users, w.id = u.id := by
  simp only [replace, List.mem_map]
  constructor
  · rintro ⟨w, hw, rfl⟩
    by_cases h : w.id = u.id
    · exact .inr ⟨if_pos h, w, hw, h⟩
    · rw [if_neg h]
      exact .inl ⟨hw, h⟩
  · rintro (⟨hv, h⟩ | ⟨rfl, w, hw, h⟩)
    · exact ⟨v, hv, if_neg h⟩
    · exact ⟨w, hw, if_pos h⟩

theorem filter_replace (t : UserTable) (u : User) :
    (t.replace u).users.filter (fun v => v.id ≠ u.id) = t.users.filter (fun v => v.id ≠ u.id) := by
  rw [replace]
  induction t.users with
  | nil => rfl
  | cons v vs ih =>
    rw [List.map_cons]
    by_cases h : v.id = u.id
    · rw [if_pos h, List.filter_cons_of_neg (by simp), List.filter_cons_of_neg (by simp [h]), ih]
    · rw [if_neg h, List.filter_cons_of_pos (by simp [h]), List.filter_cons_of_pos (by simp [h]),
        ih]

theorem mem_of_find? (h : t.find? id = some u) : u ∈ t.users ∧ u.id = id :=
  ⟨List.mem_of_find?_eq_some h, by simpa using List.find?_some h⟩

theorem find?_eq_none_iff : t.find? id = none ↔ ∀ v ∈ t.users, v.id ≠ id := by
  simp [find?]

/-! ## Users differ -/

section Distinct

variable {β : Type} {f : User → β}

/-- No two users agree in `f`. -/
def Distinct (f : User → β) (t : UserTable) : Prop := (t.users.map f).Nodup

theorem Distinct.erase (ht : t.Distinct f) (id : Uuid) : (t.erase id).Distinct f :=
  List.Nodup.sublist (List.Sublist.map _ List.filter_sublist) ht

theorem Distinct.insert (ht : t.Distinct f) (hu : ∀ v ∈ t.users, v.id ≠ u.id → f v ≠ f u) :
    (t.insert u).Distinct f := by
  rw [Distinct, UserTable.insert, List.map_append, List.nodup_append]
  refine ⟨ht.erase u.id, List.nodup_singleton _, ?_⟩
  rintro a ha b hb rfl
  obtain ⟨v, hv, rfl⟩ := List.mem_map.1 ha
  rw [List.map_cons, List.map_nil, List.mem_singleton] at hb
  obtain ⟨hv, hne⟩ := mem_erase_iff.1 hv
  exact hu v hv hne hb

end Distinct

/-! ## Identifiers -/

/-- No two users have one identifier. -/
def DistinctIds (t : UserTable) : Prop := (t.users.map User.id).Nodup

theorem DistinctIds.eq_of_id (ht : t.DistinctIds) (hu : u ∈ t.users) (hv : v ∈ t.users)
    (h : u.id = v.id) : u = v :=
  List.inj_on_of_nodup_map ht hu hv h

theorem DistinctIds.erase (ht : t.DistinctIds) (id : Uuid) : (t.erase id).DistinctIds :=
  Distinct.erase ht id

theorem DistinctIds.insert (ht : t.DistinctIds) (u : User) : (t.insert u).DistinctIds :=
  Distinct.insert ht fun _ _ hne => hne

theorem ids_replace (t : UserTable) (u : User) :
    (t.replace u).users.map User.id = t.users.map User.id := by
  rw [replace, List.map_map]
  refine List.map_congr_left fun v _ => ?_
  by_cases h : v.id = u.id
  · rw [Function.comp_apply, if_pos h, h]
  · rw [Function.comp_apply, if_neg h]

theorem DistinctIds.replace (ht : t.DistinctIds) (u : User) : (t.replace u).DistinctIds := by
  rw [DistinctIds, ids_replace]
  exact ht

/-! ## Changes that succeed -/

theorem create_eq_ok_iff {n : NewUser} {now : Timestamp} :
    t.create n id now = .ok (u, t') ↔
      t.conflict? none n.username n.email = none ∧ u = n.toUser id now ∧ t' = t.insert u := by
  unfold create
  cases t.conflict? none n.username n.email with
  | some f => simp
  | none =>
    simp only [Except.ok.injEq, Prod.mk.injEq, true_and]
    constructor
    · rintro ⟨rfl, rfl⟩
      exact ⟨rfl, rfl⟩
    · rintro ⟨rfl, rfl⟩
      exact ⟨rfl, rfl⟩

theorem update_eq_ok_iff {change : UserUpdate} {now : Timestamp} :
    t.update id change now = .ok (u, t') ↔
      t.conflict? (some id) change.username change.email = none ∧
        ∃ v, t.find? id = some v ∧ u = v.updated change now ∧ t' = t.replace u := by
  unfold update
  cases t.conflict? (some id) change.username change.email with
  | some f => simp
  | none =>
    cases t.find? id with
    | none => simp
    | some v =>
      simp only [Except.ok.injEq, Prod.mk.injEq, true_and]
      constructor
      · rintro ⟨rfl, rfl⟩
        exact ⟨v, rfl, rfl, rfl⟩
      · rintro ⟨_, ⟨⟩, rfl, rfl⟩
        exact ⟨rfl, rfl⟩

theorem delete_eq_ok_iff : t.delete id = .ok t' ↔ (∃ u, t.find? id = some u) ∧ t' = t.erase id := by
  unfold delete
  cases t.find? id with
  | none => simp
  | some u => simp [eq_comm]

end UserTable

/-! ## Stores -/

namespace UserStore

variable {s s' : UserStore} {α : Type} {a : α}

theorem ask_eq_ok_iff {answer : UserTable → Except UserStoreFault α} :
    s.ask answer = .ok a ↔ s.fault = none ∧ answer s.table = .ok a := by
  unfold ask
  cases s.fault <;> simp

theorem change_eq_ok_iff {act : UserTable → Except UserStoreFault (α × UserTable)} :
    s.change act = .ok (a, s') ↔
      s.fault = none ∧ ∃ t, act s.table = .ok (a, t) ∧ s' = { s with table := t } := by
  rw [change, Outcome.map_eq_ok_iff]
  constructor
  · rintro ⟨⟨b, t⟩, ht, heq⟩
    cases heq
    obtain ⟨hf, ht⟩ := ask_eq_ok_iff.1 ht
    exact ⟨hf, t, ht, rfl⟩
  · rintro ⟨hf, t, ht, rfl⟩
    exact ⟨(a, t), ask_eq_ok_iff.2 ⟨hf, ht⟩, rfl⟩

variable {u : User} {id : Uuid} {now : Timestamp}

theorem create_eq_ok_iff {n : NewUser} : s.create n id now = .ok (u, s') ↔ s.fault = none ∧
    s.table.conflict? none n.username n.email = none ∧ u = n.toUser id now ∧
      s' = { s with table := s.table.insert u } := by
  simp only [create, change_eq_ok_iff, UserTable.create_eq_ok_iff]
  constructor
  · rintro ⟨hf, _, ⟨hfree, hu, rfl⟩, hs⟩
    exact ⟨hf, hfree, hu, hs⟩
  · rintro ⟨hf, hfree, hu, hs⟩
    exact ⟨hf, _, ⟨hfree, hu, rfl⟩, hs⟩

theorem update_eq_ok_iff {change : UserUpdate} : s.update id change now = .ok (u, s') ↔
    s.fault = none ∧ s.table.conflict? (some id) change.username change.email = none ∧
      ∃ v, s.table.find? id = some v ∧ u = v.updated change now ∧
        s' = { s with table := s.table.replace u } := by
  simp only [update, change_eq_ok_iff, UserTable.update_eq_ok_iff]
  constructor
  · rintro ⟨hf, _, ⟨hfree, v, hv, hu, rfl⟩, hs⟩
    exact ⟨hf, hfree, v, hv, hu, hs⟩
  · rintro ⟨hf, hfree, v, hv, hu, hs⟩
    exact ⟨hf, _, ⟨hfree, v, hv, hu, rfl⟩, hs⟩

theorem delete_eq_ok_iff : s.delete id = .ok s' ↔
    s.fault = none ∧ (∃ v, s.table.find? id = some v) ∧
      s' = { s with table := s.table.erase id } := by
  rw [delete, Outcome.map_eq_ok_iff]
  constructor
  · rintro ⟨⟨⟨⟩, s₁⟩, h, rfl⟩
    obtain ⟨hf, t, ht, hs⟩ := change_eq_ok_iff.1 h
    obtain ⟨t', ht', heq⟩ := Outcome.map_eq_ok_iff.1 ht
    cases heq
    obtain ⟨hfound, rfl⟩ := UserTable.delete_eq_ok_iff.1 ht'
    exact ⟨hf, hfound, hs⟩
  · rintro ⟨hf, hfound, rfl⟩
    refine ⟨((), _), change_eq_ok_iff.2 ⟨hf, _, ?_, rfl⟩, rfl⟩
    exact Outcome.map_eq_ok_iff.2 ⟨_, UserTable.delete_eq_ok_iff.2 ⟨hfound, rfl⟩, rfl⟩

theorem find_eq_ok_iff {found : Option User} :
    s.find id = .ok found ↔ s.fault = none ∧ s.table.find? id = found := by
  rw [find, ask_eq_ok_iff, Except.ok.injEq]

end UserStore

end Accounts
