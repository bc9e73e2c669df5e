import Accounts.Email.Address
import Accounts.Password.Scheme
import Accounts.Proofs.Users.Table

/-!
# A sound table of users

* `UserTable.Distinct.replace`: a record that no other user agrees with may take the place of
  another;
* `UserTable.Distinct.find?_eq_some_iff`: who is found under a value that no two users share;
* `User.IsSound`: what a stored record says by itself;
* `UserTable.IsSound`: distinct identifiers, names and mail addresses, and sound records;
* `UserTable.BegunBy`: all accounts have begun by a point in time;
* `UserTable.Holds`: an account has a name; `UserTable.Holds.insert`, `UserTable.Holds.erase`,
  `UserTable.Holds.replace`: what leaves it;
* **`UserTable.IsSound.create`**, **`UserTable.IsSound.update`**, `UserTable.IsSound.erase`: the
  changes keep a table sound, and all that they take from the caller has to be sound.
-/

namespace Accounts

/-! ## The order of points in time -/

namespace Timestamp

theorem le_iff {a b : Timestamp} : a.le b = true ↔
    a.seconds < b.seconds ∨ a.seconds = b.seconds ∧ a.nanos ≤ b.nanos := by
  simp [le]

theorem le_refl (a : Timestamp) : a.le a = true := le_iff.2 (.inr ⟨rfl, Nat.le_refl _⟩)

theorem le_trans {a b c : Timestamp} (hab : a.le b = true) (hbc : b.le c = true) :
    a.le c = true := by
  rw [le_iff] at hab hbc ⊢
  omega

end Timestamp

namespace UserTable

variable {t t' : UserTable} {u v : User} {id : Uuid} {β : Type} {f : User → β}

/-! ## Another record of a user -/

theorem Distinct.replace (ht : t.Distinct f) (hids : t.DistinctIds)
    (hu : ∀ v ∈ t.users, v.id ≠ u.id → f v ≠ f u) : (t.replace u).Distinct f := by
  have hpairs : t.users.Pairwise fun v w => v.id ≠ w.id ∧ f v ≠ f w :=
    List.Pairwise.and (List.pairwise_map.1 hids) (List.pairwise_map.1 ht)
  rw [Distinct, UserTable.replace, List.map_map, List.Nodup, List.pairwise_map]
  refine hpairs.imp_of_mem fun {v w} hv hw hvw => ?_
  obtain ⟨hid, hf⟩ := hvw
  simp only [Function.comp_apply]
  by_cases hvu : v.id = u.id
  · have hwu : w.id ≠ u.id := fun h => hid (hvu.trans h.symm)
    rw [if_pos hvu, if_neg hwu]
    exact (hu w hw hwu).symm
  · rw [if_neg hvu]
    by_cases hwu : w.id = u.id
    · rw [if_pos hwu]
      exact hu v hv hvu
    · rw [if_neg hwu]
      exact hf

theorem Distinct.find?_eq_some_iff [DecidableEq β] (ht : t.Distinct f) {b : β} :
    t.users.find? (fun v => f v = b) = some u ↔ u ∈ t.users ∧ f u = b := by
  constructor
  · intro h
    exact ⟨List.mem_of_find?_eq_some h, by simpa using List.find?_some h⟩
  · rintro ⟨hu, hb⟩
    cases hfound : t.users.find? fun v => f v = b with
    | none => exact absurd hb (by simpa using List.find?_eq_none.1 hfound u hu)
    | some v =>
      have hv : f v = b := by simpa using List.find?_some hfound
      have hmem := List.mem_of_find?_eq_some hfound
      exact congrArg some (List.inj_on_of_nodup_map ht hmem hu (hv.trans hb.symm))

theorem DistinctIds.find?_eq_some_iff (ht : t.DistinctIds) :
    t.find? id = some u ↔ u ∈ t.users ∧ u.id = id :=
  Distinct.find?_eq_some_iff ht

theorem Distinct.findByUsername?_eq_some_iff {username : String} (ht : t.Distinct User.username) :
    t.findByUsername? username = some u ↔ u ∈ t.users ∧ u.username = username :=
  ht.find?_eq_some_iff

theorem findByUsername?_eq_none_iff {username : String} :
    t.findByUsername? username = none ↔ ∀ v ∈ t.users, v.username ≠ username := by
  simp [findByUsername?]

end UserTable

/-! ## Sound records -/

/-- A text is the hash of a password that is not empty. -/
def PasswordScheme.IsHash (scheme : PasswordScheme) (text : String) : Prop :=
  ∃ salt password, password ≠ "" ∧ scheme.hash salt password = .ok text

/-- What a stored record says by itself. -/
structure User.IsSound (scheme : PasswordScheme) (u : User) : Prop where
  name : u.name ≠ ""
  username : u.username ≠ ""
  email : Email.isAddress u.email = true
  passwordHash : scheme.IsHash u.passwordHash
  times : u.createdAt.le u.updatedAt = true

namespace UserTable

variable {scheme : PasswordScheme} {t t' : UserTable} {u : User} {id : Uuid} {now : Timestamp}

/-- All users differ in their identifiers, names and mail addresses, and each record is sound. -/
structure IsSound (scheme : PasswordScheme) (t : UserTable) : Prop where
  ids : t.DistinctIds
  usernames : t.Distinct User.username
  emails : t.Distinct User.email
  users : ∀ u ∈ t.users, u.IsSound scheme

/-- All accounts have begun by a point in time. -/
def BegunBy (now : Timestamp) (t : UserTable) : Prop := ∀ u ∈ t.users, u.createdAt.le now = true

theorem isSound_of_empty (h : t.users = []) : t.IsSound scheme := by
  have hnodup {β : Type} (f : User → β) : (t.users.map f).Nodup := by
    rw [h]
    exact List.nodup_nil
  exact ⟨hnodup _, hnodup _, hnodup _, fun u hu => by simp [h] at hu⟩

theorem IsSound.erase (h : t.IsSound scheme) (id : Uuid) : (t.erase id).IsSound scheme :=
  ⟨h.ids.erase id, h.usernames.erase id, h.emails.erase id,
    fun u hu => h.users u (mem_erase_iff.1 hu).1⟩

/-- **A new account keeps a table sound** if what it starts with is. -/
theorem IsSound.create {n : NewUser} (h : t.IsSound scheme)
    (hcreate : t.create n id now = .ok (u, t')) (hname : n.name ≠ "") (husername : n.username ≠ "")
    (hemail : Email.isAddress n.email = true) (hhash : scheme.IsHash n.passwordHash) :
    t'.IsSound scheme := by
  obtain ⟨hfree, rfl, rfl⟩ := create_eq_ok_iff.1 hcreate
  have hother : ∀ v ∈ t.users, v.username ≠ n.username ∧ v.email ≠ n.email :=
    fun v hv => conflict?_eq_none_iff.1 hfree v hv (by simp)
  refine ⟨h.ids.insert _, h.usernames.insert fun v hv _ => (hother v hv).1,
    h.emails.insert fun v hv _ => (hother v hv).2, fun v hv => ?_⟩
  rcases mem_insert_iff.1 hv with rfl | ⟨hv, -⟩
  · exact ⟨hname, husername, hemail, hhash, now.le_refl⟩
  · exact h.users v hv

/-- **A change of an account keeps a table sound** if what it sets is, and if it comes after the
begin of all accounts. -/
theorem IsSound.update {change : UserUpdate} (h : t.IsSound scheme) (hbegun : t.BegunBy now)
    (hupdate : t.update id change now = .ok (u, t')) (hname : change.name ≠ "")
    (husername : change.username ≠ "") (hemail : Email.isAddress change.email = true)
    (hhash : ∀ hash, change.passwordHash = some hash → scheme.IsHash hash) :
    t'.IsSound scheme := by
  obtain ⟨hfree, v, hv, rfl, rfl⟩ := update_eq_ok_iff.1 hupdate
  obtain ⟨hmem, rfl⟩ := mem_of_find? hv
  have hother : ∀ w ∈ t.users, w.id ≠ v.id →
      w.username ≠ change.username ∧ w.email ≠ change.email :=
    fun w hw hne => conflict?_eq_none_iff.1 hfree w hw (by simpa using hne)
  refine ⟨h.ids.replace _, h.usernames.replace h.ids fun w hw hne => (hother w hw hne).1,
    h.emails.replace h.ids fun w hw hne => (hother w hw hne).2, fun w hw => ?_⟩
  rcases mem_replace_iff.1 hw with ⟨hw, -⟩ | ⟨rfl, -⟩
  · exact h.users w hw
  · refine ⟨hname, husername, hemail, ?_, hbegun v hmem⟩
    change scheme.IsHash (change.passwordHash.getD v.passwordHash)
    cases hset : change.passwordHash with
    | none => exact (h.users v hmem).passwordHash
    | some hash => exact hhash hash hset

/-! ## When accounts have begun -/

theorem BegunBy.mono {later : Timestamp} (h : t.BegunBy now) (hle : now.le later = true) :
    t.BegunBy later := fun u hu => Timestamp.le_trans (h u hu) hle

theorem BegunBy.erase (h : t.BegunBy now) (id : Uuid) : (t.erase id).BegunBy now :=
  fun u hu => h u (mem_erase_iff.1 hu).1

theorem BegunBy.create {n : NewUser} (h : t.BegunBy now) (hcreate : t.create n id now = .ok (u, t')) :
    t'.BegunBy now := by
  obtain ⟨-, rfl, rfl⟩ := create_eq_ok_iff.1 hcreate
  intro v hv
  rcases mem_insert_iff.1 hv with rfl | ⟨hv, -⟩
  · exact now.le_refl
  · exact h v hv

theorem BegunBy.update {change : UserUpdate} (h : t.BegunBy now)
    (hupdate : t.update id change now = .ok (u, t')) : t'.BegunBy now := by
  obtain ⟨-, v, hfound, rfl, rfl⟩ := update_eq_ok_iff.1 hupdate
  intro w hw
  rcases mem_replace_iff.1 hw with ⟨hw, -⟩ | ⟨rfl, -⟩
  · exact h w hw
  · exact h v (mem_of_find? hfound).1

/-! ## Names -/

/-- An account has a name. -/
def Holds (t : UserTable) (id : Uuid) (username : String) : Prop :=
  ∃ u ∈ t.users, u.id = id ∧ u.username = username

variable {username : String}

theorem Holds.insert (h : t.Holds id username) (hne : id ≠ u.id) : (t.insert u).Holds id username := by
  obtain ⟨v, hv, rfl, hname⟩ := h
  exact ⟨v, mem_insert_iff.2 (.inr ⟨hv, hne⟩), rfl, hname⟩

theorem Holds.erase {other : Uuid} (h : t.Holds id username) (hne : id ≠ other) :
    (t.erase other).Holds id username := by
  obtain ⟨v, hv, rfl, hname⟩ := h
  exact ⟨v, mem_erase_iff.2 ⟨hv, hne⟩, rfl, hname⟩

theorem Holds.replace (h : t.Holds id username) (hname : u.id = id → u.username = username) :
    (t.replace u).Holds id username := by
  obtain ⟨v, hv, rfl, hv'⟩ := h
  by_cases hid : u.id = v.id
  · exact ⟨u, mem_replace_iff.2 (.inr ⟨rfl, v, hv, hid.symm⟩), hid, hname hid⟩
  · exact ⟨v, mem_replace_iff.2 (.inl ⟨hv, Ne.symm hid⟩), rfl, hv'⟩

end UserTable

end Accounts
