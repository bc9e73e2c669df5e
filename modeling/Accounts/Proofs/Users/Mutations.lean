import Accounts.Proofs.Users.Integrity

/-!
# What each change makes of the table of users

The table shows its users in any order, and a change may find them in another than the last one left
them in. So what a change makes of it is said without an order: what is found under each identifier,
and which records there are.

* `UserChange`, `UserTable.asked`, `UserTable.after`: the changes that the table is asked for, their
  outcome, and the table that they leave;
* `UserTable.Reached`: the tables that changes lead to, in any order of their users;
* `UserTable.Unambiguous`: no two users share an identifier, a name or a mail address;
  **`UserTable.Reached.unambiguous`**: so it is in every table that is reached;
* `UserTable.find?_insert`, `UserTable.find?_replace`, `UserTable.find?_erase`: what is found after a
  change;
* `UserTable.Created`, `UserTable.Updated`, `UserTable.Deleted`: one record more, another or less;
* `UserTable.FreeName`, `UserTable.FreeEmail`: a name or a mail address that no user has;
* **`UserTable.changes_exact`**: when each change succeeds, and exactly what it makes of the table.
-/

namespace Accounts

/-- A change that the table is asked for; a new account comes with the identifier that it draws. -/
inductive UserChange
  | create (n : NewUser) (id : Uuid) (now : Timestamp)
  | update (id : Uuid) (change : UserUpdate) (now : Timestamp)
  | delete (id : Uuid)

namespace UserTable

variable {t t' : UserTable} {u v : User} {id other : Uuid} {now : Timestamp}

/-- The outcome of a change. -/
def asked (t : UserTable) : UserChange → Except UserStoreFault UserTable
  | .create n id now => (t.create n id now).map Prod.snd
  | .update id change now => (t.update id change now).map Prod.snd
  | .delete id => t.delete id

/-- The table that a change leaves: the new one, or after a fault the one that it has found. -/
def after (t : UserTable) (c : UserChange) : UserTable := (t.asked c).toOption.getD t

/-- A table that changes have led to, whichever order it shows its users in. -/
inductive Reached : UserTable → Prop
  | empty : Reached {}
  | after {t : UserTable} (h : Reached t) (c : UserChange) : Reached (t.after c)
  | reordered {t t' : UserTable} (h : Reached t) (hperm : t.users.Perm t'.users) : Reached t'

/-! ## Tables that are reached -/

/-- No two users share an identifier, a name or a mail address. -/
structure Unambiguous (t : UserTable) : Prop where
  ids : t.DistinctIds
  usernames : t.Distinct User.username
  emails : t.Distinct User.email

theorem Unambiguous.create {n : NewUser} (h : t.Unambiguous) (hc : t.create n id now = .ok (u, t')) :
    t'.Unambiguous := by
  obtain ⟨hfree, rfl, rfl⟩ := create_eq_ok_iff.1 hc
  have hother := fun v hv => conflict?_eq_none_iff.1 hfree v hv (by simp)
  exact ⟨h.ids.insert _, h.usernames.insert fun v hv _ => (hother v hv).1,
    h.emails.insert fun v hv _ => (hother v hv).2⟩

theorem Unambiguous.update {change : UserUpdate} (h : t.Unambiguous)
    (hu : t.update id change now = .ok (u, t')) : t'.Unambiguous := by
  obtain ⟨hfree, v, hv, rfl, rfl⟩ := update_eq_ok_iff.1 hu
  obtain ⟨-, rfl⟩ := mem_of_find? hv
  have hother : ∀ w ∈ t.users, w.id ≠ v.id →
      w.username ≠ change.username ∧ w.email ≠ change.email :=
    fun w hw hne => conflict?_eq_none_iff.1 hfree w hw (by simpa using hne)
  exact ⟨h.ids.replace _, h.usernames.replace h.ids fun w hw hne => (hother w hw hne).1,
    h.emails.replace h.ids fun w hw hne => (hother w hw hne).2⟩

theorem Unambiguous.erase (h : t.Unambiguous) (id : Uuid) : (t.erase id).Unambiguous :=
  ⟨h.ids.erase id, h.usernames.erase id, h.emails.erase id⟩

theorem Unambiguous.asked {c : UserChange} (h : t.Unambiguous) (hc : t.asked c = .ok t') :
    t'.Unambiguous := by
  cases c with
  | create n id now =>
    obtain ⟨⟨u, t'⟩, hcreate, rfl⟩ := Outcome.map_eq_ok_iff.1 hc
    exact h.create hcreate
  | update id change now =>
    obtain ⟨⟨u, t'⟩, hupdate, rfl⟩ := Outcome.map_eq_ok_iff.1 hc
    exact h.update hupdate
  | delete id =>
    obtain ⟨-, rfl⟩ := delete_eq_ok_iff.1 hc
    exact h.erase id

/-- **In every table that is reached** no two users share an identifier, a name or a mail address. -/
theorem Reached.unambiguous (h : t.Reached) : t.Unambiguous := by
  induction h with
  | empty => exact ⟨List.nodup_nil, List.nodup_nil, List.nodup_nil⟩
  | @after t _ c ih =>
    rw [UserTable.after]
    cases hc : t.asked c with
    | error f => exact ih
    | ok t' => exact ih.asked hc
  | reordered _ hperm ih =>
    exact ⟨(hperm.map _).nodup ih.ids, (hperm.map _).nodup ih.usernames,
      (hperm.map _).nodup ih.emails⟩

/-! ## What is found after a change -/

theorem find?_erase (t : UserTable) (id other : Uuid) :
    (t.erase id).find? other = if other = id then none else t.find? other := by
  rw [find?, erase, List.find?_filter]
  split
  · next h => simp [h]
  · next h =>
    refine congrArg (List.find? · t.users) (funext fun v => ?_)
    by_cases hv : v.id = other
    · simp [hv, h]
    · simp [hv]

theorem find?_insert (t : UserTable) (u : User) (id : Uuid) :
    (t.insert u).find? id = if id = u.id then some u else t.find? id := by
  have hsplit : (t.insert u).find? id =
      ((t.erase u.id).find? id).or ([u].find? fun v => v.id = id) := List.find?_append
  rw [hsplit, find?_erase]
  by_cases h : id = u.id
  · simp [h]
  · simp [h, Ne.symm h]

theorem find?_replace (t : UserTable) (u : User) (id : Uuid) :
    (t.replace u).find? id = if id = u.id then (t.find? id).map fun _ => u else t.find? id := by
  rw [find?, find?, replace]
  induction t.users with
  | nil => simp
  | cons v vs ih =>
    rw [List.map_cons, List.find?_cons, List.find?_cons, ih]
    by_cases hv : v.id = u.id
    · rw [if_pos hv, hv]
      by_cases h : u.id = id
      · simp [h]
      · simp [h]
    · rw [if_neg hv]
      by_cases h : v.id = id
      · have hne : id ≠ u.id := fun e => hv (h.trans e)
        simp [h, hne]
      · simp [h]

theorem DistinctIds.perm_cons_filter (ht : t.DistinctIds) (hu : u ∈ t.users) :
    t.users.Perm (u :: t.users.filter fun v => v.id ≠ u.id) := by
  have hnodup : t.users.Nodup := List.Nodup.of_map _ ht
  refine (List.perm_ext_iff_of_nodup hnodup (List.nodup_cons.2 ⟨?_, hnodup.filter _⟩)).2 fun v => ?_
  · simp
  · rw [List.mem_cons, List.mem_filter]
    constructor
    · intro hv
      by_cases h : v.id = u.id
      · exact .inl (ht.eq_of_id hv hu h)
      · exact .inr ⟨hv, by simpa using h⟩
    · rintro (rfl | ⟨hv, -⟩)
      · exact hu
      · exact hv

/-! ## One record more, another or less -/

/-- A table with one account more: its record says what the account starts with, and all others are
as they were. An identifier that is drawn afresh takes no other's place. -/
structure Created (t : UserTable) (n : NewUser) (id : Uuid) (now : Timestamp) (u : User)
    (t' : UserTable) : Prop where
  record : u = ⟨id, n.name, n.username, n.email, n.passwordHash, n.role, n.address, n.phoneNumber,
    now, now⟩
  stored : t'.find? id = some u
  others : ∀ other, other ≠ id → t'.find? other = t.find? other
  added : t.find? id = none → t'.users.Perm (u :: t.users)

/-- A table with another record of one account: of the old one it differs in name, username, mail
address and the time of the change, and in the password hash if one is given. -/
structure Updated (t : UserTable) (v : User) (change : UserUpdate) (now : Timestamp) (u : User)
    (t' : UserTable) : Prop where
  record : u = ⟨v.id, change.name, change.username, change.email,
    change.passwordHash.getD v.passwordHash, v.role, v.address, v.phoneNumber, v.createdAt, now⟩
  found : t.find? v.id = some v
  stored : t'.find? v.id = some u
  others : ∀ other, other ≠ v.id → t'.find? other = t.find? other
  replaced : ∃ rest, t.users.Perm (v :: rest) ∧ t'.users.Perm (u :: rest)

/-- A table with one account less. -/
structure Deleted (t : UserTable) (v : User) (t' : UserTable) : Prop where
  found : t.find? v.id = some v
  gone : t'.find? v.id = none
  others : ∀ other, other ≠ v.id → t'.find? other = t.find? other
  removed : t.users.Perm (v :: t'.users)

/-- No user has a name. -/
def FreeName (t : UserTable) (username : String) : Prop := ∀ v ∈ t.users, v.username ≠ username

/-- No user has a mail address. -/
def FreeEmail (t : UserTable) (email : String) : Prop := ∀ v ∈ t.users, v.email ≠ email

theorem exists_create_iff {n : NewUser} :
    (∃ p, t.create n id now = .ok p) ↔ t.FreeName n.username ∧ t.FreeEmail n.email := by
  simp only [Prod.exists, create_eq_ok_iff, conflict?_eq_none_iff, FreeName, FreeEmail]
  constructor
  · rintro ⟨u, t', hfree, -⟩
    exact ⟨fun v hv => (hfree v hv (by simp)).1, fun v hv => (hfree v hv (by simp)).2⟩
  · rintro ⟨hname, hemail⟩
    exact ⟨_, _, fun v hv _ => ⟨hname v hv, hemail v hv⟩, rfl, rfl⟩

theorem exists_find?_iff : (∃ v, t.find? id = some v) ↔ ∃ v ∈ t.users, v.id = id := by
  rw [← Option.isSome_iff_exists, find?, List.find?_isSome]
  simp

theorem exists_update_iff {change : UserUpdate} :
    (∃ p, t.update id change now = .ok p) ↔ (∃ v ∈ t.users, v.id = id) ∧
      ∀ w ∈ t.users, w.id ≠ id → w.username ≠ change.username ∧ w.email ≠ change.email := by
  simp only [← exists_find?_iff, Prod.exists, update_eq_ok_iff, conflict?_eq_none_iff]
  constructor
  · rintro ⟨u, t', hfree, v, hv, -⟩
    exact ⟨⟨v, hv⟩, fun w hw hne => hfree w hw (by simpa using hne)⟩
  · rintro ⟨⟨v, hv⟩, hfree⟩
    exact ⟨_, _, fun w hw hne => hfree w hw (by simpa using hne), v, hv, rfl, rfl⟩

theorem created_of_create {n : NewUser} (h : t.create n id now = .ok (u, t')) :
    t.Created n id now u t' := by
  obtain ⟨-, rfl, rfl⟩ := create_eq_ok_iff.1 h
  have hfind := fun other => t.find?_insert (n.toUser id now) other
  refine ⟨rfl, (hfind id).trans (if_pos rfl), fun other hne => (hfind other).trans (if_neg hne), ?_⟩
  intro hfresh
  have hothers : t.users.filter (fun v => v.id ≠ (n.toUser id now).id) = t.users := by
    refine List.filter_eq_self.2 fun v hv => ?_
    have hne : ¬ v.id = id := by simpa using List.find?_eq_none.1 hfresh v hv
    exact decide_eq_true hne
  rw [insert, hothers]
  exact List.perm_append_singleton _ _

theorem updated_of_update {change : UserUpdate} (ht : t.DistinctIds)
    (h : t.update id change now = .ok (u, t')) : ∃ v, v.id = id ∧ t.Updated v change now u t' := by
  obtain ⟨-, v, hv, rfl, rfl⟩ := update_eq_ok_iff.1 h
  obtain ⟨hmem, rfl⟩ := mem_of_find? hv
  have hfind := fun other => t.find?_replace (v.updated change now) other
  have hnew : v.updated change now ∈ (t.replace (v.updated change now)).users :=
    mem_replace_iff.2 (.inr ⟨rfl, v, hmem, rfl⟩)
  refine ⟨v, rfl, rfl, hv, ?_, fun other hne => (hfind other).trans (if_neg hne),
    t.users.filter fun w => w.id ≠ v.id, ht.perm_cons_filter hmem, ?_⟩
  · rw [hfind, hv]
    exact if_pos rfl
  · have hperm := (ht.replace _).perm_cons_filter hnew
    rwa [filter_replace] at hperm

theorem deleted_of_delete (ht : t.DistinctIds) (h : t.delete id = .ok t') :
    ∃ v, v.id = id ∧ t.Deleted v t' := by
  obtain ⟨⟨v, hv⟩, rfl⟩ := delete_eq_ok_iff.1 h
  obtain ⟨hmem, rfl⟩ := mem_of_find? hv
  have hfind := t.find?_erase v.id
  exact ⟨v, rfl, hv, (hfind v.id).trans (if_pos rfl),
    fun other hne => (hfind other).trans (if_neg hne), ht.perm_cons_filter hmem⟩

/-! ## Names that become free -/

theorem Deleted.free (ht : t.Unambiguous) (h : t.Deleted v t') :
    t'.FreeName v.username ∧ t'.FreeEmail v.email := by
  have hnames := (h.removed.map User.username).nodup ht.usernames
  have hemails := (h.removed.map User.email).nodup ht.emails
  rw [List.map_cons, List.nodup_cons, List.mem_map] at hnames hemails
  exact ⟨fun w hw heq => hnames.1 ⟨w, hw, heq⟩, fun w hw heq => hemails.1 ⟨w, hw, heq⟩⟩

theorem Updated.free {change : UserUpdate} (ht : t.Unambiguous) (h : t.Updated v change now u t') :
    (change.username ≠ v.username → t'.FreeName v.username) ∧
      (change.email ≠ v.email → t'.FreeEmail v.email) := by
  obtain ⟨rest, hold, hnew⟩ := h.replaced
  have hnames := (hold.map User.username).nodup ht.usernames
  have hemails := (hold.map User.email).nodup ht.emails
  rw [List.map_cons, List.nodup_cons, List.mem_map] at hnames hemails
  have hmem : ∀ w ∈ t'.users, w = u ∨ w ∈ rest := fun w hw => List.mem_cons.1 (hnew.mem_iff.1 hw)
  constructor
  · intro hne w hw heq
    rcases hmem w hw with rfl | hrest
    · rw [h.record] at heq
      exact hne heq
    · exact hnames.1 ⟨w, hrest, heq⟩
  · intro hne w hw heq
    rcases hmem w hw with rfl | hrest
    · rw [h.record] at heq
      exact hne heq
    · exact hemails.1 ⟨w, hrest, heq⟩

/-! ## The whole -/

/-- **Exactly what each change makes of the table.** In every table that is reached:

* a new account is made exactly if its name and its mail address are free, and the table has then one
  record more, the one that is answered;
* an account ends exactly if it is there, and the table has then one record less; a new account may
  have its name and its mail address at once;
* an account is changed exactly if it is there and no other user has its new name or mail address,
  and the table has then another record of it, the one that is answered, with the new name, username,
  mail address and time and, if one is given, the new password hash; what it has given up is free;
* a change that fails leaves the table. -/
theorem changes_exact (h : t.Reached) :
    (∀ n id now,
      ((∃ p, t.create n id now = .ok p) ↔ t.FreeName n.username ∧ t.FreeEmail n.email) ∧
      ∀ u t', t.create n id now = .ok (u, t') → t.Created n id now u t') ∧
    (∀ id,
      ((∃ t', t.delete id = .ok t') ↔ ∃ v ∈ t.users, v.id = id) ∧
      ∀ t', t.delete id = .ok t' → ∃ v, v.id = id ∧ t.Deleted v t' ∧
        t'.FreeName v.username ∧ t'.FreeEmail v.email ∧
        ∀ n other now, n.username = v.username → n.email = v.email →
          ∃ p, t'.create n other now = .ok p) ∧
    (∀ id change now,
      ((∃ p, t.update id change now = .ok p) ↔ (∃ v ∈ t.users, v.id = id) ∧
        ∀ w ∈ t.users, w.id ≠ id → w.username ≠ change.username ∧ w.email ≠ change.email) ∧
      ∀ u t', t.update id change now = .ok (u, t') → ∃ v, v.id = id ∧ t.Updated v change now u t' ∧
        (change.username ≠ v.username → t'.FreeName v.username) ∧
        (change.email ≠ v.email → t'.FreeEmail v.email)) ∧
    ∀ c f, t.asked c = .error f → t.after c = t := by
  have ht := h.unambiguous
  refine ⟨fun n id now => ⟨exists_create_iff, fun u t' => created_of_create⟩, fun id => ⟨?_, ?_⟩,
    fun id change now => ⟨exists_update_iff, ?_⟩, ?_⟩
  · simp only [delete_eq_ok_iff, exists_and_left, exists_eq, and_true, exists_find?_iff]
  · intro t' hdelete
    obtain ⟨v, hid, hdeleted⟩ := deleted_of_delete ht.ids hdelete
    obtain ⟨hname, hemail⟩ := hdeleted.free ht
    refine ⟨v, hid, hdeleted, hname, hemail, fun n other now hn he => exists_create_iff.2 ?_⟩
    rw [hn, he]
    exact ⟨hname, hemail⟩
  · intro u t' hupdate
    obtain ⟨v, hid, hupdated⟩ := updated_of_update ht.ids hupdate
    exact ⟨v, hid, hupdated, hupdated.free ht⟩
  · intro c f hc
    rw [after, hc]
    rfl

/-- Of Alice and Bob, Alice may not take Bob's name. Once she has another or is gone, hers may be
taken. -/
theorem changes_exact_of_alice_and_bob :
    let alice : NewUser := ⟨"Alice", "alice", "a@example.com", "hash", .user, "", ""⟩
    let bob : NewUser := ⟨"Bob", "bob", "b@example.com", "hash", .user, "", ""⟩
    let t := (({} : UserTable).after (.create alice (Uuid.random 1) ⟨1, 0⟩)).after
      (.create bob (Uuid.random 2) ⟨2, 0⟩)
    let robbed : UserUpdate := ⟨"Alice", "bob", "a@example.com", none⟩
    let renamed : UserUpdate := ⟨"Ada", "ada", "a@example.com", some "other"⟩
    t.Reached ∧ (¬ ∃ p, t.update (Uuid.random 1) robbed ⟨3, 0⟩ = .ok p) ∧
      t.after (.update (Uuid.random 1) robbed ⟨3, 0⟩) = t ∧
      (∃ u t', t.update (Uuid.random 1) renamed ⟨3, 0⟩ = .ok (u, t') ∧ u.createdAt = ⟨1, 0⟩ ∧
        t'.FreeName "alice") ∧
      ∃ t', t.delete (Uuid.random 1) = .ok t' ∧
        ∃ p, t'.create alice (Uuid.random 3) ⟨3, 0⟩ = .ok p := by
  intro alice bob t robbed renamed
  have hreached : t.Reached := (Reached.empty.after _).after _
  obtain ⟨-, hdelete, hupdate, hfault⟩ := changes_exact hreached
  have hfound : t.find? (Uuid.random 1) = some (alice.toUser (Uuid.random 1) ⟨1, 0⟩) := by
    decide +kernel
  have hthere : ∃ v ∈ t.users, v.id = Uuid.random 1 := exists_find?_iff.1 ⟨_, hfound⟩
  have halice {v : User} (hv : t.find? v.id = some v) (hid : v.id = Uuid.random 1) :
      v = alice.toUser (Uuid.random 1) ⟨1, 0⟩ := by
    rw [hid, hfound] at hv
    exact (Option.some.inj hv).symm
  refine ⟨hreached, ?_, hfault _ (.duplicate "username 'bob'") rfl, ?_, ?_⟩
  · rw [(hupdate _ _ _).1]
    rintro ⟨-, hothers⟩
    have hbob : bob.toUser (Uuid.random 2) ⟨2, 0⟩ ∈ t.users := by decide +kernel
    exact (hothers _ hbob (by decide +kernel)).1 rfl
  · obtain ⟨⟨u, t'⟩, hok⟩ := (hupdate (Uuid.random 1) renamed ⟨3, 0⟩).1.2
      ⟨hthere, by decide +kernel⟩
    obtain ⟨v, hid, hupdated, hname, -⟩ := (hupdate _ _ _).2 u t' hok
    obtain rfl := halice (hid ▸ hupdated.found) hid
    exact ⟨u, t', hok, by rw [hupdated.record]; rfl, hname (by decide)⟩
  · obtain ⟨t', hok⟩ := (hdelete (Uuid.random 1)).1.2 hthere
    obtain ⟨v, hid, hdeleted, -, -, hagain⟩ := (hdelete _).2 t' hok
    obtain rfl := halice (hid ▸ hdeleted.found) hid
    exact ⟨t', hok, hagain alice (Uuid.random 3) ⟨3, 0⟩ rfl rfl⟩

end UserTable

end Accounts
