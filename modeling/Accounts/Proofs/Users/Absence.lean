import Accounts.Proofs.Account.Work
import Accounts.Proofs.Users.Mutations

/-!
# Changes of accounts that are not there

Conflicts are looked for before the account is. So a change of an account that is not there is
always refused, but not always for its absence: a user who has the new name or mail address comes
first.

* `UserTable.clash?_eq_some_iff`, `UserTable.exists_of_conflict?`: what a conflict tells, and of
  whom;
* `UserTable.update_of_free`, `UserTable.update_of_taken`: how such a change is refused;
  `UserStore.update_of_absent`: so it is by a store that works;
* **`Service.change_of_absent_account`**: the refusals that the owner of a deleted account meets;
* `Service.absent_account_meets_conflict`: an owner who is not told that the account is gone.
-/

namespace Accounts

namespace UserTable

variable {t : UserTable} {u : User} {id : Uuid} {own : Option Uuid} {username email : String}
  {f : UserStoreFault} {change : UserUpdate} {now : Timestamp}

/-! ## Conflicts -/

theorem clash?_eq_some_iff : clash? username email u = some f ↔
    (u.username = username ∧ f = .duplicate ("username '" ++ username ++ "'")) ∨
      (u.username ≠ username ∧ u.email = email ∧
        f = .duplicate ("email '" ++ email ++ "'")) := by
  unfold clash?
  by_cases hname : u.username = username
  · simp [hname, eq_comm]
  · by_cases hemail : u.email = email
    · simp [hname, hemail, eq_comm]
    · simp [hname, hemail]

theorem exists_of_conflict? (h : t.conflict? own username email = some f) :
    ∃ u ∈ t.users, some u.id ≠ own ∧ clash? username email u = some f := by
  obtain ⟨u, hu, hclash⟩ := List.exists_of_findSome?_eq_some h
  obtain ⟨hu, hother⟩ := List.mem_filter.1 hu
  exact ⟨u, hu, of_decide_eq_true hother, hclash⟩

/-- A name and a mail address that no user has. -/
def IsFree (t : UserTable) (username email : String) : Prop :=
  t.FreeName username ∧ t.FreeEmail email

theorem conflict?_of_absent (h : t.find? id = none) :
    t.conflict? (some id) username email = none ↔ t.IsFree username email := by
  have hother : ∀ v ∈ t.users, some v.id ≠ some id := by simpa using find?_eq_none_iff.1 h
  rw [conflict?_eq_none_iff]
  constructor
  · intro hfree
    exact ⟨fun v hv => (hfree v hv (hother v hv)).1, fun v hv => (hfree v hv (hother v hv)).2⟩
  · rintro ⟨hname, hemail⟩ v hv -
    exact ⟨hname v hv, hemail v hv⟩

/-! ## Changes of an account that is not there -/

theorem update_of_free (h : t.find? id = none) (hfree : t.IsFree change.username change.email) :
    t.update id change now = .error (absent id) := by
  rw [update, (conflict?_of_absent h).2 hfree, h]

theorem update_of_taken (h : t.find? id = none) (htaken : ¬t.IsFree change.username change.email) :
    ∃ v ∈ t.users, ∃ text, clash? change.username change.email v = some (.duplicate text) ∧
      t.update id change now = .error (.duplicate text) := by
  obtain ⟨f, hconflict⟩ := Option.ne_none_iff_exists'.1 (mt (conflict?_of_absent h).1 htaken)
  obtain ⟨v, hv, -, hclash⟩ := exists_of_conflict? hconflict
  have htext : ∃ text, f = .duplicate text := by
    obtain ⟨-, rfl⟩ | ⟨-, -, rfl⟩ := clash?_eq_some_iff.1 hclash
    · exact ⟨_, rfl⟩
    · exact ⟨_, rfl⟩
  obtain ⟨text, rfl⟩ := htext
  exact ⟨v, hv, text, hclash, by rw [update, hconflict]⟩

end UserTable

namespace UserStore

variable {users : UserStore} {id : Uuid} {change : UserUpdate} {now : Timestamp}

theorem update_of_refused {f : UserStoreFault} (hworks : users.fault = none)
    (h : users.table.update id change now = .error f) : users.update id change now = .error f := by
  rw [update, UserStore.change, ask, hworks]
  dsimp only
  rw [h]
  rfl

theorem update_of_absent (hworks : users.fault = none) (habsent : users.table.find? id = none)
    (change : UserUpdate) (now : Timestamp) :
    (users.table.IsFree change.username change.email ∧
      users.update id change now = .error (UserTable.absent id)) ∨
    (¬users.table.IsFree change.username change.email ∧ ∃ v ∈ users.table.users, ∃ text,
      UserTable.clash? change.username change.email v = some (.duplicate text) ∧
      users.update id change now = .error (.duplicate text)) := by
  by_cases hfree : users.table.IsFree change.username change.email
  · exact .inl ⟨hfree, update_of_refused hworks (UserTable.update_of_free habsent hfree)⟩
  · obtain ⟨v, hv, text, hclash, hrefused⟩ := UserTable.update_of_taken habsent hfree
    exact .inr ⟨hfree, v, hv, text, hclash, update_of_refused hworks hrefused⟩

end UserStore

namespace Service

variable {service : Service} {o : Occasion} {users : UserStore} {caller : Identity}
  {r : UpdateRequest} {hash : Option String}

theorem change_of_valid (hvalid : r.validate = .ok ())
    (hhash : service.newHash o r.password = .ok hash) :
    service.change o caller r users =
      (users.update caller.userId ⟨r.name, r.username, r.email, hash⟩ o.wall).mapError
        .ofStore := by
  rw [change, hvalid, hhash]
  rfl

/-- **The owner of a deleted account is not always told that it is gone.** In a store that works,
each change of an account that is not there is refused: for the absence exactly if no user has the
new name or mail address, and otherwise for what a user has of them. So is every valid request of
the account's owner. -/
theorem change_of_absent_account (hworks : users.fault = none)
    (habsent : users.table.find? caller.userId = none) :
    (∀ change now,
      (users.update caller.userId change now = .error (UserTable.absent caller.userId) ↔
        users.table.IsFree change.username change.email) ∧
      (¬users.table.IsFree change.username change.email → ∃ v ∈ users.table.users, ∃ text,
        UserTable.clash? change.username change.email v = some (.duplicate text) ∧
        users.update caller.userId change now = .error (.duplicate text))) ∧
    ∀ o r hash, r.validate = .ok () → service.newHash o r.password = .ok hash →
      (service.change o caller r users = .error .notFound ↔
        users.table.IsFree r.username r.email) ∧
      (¬users.table.IsFree r.username r.email → ∃ v ∈ users.table.users, ∃ text,
        UserTable.clash? r.username r.email v = some (.duplicate text) ∧
        service.change o caller r users = .error (.conflict text)) := by
  refine ⟨fun change now => ?_, fun o r hash hvalid hhash => ?_⟩
  · obtain ⟨hfree, hrefused⟩ | ⟨htaken, v, hv, text, hclash, hrefused⟩ :=
      users.update_of_absent hworks habsent change now
    · rw [hrefused]
      exact ⟨⟨fun _ => hfree, fun _ => rfl⟩, fun htaken => absurd hfree htaken⟩
    · rw [hrefused]
      exact ⟨⟨fun h => (by cases h), fun hfree => absurd hfree htaken⟩,
        fun _ => ⟨v, hv, text, hclash, rfl⟩⟩
  · rw [change_of_valid hvalid hhash]
    obtain ⟨hfree, hrefused⟩ | ⟨htaken, v, hv, text, hclash, hrefused⟩ :=
      users.update_of_absent hworks habsent ⟨r.name, r.username, r.email, hash⟩ o.wall
    · rw [hrefused]
      exact ⟨⟨fun _ => hfree, fun _ => rfl⟩, fun htaken => absurd hfree htaken⟩
    · rw [hrefused]
      exact ⟨⟨fun h => (by cases h), fun hfree => absurd hfree htaken⟩,
        fun _ => ⟨v, hv, text, hclash, rfl⟩⟩

/-- Alice's account is deleted. Of its owner, Bob's name is refused as taken and a free one for the
absence of the account. -/
theorem change_of_absent_account_of_deleted_alice :
    let alice : NewUser := ⟨"Alice", "alice", "a@example.com", "hash", .user, "", ""⟩
    let bob : NewUser := ⟨"Bob", "bob", "b@example.com", "hash", .user, "", ""⟩
    let t := ((({} : UserTable).after (.create alice (Uuid.random 1) ⟨1, 0⟩)).after
      (.create bob (Uuid.random 2) ⟨2, 0⟩)).after (.delete (Uuid.random 1))
    let service := ofSettings { secret := "secret" } .argon2id ⟨0, 0⟩
    let o : Occasion := ⟨⟨3, 0⟩, 0, Uuid.random 3, []⟩
    let owner : Identity := ⟨Uuid.random 1, "alice", .user⟩
    t.Reached ∧
      service.change o owner ⟨"Alice", "alice", "a@example.com", none⟩ { table := t } =
        .error .notFound ∧
      ∃ text, service.change o owner ⟨"Alice", "bob", "a@example.com", none⟩ { table := t } =
        .error (.conflict text) := by
  intro alice bob t service o owner
  have habsent : t.find? (Uuid.random 1) = none := by decide +kernel
  obtain ⟨-, hrequests⟩ := @change_of_absent_account service { table := t } owner rfl habsent
  obtain ⟨hown, -⟩ := hrequests o ⟨"Alice", "alice", "a@example.com", none⟩ none
    (validate_update_eq_ok_iff.2 (by decide +kernel)) rfl
  obtain ⟨-, hbob⟩ := hrequests o ⟨"Alice", "bob", "a@example.com", none⟩ none
    (validate_update_eq_ok_iff.2 (by decide +kernel)) rfl
  refine ⟨((UserTable.Reached.empty.after _).after _).after _, hown.2 ⟨?_, ?_⟩, ?_⟩
  · unfold UserTable.FreeName
    decide +kernel
  · unfold UserTable.FreeEmail
    decide +kernel
  · have hthere : bob.toUser (Uuid.random 2) ⟨2, 0⟩ ∈ t.users := by decide +kernel
    obtain ⟨v, hv, text, -, hconflict⟩ := hbob fun hfree => hfree.1 _ hthere rfl
    exact ⟨text, hconflict⟩

/-- Alice's account is deleted, and Bob has his. A change of hers to his name is refused, by the
store and in her request, and neither says that the account is gone. -/
theorem absent_account_meets_conflict :
    let alice : NewUser := ⟨"Alice", "alice", "a@example.com", "hash", .user, "", ""⟩
    let bob : NewUser := ⟨"Bob", "bob", "b@example.com", "hash", .user, "", ""⟩
    let t := ((({} : UserTable).after (.create alice (Uuid.random 1) ⟨1, 0⟩)).after
      (.create bob (Uuid.random 2) ⟨2, 0⟩)).after (.delete (Uuid.random 1))
    let service := ofSettings { secret := "secret" } .argon2id ⟨0, 0⟩
    let o : Occasion := ⟨⟨3, 0⟩, 0, Uuid.random 3, []⟩
    let owner : Identity := ⟨Uuid.random 1, "alice", .user⟩
    let r : UpdateRequest := ⟨"Alice", "bob", "a@example.com", none⟩
    t.Reached ∧ t.find? (Uuid.random 1) = none ∧ r.validate = .ok () ∧
      t.update (Uuid.random 1) ⟨"Alice", "bob", "a@example.com", none⟩ ⟨3, 0⟩ =
        .error (.duplicate "username 'bob'") ∧
      service.change o owner r { table := t } = .error (.conflict "username 'bob'") ∧
      (AccountFault.conflict "username 'bob'").status = 409 := by
  intro alice bob t service o owner r
  have hrefused : t.update (Uuid.random 1) ⟨"Alice", "bob", "a@example.com", none⟩ ⟨3, 0⟩ =
      .error (.duplicate "username 'bob'") := rfl
  have hvalid : r.validate = .ok () := validate_update_eq_ok_iff.2 (by decide +kernel)
  refine ⟨((UserTable.Reached.empty.after _).after _).after _, by decide +kernel, hvalid, hrefused,
    ?_, rfl⟩
  rw [change_of_valid hvalid rfl, UserStore.update_of_refused rfl hrefused]
  rfl

end Service

end Accounts
