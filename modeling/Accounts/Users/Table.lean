import Accounts.User
import Accounts.Users.Fault

/-!
# The table of users

All accounts, in an order that only an enumeration shows.

* `UserTable`: the table, with `find?`, `findByUsername?` and `list`;
* `UserTable.conflict?`: the first user who has a name or a mail address already;
* `UserTable.create`, `UserTable.update`, `UserTable.delete`: the changes; one that fails leaves no
  new table;
* **`conflict?_eq_none_iff`**: no conflict exactly if no other user has the name or the address.
-/

namespace Accounts

/-- All accounts. -/
structure UserTable where
  users : List User := []

namespace UserTable

/-- The user with an identifier. -/
def find? (t : UserTable) (id : Uuid) : Option User := t.users.find? fun u => u.id = id

/-- The user with a name. -/
def findByUsername? (t : UserTable) (username : String) : Option User :=
  t.users.find? fun u => u.username = username

/-- All users by the time of their creation. -/
def list (t : UserTable) : List User :=
  t.users.mergeSort fun a b => a.createdAt.le b.createdAt

/-- How a user stands in the way of a name and a mail address. -/
def clash? (username email : String) (u : User) : Option UserStoreFault :=
  if u.username = username then some (.duplicate ("username '" ++ username ++ "'"))
  else if u.email = email then some (.duplicate ("email '" ++ email ++ "'"))
  else none

/-- What stands in the way of a name and a mail address, but for one user's own. -/
def conflict? (t : UserTable) (own : Option Uuid) (username email : String) :
    Option UserStoreFault :=
  (t.users.filter fun u => some u.id ≠ own).findSome? (clash? username email)

/-- The table with a user, who replaces one with the same identifier. -/
def insert (t : UserTable) (u : User) : UserTable := ⟨t.users.filter (fun v => v.id ≠ u.id) ++ [u]⟩

/-- The table with another record of a user. -/
def replace (t : UserTable) (u : User) : UserTable :=
  ⟨t.users.map fun v => if v.id = u.id then u else v⟩

/-- The table without a user. -/
def erase (t : UserTable) (id : Uuid) : UserTable := ⟨t.users.filter fun u => u.id ≠ id⟩

/-- A new account. -/
def create (t : UserTable) (n : NewUser) (id : Uuid) (now : Timestamp) :
    Except UserStoreFault (User × UserTable) :=
  match t.conflict? none n.username n.email with
  | some f => .error f
  | none => .ok (n.toUser id now, t.insert (n.toUser id now))

/-- The fault of an account that is not there. -/
def absent (id : Uuid) : UserStoreFault := .notFound ("user " ++ id.text)

/-- A change of an account; conflicts are looked for before the account is. -/
def update (t : UserTable) (id : Uuid) (change : UserUpdate) (now : Timestamp) :
    Except UserStoreFault (User × UserTable) :=
  match t.conflict? (some id) change.username change.email with
  | some f => .error f
  | none =>
    match t.find? id with
    | none => .error (absent id)
    | some u => .ok (u.updated change now, t.replace (u.updated change now))

/-- The end of an account. -/
def delete (t : UserTable) (id : Uuid) : Except UserStoreFault UserTable :=
  match t.find? id with
  | none => .error (absent id)
  | some _ => .ok (t.erase id)

theorem clash?_eq_none_iff {username email : String} {u : User} :
    clash? username email u = none ↔ u.username ≠ username ∧ u.email ≠ email := by
  unfold clash?
  split
  · simp_all
  · split <;> simp_all

/-- **No conflict exactly if no other user has the name or the address.** -/
theorem conflict?_eq_none_iff {t : UserTable} {own : Option Uuid} {username email : String} :
    t.conflict? own username email = none ↔
      ∀ u ∈ t.users, some u.id ≠ own → u.username ≠ username ∧ u.email ≠ email := by
  simp only [conflict?, List.findSome?_eq_none_iff, List.mem_filter, decide_eq_true_eq, and_imp,
    clash?_eq_none_iff]

theorem mem_list {t : UserTable} {u : User} : u ∈ t.list ↔ u ∈ t.users :=
  List.mem_mergeSort

end UserTable

end Accounts
