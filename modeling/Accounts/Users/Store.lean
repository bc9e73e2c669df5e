import Accounts.Users.Table

/-!
# The store of users

A store answers from its table, or reports a fault and does nothing.

* `UserStore`: the table, the fault that every request meets, and the name of the store;
* `UserStore.ask`: an answer from the table;
* `UserStore.change`: a change of the table.
-/

namespace Accounts

/-- A store of users. -/
structure UserStore where
  table : UserTable := {}
  fault : Option UserStoreFault := none
  backend : String := "memory"

namespace UserStore

/-- An answer from the table. -/
def ask {α : Type} (s : UserStore) (answer : UserTable → Except UserStoreFault α) :
    Except UserStoreFault α :=
  match s.fault with
  | some f => .error f
  | none => answer s.table

/-- A change of the table, with an answer. -/
def change {α : Type} (s : UserStore)
    (act : UserTable → Except UserStoreFault (α × UserTable)) :
    Except UserStoreFault (α × UserStore) :=
  (s.ask act).map fun (a, t) => (a, { s with table := t })

/-- All users by the time of their creation. -/
def list (s : UserStore) : Except UserStoreFault (List User) := s.ask fun t => .ok t.list

/-- The user with an identifier. -/
def find (s : UserStore) (id : Uuid) : Except UserStoreFault (Option User) :=
  s.ask fun t => .ok (t.find? id)

/-- The user with a name. -/
def findByUsername (s : UserStore) (username : String) : Except UserStoreFault (Option User) :=
  s.ask fun t => .ok (t.findByUsername? username)

/-- A new account. -/
def create (s : UserStore) (n : NewUser) (id : Uuid) (now : Timestamp) :
    Except UserStoreFault (User × UserStore) :=
  s.change fun t => t.create n id now

/-- A change of an account. -/
def update (s : UserStore) (id : Uuid) (change : UserUpdate) (now : Timestamp) :
    Except UserStoreFault (User × UserStore) :=
  s.change fun t => t.update id change now

/-- The end of an account. -/
def delete (s : UserStore) (id : Uuid) : Except UserStoreFault UserStore :=
  (s.change fun t => (t.delete id).map ((), ·)).map Prod.snd

/-- Whether the store works. -/
def isHealthy (s : UserStore) : Bool := s.fault.isNone

end UserStore

end Accounts
