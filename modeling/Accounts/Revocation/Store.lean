import Accounts.Revocation.Fault
import Accounts.Revocation.Table

/-!
# The store of revoked tokens

A store answers from its table, or reports a fault and does nothing. It keeps a list of the calls
that it got.

* `StoreCall`: a call;
* `RevocationStore`: the table, the fault that every call meets, the name of the store, the calls;
* `RevocationStore.contains`, `RevocationStore.put`: the calls.
-/

namespace Accounts

/-- A call to a store of revoked tokens; times are in nanoseconds. -/
inductive StoreCall
  | contains (id : String)
  | put (id : String) (ttl : Nat)
  deriving DecidableEq

/-- A store of revoked tokens. -/
structure RevocationStore where
  table : RevocationTable := {}
  fault : Option RevocationFault := none
  backend : String := "memory"
  calls : List StoreCall := []

namespace RevocationStore

/-- The store after a call. -/
def called (s : RevocationStore) (c : StoreCall) : RevocationStore :=
  { s with calls := s.calls ++ [c] }

/-- Whether a token is revoked now. -/
def contains (s : RevocationStore) (now : Nat) (id : String) :
    Except RevocationFault Bool × RevocationStore :=
  (match s.fault with
    | some f => .error f
    | none => .ok (s.table.holds now id), s.called (.contains id))

/-- Revokes a token for some time from now. -/
def put (s : RevocationStore) (now : Nat) (id : String) (ttl : Nat) :
    Except RevocationFault Unit × RevocationStore :=
  let s := s.called (.put id ttl)
  match s.fault with
  | some f => (.error f, s)
  | none => (.ok (), { s with table := s.table.put now id ttl })

/-- Whether the store works. -/
def isHealthy (s : RevocationStore) : Bool := s.fault.isNone

end RevocationStore

end Accounts
