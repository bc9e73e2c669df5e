import Accounts.Gate.Bearer

/-!
# The gate by role

* `RoleGate`: the roles that may pass;
* `RoleGate.check`: who passes;
* `check_eq_ok_iff`: exactly the callers whose role is allowed pass.
-/

namespace Accounts

/-- The roles that may pass; order and repetition mean nothing. -/
structure RoleGate where
  allowed : List Role

namespace RoleGate

/-- Administrators only. -/
def adminOnly : RoleGate := ⟨[.admin]⟩

/-- Whether a role may pass. -/
def allows (g : RoleGate) (r : Role) : Bool := g.allowed.contains r

/-- Whether two gates let the same roles pass. -/
def same (g h : RoleGate) : Bool := [Role.admin, Role.user].all fun r => g.allows r == h.allows r

/-- A caller without an identity is unknown, one of another role is refused. -/
def check (g : RoleGate) : Option Identity → Except AuthFault Unit
  | none => .error .missingIdentity
  | some i => if g.allows i.role then .ok () else .error .forbidden

theorem check_eq_ok_iff (g : RoleGate) (caller : Option Identity) :
    g.check caller = .ok () ↔ ∃ i, caller = some i ∧ i.role ∈ g.allowed := by
  cases caller with
  | none => simp [check]
  | some i =>
    by_cases h : i.role ∈ g.allowed <;> simp [check, allows, h]

end RoleGate

end Accounts
