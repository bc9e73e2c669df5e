import Accounts.Account.Work
import Accounts.Proofs.Users.Table

/-!
# Work on accounts that succeeds

For each work, what it has checked when it succeeds and what it gives.

* `Service.validate_register_eq_ok_iff`, `Service.validate_update_eq_ok_iff`,
  `Service.validate_login_eq_ok_iff`: the requests that are valid;
* **`Service.register_eq_ok_iff`**, **`Service.change_eq_ok_iff`**, `Service.remove_eq_ok_iff`: the
  changes of the store of users;
* **`Service.login_eq_ok_iff`**, `Service.profile_eq_ok_iff`: the looks at it.
-/

namespace Accounts.Service

variable {service : Service} {o : Occasion} {users users' : UserStore} {u : User}

theorem present_eq_ok_iff {found : Option User} : present found = .ok u ↔ found = some u := by
  cases found <;> simp [present]

/-! ## Requests that are valid -/

theorem settle_eq_ok_iff {complaints : List String} :
    settle complaints = .ok () ↔ complaints = [] := by
  unfold settle
  split
  · next h => exact ⟨fun _ => h, fun _ => rfl⟩
  · next h => exact ⟨fun hok => (by cases hok), fun hnil => absurd hnil h⟩

theorem complainIfEmpty_eq_nil_iff {s complaint : String} :
    complainIfEmpty s complaint = [] ↔ s ≠ "" := by
  simp [complainIfEmpty]

theorem complainAboutEmail_eq_nil_iff {s : String} :
    complainAboutEmail s = [] ↔ Email.isAddress s = true := by
  simp [complainAboutEmail]

theorem validate_register_eq_ok_iff {r : RegisterRequest} : r.validate = .ok () ↔
    r.name ≠ "" ∧ r.username ≠ "" ∧ Email.isAddress r.email = true ∧ r.password ≠ "" := by
  simp only [RegisterRequest.validate, settle_eq_ok_iff, List.append_eq_nil_iff,
    complainIfEmpty_eq_nil_iff, complainAboutEmail_eq_nil_iff, and_assoc]

theorem validate_update_eq_ok_iff {r : UpdateRequest} : r.validate = .ok () ↔
    r.name ≠ "" ∧ r.username ≠ "" ∧ Email.isAddress r.email = true := by
  simp only [UpdateRequest.validate, settle_eq_ok_iff, List.append_eq_nil_iff,
    complainIfEmpty_eq_nil_iff, complainAboutEmail_eq_nil_iff, and_assoc]

theorem validate_login_eq_ok_iff {r : LoginRequest} :
    r.validate = .ok () ↔ r.username ≠ "" ∧ r.password ≠ "" := by
  simp only [LoginRequest.validate, settle_eq_ok_iff, List.append_eq_nil_iff,
    complainIfEmpty_eq_nil_iff]

/-! ## Work that succeeds -/

/-- **A registration succeeds** if the request is valid, its code admits the role that it names, the
password can be hashed and the account can be made. -/
theorem register_eq_ok_iff {r : RegisterRequest} :
    service.register o r users = .ok (u, users') ↔
      r.validate = .ok () ∧ ∃ role hash, r.askedRole = .ok role ∧
        service.admits r.code role = true ∧ service.scheme.hash o.salt r.password = .ok hash ∧
        users.create ⟨r.name, r.username, r.email, hash, role, r.address, r.phoneNumber⟩ o.freshId
          o.wall = .ok (u, users') := by
  simp only [register, Outcome.bind_eq_ok_iff]
  constructor
  · rintro ⟨⟨⟩, hvalid, role, hrole, h⟩
    cases hadmits : service.admits r.code role with
    | false =>
      rw [hadmits] at h
      obtain ⟨_, h, -⟩ := Outcome.bind_eq_ok_iff.1 h
      cases h
    | true =>
      rw [hadmits] at h
      obtain ⟨hash, hhash, h⟩ := Outcome.bind_eq_ok_iff.1 h
      exact ⟨hvalid, role, hash, hrole, hadmits, Outcome.mapError_eq_ok_iff.1 hhash,
        Outcome.mapError_eq_ok_iff.1 h⟩
  · rintro ⟨hvalid, role, hash, hrole, hadmits, hhash, h⟩
    refine ⟨(), hvalid, role, hrole, ?_⟩
    rw [hadmits]
    exact Outcome.bind_eq_ok_iff.2 ⟨hash, Outcome.mapError_eq_ok_iff.2 hhash,
      Outcome.mapError_eq_ok_iff.2 h⟩

/-- **A change of one's own account succeeds** if the request is valid, a new password can be hashed
and the account can be changed. -/
theorem change_eq_ok_iff {caller : Identity} {r : UpdateRequest} :
    service.change o caller r users = .ok (u, users') ↔
      r.validate = .ok () ∧ ∃ hash, service.newHash o r.password = .ok hash ∧
        users.update caller.userId ⟨r.name, r.username, r.email, hash⟩ o.wall =
          .ok (u, users') := by
  simp only [change, Outcome.bind_eq_ok_iff, Outcome.mapError_eq_ok_iff]
  constructor
  · rintro ⟨⟨⟩, hvalid, h⟩
    exact ⟨hvalid, h⟩
  · rintro ⟨hvalid, h⟩
    exact ⟨(), hvalid, h⟩

theorem newHash_eq_ok_iff {password hash : Option String} :
    service.newHash o password = .ok hash ↔
      (password.filter (· ≠ "") = none ∧ hash = none) ∨
      ∃ p text, password.filter (· ≠ "") = some p ∧ service.scheme.hash o.salt p = .ok text ∧
        hash = some text := by
  unfold newHash
  cases password.filter (· ≠ "") with
  | none => simp [eq_comm]
  | some p =>
    simp only [Outcome.map_eq_ok_iff, Outcome.mapError_eq_ok_iff]
    constructor
    · rintro ⟨text, hhash, rfl⟩
      exact .inr ⟨p, text, rfl, hhash, rfl⟩
    · rintro (⟨h, -⟩ | ⟨_, text, ⟨⟩, hhash, rfl⟩)
      · cases h
      · exact ⟨text, hhash, rfl⟩

theorem newHash_eq_some {password : Option String} {hash : String}
    (h : service.newHash o password = .ok (some hash)) :
    ∃ p, p ≠ "" ∧ service.scheme.hash o.salt p = .ok hash := by
  rcases newHash_eq_ok_iff.1 h with ⟨-, hnone⟩ | ⟨p, text, hsome, hhash, heq⟩
  · cases hnone
  · cases heq
    have hne := (Option.filter_eq_some_iff.1 hsome).2
    exact ⟨p, by simpa using hne, hhash⟩

theorem remove_eq_ok_iff {id : String} :
    remove id users = .ok users' ↔ ∃ uid, idOf id = .ok uid ∧ users.delete uid = .ok users' := by
  simp only [remove, Outcome.bind_eq_ok_iff, Outcome.mapError_eq_ok_iff]

theorem profile_eq_ok_iff {caller : Identity} :
    profile caller users = .ok u ↔ users.find caller.userId = .ok (some u) := by
  simp only [profile, Outcome.bind_eq_ok_iff, Outcome.mapError_eq_ok_iff, present_eq_ok_iff]
  exact ⟨fun ⟨_, hfound, hu⟩ => hu ▸ hfound, fun h => ⟨_, h, rfl⟩⟩

/-- **A login succeeds** if the request is valid, there is a user with the name, and the password goes
with the user's hash. -/
theorem login_eq_ok_iff {r : LoginRequest} {reply : LoginReply} :
    service.login o r users = .ok reply ↔
      r.validate = .ok () ∧ ∃ u, users.findByUsername r.username = .ok (some u) ∧
        service.scheme.verify r.password u.passwordHash = .ok () ∧
        reply = ⟨u, service.signer.issue u.identity o.freshId o.wall⟩ := by
  simp only [login, Outcome.bind_eq_ok_iff, Outcome.mapError_eq_ok_iff, present_eq_ok_iff]
  constructor
  · rintro ⟨⟨⟩, hvalid, _, hfound, u, rfl, ⟨⟩, hverify, h⟩
    cases h
    exact ⟨hvalid, u, hfound, hverify, rfl⟩
  · rintro ⟨hvalid, u, hfound, hverify, rfl⟩
    exact ⟨(), hvalid, _, hfound, u, rfl, (), hverify, rfl⟩

end Accounts.Service
