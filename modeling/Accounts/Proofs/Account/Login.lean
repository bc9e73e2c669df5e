import Accounts.Proofs.Account.Integrity
import Accounts.Proofs.Token.RoundTrip

/-!
# A login answers by the password last set

A registration sets a password, and so does a change that carries one; a rename, a change that fails
and the end of an account set none. Of the passwords that an account was ever given, its record has
the hash of the last.

* `AccountCall`: registrations, changes, removals and logins; `Service.runAccounts`: the store after
  many of them;
* `PasswordSetting`: an account is given a password; `Service.passwordsSet`: all that a run sets;
  `lastPassword?`: the last for an account;
* `UserStore.Follows`: the records go with the passwords that were set;
  **`Service.follows_runAccounts`**: every run keeps it so;
* `Service.login_cases`: what a login answers on such a store;
* **`Service.login_answers_by_last_password`**: the same from an empty store, with the token.
-/

namespace Accounts

/-- A call about accounts; a login only looks at the store. -/
inductive AccountCall
  | work (work : UserWork)
  | login (request : LoginRequest)

/-- An account is given a password, hashed with a salt. -/
structure PasswordSetting where
  id : Uuid
  salt : Bytes
  password : String

/-- The last that was set for an account. -/
def lastSetting? (settings : List PasswordSetting) (id : Uuid) : Option PasswordSetting :=
  (settings.filter fun s => s.id = id).getLast?

/-- The last password that was set for an account. -/
def lastPassword? (settings : List PasswordSetting) (id : Uuid) : Option String :=
  (lastSetting? settings id).map PasswordSetting.password

/-- Against the hash of the password that was set, a password passes exactly if it is that one. -/
def PasswordScheme.Recognizes (scheme : PasswordScheme) (s : PasswordSetting) (p : String) : Prop :=
  ∀ hash, scheme.hash s.salt s.password = .ok hash →
    (scheme.verify p hash = .ok () ↔ p = s.password)

namespace Service

variable (service : Service)

/-- The store after a call about accounts. -/
def afterAccount (o : Occasion) (users : UserStore) : AccountCall → UserStore
  | .work w => service.afterWork o users w
  | .login _ => users

/-- The store after many calls about accounts. -/
def runAccounts (users : UserStore) (calls : List (Occasion × AccountCall)) : UserStore :=
  calls.foldl (fun users c => service.afterAccount c.1 users c.2) users

/-- The password that a call sets; one that fails sets none. -/
def passwordSet? (o : Occasion) (users : UserStore) : AccountCall → Option PasswordSetting
  | .work (.register request) =>
    (service.register o request users).toOption.map fun (u, _) => ⟨u.id, o.salt, request.password⟩
  | .work (.change caller request) =>
    match service.change o caller request users with
    | .ok _ => (request.password.filter (· ≠ "")).map fun p => ⟨caller.userId, o.salt, p⟩
    | .error _ => none
  | .work (.remove _) => none
  | .login _ => none

/-- The passwords that calls set, the last at the end. -/
def passwordsSet (users : UserStore) : List (Occasion × AccountCall) → List PasswordSetting
  | [] => []
  | c :: calls => (service.passwordSet? c.1 users c.2).toList ++
      passwordsSet (service.afterAccount c.1 users c.2) calls

end Service

/-! ## The last setting -/

section LastSetting

variable {before : List PasswordSetting} {s : PasswordSetting} {id : Uuid}

theorem lastSetting?_append_self (before : List PasswordSetting) (s : PasswordSetting) :
    lastSetting? (before ++ [s]) s.id = some s := by
  simp [lastSetting?]

theorem lastSetting?_append_of_ne (before : List PasswordSetting) (h : s.id ≠ id) :
    lastSetting? (before ++ [s]) id = lastSetting? before id := by
  simp [lastSetting?, h]

theorem mem_of_lastSetting? (h : lastSetting? before id = some s) : s ∈ before :=
  (List.mem_filter.1 (List.mem_of_getLast? h)).1

end LastSetting

/-! ## Records and settings -/

/-- The store has no fault, its users differ in identifier and name, and the hash of each is that of
the password that was last set for the account. -/
structure UserStore.Follows (users : UserStore) (scheme : PasswordScheme)
    (past : List PasswordSetting) : Prop where
  fault : users.fault = none
  ids : users.table.DistinctIds
  usernames : users.table.Distinct User.username
  hashes : ∀ v ∈ users.table.users, ∃ s, lastSetting? past v.id = some s ∧
    scheme.hash s.salt s.password = .ok v.passwordHash

namespace Service

variable {service : Service} {o : Occasion} {users users' : UserStore} {u : User}
  {past : List PasswordSetting}

theorem follows_register {request : RegisterRequest} (h : users.Follows service.scheme past)
    (hwork : service.register o request users = .ok (u, users')) :
    users'.Follows service.scheme (past ++ [⟨u.id, o.salt, request.password⟩]) := by
  obtain ⟨-, role, hash, -, -, hhash, hcreate⟩ := register_eq_ok_iff.1 hwork
  obtain ⟨-, hfree, rfl, rfl⟩ := UserStore.create_eq_ok_iff.1 hcreate
  have hother := UserTable.conflict?_eq_none_iff.1 hfree
  refine ⟨h.fault, h.ids.insert _, h.usernames.insert fun v hv _ => (hother v hv (by simp)).1, ?_⟩
  intro v hv
  rcases UserTable.mem_insert_iff.1 hv with rfl | ⟨hv, hne⟩
  · exact ⟨_, lastSetting?_append_self _ _, hhash⟩
  · obtain ⟨s, hs, hstored⟩ := h.hashes v hv
    exact ⟨s, (lastSetting?_append_of_ne past (Ne.symm hne)).trans hs, hstored⟩

theorem follows_change {caller : Identity} {request : UpdateRequest}
    (h : users.Follows service.scheme past)
    (hwork : service.change o caller request users = .ok (u, users')) :
    users'.Follows service.scheme (past ++
      ((request.password.filter (· ≠ "")).map fun p =>
        (⟨caller.userId, o.salt, p⟩ : PasswordSetting)).toList) := by
  obtain ⟨-, hash, hnew, hupdate⟩ := change_eq_ok_iff.1 hwork
  obtain ⟨-, hfree, v, hfound, rfl, rfl⟩ := UserStore.update_eq_ok_iff.1 hupdate
  obtain ⟨hv, hid⟩ := UserTable.mem_of_find? hfound
  have hother := UserTable.conflict?_eq_none_iff.1 hfree
  refine ⟨h.fault, h.ids.replace _, h.usernames.replace h.ids fun w hw hne =>
    (hother w hw fun heq => hne ((Option.some.inj heq).trans hid.symm)).1, ?_⟩
  intro w hw
  rcases newHash_eq_ok_iff.1 hnew with ⟨hnone, rfl⟩ | ⟨p, text, hsome, hhash, rfl⟩
  · -- without a password the record keeps its hash
    rw [hnone, Option.map_none, Option.toList_none, List.append_nil]
    rcases UserTable.mem_replace_iff.1 hw with ⟨hw, -⟩ | ⟨rfl, -⟩
    · exact h.hashes w hw
    · exact h.hashes v hv
  · rw [hsome, Option.map_some, Option.toList_some]
    rcases UserTable.mem_replace_iff.1 hw with ⟨hw, hne⟩ | ⟨rfl, -⟩
    · obtain ⟨s, hs, hstored⟩ := h.hashes w hw
      have hne' : caller.userId ≠ w.id := fun heq => hne (heq.symm.trans hid.symm)
      exact ⟨s, (lastSetting?_append_of_ne past hne').trans hs, hstored⟩
    · refine ⟨⟨caller.userId, o.salt, p⟩, ?_, hhash⟩
      change lastSetting? _ v.id = _
      rw [hid]
      exact lastSetting?_append_self past ⟨caller.userId, o.salt, p⟩

theorem follows_remove {written : String} (h : users.Follows service.scheme past)
    (hwork : remove written users = .ok users') : users'.Follows service.scheme past := by
  obtain ⟨id, -, hdelete⟩ := remove_eq_ok_iff.1 hwork
  obtain ⟨-, -, rfl⟩ := UserStore.delete_eq_ok_iff.1 hdelete
  exact ⟨h.fault, h.ids.erase id, h.usernames.erase id,
    fun v hv => h.hashes v (UserTable.mem_erase_iff.1 hv).1⟩

theorem follows_afterAccount (h : users.Follows service.scheme past) (call : AccountCall) :
    (service.afterAccount o users call).Follows service.scheme
      (past ++ (service.passwordSet? o users call).toList) := by
  have hsame : users.Follows service.scheme (past ++ (none : Option PasswordSetting).toList) := by
    rwa [Option.toList_none, List.append_nil]
  rcases call with (request | ⟨caller, request⟩ | written) | request
  · rw [afterAccount, afterWork, passwordSet?]
    cases hwork : service.register o request users with
    | error f => exact hsame
    | ok p => exact follows_register h hwork
  · rw [afterAccount, afterWork, passwordSet?]
    cases hwork : service.change o caller request users with
    | error f => exact hsame
    | ok p => exact follows_change h hwork
  · rw [afterAccount, afterWork, passwordSet?, Option.toList_none, List.append_nil]
    cases hwork : remove written users with
    | error f => exact h
    | ok users' => exact follows_remove h hwork
  · exact hsame

/-- **The records go with what was set**, after every run. -/
theorem follows_runAccounts (h : users.Follows service.scheme past)
    (calls : List (Occasion × AccountCall)) :
    (service.runAccounts users calls).Follows service.scheme
      (past ++ service.passwordsSet users calls) := by
  induction calls generalizing users past with
  | nil => rwa [passwordsSet, List.append_nil]
  | cons c calls ih =>
    rw [passwordsSet, ← List.append_assoc]
    exact ih (follows_afterAccount h c.2)

theorem follows_of_empty (scheme : PasswordScheme) (hfault : users.fault = none)
    (hempty : users.table.users = []) : users.Follows scheme [] := by
  have hnodup {β : Type} (f : User → β) : (users.table.users.map f).Nodup := by
    rw [hempty]
    exact List.nodup_nil
  exact ⟨hfault, hnodup _, hnodup _, fun v hv => by simp [hempty] at hv⟩

theorem follows_of_perm {stored : UserStore} (h : users.Follows service.scheme past)
    (hfault : stored.fault = none) (hperm : stored.table.users.Perm users.table.users) :
    stored.Follows service.scheme past :=
  ⟨hfault, (hperm.map _).nodup_iff.2 h.ids, (hperm.map _).nodup_iff.2 h.usernames,
    fun v hv => h.hashes v (hperm.mem_iff.1 hv)⟩

/-! ## Logins -/

variable {username p : String}

theorem login_of_absent (hfault : users.fault = none) (hname : username ≠ "") (hp : p ≠ "")
    (habsent : users.table.findByUsername? username = none) :
    service.login o ⟨username, p⟩ users = .error .notFound := by
  have hasked : users.findByUsername username = .ok none := by
    rw [UserStore.findByUsername, UserStore.ask, hfault, habsent]
  rw [login, validate_login_eq_ok_iff.2 ⟨hname, hp⟩, hasked]
  rfl

theorem login_of_found {v : User} (hfault : users.fault = none) (hname : username ≠ "")
    (hp : p ≠ "") (hfound : users.table.findByUsername? username = some v) :
    service.login o ⟨username, p⟩ users =
      ((service.scheme.verify p v.passwordHash).mapError fun _ => .invalidCredentials).map
        fun _ => ⟨v, service.signer.issue v.identity o.freshId o.wall⟩ := by
  have hasked : users.findByUsername username = .ok (some v) := by
    rw [UserStore.findByUsername, UserStore.ask, hfault, hfound]
  rw [login, validate_login_eq_ok_iff.2 ⟨hname, hp⟩, hasked]
  change (Except.mapError _ (service.scheme.verify p v.passwordHash) >>= _) = _
  cases service.scheme.verify p v.passwordHash <;> rfl

/-- **What a login answers**: there is no account with the name; or there is one, and the password
is the last that was set for it, or is not. -/
theorem login_cases (h : users.Follows service.scheme past)
    (hscheme : ∀ s ∈ past, service.scheme.Recognizes s p) (hname : username ≠ "") (hp : p ≠ "") :
    (∀ v ∈ users.table.users, v.username ≠ username) ∧
        service.login o ⟨username, p⟩ users = .error .notFound ∨
      ∃ v ∈ users.table.users, v.username = username ∧
        (∀ w ∈ users.table.users, w.username = username → w = v) ∧
        (lastPassword? past v.id = some p ∧ service.login o ⟨username, p⟩ users =
            .ok ⟨v, service.signer.issue v.identity o.freshId o.wall⟩ ∨
          lastPassword? past v.id ≠ some p ∧
            service.login o ⟨username, p⟩ users = .error .invalidCredentials) := by
  cases hfound : users.table.findByUsername? username with
  | none =>
    exact .inl ⟨UserTable.findByUsername?_eq_none_iff.1 hfound,
      login_of_absent h.fault hname hp hfound⟩
  | some v =>
    obtain ⟨hv, hvname⟩ := h.usernames.findByUsername?_eq_some_iff.1 hfound
    have hone : ∀ w ∈ users.table.users, w.username = username → w = v := fun w hw hwname =>
      List.inj_on_of_nodup_map h.usernames hw hv (hwname.trans hvname.symm)
    obtain ⟨s, hlast, hhash⟩ := h.hashes v hv
    have hverify := hscheme s (mem_of_lastSetting? hlast) v.passwordHash hhash
    have hpassword : lastPassword? past v.id = some s.password := by
      rw [lastPassword?, hlast, Option.map_some]
    refine .inr ⟨v, hv, hvname, hone, ?_⟩
    rw [hpassword, login_of_found h.fault hname hp hfound]
    cases htried : service.scheme.verify p v.passwordHash with
    | ok _ => exact .inl ⟨congrArg some (hverify.1 htried).symm, rfl⟩
    | error f =>
      refine .inr ⟨fun heq => ?_, rfl⟩
      have hok := hverify.2 (Option.some.inj heq).symm
      rw [htried] at hok
      cases hok

/-- **A login answers by the password last set.** After every run of registrations, logins, changes
and removals on an empty store, in whatever order the store enumerates its users: a name and a
password are let in exactly if there is an account with the name whose password was last set to this
one; the account is not found exactly if none has the name; and otherwise the credentials are wrong.
Who is let in gets the one account with the name; and on a clock that has begun, and whose calendar
holds the end of the token, the token says from its first to its last second whose it is and when it
ends. -/
theorem login_answers_by_last_password (service : Service) (users : UserStore)
    (calls : List (Occasion × AccountCall)) (hempty : users.table.users = [])
    (hfault : users.fault = none) (o : Occasion) (username p : String) (hname : username ≠ "")
    (hp : p ≠ "")
    (hscheme : ∀ s ∈ service.passwordsSet users calls, service.scheme.Recognizes s p)
    (stored : UserStore) (hstored : stored.fault = none)
    (hperm : stored.table.users.Perm (service.runAccounts users calls).table.users) :
    let accounts := (service.runAccounts users calls).table.users
    let last := lastPassword? (service.passwordsSet users calls)
    let answer := service.login o ⟨username, p⟩ stored
    ((∃ reply, answer = .ok reply) ↔
      ∃ v ∈ accounts, v.username = username ∧ last v.id = some p) ∧
    (answer = .error .notFound ↔ ∀ v ∈ accounts, v.username ≠ username) ∧
    (answer = .error .invalidCredentials ↔
      ∃ v ∈ accounts, v.username = username ∧ last v.id ≠ some p) ∧
    ∀ reply, answer = .ok reply →
      reply.user ∈ accounts ∧ (∀ v ∈ accounts, v.username = username ↔ v = reply.user) ∧
      (0 ≤ o.wall.seconds → o.wall.seconds + service.signer.lifetime ≤ Timestamp.lastSecond →
        ∃ c, c.sub = reply.user.id ∧ c.username = reply.user.username ∧ c.role = reply.user.role ∧
          c.exp = o.wall.seconds + service.signer.lifetime ∧
          reply.issued.expiresAt = ⟨c.exp, 0⟩ ∧
          ∀ now, o.wall.seconds ≤ now → now ≤ c.exp →
            service.signer.decodeVerified now reply.issued.token = .ok c) := by
  intro accounts last answer
  have hrun := follows_runAccounts (follows_of_empty service.scheme hfault hempty) calls
  have hfollows := follows_of_perm hrun hstored hperm
  rw [List.nil_append] at hfollows
  have hmem (v : User) : v ∈ stored.table.users ↔ v ∈ accounts := hperm.mem_iff
  have hcases := login_cases (o := o) hfollows hscheme hname hp
  simp only [hmem] at hcases
  rcases hcases with ⟨hnobody, hanswer⟩ | ⟨v, hv, hvname, hone, hcases⟩
  · have hnone {P : User → Prop} : ¬ ∃ v ∈ accounts, v.username = username ∧ P v :=
      fun ⟨v, hv, hvname, _⟩ => hnobody v hv hvname
    refine ⟨?_, ?_, ?_, ?_⟩
    · exact ⟨fun ⟨reply, hreply⟩ => (by cases hanswer.symm.trans hreply), fun h => absurd h hnone⟩
    · exact ⟨fun _ => hnobody, fun _ => hanswer⟩
    · exact ⟨fun h => (by cases hanswer.symm.trans h), fun h => absurd h hnone⟩
    · exact fun reply hreply => (by cases hanswer.symm.trans hreply)
  · have hsome : ¬ ∀ w ∈ accounts, w.username ≠ username := fun h => h v hv hvname
    rcases hcases with ⟨hlast, hanswer⟩ | ⟨hlast, hanswer⟩
    · refine ⟨?_, ?_, ?_, ?_⟩
      · exact ⟨fun _ => ⟨v, hv, hvname, hlast⟩, fun _ => ⟨_, hanswer⟩⟩
      · exact ⟨fun h => (by cases hanswer.symm.trans h), fun h => absurd h hsome⟩
      · refine ⟨fun h => (by cases hanswer.symm.trans h), ?_⟩
        rintro ⟨w, hw, hwname, hne⟩
        rw [hone w hw hwname] at hne
        exact absurd hlast hne
      · intro reply hreply
        cases hanswer.symm.trans hreply
        exact ⟨hv, fun w hw => ⟨hone w hw, fun heq => heq ▸ hvname⟩,
          Signer.issued_says v.identity o.freshId⟩
    · refine ⟨?_, ?_, ?_, ?_⟩
      · refine ⟨fun ⟨reply, hreply⟩ => (by cases hanswer.symm.trans hreply), ?_⟩
        rintro ⟨w, hw, hwname, hlast'⟩
        rw [hone w hw hwname] at hlast'
        exact absurd hlast' hlast
      · exact ⟨fun h => (by cases hanswer.symm.trans h), fun h => absurd h hsome⟩
      · exact ⟨fun _ => ⟨v, hv, hvname, hlast⟩, fun _ => hanswer⟩
      · exact fun reply hreply => (by cases hanswer.symm.trans hreply)

/-- Ada was Alice and has changed her password once, a change with an empty password and one that
fails do nothing to it, and another Alice came, left and came again. -/
theorem login_answers_by_last_password_of_two_alices :
    let scheme : PasswordScheme :=
      ⟨fun salt p => .ok (String.ofList (Char.ofNat (salt.headD 0).toNat :: p.toList)),
        fun p hash => if hash.toList.tail = p.toList then .ok () else .error .verification⟩
    let service := ofSettings {} scheme ⟨0, 0⟩
    let moment (n : Nat) : Occasion :=
      ⟨⟨1700000000 + n, 0⟩, n, Uuid.random n, [UInt8.ofNat (64 + n)]⟩
    let register (n : Nat) (email p : String) : Occasion × AccountCall :=
      (moment n, .work (.register ⟨"Alice", "alice", email, p, none, "", "", none⟩))
    let change (n : Nat) (username email : String) (p : Option String) : Occasion × AccountCall :=
      (moment n, .work (.change ⟨Uuid.random 1, "alice", .user⟩ ⟨"Alice", username, email, p⟩))
    let calls := [register 1 "a@example.com" "first", change 2 "ada" "a@example.com" none,
      (moment 3, .login ⟨"ada", "wrong"⟩), change 4 "ada" "a@example.com" (some "second"),
      change 5 "ada" "a@example.com" (some ""), change 6 "ada" "nowhere" (some "third"),
      register 7 "b@example.com" "fourth", (moment 8, .work (.remove (Uuid.random 7).text)),
      register 9 "b@example.com" "fifth"]
    let stored : UserStore := ⟨⟨(service.runAccounts {} calls).table.users.reverse⟩, none, "memory"⟩
    let answer (username p : String) := service.login (moment 10) ⟨username, p⟩ stored
    (∃ reply, answer "ada" "second" = .ok reply ∧ reply.user.id = Uuid.random 1 ∧
      ∃ c, service.signer.decodeVerified 1700000010 reply.issued.token = .ok c ∧
        c.sub = Uuid.random 1) ∧
    answer "ada" "first" = .error .invalidCredentials ∧
    (∃ reply, answer "alice" "fifth" = .ok reply) ∧
    answer "alice" "fourth" = .error .invalidCredentials ∧
    answer "bob" "first" = .error .notFound := by
  intro scheme service moment register change calls stored answer
  have hscheme (s : PasswordSetting) (p : String) : scheme.Recognizes s p := by
    rintro hash ⟨⟩
    simp [scheme, String.toList_inj, eq_comm]
  have hperm : stored.table.users.Perm (service.runAccounts {} calls).table.users := by
    dsimp only [stored]
    exact List.reverse_perm _
  have hlogin (username p : String) (hname : username ≠ "") (hp : p ≠ "") :=
    login_answers_by_last_password service {} calls rfl rfl (moment 10) username p hname hp
      (fun s _ => hscheme s p) stored rfl hperm
  refine ⟨?_, ?_, ?_, ?_, ?_⟩
  · obtain ⟨hok, -, -, hreply⟩ := hlogin "ada" "second" (by decide) (by decide)
    obtain ⟨reply, h⟩ := hok.2 (by decide +kernel)
    obtain ⟨-, hone, hsays⟩ := hreply reply h
    obtain ⟨v, hv, hname, hid⟩ : ∃ v ∈ (service.runAccounts {} calls).table.users,
        v.username = "ada" ∧ v.id = Uuid.random 1 := by decide +kernel
    obtain ⟨c, hsub, -, -, hexp, -, hdecode⟩ := hsays (by decide) (by decide)
    rw [(hone v hv).1 hname] at hid
    have hnow : (1700000010 : Int) ≤ c.exp := hexp ▸ by decide
    exact ⟨reply, h, hid, c, hdecode 1700000010 (by decide) hnow, hsub.trans hid⟩
  · exact (hlogin "ada" "first" (by decide) (by decide)).2.2.1.2 (by decide +kernel)
  · exact (hlogin "alice" "fifth" (by decide) (by decide)).1.2 (by decide +kernel)
  · exact (hlogin "alice" "fourth" (by decide) (by decide)).2.2.1.2 (by decide +kernel)
  · exact (hlogin "bob" "first" (by decide) (by decide)).2.1.2 (by decide +kernel)

end Service

end Accounts
