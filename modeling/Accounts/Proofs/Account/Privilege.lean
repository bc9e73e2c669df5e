import Accounts.Proofs.Http.Protection
import Accounts.Proofs.Service.Calls

/-!
# No way to more rights

Rights come from the role with which an account begins. Only the registration code of the service
makes an administrator, no call changes a role, and a token carries the role of its account.

* `Service.Registers.code_of_admin`: who is registered as an administrator has shown the code;
* **`Service.admin_has_shown_code`**: so has every administrator after a run;
* **`Service.role_afterCall`**: no call changes the role of an account;
* `Service.role_of_no_code`: without a code there are only users;
* `Service.LogsIn`: what a login gives, and `Service.exists_logsIn`: it gives it;
* `Signer.role_of_decodeVerified_issue`: a token carries the role of its account;
* **`Service.no_privilege_escalation`**: all of it, for runs from an empty store of users.
-/

namespace Accounts

/-- The wall clock shows a point in time of the calendar. -/
def Occasion.InCalendar (o : Occasion) : Prop :=
  Timestamp.firstSecond ≤ o.wall.seconds ∧ o.wall.seconds ≤ Timestamp.lastSecond

namespace Service

variable {service : Service} {o : Occasion} {st : State} {c : Call} {u v : User}
  {request : RegisterRequest} {calls : List (Occasion × Call)}

/-! ## The registration code -/

theorem registrationCode_ofSettings_eq_some_iff {s : AuthSettings} {scheme : PasswordScheme}
    {startedAt : Timestamp} {code : String} :
    (ofSettings s scheme startedAt).registrationCode = some code ↔
      s.registrationCode = some code ∧ code ≠ "" := by
  simp [ofSettings, Option.filter_eq_some_iff]

theorem registrationCode_ofSettings_eq_none {s : AuthSettings} {scheme : PasswordScheme}
    {startedAt : Timestamp} (h : s.registrationCode = none ∨ s.registrationCode = some "") :
    (ofSettings s scheme startedAt).registrationCode = none := by
  rcases h with h | h <;> simp [ofSettings, h]

theorem admits_eq_true_iff {code : Option String} {role : Role} :
    service.admits code role = true ↔
      (∃ known, service.registrationCode = some known ∧ code = some known) ∨
        service.registrationCode = none ∧ role = .user := by
  unfold admits
  cases service.registrationCode with
  | none => simp
  | some known => simp

theorem Registers.admits (h : service.Registers o c st request u) :
    u.id = o.freshId ∧ service.admits request.code u.role = true := by
  obtain ⟨users, hwork⟩ := h.work
  obtain ⟨-, role, hash, -, hadmits, -, hcreate⟩ := register_eq_ok_iff.1 hwork
  obtain ⟨-, -, rfl, -⟩ := UserStore.create_eq_ok_iff.1 hcreate
  exact ⟨rfl, hadmits⟩

theorem Registers.code_of_admin (h : service.Registers o c st request u) (hadmin : u.role = .admin) :
    ∃ code, service.registrationCode = some code ∧ request.code = some code := by
  rcases admits_eq_true_iff.1 h.admits.2 with hcode | ⟨-, huser⟩
  · exact hcode
  · rw [hadmin] at huser
    cases huser

theorem Registers.role_of_no_code (h : service.Registers o c st request u)
    (hnone : service.registrationCode = none) : u.role = .user := by
  rcases admits_eq_true_iff.1 h.admits.2 with ⟨known, hknown, -⟩ | ⟨-, huser⟩
  · rw [hnone] at hknown
    cases hknown
  · exact huser

/-! ## Roles in a run -/

/-- **No call changes the role of an account.** Under its identifier there can be another role
afterwards only if the call makes a new account and the identifier was drawn for it once more. -/
theorem role_afterCall (hst : st.users.table.DistinctIds) (hu : u ∈ st.users.table.users)
    (hv : v ∈ (service.afterCall o st c).users.table.users) (hid : v.id = u.id) :
    v.role = u.role ∨ o.freshId = u.id ∧ ∃ request, service.Registers o c st request v := by
  rcases mem_afterCall hv with ⟨w, hw, hwv⟩ | ⟨request, hreg⟩
  · have hwu : w = u := hst.eq_of_id hw hu (hwv.id.symm.trans hid)
    exact .inl (hwu ▸ hwv.role)
  · exact .inr ⟨hreg.admits.1.symm.trans hid, request, hreg⟩

/-- **Every administrator after a run has shown the code of the service to register.** -/
theorem admin_has_shown_code (hempty : st.users.table.users = [])
    (hu : u ∈ (service.afterCalls st calls).users.table.users) (hadmin : u.role = .admin) :
    ∃ code, service.registrationCode = some code ∧
      ∃ before o c after request u₀, calls = before ++ (o, c) :: after ∧
        service.Registers o c (service.afterCalls st before) request u₀ ∧
        request.code = some code ∧ u₀.IsSame u := by
  rcases mem_afterCalls hu with ⟨w, hw, -⟩ | ⟨before, o, c, after, request, u₀, hcalls, hreg, hsame⟩
  · rw [hempty] at hw
    cases hw
  · obtain ⟨code, hcode, hshown⟩ := hreg.code_of_admin (hsame.role.symm.trans hadmin)
    exact ⟨code, hcode, before, o, c, after, request, u₀, hcalls, hreg, hshown, hsame⟩

theorem role_of_no_code (hempty : st.users.table.users = [])
    (hnone : service.registrationCode = none)
    (hu : u ∈ (service.afterCalls st calls).users.table.users) : u.role = .user := by
  rcases mem_afterCalls hu with ⟨w, hw, -⟩ | ⟨before, o, c, after, request, u₀, -, hreg, hsame⟩
  · rw [hempty] at hw
    cases hw
  · exact hsame.role.trans (hreg.role_of_no_code hnone)

/-! ## Logins -/

variable {r : Request} {reply : LoginReply}

variable (service) in
/-- A request logs in: its work succeeds with a reply, and that is the response. -/
structure LogsIn (o : Occasion) (r : Request) (st : State) (reply : LoginReply) : Prop where
  work : ∃ request, r.read LoginRequest.read = .ok request ∧
    service.login o request st.users = .ok reply
  response : (service.serve o r st).1 =
    dress r .login (ApiSuccess.mk "Login successful" (some reply.json)).respond

theorem fst_serve_login (service : Service) (o : Occasion) (st : State)
    (hpath : Endpoint.ofPath? r.path = some .login) :
    (service.serve o r st).1 = dress r .login
      (if Endpoint.login.accepts r.method then service.performLogin o r st else .empty 405) := by
  rw [fst_serve, route_of_endpoint hpath, enter_of_caller rfl]
  split <;> rfl

theorem performLogin_cases (service : Service) (o : Occasion) (r : Request) (st : State) :
    400 ≤ (service.performLogin o r st).status ∨ ∃ reply,
      (∃ request, r.read LoginRequest.read = .ok request ∧
        service.login o request st.users = .ok reply) ∧
      service.performLogin o r st =
        (ApiSuccess.mk "Login successful" (some reply.json)).respond := by
  unfold performLogin
  cases r.read LoginRequest.read with
  | error f => exact .inl (Nat.le_refl 400)
  | ok request =>
    simp only
    cases hwork : service.login o request st.users with
    | error f => exact .inl f.le_status
    | ok reply => exact .inr ⟨reply, ⟨request, rfl, hwork⟩, rfl⟩

theorem exists_logsIn (hpath : Endpoint.ofPath? r.path = some .login)
    (hstatus : (service.serve o r st).1.status < 400) : ∃ reply, service.LogsIn o r st reply := by
  have hserve := service.fst_serve_login o st hpath
  rw [hserve, status_dress] at hstatus
  split at hstatus
  · next haccepts =>
    rw [if_pos haccepts] at hserve
    rcases service.performLogin_cases o r st with hfailed | ⟨reply, hwork, hresponse⟩
    · exact absurd hstatus (Nat.not_lt.2 hfailed)
    · exact ⟨reply, hwork, hserve.trans (congrArg _ hresponse)⟩
  · exact absurd hstatus (by decide)

theorem LogsIn.mem (h : service.LogsIn o r st reply) : reply.user ∈ st.users.table.users ∧
    reply.issued = service.signer.issue reply.user.identity o.freshId o.wall := by
  obtain ⟨request, -, hwork⟩ := h.work
  obtain ⟨-, u, hu, -, rfl⟩ := login_eq_ok_iff.1 hwork
  obtain ⟨-, hu⟩ := UserStore.ask_eq_ok_iff.1 hu
  exact ⟨List.mem_of_find?_eq_some (Except.ok.inj hu), rfl⟩

end Service

/-- **A token carries the role of its account**, whenever it is checked. -/
theorem Signer.role_of_decodeVerified_issue {s : AuthSettings} {i : Identity} {tokenId : Uuid}
    {o : Occasion} (ho : o.InCalendar) {now : Int} {claims : Claims}
    (hd : (ofSettings s).decodeVerified now ((ofSettings s).issue i tokenId o.wall).token =
      .ok claims) : claims.role = i.role := by
  obtain ⟨h1, h2⟩ := ho
  have hb := lifetime_bounds s
  have hfirst := Timestamp.firstSecond_eq
  have hlast := Timestamp.lastSecond_eq
  have hc : ((ofSettings s).newClaims i tokenId o.wall).InRange :=
    inRange_newClaims (by omega) (by omega)
  have hsign := (ofSettings s).decodeVerified_sign hc now
  obtain ⟨rfl, -⟩ := checkClaims_eq_ok (hsign.symm.trans hd)
  rfl

theorem bearer_injective {t t' : String} (h : bearer t = bearer t') : t = t' := by
  have ha := afterBearer?_bearer t
  rw [h, afterBearer?_bearer] at ha
  exact (Option.some.inj ha).symm

namespace Service

variable {s : AuthSettings} {scheme : PasswordScheme} {startedAt : Timestamp}

theorem Shows.role_of_issue {i j : Identity} {tokenId : Uuid} {o o' : Occasion} {hs : Headers}
    {store : RevocationStore} (ho : o.InCalendar)
    (hheader : hs.first? "authorization" =
      some (Utf8.encode (bearer ((Signer.ofSettings s).issue i tokenId o.wall).token)))
    (hj : (ofSettings s scheme startedAt).Shows o' hs store j) : j.role = i.role := by
  obtain ⟨t, ht, hv⟩ := hj
  have htoken := bearer_injective (encode_injective (Option.some.inj (hheader.symm.trans ht)))
  subst htoken
  obtain ⟨claims, hd, rfl⟩ := decodeVerified_of_verify hv
  exact Signer.role_of_decodeVerified_issue ho hd

/-- **No way to more rights.** In every run from an empty store of users, an administrator was made
by a request to register that shows the code of the service, which is not empty; and no call changes
the role of an account. Without a code all are users, and so are the bearers of all tokens that a
login gives: wherever one is presented, the endpoints of administrators refuse it. -/
theorem no_privilege_escalation (s : AuthSettings) (scheme : PasswordScheme)
    (startedAt : Timestamp) (st : State) (hempty : st.users.table.users = [])
    (calls : List (Occasion × Call)) :
    let service := ofSettings s scheme startedAt
    (∀ u ∈ (service.afterCalls st calls).users.table.users, u.role = .admin →
      ∃ code, s.registrationCode = some code ∧ code ≠ "" ∧
        ∃ before o c after request u₀, calls = before ++ (o, c) :: after ∧
          service.Registers o c (service.afterCalls st before) request u₀ ∧
          request.code = some code ∧ u₀.IsSame u) ∧
    (∀ before o c after, calls = before ++ (o, c) :: after →
      ∀ u ∈ (service.afterCalls st before).users.table.users,
      ∀ v ∈ (service.afterCall o (service.afterCalls st before) c).users.table.users,
        v.id = u.id → v.role = u.role ∨ o.freshId = u.id ∧
          ∃ request, service.Registers o c (service.afterCalls st before) request v) ∧
    (s.registrationCode = none ∨ s.registrationCode = some "" →
      (∀ u ∈ (service.afterCalls st calls).users.table.users, u.role = .user) ∧
      ∀ before o r after, calls = before ++ (o, .http r) :: after →
        Endpoint.ofPath? r.path = some .login →
        (service.serve o r (service.afterCalls st before)).1.status < 400 →
        ∃ reply, service.LogsIn o r (service.afterCalls st before) reply ∧
          reply.issued.claims.role = .user ∧
          (o.InCalendar →
            (∀ now claims, service.signer.decodeVerified now reply.issued.token = .ok claims →
              claims.role = .user) ∧
            ∀ o' r' st' e, r'.headers.first? "authorization" =
                some (Utf8.encode (bearer reply.issued.token)) →
              Endpoint.ofPath? r'.path = some e → (e = .list ∨ ∃ id, e = .lookUp id) →
              (service.serve o' r' st').1.status ∈ [401, 403, 500])) := by
  intro service
  refine ⟨fun u hu hadmin => ?_, fun before o c after _ u hu v hv hid => ?_, fun hcode => ?_⟩
  · obtain ⟨code, hcode, hshown⟩ := admin_has_shown_code hempty hu hadmin
    obtain ⟨hset, hne⟩ := registrationCode_ofSettings_eq_some_iff.1 hcode
    exact ⟨code, hset, hne, hshown⟩
  · have hids : st.users.table.DistinctIds := by
      rw [UserTable.DistinctIds, hempty]
      exact List.nodup_nil
    exact role_afterCall (distinctIds_afterCalls hids) hu hv hid
  · have hnone : service.registrationCode = none := registrationCode_ofSettings_eq_none hcode
    refine ⟨fun u hu => role_of_no_code hempty hnone hu, fun before o r after _ hpath hstatus => ?_⟩
    obtain ⟨reply, hlogin⟩ := exists_logsIn hpath hstatus
    obtain ⟨hmem, hissued⟩ := hlogin.mem
    have hrole : reply.user.role = .user := role_of_no_code hempty hnone hmem
    refine ⟨reply, hlogin, ?_, fun ho => ⟨fun now claims hd => ?_,
      fun o' r' st' e hheader hpath' he => ?_⟩⟩
    · rw [hissued]
      exact hrole
    · rw [hissued] at hd
      exact (Signer.role_of_decodeVerified_issue ho hd).trans hrole
    · rw [hissued] at hheader
      have hnot : ∀ store j, service.Shows o' r'.headers store j → j.role ≠ .admin := by
        intro store j hj
        rw [hj.role_of_issue ho hheader, User.identity, hrole]
        exact Role.noConfusion
      rw [fst_serve]
      rcases he with rfl | ⟨id, rfl⟩
      · exact (refuses_of_not_entitled hpath' trivial (hnot _)).status
      · exact (refuses_of_not_entitled hpath' trivial (hnot _)).status

/-- A request to work on an account, with a body of texts. -/
def post (work : String) (body : List (String × String)) : Request where
  method := "POST"
  target := "/api/v1/accounts/" ++ work
  headers := [("Content-Type", Utf8.encode "application/json")]
  body := Utf8.encode (Json.object (body.map fun (name, text) => (name, .string text))).text

/-- With the code Alice becomes an administrator. Where the service has none she becomes a user, and
her login gives a token of a user. -/
theorem no_privilege_escalation_for_alice :
    let scheme : PasswordScheme := ⟨fun _ p => .ok p, fun _ _ => .ok ()⟩
    let coded : AuthSettings := { secret := "secret", registrationCode := some "code" }
    let plain : AuthSettings := { secret := "secret" }
    let o : Occasion := ⟨⟨1700000000, 0⟩, 0, Uuid.random 1, []⟩
    let register (role : String) := post "register" [("name", "Alice"), ("username", "alice"),
      ("email", "alice@example.com"), ("password", "secret"), ("role", role), ("token", "code")]
    let login := post "login" [("username", "alice"), ("password", "secret")]
    let alice : User := ⟨Uuid.random 1, "Alice", "alice", "alice@example.com", "secret", .admin, "",
      "", ⟨1700000000, 0⟩, ⟨1700000000, 0⟩⟩
    (∃ code, coded.registrationCode = some code ∧ code ≠ "" ∧
      ∃ before o' c after request u₀,
        [(o, .http (register " ADMIN "))] = before ++ (o', c) :: after ∧
        (ofSettings coded scheme ⟨0, 0⟩).Registers o' c
          ((ofSettings coded scheme ⟨0, 0⟩).afterCalls {} before) request u₀ ∧
        request.code = some code ∧ u₀.IsSame alice) ∧
    ∃ reply, (ofSettings plain scheme ⟨0, 0⟩).LogsIn o login
        ((ofSettings plain scheme ⟨0, 0⟩).afterCalls {} [(o, .http (register "user"))]) reply ∧
      reply.issued.claims.role = .user ∧
      ∀ now claims, (ofSettings plain scheme ⟨0, 0⟩).signer.decodeVerified now reply.issued.token =
        .ok claims → claims.role = .user := by
  intro scheme coded plain o register login alice
  constructor
  · have hstored : ((ofSettings coded scheme ⟨0, 0⟩).afterCalls {}
        [(o, .http (register " ADMIN "))]).users.table.users = [alice] := by decide +kernel
    refine (no_privilege_escalation coded scheme ⟨0, 0⟩ {} rfl _).1 alice ?_ rfl
    rw [hstored]
    exact List.mem_singleton_self _
  · have hpath : Endpoint.ofPath? login.path = some .login := by decide +kernel
    have hstatus : ((ofSettings plain scheme ⟨0, 0⟩).serve o login
        ((ofSettings plain scheme ⟨0, 0⟩).afterCalls {}
          [(o, .http (register "user"))])).1.status < 400 := by decide +kernel
    obtain ⟨reply, hlogin, hrole, htoken⟩ := ((no_privilege_escalation plain scheme ⟨0, 0⟩ {} rfl
      [(o, .http (register "user")), (o, .http login)]).2.2 (.inl rfl)).2
      [(o, .http (register "user"))] o login [] rfl hpath hstatus
    exact ⟨reply, hlogin, hrole, (htoken ⟨by decide, by decide⟩).1⟩

end Service

end Accounts
