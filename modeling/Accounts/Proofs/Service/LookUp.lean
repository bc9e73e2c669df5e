import Accounts.Proofs.Account.Work
import Accounts.Proofs.Http.Protection
import Accounts.Proofs.Http.Segments
import Accounts.Proofs.Service.Calls
import Accounts.Proofs.Uuid.Spelling

/-!
# Looking a user up

Remote callers and administrators look users up by the same work. Each surface has its own words for
what comes of it, and the words correspond.

* `Service.Looked`: what looking a user up comes to; **`Service.looked_lookUp`**: it is one of four;
* `RpcCode.ofAnswer`, `RpcCode.status`: the code of an answer, and the status that corresponds;
* `Service.ofAnswer_getUser`: a remote call has the code of the look; `Service.TellsCaller`: what
  the caller is told;
* **`Service.fst_serve_lookUp`**: an administrator's request has the response of the look;
* **`Service.look_ups_agree`**: the answers of both surfaces, for every text and every store.
-/

namespace Accounts

/-- A store does not answer for a reason that is none of the account's. -/
def UserStoreFault.IsOutage : UserStoreFault → Prop
  | .notFound _ | .duplicate _ => False
  | .connection _ | .query _ | .invalidData _ | .migration _ | .poolExhausted => True

/-- The code of an answer. -/
def RpcCode.ofAnswer {α : Type} : Except RpcFault α → RpcCode
  | .ok _ => .ok
  | .error f => f.code

/-- The status that corresponds to a code. -/
def RpcCode.status : RpcCode → Nat
  | .ok => 200
  | .invalidArgument => 400
  | .notFound => 404
  | .internal => 500
  | .unauthenticated => 401

namespace Service

/-! ## One look -/

/-- What looking a user up comes to: the text is no identifier, the store fails, or there is a user
with the identifier or none. -/
inductive Looked (id : String) (users : UserStore) : Except AccountFault User → Prop
  | unread (hid : ∀ uid : Uuid, ¬uid.Spells (Text.trimmed id).toList) :
    Looked id users (.error .invalidId)
  | failed {uid : Uuid} {f : UserStoreFault} (hid : uid.Spells (Text.trimmed id).toList)
    (hfault : users.fault = some f) : Looked id users (.error (.ofStore f))
  | missing {uid : Uuid} (hid : uid.Spells (Text.trimmed id).toList) (hfault : users.fault = none)
    (hnone : ∀ u ∈ users.table.users, u.id ≠ uid) : Looked id users (.error .notFound)
  | found {uid : Uuid} {u : User} (hid : uid.Spells (Text.trimmed id).toList)
    (hfault : users.fault = none) (hu : u ∈ users.table.users) (huid : u.id = uid) :
    Looked id users (.ok u)

variable {id : String} {users : UserStore} {uid : Uuid}

theorem idOf_of_not_spells (h : ∀ uid : Uuid, ¬uid.Spells (Text.trimmed id).toList) :
    idOf id = .error .invalidId := by
  have hnone : Uuid.parse? (Text.trimmed id) = none :=
    Option.eq_none_iff_forall_ne_some.2 fun uid huid => h uid (Uuid.parse?_eq_some_iff.1 huid)
  rw [idOf, hnone]

theorem lookUp_of_spells (h : uid.Spells (Text.trimmed id).toList) :
    lookUp id users = ((users.find uid).mapError .ofStore >>= present) := by
  rw [lookUp, idOf_eq_ok_iff_trimmed.2 h]
  rfl

/-- **Looking a user up** comes to one of four outcomes. -/
theorem looked_lookUp (id : String) (users : UserStore) : Looked id users (lookUp id users) := by
  by_cases hid : ∃ uid : Uuid, uid.Spells (Text.trimmed id).toList
  · obtain ⟨uid, hid⟩ := hid
    rw [lookUp_of_spells hid, UserStore.find, UserStore.ask]
    cases hfault : users.fault with
    | some f => exact .failed hid hfault
    | none =>
      cases hfind : users.table.find? uid with
      | none => exact .missing hid hfault (UserTable.find?_eq_none_iff.1 hfind)
      | some u =>
        obtain ⟨hu, huid⟩ := UserTable.mem_of_find? hfind
        exact .found hid hfault hu huid
  · have hid : ∀ uid : Uuid, ¬uid.Spells (Text.trimmed id).toList := not_exists.1 hid
    rw [lookUp, idOf_of_not_spells hid]
    exact .unread hid

/-! ## Remote calls -/

theorem not_spells_of_blank (h : Text.trimmed id = "") (uid : Uuid) :
    ¬uid.Spells (Text.trimmed id).toList := by
  have hnone : Uuid.parse? "" = none := by decide
  rw [h, ← Uuid.parse?_eq_some_iff, hnone]
  exact nofun

theorem getUser_of_not_blank (h : Text.trimmed id ≠ "") :
    getUser id users = ((lookUp id users).mapError RpcFault.ofAccount).map UserReply.ofUser :=
  if_neg h

theorem not_blank_of_spells (h : uid.Spells (Text.trimmed id).toList) : Text.trimmed id ≠ "" :=
  fun hblank => not_spells_of_blank hblank uid h

/-- **A remote call tells what the look has come to**; for a text of blanks, in other words. -/
theorem ofAnswer_getUser (id : String) (users : UserStore) : RpcCode.ofAnswer (getUser id users) =
    RpcCode.ofAnswer ((lookUp id users).mapError RpcFault.ofAccount) := by
  by_cases hblank : Text.trimmed id = ""
  · rw [getUser, if_pos hblank, lookUp, idOf_of_not_spells (not_spells_of_blank hblank)]
    rfl
  · rw [getUser_of_not_blank hblank]
    cases lookUp id users <;> rfl

/-- **A remote call succeeds** with the record that was found. -/
theorem getUser_eq_ok_iff {reply : UserReply} : getUser id users = .ok reply ↔
    ∃ u, lookUp id users = .ok u ∧ reply = UserReply.ofUser u := by
  by_cases hblank : Text.trimmed id = ""
  · rw [getUser, if_pos hblank, lookUp, idOf_of_not_spells (not_spells_of_blank hblank)]
    exact ⟨nofun, nofun⟩
  · rw [getUser_of_not_blank hblank, Outcome.map_eq_ok_iff]
    exact exists_congr fun u => and_congr Outcome.mapError_eq_ok_iff eq_comm

theorem spells_trimmed_text (uid : Uuid) : uid.Spells (Text.trimmed uid.text).toList := by
  have hself := Text.trimmedChars_of_around uid.spells_chars.isBlank (.refl uid.chars)
  rw [Text.trimmed, Uuid.text, String.toList_ofList, String.toList_ofList, hself]
  exact uid.spells_chars

/-- **All forms of an identifier are looked up as its one written form is.** -/
theorem lookUp_text_of_spells (h : uid.Spells (Text.trimmed id).toList) :
    lookUp id users = lookUp uid.text users := by
  rw [lookUp_of_spells h, lookUp_of_spells (spells_trimmed_text uid)]

theorem getUser_text_of_spells (h : uid.Spells (Text.trimmed id).toList) :
    getUser id users = getUser uid.text users := by
  rw [getUser_of_not_blank (not_blank_of_spells h), lookUp_text_of_spells h,
    getUser_of_not_blank (not_blank_of_spells (spells_trimmed_text uid))]

/-- **The codes of answers.** The text is no identifier, and for a store that answers, there is no
user with the identifier, or there is one. -/
theorem ofAnswer_eq_invalidArgument_iff :
    RpcCode.ofAnswer (getUser id users) = .invalidArgument ↔
      ∀ uid : Uuid, ¬uid.Spells (Text.trimmed id).toList := by
  rw [ofAnswer_getUser]
  have hlooked := looked_lookUp id users
  generalize lookUp id users = x at hlooked ⊢
  cases hlooked with
  | unread hid => exact iff_of_true rfl hid
  | @failed uid f hid hf =>
    refine iff_of_false ?_ fun h => h uid hid
    cases f <;> exact RpcCode.noConfusion
  | missing hid _ _ => exact iff_of_false RpcCode.noConfusion fun h => h _ hid
  | found hid _ _ _ => exact iff_of_false RpcCode.noConfusion fun h => h _ hid

theorem ofAnswer_eq_notFound_iff (hfault : users.fault = none) :
    RpcCode.ofAnswer (getUser id users) = .notFound ↔
      ∃ uid : Uuid, uid.Spells (Text.trimmed id).toList ∧
        ∀ u ∈ users.table.users, u.id ≠ uid := by
  rw [ofAnswer_getUser]
  have hlooked := looked_lookUp id users
  generalize lookUp id users = x at hlooked ⊢
  cases hlooked with
  | unread hid => exact iff_of_false RpcCode.noConfusion fun ⟨uid, h, _⟩ => hid uid h
  | failed _ hf =>
    rw [hfault] at hf
    cases hf
  | missing hid _ hnone => exact iff_of_true rfl ⟨_, hid, hnone⟩
  | found hid _ hu huid =>
    exact iff_of_false RpcCode.noConfusion fun ⟨uid, h, hnone⟩ =>
      hnone _ hu (huid.trans (hid.unique h))

theorem ofAnswer_eq_ok_iff (hfault : users.fault = none) :
    RpcCode.ofAnswer (getUser id users) = .ok ↔
      ∃ uid : Uuid, uid.Spells (Text.trimmed id).toList ∧
        ∃ u ∈ users.table.users, u.id = uid := by
  rw [ofAnswer_getUser]
  have hlooked := looked_lookUp id users
  generalize lookUp id users = x at hlooked ⊢
  cases hlooked with
  | unread hid => exact iff_of_false RpcCode.noConfusion fun ⟨uid, h, _⟩ => hid uid h
  | failed _ hf =>
    rw [hfault] at hf
    cases hf
  | missing hid _ hnone =>
    exact iff_of_false RpcCode.noConfusion fun ⟨uid, h, u, hu, huid⟩ =>
      hnone u hu (huid.trans (h.unique hid))
  | found hid _ hu huid => exact iff_of_true rfl ⟨_, hid, _, hu, huid⟩

theorem ofAccount_ofStore {f : UserStoreFault} (h : f.IsOutage) :
    RpcFault.ofAccount (.ofStore f) = { code := .internal, message := "failed to get user" } := by
  cases f with
  | notFound text => exact h.elim
  | duplicate text => exact h.elim
  | connection text => rfl
  | query text => rfl
  | invalidData text => rfl
  | migration text => rfl
  | poolExhausted => rfl

theorem getUser_of_outage {f : UserStoreFault} (hf : users.fault = some f) (houtage : f.IsOutage)
    (hid : uid.Spells (Text.trimmed id).toList) :
    getUser id users = .error { code := .internal, message := "failed to get user" } := by
  rw [getUser_of_not_blank (not_blank_of_spells hid), lookUp_of_spells hid,
    UserStore.find, UserStore.ask, hf, ← ofAccount_ofStore houtage]
  rfl

/-! ## Administrators -/

theorem accepts_lookUp {method : String} {written : List Char} (h : method = "GET") :
    (Endpoint.lookUp written).accepts method = true := by
  rw [h]
  rfl

theorem dress_lookUp {r : Request} {written : List Char} (h : r.method = "GET")
    (response : Response) : dress r (.lookUp written) response = response := by
  have hhead : r.method ≠ "HEAD" := by
    rw [h]
    decide
  simp only [dress, accepts_lookUp h, if_true, if_neg hhead]

/-- **An administrator's request has the response of the look.** -/
theorem fst_serve_lookUp {service : Service} {o : Occasion} {r : Request} {st : State}
    {i : Identity} {written : List Char} (hmethod : r.method = "GET")
    (hpath : Endpoint.ofPath? r.path = some (.lookUp written)) (hid : pathId? written = some id)
    (hi : service.Shows o r.headers st.revocations i) (hadmin : i.role = .admin) :
    (service.serve o r st).1 = answered (userFound "User retrieved") (lookUp id st.users) := by
  have hcounted : service.Shows o r.headers
    (st.count (.request r.method (pathLabel r.path))).revocations i := hi
  rw [fst_serve]
  obtain ⟨st', hst, hroute⟩ :=
    route_of_caller hpath trivial (accepts_lookUp hmethod) hcounted hadmin
  have husers : st'.users = st.users := hst.users
  rw [hroute, dress_lookUp hmethod, perform, hid, husers]

theorem status_answered_lookUp (hfault : ∀ f, users.fault = some f → f.IsOutage) :
    (answered (userFound "User retrieved") (lookUp id users)).status =
      (RpcCode.ofAnswer (getUser id users)).status := by
  rw [ofAnswer_getUser]
  have hlooked := looked_lookUp id users
  generalize lookUp id users = x at hlooked ⊢
  cases hlooked with
  | unread => rfl
  | missing => rfl
  | found => rfl
  | @failed uid f hid hf =>
    have houtage := hfault f hf
    cases f with
    | notFound text => exact houtage.elim
    | duplicate text => exact houtage.elim
    | connection text => rfl
    | query text => rfl
    | invalidData text => rfl
    | migration text => rfl
    | poolExhausted => rfl

/-! ## Both surfaces -/

/-- What a remote caller is told about the user with some text as its identifier. -/
structure TellsCaller (id : String) (users : UserStore) : Prop where
  reply : ∀ reply, getUser id users = .ok reply ↔ ∃ u, lookUp id users = .ok u ∧
    reply = ⟨u.id.text, u.name, u.username, u.email, u.phoneNumber, u.address⟩
  invalid : RpcCode.ofAnswer (getUser id users) = .invalidArgument ↔
    ∀ uid : Uuid, ¬uid.Spells (Text.trimmed id).toList
  missing : users.fault = none → (RpcCode.ofAnswer (getUser id users) = .notFound ↔
    ∃ uid : Uuid, uid.Spells (Text.trimmed id).toList ∧ ∀ u ∈ users.table.users, u.id ≠ uid)
  found : users.fault = none → (RpcCode.ofAnswer (getUser id users) = .ok ↔
    ∃ uid : Uuid, uid.Spells (Text.trimmed id).toList ∧ ∃ u ∈ users.table.users, u.id = uid)
  failed : ∀ f, users.fault = some f → f.IsOutage →
    ∀ uid : Uuid, uid.Spells (Text.trimmed id).toList →
      getUser id users = .error { code := .internal, message := "failed to get user" }

/-- **Remote callers and administrators look users up alike.** A remote caller gets the record that
is looked up, or is told why there is none. All forms of an identifier get one answer. Every text
but the empty one can be asked for by an administrator, who gets the response of the same look, with
the status that corresponds to the code. -/
theorem look_ups_agree (id : String) (users : UserStore) :
    TellsCaller id users ∧
    (∀ uid : Uuid, uid.Spells (Text.trimmed id).toList →
      getUser id users = getUser uid.text users ∧ lookUp id users = lookUp uid.text users) ∧
    ((∃ target written, Endpoint.ofPath? (targetPath target) = some (.lookUp written) ∧
      pathId? written = some id) ↔ id ≠ "") ∧
    ∀ (service : Service) (o : Occasion) (r : Request) (st : State) (i : Identity)
      (written : List Char), st.users = users → r.method = "GET" →
      Endpoint.ofPath? r.path = some (.lookUp written) → pathId? written = some id →
      service.Shows o r.headers st.revocations i → i.role = .admin →
      (service.serve o r st).1 = answered (userFound "User retrieved") (lookUp id users) ∧
      ((∀ f, users.fault = some f → f.IsOutage) →
        (service.serve o r st).1.status = (RpcCode.ofAnswer (getUser id users)).status) := by
  have htold : TellsCaller id users := ⟨fun _ => getUser_eq_ok_iff,
    ofAnswer_eq_invalidArgument_iff, ofAnswer_eq_notFound_iff, ofAnswer_eq_ok_iff,
    fun _ hf houtage _ hid => getUser_of_outage hf houtage hid⟩
  refine ⟨htold, fun uid h => ⟨getUser_text_of_spells h, lookUp_text_of_spells h⟩,
    exists_target_iff, ?_⟩
  rintro service o r st i written rfl hmethod hpath hid hi hadmin
  have hresponse := fst_serve_lookUp hmethod hpath hid hi hadmin
  exact ⟨hresponse, fun hfault => hresponse ▸ status_answered_lookUp hfault⟩

/-- Alice is found under her identifier with a blank before it, until the store fails. -/
theorem look_ups_agree_on_alice :
    let service : Service := .ofSettings { secret := "secret" } .argon2id ⟨0, 0⟩
    let alice : User := ⟨Uuid.random 1, "Alice", "alice", "a@example.com", "", .user, "Seoul", "02",
      ⟨0, 0⟩, ⟨0, 0⟩⟩
    let bob : User := ⟨Uuid.random 2, "Bob", "bob", "b@example.com", "", .admin, "", "", ⟨0, 0⟩,
      ⟨0, 0⟩⟩
    let issued := service.signer.issue bob.identity (Uuid.random 3) ⟨1700000000, 0⟩
    let o : Occasion := ⟨⟨1700000001, 0⟩, 0, Uuid.random 4, []⟩
    let st : State := { users := { table := ⟨[alice, bob]⟩ } }
    let id : String := " " ++ alice.id.text
    let request : Request := ⟨"GET", userTarget id, headersWith issued.token, []⟩
    getUser id st.users = .ok ⟨alice.id.text, "Alice", "alice", "a@example.com", "02", "Seoul"⟩ ∧
      (service.serve o request st).1.status = 200 ∧
      getUser id { st.users with fault := some .poolExhausted } =
        .error { code := .internal, message := "failed to get user" } := by
  intro service alice bob issued o st id request
  have hc : issued.claims.InRange := Signer.inRange_newClaims (by decide) (by decide)
  have hd : service.signer.decodeVerified o.wall.seconds issued.token = .ok issued.claims :=
    (Signer.decodeVerified_issue (by decide) hc _).trans (if_pos (by decide))
  have hi : service.Shows o (headersWith issued.token) st.revocations bob.identity := by
    refine ⟨issued.token, first?_headersWith issued.token, ?_⟩
    rw [service.verify_of_ok hd]
    rfl
  have hid : alice.id.Spells (Text.trimmed id).toList :=
    Uuid.parse?_eq_some_iff.1 (by decide +kernel)
  have hne : id ≠ "" := by decide +kernel
  have hpath : Endpoint.ofPath? request.path = some (.lookUp (escaped id)) :=
    (congrArg Endpoint.ofPath? (targetPath_userTarget id)).trans (Endpoint.ofPath?_lookUp hne)
  have hfind : st.users.find alice.id = .ok (some alice) := rfl
  have hfound : lookUp id st.users = .ok alice := by
    rw [lookUp_of_spells hid, hfind]
    rfl
  obtain ⟨htold, -, -, hserve⟩ := look_ups_agree id st.users
  have hreply := (htold.reply _).2 ⟨alice, hfound, rfl⟩
  refine ⟨hreply, ?_, ?_⟩
  · have hstatus := (hserve service o request st bob.identity (escaped id) rfl rfl hpath
      (pathId?_escaped id) hi rfl).2 nofun
    rw [hstatus, hreply]
    rfl
  · exact (look_ups_agree id _).1.failed _ rfl trivial _ hid

end Service

end Accounts
