import Accounts.Proofs.Account.Work
import Accounts.Proofs.Service.Calls
import Accounts.Proofs.Users.Integrity

/-!
# The store of users stays sound

Many requests register, change and remove accounts at once. Each makes one call to the store, and a
call is not divided; so the requests stand in the order of their calls. Whoever a caller is, the gate
was passed before, and others may have come in between.

* `UserWork`: what a request does to the store; `Service.runUsers`: the store after many;
* **`Service.isSound_afterWork`**, **`Service.isSound_runUsers`**: a sound table stays sound;
* `Service.Frees`: a work ends an account or takes its name from it;
* **`Service.holds_runUsers`**: an account keeps its name until a work frees it;
* `Service.exists_works_afterCalls`: a run of calls does to the store what such works do;
* **`Service.users_integrity`**: the whole of it, from an empty store.
-/

namespace Accounts

/-- What a request does to the store of users, at its call to it. -/
inductive UserWork
  | register (request : RegisterRequest)
  | change (caller : Identity) (request : UpdateRequest)
  | remove (id : String)

/-- The identifier that a work draws. -/
def UserWork.drawn? (w : Occasion × UserWork) : Option Uuid :=
  match w.2 with
  | .register _ => some w.1.freshId
  | .change _ _ => none
  | .remove _ => none

namespace Service

variable (service : Service)

/-- The store after a change, and the one before if the change fails. -/
def settled {α : Type} (users : UserStore) : Except AccountFault (α × UserStore) → UserStore
  | .ok (_, users') => users'
  | .error _ => users

/-- The store after one work. -/
def afterWork (o : Occasion) (users : UserStore) : UserWork → UserStore
  | .register request => settled users (service.register o request users)
  | .change caller request => settled users (service.change o caller request users)
  | .remove id => settled users ((remove id users).map ((), ·))

/-- The store after many works, in the order of their calls. -/
def runUsers (users : UserStore) (works : List (Occasion × UserWork)) : UserStore :=
  works.foldl (fun users w => service.afterWork w.1 users w.2) users

/-- A work ends an account, or gives it another name than this one. -/
def Frees (o : Occasion) (users : UserStore) (id : Uuid) (username : String) : UserWork → Prop
  | .register _ => False
  | .change caller request => caller.userId = id ∧ request.username ≠ username ∧
      ∃ changed, service.change o caller request users = .ok changed
  | .remove written => idOf written = .ok id ∧ ∃ users', remove written users = .ok users'

variable {service} {o : Occasion} {users users' : UserStore} {u : User}
  {works : List (Occasion × UserWork)} {id : Uuid} {username : String}

theorem runUsers_cons (users : UserStore) (w : Occasion × UserWork)
    (works : List (Occasion × UserWork)) :
    service.runUsers users (w :: works) = service.runUsers (service.afterWork w.1 users w.2) works :=
  rfl

theorem runUsers_append (users : UserStore) (works more : List (Occasion × UserWork)) :
    service.runUsers users (works ++ more) =
      service.runUsers (service.runUsers users works) more := List.foldl_append

/-! ## One work -/

theorem isSound_of_register {request : RegisterRequest}
    (hsound : users.table.IsSound service.scheme) (hbegun : users.table.BegunBy o.wall)
    (h : service.register o request users = .ok (u, users')) :
    users'.table.IsSound service.scheme ∧ users'.table.BegunBy o.wall := by
  obtain ⟨hvalid, role, hash, -, -, hhash, hcreate⟩ := register_eq_ok_iff.1 h
  obtain ⟨hname, husername, hemail, hpassword⟩ := validate_register_eq_ok_iff.1 hvalid
  obtain ⟨-, hfree, hu, rfl⟩ := UserStore.create_eq_ok_iff.1 hcreate
  have htable := UserTable.create_eq_ok_iff.2 ⟨hfree, hu, rfl⟩
  exact ⟨hsound.create htable hname husername hemail ⟨_, _, hpassword, hhash⟩,
    hbegun.create htable⟩

theorem isSound_of_change {caller : Identity} {request : UpdateRequest}
    (hsound : users.table.IsSound service.scheme) (hbegun : users.table.BegunBy o.wall)
    (h : service.change o caller request users = .ok (u, users')) :
    users'.table.IsSound service.scheme ∧ users'.table.BegunBy o.wall := by
  obtain ⟨hvalid, hash, hnew, hupdate⟩ := change_eq_ok_iff.1 h
  obtain ⟨hname, husername, hemail⟩ := validate_update_eq_ok_iff.1 hvalid
  obtain ⟨-, hfree, v, hv, hu, rfl⟩ := UserStore.update_eq_ok_iff.1 hupdate
  have htable := UserTable.update_eq_ok_iff.2 ⟨hfree, v, hv, hu, rfl⟩
  have hhash : ∀ text, hash = some text → service.scheme.IsHash text := by
    rintro text rfl
    exact ⟨o.salt, newHash_eq_some hnew⟩
  exact ⟨hsound.update hbegun htable hname husername hemail hhash, hbegun.update htable⟩

theorem isSound_of_remove {written : String} (hsound : users.table.IsSound service.scheme)
    (hbegun : users.table.BegunBy o.wall) (h : remove written users = .ok users') :
    users'.table.IsSound service.scheme ∧ users'.table.BegunBy o.wall := by
  obtain ⟨id, -, hdelete⟩ := remove_eq_ok_iff.1 h
  obtain ⟨-, -, rfl⟩ := UserStore.delete_eq_ok_iff.1 hdelete
  exact ⟨hsound.erase id, hbegun.erase id⟩

/-- **A sound table stays sound**, if no account begins later than the work. -/
theorem isSound_afterWork (hsound : users.table.IsSound service.scheme)
    (hbegun : users.table.BegunBy o.wall) (w : UserWork) :
    (service.afterWork o users w).table.IsSound service.scheme ∧
      (service.afterWork o users w).table.BegunBy o.wall := by
  cases w with
  | register request =>
    rw [afterWork]
    cases h : service.register o request users with
    | error f => exact ⟨hsound, hbegun⟩
    | ok p => exact isSound_of_register hsound hbegun h
  | change caller request =>
    rw [afterWork]
    cases h : service.change o caller request users with
    | error f => exact ⟨hsound, hbegun⟩
    | ok p => exact isSound_of_change hsound hbegun h
  | remove written =>
    rw [afterWork]
    cases h : remove written users with
    | error f => exact ⟨hsound, hbegun⟩
    | ok users' => exact isSound_of_remove hsound hbegun h

/-! ## Many works -/

/-- **A sound table stays sound after many works**, on a clock that goes only forward. -/
theorem isSound_runUsers (hsound : users.table.IsSound service.scheme)
    (hbegun : ∀ w ∈ works, users.table.BegunBy w.1.wall)
    (hclock : works.Pairwise fun w w' => w.1.wall.le w'.1.wall = true) :
    (service.runUsers users works).table.IsSound service.scheme := by
  induction works generalizing users with
  | nil => exact hsound
  | cons w works ih =>
    obtain ⟨hfirst, hrest⟩ := List.pairwise_cons.1 hclock
    obtain ⟨hsound', hbegun'⟩ := isSound_afterWork hsound (hbegun w List.mem_cons_self) w.2
    exact ih hsound' (fun w' hw' => hbegun'.mono (hfirst w' hw')) hrest

/-! ## Names -/

theorem holds_of_register_of_ne {request : RegisterRequest} {p : User × UserStore}
    (hne : o.freshId ≠ id) (h : users.table.Holds id username)
    (hwork : service.register o request users = .ok p) : p.2.table.Holds id username := by
  obtain ⟨-, role, hash, -, -, -, hcreate⟩ := register_eq_ok_iff.1 hwork
  obtain ⟨-, -, hu, hstore⟩ := UserStore.create_eq_ok_iff.1 hcreate
  have hother : id ≠ p.1.id := by
    rw [hu]
    exact hne.symm
  rw [hstore]
  exact h.insert hother

theorem frees_or_holds_of_change {caller : Identity} {request : UpdateRequest}
    {p : User × UserStore} (h : users.table.Holds id username)
    (hwork : service.change o caller request users = .ok p) :
    service.Frees o users id username (.change caller request) ∨
      p.2.table.Holds id username := by
  by_cases hfrees : caller.userId = id ∧ request.username ≠ username
  · exact .inl ⟨hfrees.1, hfrees.2, p, hwork⟩
  · obtain ⟨-, hash, -, hupdate⟩ := change_eq_ok_iff.1 hwork
    obtain ⟨-, -, v, hv, hu, hstore⟩ := UserStore.update_eq_ok_iff.1 hupdate
    have hkept : p.1.id = id → p.1.username = username := by
      rw [hu]
      intro hid
      have hcaller := (UserTable.mem_of_find? hv).2.symm.trans hid
      exact Decidable.byContradiction fun hne => hfrees ⟨hcaller, hne⟩
    rw [hstore]
    exact .inr (h.replace hkept)

theorem frees_or_holds_of_remove {written : String} (h : users.table.Holds id username)
    (hwork : remove written users = .ok users') :
    service.Frees o users id username (.remove written) ∨ users'.table.Holds id username := by
  obtain ⟨other, hother, hdelete⟩ := remove_eq_ok_iff.1 hwork
  obtain ⟨-, -, hstore⟩ := UserStore.delete_eq_ok_iff.1 hdelete
  by_cases hsame : other = id
  · exact .inl ⟨hsame ▸ hother, users', hwork⟩
  · rw [hstore]
    exact .inr (h.erase (Ne.symm hsame))

theorem holds_afterWork {w : UserWork} (hfresh : UserWork.drawn? (o, w) ≠ some id)
    (h : users.table.Holds id username) :
    service.Frees o users id username w ∨
      (service.afterWork o users w).table.Holds id username := by
  cases w with
  | register request =>
    rw [afterWork]
    cases hwork : service.register o request users with
    | error f => exact .inr h
    | ok p => exact .inr (holds_of_register_of_ne (fun he => hfresh (congrArg some he)) h hwork)
  | change caller request =>
    rw [afterWork]
    cases hwork : service.change o caller request users with
    | error f => exact .inr h
    | ok p => exact frees_or_holds_of_change h hwork
  | remove written =>
    rw [afterWork]
    cases hwork : remove written users with
    | error f => exact .inr h
    | ok users' => exact frees_or_holds_of_remove h hwork

/-- **An account keeps its name until a work frees it.** -/
theorem holds_runUsers (hfresh : id ∉ works.filterMap UserWork.drawn?)
    (h : users.table.Holds id username) :
    (∃ before o w after, works = before ++ (o, w) :: after ∧
      service.Frees o (service.runUsers users before) id username w) ∨
    (service.runUsers users works).table.Holds id username := by
  induction works generalizing users with
  | nil => exact .inr h
  | cons w works ih =>
    obtain ⟨o, w⟩ := w
    have hdrawn : UserWork.drawn? (o, w) ≠ some id := fun hd =>
      hfresh (List.mem_filterMap.2 ⟨(o, w), List.mem_cons_self, hd⟩)
    have hlater : id ∉ works.filterMap UserWork.drawn? := fun hmem => by
      obtain ⟨w', hw', hd⟩ := List.mem_filterMap.1 hmem
      exact hfresh (List.mem_filterMap.2 ⟨w', List.mem_cons_of_mem _ hw', hd⟩)
    rcases holds_afterWork hdrawn h with hfrees | hholds
    · exact .inl ⟨[], o, w, works, rfl, hfrees⟩
    · rcases ih hlater hholds with ⟨before, o', w', after, rfl, hfrees⟩ | hholds
      · exact .inl ⟨(o, w) :: before, o', w', after, rfl, hfrees⟩
      · exact .inr hholds

theorem holds_of_register {request : RegisterRequest}
    (h : service.register o request users = .ok (u, users')) :
    users'.table.Holds o.freshId request.username := by
  obtain ⟨-, role, hash, -, -, -, hcreate⟩ := register_eq_ok_iff.1 h
  obtain ⟨-, -, rfl, rfl⟩ := UserStore.create_eq_ok_iff.1 hcreate
  exact ⟨_, UserTable.mem_insert_iff.2 (.inl rfl), rfl, rfl⟩

theorem id_of_register {request : RegisterRequest}
    (h : service.register o request users = .ok (u, users')) : u.id = o.freshId := by
  obtain ⟨-, role, hash, -, -, -, hcreate⟩ := register_eq_ok_iff.1 h
  obtain ⟨-, -, rfl, -⟩ := UserStore.create_eq_ok_iff.1 hcreate
  rfl

theorem register_ne_ok_of_holds {request : RegisterRequest}
    (h : users.table.Holds id request.username) (p : User × UserStore) :
    service.register o request users ≠ .ok p := by
  obtain ⟨v, hv, -, hname⟩ := h
  intro hok
  obtain ⟨-, role, hash, -, -, -, hcreate⟩ := register_eq_ok_iff.1 hok
  obtain ⟨-, hfree, -⟩ := UserStore.create_eq_ok_iff.1 hcreate
  exact (UserTable.conflict?_eq_none_iff.1 hfree v hv (by simp)).1 hname

/-! ## Requests over HTTP -/

theorem Effect.exists_works {r : Request} {st : State} (h : service.Effect o r st users') :
    ∃ works : List (Occasion × UserWork), (works.map Prod.fst).Sublist [o] ∧
      users' = service.runUsers st.users works := by
  have hone (w : UserWork) : ([(o, w)].map Prod.fst).Sublist [o] := .refl _
  cases h with
  | nothing => exact ⟨[], List.nil_sublist _, rfl⟩
  | @registered request u _ path method body work =>
    refine ⟨[(o, .register request)], hone _, ?_⟩
    rw [runUsers_cons, afterWork, work]
    rfl
  | @changed i request u _ path caller work =>
    refine ⟨[(o, .change i request)], hone _, ?_⟩
    rw [runUsers_cons, afterWork, work]
    rfl
  | @removed i written id _ path caller work =>
    refine ⟨[(o, .remove id)], hone _, ?_⟩
    rw [runUsers_cons, afterWork, work]
    rfl

/-- **A run of calls does to the store of users what works do**, on some of its occasions. -/
theorem exists_works_afterCalls (service : Service) (st : State) (calls : List (Occasion × Call)) :
    ∃ works : List (Occasion × UserWork), (works.map Prod.fst).Sublist (calls.map Prod.fst) ∧
      (service.afterCalls st calls).users = service.runUsers st.users works := by
  induction calls generalizing st with
  | nil => exact ⟨[], List.nil_sublist _, rfl⟩
  | cons call calls ih =>
    obtain ⟨o, c⟩ := call
    obtain ⟨works, hsub, husers⟩ := ih (service.afterCall o st c)
    rcases service.effect_afterCall o st c with ⟨r, -, heffect⟩ | hsame
    · obtain ⟨first, hfirst, hafter⟩ := heffect.exists_works
      refine ⟨first ++ works, ?_, ?_⟩
      · rw [List.map_append]
        exact hfirst.append hsub
      · rw [runUsers_append, ← hafter]
        exact husers
    · rw [hsame] at husers
      exact ⟨works, hsub.cons o, husers⟩

/-! ## The whole -/

/-- **The store of users stays sound.** After all works on an empty store, in the order of their calls
and on a clock that goes only forward, an identifier leads to the one user who has it, no two users
share a name or a mail address, and every record is sound. If two registrations of one name succeed
whose identifiers were drawn afresh, then in between a work has ended the account of the first or has
given it another name. And after all requests over HTTP and remote calls the store is as sound. -/
theorem users_integrity (service : Service) (users : UserStore)
    (hempty : users.table.users = []) :
    (∀ works : List (Occasion × UserWork),
      works.Pairwise (fun w w' => w.1.wall.le w'.1.wall = true) →
        let t := (service.runUsers users works).table
        (∀ id u, t.find? id = some u ↔ u ∈ t.users ∧ u.id = id) ∧ t.IsSound service.scheme) ∧
    (∀ before o₁ r₁ between o₂ r₂ p₁ p₂,
      let works := before ++ (o₁, .register r₁) :: between
      (works.filterMap UserWork.drawn?).Nodup → r₁.username = r₂.username →
        service.register o₁ r₁ (service.runUsers users before) = .ok p₁ →
        service.register o₂ r₂ (service.runUsers users works) = .ok p₂ →
        ∃ between₁ o w between₂, between = between₁ ++ (o, w) :: between₂ ∧
          service.Frees o (service.runUsers users (before ++ (o₁, .register r₁) :: between₁)) p₁.1.id
            r₁.username w) ∧
    ∀ (st : State) (calls : List (Occasion × Call)), st.users = users →
      calls.Pairwise (fun c c' => c.1.wall.le c'.1.wall = true) →
        (service.afterCalls st calls).users.table.IsSound service.scheme := by
  have hnone : ∀ now, users.table.BegunBy now := fun now u hu => by simp [hempty] at hu
  have hsound {works : List (Occasion × UserWork)}
      (hclock : works.Pairwise fun w w' => w.1.wall.le w'.1.wall = true) :
      (service.runUsers users works).table.IsSound service.scheme :=
    isSound_runUsers (UserTable.isSound_of_empty hempty) (fun w _ => hnone w.1.wall) hclock
  refine ⟨fun works hclock => ?_, ?_, fun st calls hst hclock => ?_⟩
  · exact ⟨fun id u => (hsound hclock).ids.find?_eq_some_iff, hsound hclock⟩
  · intro before o₁ r₁ between o₂ r₂ p₁ p₂ works hfresh hname h₁ h₂
    have hrun (more : List (Occasion × UserWork)) :
        service.runUsers users (before ++ (o₁, .register r₁) :: more) =
          service.runUsers p₁.2 more := by
      rw [runUsers_append, runUsers_cons, afterWork, h₁]
      rfl
    have hid : p₁.1.id = o₁.freshId := id_of_register h₁
    have hnew : o₁.freshId ∉ between.filterMap UserWork.drawn? := by
      simp only [works, List.filterMap_append, List.filterMap_cons, UserWork.drawn?] at hfresh
      exact (List.nodup_cons.1 (List.nodup_append.1 hfresh).2.1).1
    rcases holds_runUsers hnew (holds_of_register h₁) with ⟨m, o, w, m', hbetween, hfrees⟩ | hholds
    · refine ⟨m, o, w, m', hbetween, ?_⟩
      rw [hrun, hid]
      exact hfrees
    · rw [hname, ← hrun] at hholds
      exact absurd h₂ (register_ne_ok_of_holds hholds p₂)
  · subst hst
    obtain ⟨works, hsub, husers⟩ := service.exists_works_afterCalls st calls
    have hoccasions : (calls.map Prod.fst).Pairwise fun o o' => o.wall.le o'.wall = true :=
      List.pairwise_map.2 hclock
    rw [husers]
    exact hsound (List.pairwise_map.1 (hoccasions.sublist hsub))

/-- A second Alice is refused until the first has another name. -/
theorem users_integrity_of_two_alices :
    let service := ofSettings {} ⟨fun _ p => .ok p, fun _ _ => .ok ()⟩ ⟨0, 0⟩
    let moment (n : Nat) : Occasion := ⟨⟨1700000000 + n, 0⟩, n, Uuid.random n, []⟩
    let alice (email : String) : RegisterRequest :=
      ⟨"Alice", "alice", email, "secret", none, "", "", none⟩
    let caller : Identity := ⟨Uuid.random 1, "alice", .user⟩
    let first := (moment 1, UserWork.register (alice "a@example.com"))
    let between := [(moment 2, .register (alice "b@example.com")),
      (moment 3, .change caller ⟨"Ada", "ada", "a@example.com", none⟩)]
    let works := first :: between ++ [(moment 4, .register (alice "b@example.com"))]
    let calls := [(moment 1, Call.http { method := "POST", target := "/api/v1/accounts/register" }),
      (moment 2, .getUser "alice")]
    ((service.runUsers {} works).table.users.map User.username = ["ada", "alice"] ∧
        (service.runUsers {} works).table.IsSound service.scheme) ∧
      (∃ between₁ o w between₂, between = between₁ ++ (o, w) :: between₂ ∧
        service.Frees o (service.runUsers {} (first :: between₁)) (Uuid.random 1) "alice" w) ∧
      (service.afterCalls {} calls).users.table.IsSound service.scheme := by
  intro service moment alice caller first between works calls
  obtain ⟨hsound, hnames, hcalls⟩ := users_integrity service {} rfl
  have hstored : (service.runUsers {} works).table.users.map User.username = ["ada", "alice"] := by
    decide +kernel
  have hclock : works.Pairwise fun w w' => w.1.wall.le w'.1.wall = true := by decide +kernel
  have hfresh : ((first :: between).filterMap UserWork.drawn?).Nodup := by decide +kernel
  have hfirst : (service.register (moment 1) (alice "a@example.com") {}).toOption.isSome = true := by
    decide +kernel
  have hsecond : (service.register (moment 4) (alice "b@example.com")
      (service.runUsers {} (first :: between))).toOption.isSome = true := by
    decide +kernel
  obtain ⟨p₁, h₁⟩ := Option.isSome_iff_exists.1 hfirst
  obtain ⟨p₂, h₂⟩ := Option.isSome_iff_exists.1 hsecond
  rw [Outcome.toOption_eq_some_iff] at h₁ h₂
  have hid : p₁.1.id = Uuid.random 1 := id_of_register h₁
  have hcallsClock : calls.Pairwise fun c c' => c.1.wall.le c'.1.wall = true := by decide +kernel
  refine ⟨⟨hstored, (hsound works hclock).2⟩, ?_, hcalls {} calls rfl hcallsClock⟩
  rw [← hid]
  exact hnames [] (moment 1) (alice "a@example.com") between (moment 4) (alice "b@example.com") p₁ p₂
    hfresh rfl h₁ h₂

end Service

end Accounts
