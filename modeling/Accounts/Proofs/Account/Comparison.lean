import Mathlib.Data.List.Forall2
import Accounts.Proofs.Account.Work

/-!
# Two stores of users side by side

Two runs get the same requests, from stores that agree but for what nobody looks at: their records
may differ in the password hash, and where the one store fails the other fails too, perhaps with
another text.

* `Comparison`: how the records of two runs may differ, and which faults their stores have;
* `Comparison.Users`: two stores of users that differ in this way;
* `Comparison.StoreFaults`, `Comparison.WorkFaults`: what fails in both runs is the same, or comes
  from the faults of the stores;
* `Comparison.Users.create`, `Comparison.Users.update`, `Comparison.Users.delete`,
  `Comparison.Users.find`, `Comparison.Users.findByUsername`, `Comparison.Users.list`: every call to
  the two stores gives outcomes of one kind;
* **`Comparison.Users.register`**, **`Comparison.Users.change`**, `Comparison.Users.remove`,
  `Comparison.Users.profile`, `Comparison.Users.lookUp`, `Comparison.Users.everyone`: so does all
  work on accounts;
* `Comparison.Users.login`: and a login, if the records do not differ.
-/

namespace Accounts

/-- A record without its password hash. -/
def User.unhashed (u : User) : User := { u with passwordHash := "" }

/-- Two reports of a store are told under one status. -/
def UserStoreFault.SameStatus (f f' : UserStoreFault) : Prop :=
  (AccountFault.ofStore f).status = (AccountFault.ofStore f').status

/-- How two runs may differ: in the hashes of their records, and in the faults of their stores. A
change of a record keeps to it, and the faults are told under one status. -/
structure Comparison where
  record : User → User → Prop
  usersFault : Option UserStoreFault
  usersFault' : Option UserStoreFault
  revocationsFault : Option RevocationFault
  revocationsFault' : Option RevocationFault
  record_refl : ∀ u, record u u
  unhashed_eq : ∀ {u v}, record u v → u.unhashed = v.unhashed
  record_updated : ∀ {u v}, record u v → ∀ change now,
    record (u.updated change now) (v.updated change now)
  usersFaults : Option.Rel UserStoreFault.SameStatus usersFault usersFault'
  revocationsFaults : Option.Rel (fun _ _ => True) revocationsFault revocationsFault'

namespace Comparison

open Outcome (Alike)

/-! ## Optional faults -/

section Options

variable {α β γ : Type} {R : α → α → Prop}

theorem cases_of_rel {x x' : Option α} (h : Option.Rel R x x') :
    (x = none ∧ x' = none) ∨ ∃ a a', x = some a ∧ x' = some a' ∧ R a a' := by
  cases h with
  | none => exact .inl ⟨rfl, rfl⟩
  | some h => exact .inr ⟨_, _, rfl, rfl, h⟩

theorem rel_self (hR : ∀ a, R a a) (x : Option α) : Option.Rel R x x := by
  cases x with
  | none => exact .none
  | some a => exact .some (hR a)

theorem rel_map_of_eq {f : β → γ} {g : β → α} (hR : ∀ {b b'}, f b = f b' → R (g b) (g b'))
    {x x' : Option β} (h : x.map f = x'.map f) : Option.Rel R (x.map g) (x'.map g) := by
  cases x with
  | none =>
    cases x' with
    | none => exact .none
    | some b' => cases h
  | some b =>
    cases x' with
    | none => cases h
    | some b' => exact .some (hR (Option.some.inj h))

end Options

variable {c : Comparison} {u v : User}

theorem id_eq (h : c.record u v) : u.id = v.id := (congrArg User.id (c.unhashed_eq h) :)

theorem username_eq (h : c.record u v) : u.username = v.username :=
  (congrArg User.username (c.unhashed_eq h) :)

theorem email_eq (h : c.record u v) : u.email = v.email := (congrArg User.email (c.unhashed_eq h) :)

theorem json_eq (h : c.record u v) : u.json = v.json := (congrArg User.json (c.unhashed_eq h) :)

/-! ## Lists of records -/

section Lists

variable {l l' : List User}

theorem rel_find? {p : User → Bool} (hp : ∀ {u v}, c.record u v → p u = p v)
    (h : List.Forall₂ c.record l l') : Option.Rel c.record (l.find? p) (l'.find? p) := by
  induction h with
  | nil => exact .none
  | @cons u v l l' huv _ ih =>
    rw [List.find?_cons, List.find?_cons, hp huv]
    cases p v with
    | true => exact .some huv
    | false => exact ih

theorem rel_filter {p : User → Bool} (hp : ∀ {u v}, c.record u v → p u = p v)
    (h : List.Forall₂ c.record l l') : List.Forall₂ c.record (l.filter p) (l'.filter p) :=
  List.rel_filter (fun _ _ huv => iff_of_eq (congrArg (· = true) (hp huv))) h

theorem findSome?_eq {α : Type} {g : User → Option α} (hg : ∀ {u v}, c.record u v → g u = g v)
    (h : List.Forall₂ c.record l l') : l.findSome? g = l'.findSome? g := by
  induction h with
  | nil => rfl
  | @cons u v l l' huv _ ih => rw [List.findSome?_cons, List.findSome?_cons, hg huv, ih]

theorem map_unhashed_eq (h : List.Forall₂ c.record l l') :
    l.map User.unhashed = l'.map User.unhashed := by
  rw [← List.forall₂_eq_eq_eq, List.forall₂_map_left_iff, List.forall₂_map_right_iff]
  exact h.imp fun _ _ => c.unhashed_eq

end Lists

/-! ## Tables -/

section Tables

variable {t t' : UserTable}

theorem find?_alike (h : List.Forall₂ c.record t.users t'.users) (id : Uuid) :
    Option.Rel c.record (t.find? id) (t'.find? id) :=
  rel_find? (fun huv => by rw [id_eq huv]) h

theorem findByUsername?_alike (h : List.Forall₂ c.record t.users t'.users) (username : String) :
    Option.Rel c.record (t.findByUsername? username) (t'.findByUsername? username) :=
  rel_find? (fun huv => by rw [username_eq huv]) h

theorem conflict?_eq (h : List.Forall₂ c.record t.users t'.users) (own : Option Uuid)
    (username email : String) :
    t.conflict? own username email = t'.conflict? own username email := by
  refine findSome?_eq (fun huv => ?_) (rel_filter (fun huv => ?_) h)
  · rw [UserTable.clash?, UserTable.clash?, username_eq huv, email_eq huv]
  · rw [id_eq huv]

theorem erase_alike (h : List.Forall₂ c.record t.users t'.users) (id : Uuid) :
    List.Forall₂ c.record (t.erase id).users (t'.erase id).users :=
  rel_filter (fun huv => by rw [id_eq huv]) h

theorem insert_alike (h : List.Forall₂ c.record t.users t'.users) (u : User) :
    List.Forall₂ c.record (t.insert u).users (t'.insert u).users :=
  List.rel_append (erase_alike h u.id) (.cons (c.record_refl u) .nil)

theorem replace_alike (h : List.Forall₂ c.record t.users t'.users) (huv : c.record u v) :
    List.Forall₂ c.record (t.replace u).users (t'.replace v).users := by
  refine List.rel_map (fun w w' hw => ?_) h
  rw [id_eq hw, id_eq huv]
  split
  · exact huv
  · exact hw

theorem list_alike (h : List.Forall₂ c.record t.users t'.users) :
    t.list.map User.unhashed = t'.list.map User.unhashed := by
  have hsort (t : UserTable) : t.list.map User.unhashed =
      (t.users.map User.unhashed).mergeSort fun a b => a.createdAt.le b.createdAt :=
    List.map_mergeSort fun _ _ _ _ => rfl
  rw [hsort, hsort, map_unhashed_eq h]

/-- Two changes of tables give outcomes of one kind, with the same fault. -/
abbrev Changes (c : Comparison) {α : Type} (A : α → α → Prop) :
    Except UserStoreFault (α × UserTable) → Except UserStoreFault (α × UserTable) → Prop :=
  Alike Eq fun p p' => A p.1 p'.1 ∧ List.Forall₂ c.record p.2.users p'.2.users

theorem create_alike (h : List.Forall₂ c.record t.users t'.users) (n : NewUser) (id : Uuid)
    (now : Timestamp) : c.Changes c.record (t.create n id now) (t'.create n id now) := by
  rw [UserTable.create, UserTable.create, conflict?_eq h]
  cases t'.conflict? none n.username n.email with
  | some f => exact .error rfl
  | none => exact .ok ⟨c.record_refl _, insert_alike h _⟩

theorem update_alike (h : List.Forall₂ c.record t.users t'.users) (id : Uuid) (change : UserUpdate)
    (now : Timestamp) : c.Changes c.record (t.update id change now) (t'.update id change now) := by
  rw [UserTable.update, UserTable.update, conflict?_eq h]
  cases t'.conflict? (some id) change.username change.email with
  | some f => exact .error rfl
  | none =>
    rcases cases_of_rel (find?_alike h id) with ⟨hu, hv⟩ | ⟨u, v, hu, hv, huv⟩
    · rw [hu, hv]
      exact .error rfl
    · have hupdated := c.record_updated huv change now
      rw [hu, hv]
      exact .ok ⟨hupdated, replace_alike h hupdated⟩

theorem delete_alike (h : List.Forall₂ c.record t.users t'.users) (id : Uuid) :
    c.Changes Eq ((t.delete id).map ((), ·)) ((t'.delete id).map ((), ·)) := by
  rw [UserTable.delete, UserTable.delete]
  rcases cases_of_rel (find?_alike h id) with ⟨hu, hv⟩ | ⟨u, v, hu, hv, -⟩
  · rw [hu, hv]
    exact .error rfl
  · rw [hu, hv]
    exact .ok ⟨rfl, erase_alike h id⟩

end Tables

/-! ## Stores -/

/-- Two stores of users that differ as the comparison says. -/
structure Users (c : Comparison) (s s' : UserStore) : Prop where
  table : List.Forall₂ c.record s.table.users s'.table.users
  fault : s.fault = c.usersFault
  fault' : s'.fault = c.usersFault'
  backend : s.backend = s'.backend

/-- Two reports of stores are the same, or are the faults of the two stores. -/
def StoreFaults (c : Comparison) (f f' : UserStoreFault) : Prop :=
  f = f' ∨ c.usersFault = some f ∧ c.usersFault' = some f'

/-- Two faults of work are the same, or tell of the faults of the two stores. -/
def WorkFaults (c : Comparison) (a a' : AccountFault) : Prop :=
  a = a' ∨ ∃ f f', c.usersFault = some f ∧ c.usersFault' = some f' ∧
    a = .ofStore f ∧ a' = .ofStore f'

theorem StoreFaults.work {f f' : UserStoreFault} (h : c.StoreFaults f f') :
    c.WorkFaults (.ofStore f) (.ofStore f') := by
  rcases h with rfl | ⟨hf, hf'⟩
  · exact .inl rfl
  · exact .inr ⟨f, f', hf, hf', rfl, rfl⟩

theorem WorkFaults.refl (a : AccountFault) : c.WorkFaults a a := .inl rfl

namespace Users

variable {s s' : UserStore} {α : Type} {A : α → α → Prop} {service : Service} {o : Occasion}

theorem ask (h : c.Users s s') {answer : UserTable → Except UserStoreFault α}
    (hanswer : Alike Eq A (answer s.table) (answer s'.table)) :
    Alike c.StoreFaults A (s.ask answer) (s'.ask answer) := by
  rw [UserStore.ask, UserStore.ask, h.fault, h.fault']
  rcases cases_of_rel c.usersFaults with ⟨hf, hf'⟩ | ⟨f, f', hf, hf', -⟩
  · rw [hf, hf']
    exact hanswer.mono (fun _ _ => .inl) fun _ _ => id
  · rw [hf, hf']
    exact .error (.inr ⟨hf, hf'⟩)

theorem settle (h : c.Users s s') {act : UserTable → Except UserStoreFault (α × UserTable)}
    (hact : c.Changes A (act s.table) (act s'.table)) :
    Alike c.StoreFaults (fun p p' => A p.1 p'.1 ∧ c.Users p.2 p'.2) (s.change act)
      (s'.change act) :=
  (h.ask hact).map fun _ _ hp => ⟨hp.1, hp.2, h.fault, h.fault', h.backend⟩

theorem create (h : c.Users s s') (n : NewUser) (id : Uuid) (now : Timestamp) :
    Alike c.StoreFaults (fun p p' => c.record p.1 p'.1 ∧ c.Users p.2 p'.2)
      (s.create n id now) (s'.create n id now) :=
  h.settle (create_alike h.table n id now)

theorem update (h : c.Users s s') (id : Uuid) (change : UserUpdate) (now : Timestamp) :
    Alike c.StoreFaults (fun p p' => c.record p.1 p'.1 ∧ c.Users p.2 p'.2)
      (s.update id change now) (s'.update id change now) :=
  h.settle (update_alike h.table id change now)

theorem delete (h : c.Users s s') (id : Uuid) :
    Alike c.StoreFaults c.Users (s.delete id) (s'.delete id) :=
  (h.settle (delete_alike h.table id)).map fun _ _ hp => hp.2

theorem find (h : c.Users s s') (id : Uuid) :
    Alike c.StoreFaults (Option.Rel c.record) (s.find id) (s'.find id) :=
  h.ask (.ok (find?_alike h.table id))

theorem findByUsername (h : c.Users s s') (username : String) :
    Alike c.StoreFaults (Option.Rel c.record) (s.findByUsername username)
      (s'.findByUsername username) :=
  h.ask (.ok (findByUsername?_alike h.table username))

theorem list (h : c.Users s s') :
    Alike c.StoreFaults (fun us us' => us.map User.unhashed = us'.map User.unhashed)
      s.list s'.list :=
  h.ask (.ok (list_alike h.table))

/-! ## Work on accounts -/

theorem present_alike {found found' : Option User} (h : Option.Rel c.record found found') :
    Alike c.WorkFaults c.record (present found) (present found') := by
  cases h with
  | none => exact .error (.refl _)
  | some h => exact .ok h

/-- **A registration gives outcomes of one kind.** -/
theorem register (h : c.Users s s') (r : RegisterRequest) :
    Alike c.WorkFaults (fun p p' => c.record p.1 p'.1 ∧ c.Users p.2 p'.2)
      (service.register o r s) (service.register o r s') := by
  refine .bind_same .refl _ fun _ => .bind_same .refl _ fun role => ?_
  cases service.admits r.code role with
  | false => exact .error (.refl _)
  | true =>
    refine .bind_same .refl _ fun hash => ?_
    exact (h.create _ _ _).mapError fun _ _ => StoreFaults.work

/-- **So does a change of one's own account.** -/
theorem change (h : c.Users s s') (caller : Identity) (r : UpdateRequest) :
    Alike c.WorkFaults (fun p p' => c.record p.1 p'.1 ∧ c.Users p.2 p'.2)
      (service.change o caller r s) (service.change o caller r s') := by
  refine .bind_same .refl _ fun _ => .bind_same .refl _ fun hash => ?_
  exact (h.update _ _ _).mapError fun _ _ => StoreFaults.work

theorem remove (h : c.Users s s') (id : String) :
    Alike c.WorkFaults c.Users (Service.remove id s) (Service.remove id s') :=
  .bind_same .refl _ fun _ => (h.delete _).mapError fun _ _ => StoreFaults.work

theorem profile (h : c.Users s s') (caller : Identity) :
    Alike c.WorkFaults c.record (Service.profile caller s) (Service.profile caller s') :=
  ((h.find _).mapError fun _ _ => StoreFaults.work).bind fun _ _ => present_alike

theorem lookUp (h : c.Users s s') (id : String) :
    Alike c.WorkFaults c.record (Service.lookUp id s) (Service.lookUp id s') :=
  .bind_same .refl _ fun _ =>
    ((h.find _).mapError fun _ _ => StoreFaults.work).bind fun _ _ => present_alike

theorem everyone (h : c.Users s s') :
    Alike c.WorkFaults (fun us us' => us.map User.unhashed = us'.map User.unhashed)
      (Service.everyone s) (Service.everyone s') :=
  h.list.mapError fun _ _ => StoreFaults.work

theorem login (h : c.Users s s') (hrecord : ∀ u v, c.record u v → u = v) (r : LoginRequest) :
    Alike c.WorkFaults Eq (service.login o r s) (service.login o r s') := by
  refine .bind_same .refl _ fun _ => ?_
  refine ((h.findByUsername _).mapError fun _ _ => StoreFaults.work).bind fun _ _ hfound => ?_
  refine (present_alike hfound).bind fun u v huv => ?_
  rw [hrecord u v huv]
  exact .refl .refl (fun _ => rfl) _

end Users

end Comparison

end Accounts
