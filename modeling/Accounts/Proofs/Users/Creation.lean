import Mathlib.Data.List.Dedup
import Accounts.Proofs.Users.Enumeration

/-!
# The order of creation

The list goes by the time at which each account has begun. If the clock goes on from one begin to
the next, this is the order in which the accounts were created, whatever happens between and
whichever order the table shows its users in.

* `UserTable.begun`: the accounts that a run of changes begins, the first one first;
* `UserTable.lastBegin?`: when an account has begun; an identifier that is drawn again takes the
  place of the account that had it;
* `UserTable.IsDatedBy`: the records have the times of these begins; `UserTable.IsDatedBy.after`: a
  change keeps it so, and `UserTable.ReachedBy.isDatedBy`: so it is after every run;
* `UserTable.pairwise_dedup`: identifiers in the order of their last begins are in that of time;
* **`UserTable.list_in_order_of_creation`**: the list after a run.
-/

namespace Accounts

/-- A point in time comes before another. -/
def Timestamp.Before (a b : Timestamp) : Prop := b.le a = false

namespace Timestamp

variable {a b c : Timestamp}

theorem before_iff :
    a.Before b ↔ a.seconds < b.seconds ∨ a.seconds = b.seconds ∧ a.nanos < b.nanos := by
  rw [Before, ← Bool.not_eq_true, le_iff]
  omega

theorem Before.trans (hab : a.Before b) (hbc : b.Before c) : a.Before c := by
  rw [before_iff] at hab hbc ⊢
  omega

theorem Before.le (h : a.Before b) : a.le b = true := by
  rw [before_iff] at h
  rw [le_iff]
  omega

theorem Before.ne (h : a.Before b) : a ≠ b := by
  rintro rfl
  exact absurd a.le_refl (by rw [Before] at h; simp [h])

end Timestamp

namespace UserTable

variable {t t' : UserTable} {u : User} {id : Uuid} {cs : List UserChange} {at' : Timestamp}
  {made : List (Uuid × Timestamp)}

/-! ## Begins -/

/-- The identifier and the time of the account that a change begins. -/
def begun? (t : UserTable) : UserChange → Option (Uuid × Timestamp)
  | .create n id now => (t.create n id now).toOption.map fun _ => (id, now)
  | .update _ _ _ => none
  | .delete _ => none

/-- The accounts that a run of changes begins, the first one first. -/
def begun (t : UserTable) : List UserChange → List (Uuid × Timestamp)
  | [] => []
  | c :: cs => (t.begun? c).toList ++ begun (t.after c) cs

theorem begun_append_singleton (t : UserTable) (cs : List UserChange) (c : UserChange) :
    t.begun (cs ++ [c]) = t.begun cs ++ ((cs.foldl UserTable.after t).begun? c).toList := by
  induction cs generalizing t with
  | nil => exact List.append_nil _
  | cons d cs ih => rw [List.cons_append, begun, ih, begun, List.foldl_cons, List.append_assoc]

theorem IsSame.begun? (ht : t.Unambiguous) (ht' : t'.DistinctIds) (h : t.IsSame t')
    (c : UserChange) : t.begun? c = t'.begun? c := by
  cases c with
  | create n id now =>
    have halike := create_alike ht ht' h n id now
    rw [UserTable.begun?, UserTable.begun?]
    generalize t.create n id now = x, t'.create n id now = x' at halike
    cases halike with
    | ok _ => rfl
    | error _ => rfl
  | update id change now => rfl
  | delete id => rfl

/-! ## Times -/

/-- When the account of an identifier has begun; the last begin counts. -/
def lastBegin? (made : List (Uuid × Timestamp)) (id : Uuid) : Option Timestamp :=
  (made.reverse.find? fun p => p.1 = id).map Prod.snd

theorem lastBegin?_append_singleton (made : List (Uuid × Timestamp)) (p : Uuid × Timestamp)
    (id : Uuid) :
    lastBegin? (made ++ [p]) id = if p.1 = id then some p.2 else lastBegin? made id := by
  rw [lastBegin?, List.reverse_append, List.reverse_singleton, List.singleton_append,
    List.find?_cons]
  by_cases h : p.1 = id
  · simp [h]
  · simp [h, lastBegin?]

theorem lastBegin?_cons (p : Uuid × Timestamp) (made : List (Uuid × Timestamp)) (id : Uuid) :
    lastBegin? (p :: made) id =
      (lastBegin? made id).or (if p.1 = id then some p.2 else none) := by
  rw [lastBegin?, List.reverse_cons, List.find?_append, Option.map_or, lastBegin?]
  by_cases h : p.1 = id
  · simp [h]
  · simp [h]

theorem mem_of_lastBegin? (h : lastBegin? made id = some at') : (id, at') ∈ made := by
  obtain ⟨p, hp, rfl⟩ := Option.map_eq_some_iff.1 h
  have hid : p.1 = id := by simpa using List.find?_some hp
  rw [← hid]
  exact List.mem_reverse.1 (List.mem_of_find?_eq_some hp)

theorem exists_lastBegin? (h : id ∈ made.map Prod.fst) : ∃ at', lastBegin? made id = some at' := by
  obtain ⟨p, hp, rfl⟩ := List.mem_map.1 h
  have hfound : (made.reverse.find? fun q => q.1 = p.1).isSome :=
    List.find?_isSome.2 ⟨p, List.mem_reverse.2 hp, by simp⟩
  obtain ⟨q, hq⟩ := Option.isSome_iff_exists.1 hfound
  exact ⟨q.2, by rw [lastBegin?, hq]; rfl⟩

theorem lastBegin?_cons_of_mem {p : Uuid × Timestamp} (h : id ∈ made.map Prod.fst) :
    lastBegin? (p :: made) id = lastBegin? made id := by
  obtain ⟨at', hlast⟩ := exists_lastBegin? h
  rw [lastBegin?_cons, hlast, Option.some_or]

theorem pairwise_dedup (h : made.Pairwise fun p q => p.2.Before q.2) :
    (made.map Prod.fst).dedup.Pairwise fun a b => ∀ s s',
      lastBegin? made a = some s → lastBegin? made b = some s' → s.Before s' := by
  induction made with
  | nil => exact .nil
  | cons p made ih =>
    obtain ⟨hfirst, hrest⟩ := List.pairwise_cons.1 h
    have hlater : (made.map Prod.fst).dedup.Pairwise fun a b => ∀ s s',
        lastBegin? (p :: made) a = some s → lastBegin? (p :: made) b = some s' → s.Before s' := by
      refine (ih hrest).imp_of_mem fun {a b} ha hb hab => ?_
      rwa [lastBegin?_cons_of_mem (List.mem_dedup.1 ha),
        lastBegin?_cons_of_mem (List.mem_dedup.1 hb)]
    rw [List.map_cons]
    by_cases hmem : p.1 ∈ made.map Prod.fst
    · rwa [List.dedup_cons_of_mem hmem]
    · rw [List.dedup_cons_of_notMem hmem]
      refine List.pairwise_cons.2 ⟨fun b hb s s' hs hs' => ?_, hlater⟩
      rw [lastBegin?_cons_of_mem (List.mem_dedup.1 hb)] at hs'
      have hnone : lastBegin? made p.1 = none := by
        cases hlast : lastBegin? made p.1 with
        | none => rfl
        | some at' => exact absurd (List.mem_map.2 ⟨_, mem_of_lastBegin? hlast, rfl⟩) hmem
      rw [lastBegin?_cons, hnone, Option.none_or, if_pos rfl] at hs
      cases hs
      exact hfirst _ (mem_of_lastBegin? hs')

/-! ## Dates of records -/

/-- Each record has the time at which its account has begun. -/
def IsDatedBy (t : UserTable) (made : List (Uuid × Timestamp)) : Prop :=
  ∀ u ∈ t.users, lastBegin? made u.id = some u.createdAt

theorem IsDatedBy.create {n : NewUser} {now : Timestamp} (h : t.IsDatedBy made)
    (hc : t.create n id now = .ok (u, t')) : t'.IsDatedBy (made ++ [(id, now)]) := by
  obtain ⟨-, rfl, rfl⟩ := create_eq_ok_iff.1 hc
  intro v hv
  rw [lastBegin?_append_singleton]
  obtain rfl | ⟨hv, hne⟩ := mem_insert_iff.1 hv
  · exact if_pos rfl
  · exact (if_neg (Ne.symm hne)).trans (h v hv)

theorem IsDatedBy.update {change : UserUpdate} {now : Timestamp} (h : t.IsDatedBy made)
    (hc : t.update id change now = .ok (u, t')) : t'.IsDatedBy made := by
  obtain ⟨-, v, hv, rfl, rfl⟩ := update_eq_ok_iff.1 hc
  intro w hw
  obtain ⟨hw, -⟩ | ⟨rfl, -⟩ := mem_replace_iff.1 hw
  · exact h w hw
  · exact h v (mem_of_find? hv).1

theorem IsDatedBy.erase (h : t.IsDatedBy made) (id : Uuid) : (t.erase id).IsDatedBy made :=
  fun v hv => h v (mem_erase_iff.1 hv).1

theorem IsDatedBy.after (h : t.IsDatedBy made) (c : UserChange) :
    (t.after c).IsDatedBy (made ++ (t.begun? c).toList) := by
  rw [UserTable.after]
  cases c with
  | create n id now =>
    rw [asked, begun?]
    cases hc : t.create n id now with
    | error f => simpa [Except.toOption, Except.map] using h
    | ok p => exact h.create hc
  | update id change now =>
    rw [asked, begun?, Option.toList_none, List.append_nil]
    cases hc : t.update id change now with
    | error f => exact h
    | ok p => exact h.update hc
  | delete id =>
    rw [asked, begun?, Option.toList_none, List.append_nil]
    cases hc : t.delete id with
    | error f => exact h
    | ok t' =>
      obtain ⟨-, rfl⟩ := delete_eq_ok_iff.1 hc
      exact h.erase id

theorem ReachedBy.isDatedBy (h : ReachedBy cs t) : t.IsDatedBy (begun {} cs) := by
  induction h with
  | empty => exact fun u hu => absurd hu List.not_mem_nil
  | @after cs t h c ih =>
    have hsame := h.isSame_run.begun? (reached_run cs).unambiguous h.reached.unambiguous.ids c
    rw [begun_append_singleton]
    rw [run] at hsame
    rw [hsame]
    exact ih.after c
  | reordered _ hperm ih => exact fun u hu => ih u (hperm.mem_iff.2 hu)

/-! ## The list -/

theorem DistinctIds.find?_eq_some_self_iff (ht : t.DistinctIds) :
    t.find? u.id = some u ↔ u ∈ t.users := by
  rw [ht.find?_eq_some_iff]
  exact and_iff_left rfl

theorem IsDatedBy.perm_filterMap (h : t.IsDatedBy made) (ht : t.DistinctIds) :
    ((made.map Prod.fst).dedup.filterMap t.find?).Perm t.users := by
  have hnodup : ((made.map Prod.fst).dedup.filterMap t.find?).Nodup := by
    refine List.Nodup.filterMap (fun a b u ha hb => ?_) (List.nodup_dedup _)
    rw [← (mem_of_find? ha).2, (mem_of_find? hb).2]
  refine (List.perm_ext_iff_of_nodup hnodup (List.Nodup.of_map _ ht)).2 fun u => ?_
  rw [List.mem_filterMap]
  constructor
  · rintro ⟨id, -, hid⟩
    exact (mem_of_find? hid).1
  · intro hu
    have hbegun : u.id ∈ made.map Prod.fst :=
      List.mem_map.2 ⟨_, mem_of_lastBegin? (h u hu), rfl⟩
    exact ⟨u.id, List.mem_dedup.2 hbegun, ht.find?_eq_some_self_iff.2 hu⟩

theorem IsDatedBy.pairwise_filterMap (h : t.IsDatedBy made)
    (hmade : made.Pairwise fun p q => p.2.Before q.2) :
    ((made.map Prod.fst).dedup.filterMap t.find?).Pairwise
      fun u v => u.createdAt.Before v.createdAt := by
  refine (pairwise_dedup hmade).filterMap _ fun a b hab u hu v hv => ?_
  obtain ⟨humem, rfl⟩ := mem_of_find? hu
  obtain ⟨hvmem, rfl⟩ := mem_of_find? hv
  exact hab _ _ (h u humem) (h v hvmem)

/-- **The list is in the order of creation.** After a run of changes, each of which may have found
the users in any order, and in which each account has begun at a later time than the one before,
the list has the accounts that are there in the order of their begins: each of them once, with the
record that is found under its identifier. -/
theorem list_in_order_of_creation (h : ReachedBy cs t)
    (hclock : ((begun {} cs).map Prod.snd).IsChain Timestamp.Before) :
    t.list = ((begun {} cs).map Prod.fst).dedup.filterMap t.find? ∧ t.list.Nodup ∧
      ∀ u, u ∈ t.list ↔ t.find? u.id = some u := by
  have hids := h.reached.unambiguous.ids
  have hmade : (begun {} cs).Pairwise fun p q => p.2.Before q.2 := by
    have htrans : IsTrans Timestamp Timestamp.Before := ⟨fun _ _ _ => Timestamp.Before.trans⟩
    exact List.pairwise_map.1 (List.isChain_iff_pairwise.1 hclock)
  have hperm := h.isDatedBy.perm_filterMap hids
  have hsorted := h.isDatedBy.pairwise_filterMap hmade
  have hdistinct : t.Distinct User.createdAt :=
    (hperm.map _).nodup (List.pairwise_map.2 (hsorted.imp Timestamp.Before.ne))
  refine ⟨list_eq_of_sorted hdistinct hperm (hsorted.imp Timestamp.Before.le), ?_, fun u => ?_⟩
  · exact t.list_perm.symm.nodup (List.Nodup.of_map _ hids)
  · rw [mem_list, hids.find?_eq_some_self_iff]

/-- Alice, Bob and Carol begin one after the other; then Alice has another name, Bob is gone, and
the table shows Carol first. -/
theorem list_in_order_of_creation_of_alice_and_carol :
    let alice : NewUser := ⟨"Alice", "alice", "a@example.com", "hash", .user, "", ""⟩
    let bob : NewUser := ⟨"Bob", "bob", "b@example.com", "hash", .user, "", ""⟩
    let carol : NewUser := ⟨"Carol", "carol", "c@example.com", "hash", .user, "", ""⟩
    let ada : UserUpdate := ⟨"Ada", "ada", "a@example.com", none⟩
    let cs : List UserChange :=
      [.create alice (Uuid.random 1) ⟨1, 0⟩, .create bob (Uuid.random 2) ⟨2, 0⟩,
        .create carol (Uuid.random 3) ⟨2, 500⟩, .update (Uuid.random 1) ada ⟨9, 0⟩,
        .delete (Uuid.random 2)]
    let t : UserTable := ⟨(run cs).users.reverse⟩
    ReachedBy cs t ∧ ((begun {} cs).map Prod.snd).IsChain Timestamp.Before ∧
      t.users.map User.username = ["carol", "ada"] ∧
      t.list.map User.username = ["ada", "carol"] := by
  intro alice bob carol ada cs t
  have hreached : ReachedBy cs t :=
    (((((ReachedBy.empty.after _).after _).after _).after _).after _).reordered
      (List.reverse_perm _).symm
  have hclock : ((begun {} cs).map Prod.snd).IsChain Timestamp.Before := by
    unfold Timestamp.Before
    decide +kernel
  refine ⟨hreached, hclock, by decide +kernel, ?_⟩
  rw [(list_in_order_of_creation hreached hclock).1]
  decide +kernel

end UserTable

end Accounts
