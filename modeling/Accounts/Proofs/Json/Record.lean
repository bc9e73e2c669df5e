import Accounts.Json.Reading
import Accounts.Proofs.Lookup
import Accounts.Proofs.Outcome
import Accounts.Proofs.Json.Tree

/-!
# Records

* **`lookup_ofMembers`**: what a record's text gives to a field is the member of its name;
* `valuesOf`, `Once`: the values that members give to a name, and that it comes at most once;
* `exists_of_ofMembers`, `exists_ofMembers_of_once`: members make a record if each has a name,
  is what its field asks for, and comes once if there is a field;
* **`fields_object`**: a record that was read is closed, and its fields are its members;
* **`exists_fields`**: members with distinct names that are what they should be make a record;
* **`exists_fields_of_admits`**: a record with fewer fields is read from the same members;
* `Gives`: the member of a name reads as a value.
-/

namespace Accounts.Json

/-! ## Scalars and documents -/

theorem mismatch_ne_ok {α : Type} (expected : String) (node : Node) (a : α) :
    mismatch expected node ≠ .ok a := by
  unfold mismatch
  split <;> exact nofun

theorem readText_eq_ok {v : Node} {s : String} (h : readText v = .ok s) : v = .string (some s) := by
  unfold readText readTextAs at h
  split at h
  · cases h
    rfl
  · exact absurd h (mismatch_ne_ok _ _ _)

theorem Document.read_eq_ok_iff {α : Type} {reader : Node → Reading α} {doc : Document} {a : α} :
    doc.read reader = .ok a ↔ reader doc.root = .ok a ∧ doc.complete = true := by
  rw [Document.read, Outcome.bind_eq_ok_iff]
  cases doc.complete <;> simp

namespace Record

/-! ## Reading members -/

/-- A name that a record has a field for. -/
def Knows (fs : List Field) (name : String) : Prop :=
  ∃ f, (fs.find? fun f => f.name == name) = some f

/-- **What a record's text gives to a field is the member of its name.** -/
theorem lookup_ofMembers {fs : List Field} {name : String} (hk : Knows fs name) :
    ∀ {members : List (Option String × Node)} {seen seen' : Fields},
    ofMembers fs seen members = .ok seen' →
    seen'.lookup name = (seen.lookup name).or (members.lookup (some name))
  | [], seen, seen', h => by
    cases h
    simp
  | (none, v) :: rest, seen, seen', h => by cases h
  | (some n, v) :: rest, seen, seen', h => by
    rw [ofMembers] at h
    split at h
    · next hf =>
      have hne : name ≠ n := by
        rintro rfl
        obtain ⟨f, hf'⟩ := hk
        rw [hf] at hf'
        cases hf'
      obtain ⟨_, -, h⟩ := Outcome.bind_eq_ok_iff.1 h
      rw [lookup_ofMembers hk h, lookup_cons_of_ne fun e => hne (Option.some.inj e)]
    · next f hf =>
      split at h
      · cases h
      · next hnew =>
        obtain ⟨_, -, h⟩ := Outcome.bind_eq_ok_iff.1 h
        rw [lookup_ofMembers hk h]
        by_cases hne : name = n
        · subst hne
          have hnone : List.lookup name seen = none := Option.not_isSome_iff_eq_none.1 hnew
          rw [List.lookup_cons_self, List.lookup_cons_self, hnone]
          rfl
        · rw [lookup_cons_of_ne hne, lookup_cons_of_ne fun e => hne (Option.some.inj e)]

/-- A member's value is what its field asks for; one without a field is whole. -/
def Admits (fs : List Field) (name : String) (v : Node) : Prop :=
  match fs.find? fun f => f.name == name with
  | some f => f.check v = .ok ()
  | none => v.isWhole = true

/-- What one member does: it is admitted, and one with a field comes for the first time. -/
theorem ofMembers_cons_eq_ok_iff {fs : List Field} {n : String} {v : Node}
    {members : List (Option String × Node)} {seen out : Fields} :
    ofMembers fs seen ((some n, v) :: members) = .ok out ↔ Admits fs n v ∧
      (Knows fs n ∧ seen.lookup n = none ∧ ofMembers fs ((n, v) :: seen) members = .ok out ∨
        ¬ Knows fs n ∧ ofMembers fs seen members = .ok out) := by
  unfold Admits
  rw [ofMembers]
  cases hf : fs.find? fun f => f.name == n with
  | none =>
    have hk : ¬ Knows fs n := fun ⟨f, h⟩ => by rw [hf] at h; cases h
    simp only [hk, false_and, not_false_eq_true, true_and, false_or, Outcome.bind_eq_ok_iff, skip]
    cases v.isWhole <;> simp
  | some f =>
    have hk : Knows fs n := ⟨f, hf⟩
    simp only [hk, true_and, not_true_eq_false, false_and, or_false]
    cases hn : seen.lookup n with
    | some w => simp
    | none =>
      simp only [Option.isSome_none, Bool.false_eq_true, if_false, true_and,
        Outcome.bind_eq_ok_iff, Outcome.mapError_eq_ok_iff]
      exact ⟨fun ⟨⟨⟩, hc, h⟩ => ⟨hc, h⟩, fun ⟨hc, h⟩ => ⟨(), hc, h⟩⟩

/-! ## Members that make a record -/

/-- The values that members give to a name. -/
def valuesOf (members : List (String × Node)) (name : String) : List Node :=
  (members.filter fun m => m.1 = name).map Prod.snd

section Members

variable {fs : List Field} {name : String} {v : Node} {members : List (String × Node)}

theorem valuesOf_cons_self : valuesOf ((name, v) :: members) name = v :: valuesOf members name := by
  simp [valuesOf]

theorem valuesOf_cons_of_ne {n : String} (h : n ≠ name) :
    valuesOf ((n, v) :: members) name = valuesOf members name := by
  simp [valuesOf, h]

theorem lookup_eq_head?_valuesOf : members.lookup name = (valuesOf members name).head? := by
  induction members with
  | nil => rfl
  | cons m members ih =>
    by_cases h : name = m.1
    · subst h
      rw [List.lookup_cons_self, valuesOf_cons_self]
      rfl
    · rw [lookup_cons_of_ne h, valuesOf_cons_of_ne (Ne.symm h), ih]

theorem mem_valuesOf_of_mem (h : (name, v) ∈ members) : v ∈ valuesOf members name :=
  List.mem_map.2 ⟨(name, v), List.mem_filter.2 ⟨h, decide_eq_true rfl⟩, rfl⟩

theorem length_valuesOf_le_one (h : (members.map Prod.fst).Nodup) (name : String) :
    (valuesOf members name).length ≤ 1 := by
  induction members with
  | nil => exact Nat.zero_le 1
  | cons m members ih =>
    obtain ⟨n, v⟩ := m
    obtain ⟨hnew, h⟩ := List.nodup_cons.1 h
    by_cases hn : n = name
    · subst hn
      have hrest : valuesOf members n = [] := by
        rw [valuesOf, List.map_eq_nil_iff, List.filter_eq_nil_iff]
        intro m hm hname
        exact hnew (List.mem_map.2 ⟨m, hm, of_decide_eq_true hname⟩)
      rw [valuesOf_cons_self, hrest]
      exact Nat.le_refl 1
    · rw [valuesOf_cons_of_ne hn]
      exact ih h

/-- A member comes at most once, also among those that were seen before. -/
def Once (seen : Fields) (members : List (String × Node)) (name : String) : Prop :=
  (seen.lookup name).toList.length + (valuesOf members name).length ≤ 1

section Once

variable {seen : Fields} {n : String}

theorem once_nil : Once seen [] name := by
  unfold Once
  cases seen.lookup name <;> simp [valuesOf]

theorem once_nil_iff : Once [] members name ↔ (valuesOf members name).length ≤ 1 := by
  simp [Once]

theorem once_cons_iff (hn : seen.lookup n = none) :
    Once seen ((n, v) :: members) name ↔ Once ((n, v) :: seen) members name := by
  unfold Once
  by_cases h : n = name
  · subst h
    rw [List.lookup_cons_self, hn, valuesOf_cons_self]
    simp only [Option.toList_some, Option.toList_none, List.length_cons, List.length_nil]
    omega
  · rw [lookup_cons_of_ne (Ne.symm h), valuesOf_cons_of_ne h]

theorem once_cons_of_ne (h : n ≠ name) :
    Once seen ((n, v) :: members) name ↔ Once seen members name := by
  unfold Once
  rw [valuesOf_cons_of_ne h]

theorem lookup_eq_none_of_once (h : Once seen ((n, v) :: members) n) : seen.lookup n = none := by
  unfold Once at h
  rw [valuesOf_cons_self, List.length_cons] at h
  cases hs : seen.lookup n with
  | none => rfl
  | some w =>
    rw [hs, Option.toList_some, List.length_singleton] at h
    omega

end Once

theorem exists_of_ofMembers {all : List (Option String × Node)} {seen out : Fields}
    (h : ofMembers fs seen all = .ok out) :
    ∃ members : List (String × Node), all = members.map (fun m => (some m.1, m.2)) ∧
      (∀ m ∈ members, Admits fs m.1 m.2) ∧ ∀ name, Knows fs name → Once seen members name := by
  induction all generalizing seen with
  | nil => exact ⟨[], rfl, fun _ hm => (nomatch hm), fun _ _ => once_nil⟩
  | cons m all ih =>
    obtain ⟨_ | n, v⟩ := m
    · cases h
    obtain ⟨hv, ⟨-, hnone, h⟩ | ⟨hk, h⟩⟩ := ofMembers_cons_eq_ok_iff.1 h
    · obtain ⟨members, rfl, hadmits, honce⟩ := ih h
      exact ⟨(n, v) :: members, rfl, List.forall_mem_cons.2 ⟨hv, hadmits⟩, fun name hname =>
        (once_cons_iff hnone).2 (honce name hname)⟩
    · obtain ⟨members, rfl, hadmits, honce⟩ := ih h
      exact ⟨(n, v) :: members, rfl, List.forall_mem_cons.2 ⟨hv, hadmits⟩, fun name hname =>
        (once_cons_of_ne fun (e : n = name) => hk (e ▸ hname)).2 (honce name hname)⟩

theorem exists_ofMembers_of_once {seen : Fields} (hadmits : ∀ m ∈ members, Admits fs m.1 m.2)
    (honce : ∀ name, Knows fs name → Once seen members name) :
    ∃ out, ofMembers fs seen (members.map fun m => (some m.1, m.2)) = .ok out := by
  induction members generalizing seen with
  | nil => exact ⟨seen, rfl⟩
  | cons m members ih =>
    obtain ⟨n, v⟩ := m
    obtain ⟨hv, hadmits⟩ := List.forall_mem_cons.1 hadmits
    by_cases hk : Knows fs n
    · have hnone := lookup_eq_none_of_once (honce n hk)
      obtain ⟨out, h⟩ := ih hadmits fun name hname => (once_cons_iff hnone).1 (honce name hname)
      exact ⟨out, ofMembers_cons_eq_ok_iff.2 ⟨hv, .inl ⟨hk, hnone, h⟩⟩⟩
    · obtain ⟨out, h⟩ := ih hadmits fun name hname =>
        (once_cons_of_ne fun (e : n = name) => hk (e ▸ hname)).1 (honce name hname)
      exact ⟨out, ofMembers_cons_eq_ok_iff.2 ⟨hv, .inr ⟨hk, h⟩⟩⟩

end Members

/-! ## Records -/

theorem knows_of_mem {fs : List Field} {f : Field} (hf : f ∈ fs) : Knows fs f.name := by
  cases h : fs.find? fun g => g.name == f.name with
  | some g => exact ⟨g, h⟩
  | none => exact absurd (List.find?_eq_none.1 h f hf) (by simp)

theorem object_or_array {rname : String} {fs : List Field} {node : Node} {seen : Fields}
    (h : fields rname fs node = .ok seen) :
    (∃ members closed, node = .object members closed) ∨
      ∃ items closed, node = .array items closed := by
  unfold fields at h
  split at h
  · next members closed => exact .inl ⟨members, closed, rfl⟩
  · next items closed => exact .inr ⟨items, closed, rfl⟩
  · exact absurd h (mismatch_ne_ok _ _ _)

section Items

variable {fs : List Field} {v : Node}

theorem ofItems_cons_eq_ok_iff {rname : String} {count index : Nat} {f : Field} {items : List Node}
    {closed : Bool} {out : Fields} :
    ofItems rname count (f :: fs) index (v :: items) closed = .ok out ↔ f.check v = .ok () ∧
      ∃ more, ofItems rname count fs (index + 1) items closed = .ok more ∧
        out = (f.name, v) :: more := by
  simp only [ofItems, Outcome.bind_eq_ok_iff, Outcome.mapError_eq_ok_iff, Except.ok.injEq]
  constructor
  · rintro ⟨⟨⟩, hv, more, hmore, rfl⟩
    exact ⟨hv, more, hmore, rfl⟩
  · rintro ⟨hv, more, hmore, rfl⟩
    exact ⟨(), hv, more, hmore, rfl⟩

theorem ofItems_nil_eq_ok_iff {rname : String} {count index : Nat} {items : List Node}
    {closed : Bool} {out : Fields} :
    ofItems rname count [] index items closed = .ok out ↔
      items = [] ∧ closed = true ∧ out = [] := by
  rw [ofItems]
  cases items <;> cases closed <;> simp [eq_comm]

end Items

theorem length_of_ofItems {rname : String} {count : Nat} {closed : Bool} :
    ∀ {fs : List Field} {index : Nat} {items : List Node} {seen : Fields},
    (∀ f ∈ fs, f.optionalItem = false) → ofItems rname count fs index items closed = .ok seen →
    items.length = fs.length
  | [], _, items, _, _, h => by
    rw [(ofItems_nil_eq_ok_iff.1 h).1, List.length_nil, List.length_nil]
  | f :: fs, _, [], _, hf, h => by
    rw [ofItems, hf f List.mem_cons_self] at h
    split at h <;> cases h
  | f :: fs, _, v :: rest, _, hf, h => by
    obtain ⟨-, more, h, -⟩ := ofItems_cons_eq_ok_iff.1 h
    rw [List.length_cons, List.length_cons,
      length_of_ofItems (fun g hg => hf g (List.mem_cons_of_mem f hg)) h]

/-- **A record that was read is closed, and its fields are its members.** -/
theorem fields_object {rname : String} {fs : List Field}
    {members : List (Option String × Node)} {closed : Bool} {seen : Fields}
    (h : fields rname fs (.object members closed) = .ok seen) :
    closed = true ∧ ∀ name, Knows fs name → seen.lookup name = members.lookup (some name) := by
  rw [fields] at h
  obtain ⟨seen', hs, h⟩ := Outcome.bind_eq_ok_iff.1 h
  cases closed with
  | false => cases h
  | true =>
    simp only [Bool.not_true, Bool.false_eq_true, if_false] at h
    split at h
    · cases h
    · cases h
      exact ⟨rfl, fun name hk => lookup_ofMembers hk hs⟩

theorem lookup_map_some {α : Type} (name : String) (members : List (String × α)) :
    (members.map fun m => (some m.1, m.2)).lookup (some name) = members.lookup name := by
  induction members with
  | nil => rfl
  | cons m rest ih =>
    by_cases h : name = m.1
    · subst h
      rw [List.map_cons, List.lookup_cons_self, List.lookup_cons_self]
    · rw [List.map_cons, lookup_cons_of_ne fun e => h (Option.some.inj e), lookup_cons_of_ne h, ih]

section Objects

variable {fs : List Field} {members : List (String × Node)}

theorem exists_of_fields {rname : String} {all : List (Option String × Node)} {closed : Bool}
    {seen : Fields} (h : fields rname fs (.object all closed) = .ok seen) :
    closed = true ∧ ∃ members : List (String × Node), all = members.map (fun m => (some m.1, m.2)) ∧
      (∀ m ∈ members, Admits fs m.1 m.2) ∧ ∀ name, Knows fs name →
        (valuesOf members name).length ≤ 1 ∧ seen.lookup name = (valuesOf members name).head? := by
  obtain ⟨hclosed, hlookup⟩ := fields_object h
  rw [fields] at h
  obtain ⟨out, hout, -⟩ := Outcome.bind_eq_ok_iff.1 h
  obtain ⟨members, rfl, hadmits, honce⟩ := exists_of_ofMembers hout
  refine ⟨hclosed, members, rfl, hadmits, fun name hname => ⟨once_nil_iff.1 (honce name hname), ?_⟩⟩
  rw [hlookup name hname, lookup_map_some, lookup_eq_head?_valuesOf]

theorem exists_fields_of_once (rname : String) (hadmits : ∀ m ∈ members, Admits fs m.1 m.2)
    (honce : ∀ name, Knows fs name → (valuesOf members name).length ≤ 1)
    (hrequired : ∀ f ∈ fs, f.optional = true ∨ valuesOf members f.name ≠ []) :
    ∃ seen, fields rname fs (.object (members.map fun m => (some m.1, m.2)) true) = .ok seen ∧
      ∀ name, Knows fs name → seen.lookup name = (valuesOf members name).head? := by
  have hread : ∃ seen, ofMembers fs [] (members.map fun m => (some m.1, m.2)) = .ok seen :=
    exists_ofMembers_of_once hadmits fun name hname => once_nil_iff.2 (honce name hname)
  obtain ⟨seen, hs⟩ := hread
  have hlookup : ∀ name, Knows fs name → seen.lookup name = (valuesOf members name).head? := by
    intro name hname
    rw [lookup_ofMembers hname hs, lookup_map_some, ← lookup_eq_head?_valuesOf]
    rfl
  have hmiss : firstMissing? fs seen = none := by
    refine List.find?_eq_none.2 fun f hf => ?_
    rcases hrequired f hf with ho | hne
    · simp [ho]
    · rw [hlookup f.name (knows_of_mem hf)]
      simp [hne]
  refine ⟨seen, ?_, hlookup⟩
  rw [fields]
  refine Outcome.bind_eq_ok_iff.2 ⟨seen, hs, ?_⟩
  simp only [Bool.not_true, Bool.false_eq_true, if_false, hmiss]

end Objects

/-- **Members with distinct names that are what they should be make a record.** -/
theorem exists_fields (rname : String) (fs : List Field) (members : List (String × Node))
    (hd : (members.map Prod.fst).Nodup) (hm : ∀ m ∈ members, Admits fs m.1 m.2)
    (hr : ∀ f ∈ fs, f.optional = true ∨ f.name ∈ members.map Prod.fst) :
    ∃ seen, fields rname fs (.object (members.map fun m => (some m.1, m.2)) true) = .ok seen ∧
      ∀ name, Knows fs name → seen.lookup name = members.lookup name := by
  have hrequired : ∀ f ∈ fs, f.optional = true ∨ valuesOf members f.name ≠ [] := by
    refine fun f hf => (hr f hf).imp_right fun hin => ?_
    obtain ⟨⟨name, v⟩, hmem, rfl⟩ := List.mem_map.1 hin
    exact List.ne_nil_of_mem (mem_valuesOf_of_mem hmem)
  obtain ⟨seen, hseen, hlookup⟩ := exists_fields_of_once rname hm
    (fun name _ => length_valuesOf_le_one hd name) hrequired
  refine ⟨seen, hseen, fun name hname => ?_⟩
  rw [hlookup name hname, lookup_eq_head?_valuesOf]

theorem admits_required {α : Type} {fs : List Field} {name : String} {read : Node → Reading α}
    {v : Node} {a : α} (hf : (fs.find? fun f => f.name == name) = some (.required name read))
    (hv : read v = .ok a) : Admits fs name v := by
  unfold Admits
  rw [hf]
  exact Outcome.map_eq_ok_iff.2 ⟨a, hv, rfl⟩

/-! ## Fewer fields

A record with fewer fields passes over the members that only the other knows. -/

section Fewer

variable {fs fs' : List Field} {name : String} {v : Node} {seen seen' out : Fields}
  {members : List (Option String × Node)}

/-- **A record with fewer fields is read from the same members**, if those that it must have are
among them. -/
theorem exists_fields_of_admits {rname rname' : String} {closed : Bool}
    (hknows : ∀ name, Knows fs' name → Knows fs name)
    (hadmits : ∀ name v, Admits fs name v → Admits fs' name v)
    (hrequired : ∀ f ∈ fs', f.optional = true ∨ ∃ v, members.lookup (some f.name) = some v)
    (h : fields rname fs (.object members closed) = .ok seen) :
    ∃ seen', fields rname' fs' (.object members closed) = .ok seen' := by
  obtain ⟨rfl, members, rfl, hm, honce⟩ := exists_of_fields h
  obtain ⟨seen', hseen', -⟩ := exists_fields_of_once rname'
    (fun m hmem => hadmits m.1 m.2 (hm m hmem))
    (fun name hname => (honce name (hknows name hname)).1) fun f hf =>
      (hrequired f hf).imp_right fun ⟨v, hv⟩ hnil => by
        rw [lookup_map_some, lookup_eq_head?_valuesOf, hnil] at hv
        cases hv
  exact ⟨seen', hseen'⟩

theorem knows_iff : Knows fs name ↔ name ∈ fs.map Field.name := by
  rw [List.mem_map]
  constructor
  · rintro ⟨f, hf⟩
    exact ⟨f, List.mem_of_find?_eq_some hf, by simpa using List.find?_some hf⟩
  · rintro ⟨f, hf, rfl⟩
    exact knows_of_mem hf

theorem admits_of_not_knows (h : ¬ Knows fs name) (hv : v.isWhole = true) : Admits fs name v := by
  unfold Admits
  split
  · next f hf => exact absurd ⟨f, hf⟩ h
  · exact hv

theorem isWhole_of_admits (hwhole : ∀ f ∈ fs, ∀ v, f.check v = .ok () → v.isWhole = true)
    (h : Admits fs name v) : v.isWhole = true := by
  unfold Admits at h
  split at h
  · next f hf => exact hwhole f (List.mem_of_find?_eq_some hf) v h
  · exact h

end Fewer

/-! ## Values of fields -/

/-- The member of a name reads as a value. -/
def Gives {α : Type} (members : List (Option String × Node)) (name : String)
    (read : Node → Reading α) (a : α) : Prop :=
  ∃ v, members.lookup (some name) = some v ∧ read v = .ok a

theorem get_eq_ok_iff {α : Type} {seen : Fields} {name : String} {read : Node → Reading α} {a : α} :
    seen.get name read = .ok a ↔ ∃ v, seen.lookup name = some v ∧ read v = .ok a := by
  unfold Fields.get
  cases seen.lookup name <;> simp

theorem get_of_lookup {α : Type} {fs : List Field} {seen : Fields} {members : List (String × Node)}
    (hl : ∀ name, Knows fs name → seen.lookup name = members.lookup name) {name : String}
    (hk : Knows fs name) {read : Node → Reading α} {v : Node} {a : α}
    (hm : members.lookup name = some v) (hv : read v = .ok a) : seen.get name read = .ok a :=
  get_eq_ok_iff.2 ⟨v, (hl name hk).trans hm, hv⟩

theorem gives_of_get {α : Type} {rname : String} {fs : List Field}
    {members : List (Option String × Node)} {closed : Bool} {seen : Fields}
    (h : fields rname fs (.object members closed) = .ok seen) {name : String} (hk : Knows fs name)
    {read : Node → Reading α} {a : α} (ha : seen.get name read = .ok a) :
    Gives members name read a := by
  obtain ⟨v, hv, hr⟩ := get_eq_ok_iff.1 ha
  rw [(fields_object h).2 name hk] at hv
  exact ⟨v, hv, hr⟩

end Record

end Accounts.Json
