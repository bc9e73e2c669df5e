import Accounts.Proofs.Settings.Known

/-!
# One variable with another value

What is loaded where one variable of the environment has another value: the trees of the layers are
the same but for the setting of the variable, whatever the file holds and whatever other variables
there are that are clear of it.

* `Tree.valueAt_putKey_congr`: what a put leaves in a field depends on this field alone;
* `Tree.AgreeOff`: two trees are the same but for what stands under a name in the table of a
  section; `Tree.AgreeOff.lay`: a layer that is clear of this name keeps the rest the same;
* **`exists_merged_of_variable`**: the trees of the layers for two values of a variable.
-/

namespace Accounts.Settings

open KeyPath

namespace Tree

variable {here here' : Entries} {table name n : String} {t t' u : Tree} {layer : Entries}

/-! ## What a put depends on -/

theorem tableAt_congr (h : here'.lookup n = here.lookup n) : tableAt here' n = tableAt here n := by
  rw [tableAt, h, tableAt]

theorem lookup_put_congr {m : String} (h : here'.lookup m = here.lookup m) (n : String) (u : Tree) :
    (put here' n u).lookup m = (put here n u).lookup m := by
  by_cases hm : m = Text.lowercase n
  · subst hm
    cases u with
    | table es origin =>
      cases es with
      | nil => rw [put, put, lookup_setEntry_self, lookup_setEntry_self, tableAt_congr h]
      | cons e es => rw [put, put, lookup_setEntry_self, lookup_setEntry_self, tableAt_congr h]
    | scalar value origin => rw [put, put, lookup_setEntry_self, lookup_setEntry_self] <;> simp
    | list items origin => rw [put, put, lookup_setEntry_self, lookup_setEntry_self] <;> simp
  · rw [lookup_put_of_ne hm, lookup_put_of_ne hm, h]

theorem lookup_setEntry_congr {m : String} {u' : Tree} (h : here'.lookup m = here.lookup m)
    (hu : m = n → u' = u) :
    (setEntry n u' here').lookup m = (setEntry n u here).lookup m := by
  by_cases hm : m = n
  · subst hm
    rw [lookup_setEntry_self, lookup_setEntry_self, hu rfl]
  · rw [lookup_setEntry_of_ne hm, lookup_setEntry_of_ne hm, h]

theorem lookup_putKey_congr (h : here'.lookup n = here.lookup n) (key : String) (u : Tree) :
    (putKey here' key u).lookup n = (putKey here key u).lookup n := by
  unfold putKey
  cases parse? key with
  | none => exact lookup_put_congr h key u
  | some path =>
    obtain ⟨first, steps⟩ := path
    cases steps with
    | nil => exact lookup_put_congr h first u
    | cons step steps =>
      refine lookup_setEntry_congr h ?_
      rintro rfl
      rw [h]

theorem valueAt_putKey_congr {key : String} (hclear : isClear key table name = true)
    (h : valueAt here' table n = valueAt here table n) (u : Tree) :
    valueAt (putKey here' key u) table n = valueAt (putKey here key u) table n := by
  unfold isClear at hclear
  unfold putKey
  cases hpath : parse? key with
  | none =>
    simp only [hpath, bne_iff_ne] at hclear
    rw [valueAt_put_of_ne hclear, valueAt_put_of_ne hclear, h]
  | some path =>
    obtain ⟨first, steps⟩ := path
    -- below its first name a path changes the table that stands there, if it is the one looked at
    have hbelow (v v' : Tree)
        (hv : first = table → v'.entries.lookup n = v.entries.lookup n) :
        valueAt (setEntry first v' here') table n = valueAt (setEntry first v here) table n := by
      by_cases hfirst : first = table
      · subst hfirst
        rw [valueAt_setEntry_self, valueAt_setEntry_self]
        exact hv rfl
      · rw [valueAt_setEntry_of_ne (Ne.symm hfirst), valueAt_setEntry_of_ne (Ne.symm hfirst), h]
    have hfield (hfirst : first = table) :
        ((here'.lookup first).getD default).entries.lookup n =
          ((here.lookup first).getD default).entries.lookup n := by
      rw [lookup_entries_getD, lookup_entries_getD, hfirst, h]
    match steps with
    | [] =>
      simp only [hpath, bne_iff_ne] at hclear
      exact (valueAt_put_of_ne hclear u).trans (h.trans (valueAt_put_of_ne hclear u).symm)
    | [.name m] =>
      exact hbelow _ _ fun hfirst => lookup_put_congr (hfield hfirst) m u
    | .name m :: step :: steps =>
      refine hbelow _ _ fun hfirst => lookup_setEntry_congr (hfield hfirst) ?_
      rintro rfl
      rw [hfield hfirst]
    | .index i :: steps =>
      simp only [hpath, bne_iff_ne] at hclear
      exact hbelow _ _ fun hfirst => absurd hfirst hclear

/-! ## Trees that are the same but for one setting -/

/-- Two trees are the same but for what stands under a name in the table of a section. -/
structure AgreeOff (table name : String) (here here' : Entries) : Prop where
  sections : ∀ n, n ≠ table → here'.lookup n = here.lookup n
  fields : ∀ n, n ≠ name → valueAt here' table n = valueAt here table n

theorem AgreeOff.putKey {key : String} (h : AgreeOff table name here here')
    (hclear : isClear key table name = true) (u : Tree) :
    AgreeOff table name (putKey here key u) (putKey here' key u) :=
  ⟨fun n hn => lookup_putKey_congr (h.sections n hn) key u,
    fun n hn => valueAt_putKey_congr hclear (h.fields n hn) u⟩

theorem AgreeOff.lay (h : AgreeOff table name here here')
    (hclear : ∀ e ∈ layer, isClear e.1 table name = true) :
    AgreeOff table name (lay here layer) (lay here' layer) := by
  induction layer generalizing here here' with
  | nil => exact h
  | cons e layer ih =>
    obtain ⟨he, hlayer⟩ := List.forall_mem_cons.1 hclear
    exact ih (h.putKey he e.2) hlayer

theorem valueAt_lay_of_isClear (hclear : ∀ e ∈ layer, isClear e.1 table name = true) :
    valueAt (lay here layer) table name = valueAt here table name := by
  induction layer generalizing here with
  | nil => rfl
  | cons e layer ih =>
    obtain ⟨he, hlayer⟩ := List.forall_mem_cons.1 hclear
    exact (ih hlayer).trans (valueAt_putKey_of_isClear he e.2)

theorem agreeOff_putKey_dotted (htable : IsName table) (hname : IsName name)
    (ht : t.isTable = false) (ht' : t'.isTable = false) :
    AgreeOff table name (putKey here (dotted table name) t)
      (putKey here (dotted table name) t') := by
  simp only [putKey, parse?_dotted htable hname, putAt, change, put_of_not_table ht hname.low,
    put_of_not_table ht' hname.low]
  refine ⟨fun n hn => ?_, fun n hn => ?_⟩
  · rw [lookup_setEntry_of_ne hn, lookup_setEntry_of_ne hn]
  · rw [valueAt_setEntry_self, valueAt_setEntry_self]
    exact (lookup_setEntry_of_ne hn _ _).trans (lookup_setEntry_of_ne hn _ _).symm

end Tree

/-! ## The layers -/

variable {file : Option SettingsFile} {before after : List (String × String)} {var v₀ : String}
  {table name : String} {here₀ : Tree.Entries}

/-- No variable but one is about a setting. -/
def Environment.IsAlone (others : List (String × String)) (table name : String) : Prop :=
  ∀ e ∈ others, ∀ key ∈ Environment.key? e.1, KeyPath.isClear key table name = true

theorem isClear_of_isAlone (h : Environment.IsAlone after table name) :
    ∀ e ∈ Environment.settings after, isClear e.1 table name = true := by
  intro e he
  obtain ⟨x, hx, hsetting⟩ := List.mem_filterMap.1 he
  obtain ⟨key, hkey, rfl⟩ := Option.map_eq_some_iff.1 hsetting
  exact h x hx key hkey

theorem exists_merged_eq (file : Option SettingsFile) : ∃ below : Option Tree.Entries,
    ∀ environment, merged? file environment =
      below.map fun here => Tree.lay here (Environment.settings environment) := by
  cases file with
  | none => exact ⟨some (Tree.lay builtInTree []), fun _ => rfl⟩
  | some f =>
    refine ⟨(Toml.parse? f.text).map fun entries =>
      Tree.lay builtInTree (Tree.ofTomlEntries f.name entries), fun _ => ?_⟩
    simp only [merged?]
    cases Toml.parse? f.text with
    | none => rfl
    | some entries => rfl

/-- **The trees of the layers for two values of a variable** are the same but for its setting, which
is what each value is taken for. -/
theorem exists_merged_of_variable (htable : IsName table) (hname : IsName name)
    (hvar : Environment.key? var = some (dotted table name))
    (halone : Environment.IsAlone (before ++ after) table name)
    (hmerged : merged? file (before ++ (var, v₀) :: after) = some here₀) (v : String) :
    Tree.valueAt here₀ table name =
        some (.scalar (Scalar.ofText v₀) (some Environment.origin)) ∧
      ∃ here, merged? file (before ++ (var, v) :: after) = some here ∧
        Tree.AgreeOff table name here₀ here ∧
        Tree.valueAt here table name =
          some (.scalar (Scalar.ofText v) (some Environment.origin)) := by
  have hclear := isClear_of_isAlone fun e he => halone e (List.mem_append_right before he)
  have hlayer (w : String) : Environment.settings (before ++ (var, w) :: after) =
      Environment.settings before ++
        (dotted table name, .scalar (Scalar.ofText w) (some Environment.origin)) ::
          Environment.settings after := by
    unfold Environment.settings
    rw [List.filterMap_append, List.filterMap_cons]
    simp only [hvar, Option.map_some]
  obtain ⟨below, hbelow⟩ := exists_merged_eq file
  rw [hbelow] at hmerged ⊢
  obtain ⟨here, rfl, rfl⟩ := Option.map_eq_some_iff.1 hmerged
  have hlaid (here : Tree.Entries) (w : String) :
      Tree.lay here (Environment.settings (before ++ (var, w) :: after)) =
        Tree.lay (Tree.putKey (Tree.lay here (Environment.settings before)) (dotted table name)
          (.scalar (Scalar.ofText w) (some Environment.origin))) (Environment.settings after) := by
    rw [hlayer, Tree.lay, List.foldl_append, List.foldl_cons]
    rfl
  have hvalue (here : Tree.Entries) (w : String) :
      Tree.valueAt (Tree.lay here (Environment.settings (before ++ (var, w) :: after))) table name =
        some (.scalar (Scalar.ofText w) (some Environment.origin)) := by
    rw [hlaid, Tree.valueAt_lay_of_isClear hclear]
    exact Tree.valueAt_putKey_dotted htable hname rfl
  refine ⟨hvalue here v₀, _, rfl, ?_, hvalue here v⟩
  dsimp only
  rw [hlaid, hlaid]
  exact (Tree.agreeOff_putKey_dotted htable hname rfl rfl).lay hclear

end Accounts.Settings
