import Mathlib.Data.List.Sort
import StartOrder.NameMap

/-!
# Looking up names

The names of a map are sorted and hence distinct, so that a look-up finds exactly the entries of the
map (`NameMap.find?_eq_some_iff`), and a map is determined by what is bound in it
(`NameMap.eq_of_find?_eq`). That makes equations between maps a matter of look-ups: bindings of
different names commute, and a list of entries with distinct names makes the same map in any order.

In a list with repeated names the last entry counts. `NameMap.LastBinds` says so without the map,
for those who speak of the list.
-/

namespace StartOrder

namespace NameMap

variable {α : Type}

/-! ## Names and entries -/

theorem keys_sorted (m : NameMap α) : m.keys.Pairwise (· < ·) :=
  List.pairwise_map.mpr m.sorted

theorem keys_nodup (m : NameMap α) : m.keys.Nodup := m.keys_sorted.nodup

theorem mem_keys_iff {m : NameMap α} {name : String} :
    name ∈ m.keys ↔ ∃ value, (name, value) ∈ m.toList := by
  unfold keys
  constructor
  · intro h
    obtain ⟨⟨_, value⟩, hmem, rfl⟩ := List.mem_map.mp h
    exact ⟨value, hmem⟩
  · rintro ⟨value, hmem⟩
    exact List.mem_map.mpr ⟨(name, value), hmem, rfl⟩

/-- Entries with distinct names are found by their names. -/
theorem lookup_of_mem {entries : List (String × α)} (hnd : (entries.map (·.1)).Nodup)
    {name : String} {value : α} (h : (name, value) ∈ entries) :
    entries.lookup name = some value := by
  obtain ⟨before, after, rfl⟩ := List.append_of_mem h
  refine List.lookup_eq_some_iff.mpr ⟨before, after, rfl, fun p hp => ?_⟩
  rw [List.map_append, List.map_cons] at hnd
  have hne : p.1 ≠ name :=
    (List.nodup_append.mp hnd).2.2 p.1 (List.mem_map_of_mem hp) name List.mem_cons_self
  exact bne_iff_ne.mpr hne.symm

/-- Among entries with distinct names a look-up finds exactly the entries. -/
theorem lookup_eq_some_iff_mem {entries : List (String × α)} (hnd : (entries.map (·.1)).Nodup)
    {name : String} {value : α} :
    entries.lookup name = some value ↔ (name, value) ∈ entries := by
  constructor
  · intro h
    obtain ⟨before, after, heq, -⟩ := List.lookup_eq_some_iff.mp h
    rw [heq]
    exact List.mem_append_right _ List.mem_cons_self
  · exact lookup_of_mem hnd

/-- A look-up finds exactly the entries of a map. -/
theorem find?_eq_some_iff {m : NameMap α} {name : String} {value : α} :
    m.find? name = some value ↔ (name, value) ∈ m.toList :=
  lookup_eq_some_iff_mem m.keys_nodup

theorem mem_keys_iff_find? {m : NameMap α} {name : String} :
    name ∈ m.keys ↔ ∃ value, m.find? name = some value := by
  rw [mem_keys_iff]
  exact exists_congr fun _ => find?_eq_some_iff.symm

theorem find?_eq_none_iff {m : NameMap α} {name : String} :
    m.find? name = none ↔ name ∉ m.keys := by
  rw [mem_keys_iff_find?, Option.eq_none_iff_forall_ne_some, not_exists]

theorem contains_iff {m : NameMap α} {name : String} :
    m.contains name = true ↔ name ∈ m.keys := by
  simp [contains, keys]

/-- Sets of names with the same members are walked in the same order. -/
theorem keys_eq_of_mem_iff {β : Type} {m : NameMap α} {n : NameMap β}
    (h : ∀ name, name ∈ m.keys ↔ name ∈ n.keys) : m.keys = n.keys :=
  m.keys_sorted.eq_of_mem_iff n.keys_sorted h

/-- Maps in which the same is bound are equal. -/
theorem eq_of_find?_eq {m n : NameMap α} (h : ∀ name, m.find? name = n.find? name) : m = n := by
  have hnodup (k : NameMap α) : k.toList.Nodup := by
    refine k.sorted.imp ?_
    rintro a b hlt rfl
    exact String.lt_irrefl a.1 hlt
  -- the entries are the same in some order, and both lists are sorted
  have hperm : m.toList.Perm n.toList := (List.perm_ext_iff_of_nodup (hnodup m) (hnodup n)).mpr
    fun e => by rw [← find?_eq_some_iff, ← find?_eq_some_iff, h]
  refine ext (hperm.eq_of_pairwise (fun a b _ _ hab hba => ?_) m.sorted n.sorted)
  exact absurd (String.lt_trans hab hba) (String.lt_irrefl _)

/-- Different names can be bound in either order. -/
theorem insert_comm_of_ne (m : NameMap α) {a b : String} (hab : a ≠ b) (x y : α) :
    (m.insert a x).insert b y = (m.insert b y).insert a x := by
  refine eq_of_find?_eq fun name => ?_
  rw [find?_insert, find?_insert, find?_insert, find?_insert]
  by_cases hb : name = b
  · rw [if_pos hb, if_neg fun ha => hab (ha.symm.trans hb), if_pos hb]
  · rw [if_neg hb, if_neg hb]

/-! ## Unbinding a name -/

theorem filter_insertEntry (name : String) (value : α) (entries : List (String × α)) :
    (insertEntry name value entries).filter (·.1 != name) =
      entries.filter (·.1 != name) := by
  induction entries with
  | nil => simp [insertEntry]
  | cons entry rest ih =>
    unfold insertEntry
    split
    · simp
    · split
      · next heq => simp [heq]
      · rw [List.filter_cons, List.filter_cons, ih]

/-- A name that is bound and unbound again leaves the map as it was. -/
theorem erase_insert_of_notMem {m : NameMap α} {name : String} (value : α) (h : name ∉ m.keys) :
    (m.insert name value).erase name = m := by
  refine ext ((filter_insertEntry name value m.toList).trans (List.filter_eq_self.mpr ?_))
  intro e he
  exact bne_iff_ne.mpr fun heq => h (heq ▸ List.mem_map_of_mem he)

/-! ## Maps made from lists -/

theorem mem_keys_insertAll {entries : List (String × α)} {m : NameMap α} {name : String} :
    name ∈ (m.insertAll entries).keys ↔ name ∈ entries.map (·.1) ∨ name ∈ m.keys := by
  induction entries generalizing m with
  | nil => simp [insertAll]
  | cons e rest ih =>
    show name ∈ ((m.insert e.1 e.2).insertAll rest).keys ↔ _
    rw [ih, mem_keys_insert, List.map_cons, List.mem_cons]
    constructor
    · rintro (h | h | h)
      · exact .inl (.inr h)
      · exact .inl (.inl h)
      · exact .inr h
    · rintro ((h | h) | h)
      · exact .inr (.inl h)
      · exact .inl h
      · exact .inr (.inr h)

/-- Binding other names leaves a name as it was. -/
theorem find?_insertAll_of_notMem {entries : List (String × α)} {m : NameMap α} {name : String}
    (h : name ∉ entries.map (·.1)) : (m.insertAll entries).find? name = m.find? name := by
  induction entries generalizing m with
  | nil => rfl
  | cons e rest ih =>
    rw [List.map_cons, List.mem_cons, not_or] at h
    show ((m.insert e.1 e.2).insertAll rest).find? name = m.find? name
    rw [ih h.2, find?_insert, if_neg h.1]

/-- Entries with distinct names are all found behind their insertion. -/
theorem find?_insertAll_of_mem {entries : List (String × α)} (hnd : (entries.map (·.1)).Nodup)
    {m : NameMap α} {name : String} {value : α} (h : (name, value) ∈ entries) :
    (m.insertAll entries).find? name = some value := by
  induction entries generalizing m with
  | nil => cases h
  | cons e rest ih =>
    rw [List.map_cons, List.nodup_cons] at hnd
    show ((m.insert e.1 e.2).insertAll rest).find? name = some value
    rcases List.mem_cons.mp h with rfl | hmem
    · rw [find?_insertAll_of_notMem hnd.1, find?_insert, if_pos rfl]
    · exact ih hnd.2 hmem

theorem find?_ofList_of_mem {entries : List (String × α)} (hnd : (entries.map (·.1)).Nodup)
    {name : String} {value : α} (h : (name, value) ∈ entries) :
    (ofList entries).find? name = some value :=
  find?_insertAll_of_mem hnd h

/-- A list of entries with distinct names is looked up like the map that is made from it. -/
theorem find?_ofList {entries : List (String × α)} (hnd : (entries.map (·.1)).Nodup)
    (name : String) : (ofList entries).find? name = entries.lookup name := by
  cases h : entries.lookup name with
  | some value => exact find?_ofList_of_mem hnd ((lookup_eq_some_iff_mem hnd).mp h)
  | none =>
    refine find?_insertAll_of_notMem fun hmem => ?_
    obtain ⟨e, he, rfl⟩ := List.mem_map.mp hmem
    rw [lookup_of_mem hnd he] at h
    cases h

/-- Entries with distinct names make the same map in any order. -/
theorem ofList_perm {xs ys : List (String × α)} (hp : xs.Perm ys) (hnd : (xs.map (·.1)).Nodup) :
    ofList xs = ofList ys := by
  have hnd' : (ys.map (·.1)).Nodup := (hp.map _).nodup_iff.mp hnd
  refine eq_of_find?_eq fun name => Option.ext fun value => ?_
  rw [find?_ofList hnd, find?_ofList hnd', lookup_eq_some_iff_mem hnd, lookup_eq_some_iff_mem hnd',
    hp.mem_iff]

theorem ofList_toList (m : NameMap α) : ofList m.toList = m :=
  eq_of_find?_eq fun name => find?_ofList m.keys_nodup name

theorem mem_keys_ofList {entries : List (String × α)} {name : String} :
    name ∈ (ofList entries).keys ↔ name ∈ entries.map (·.1) := by
  unfold ofList
  rw [mem_keys_insertAll]
  exact or_iff_left List.not_mem_nil

/-! ## Entries with one name -/

/-- The last of the entries with a name has a value. -/
def LastBinds (entries : List (String × α)) (name : String) (value : α) : Prop :=
  ∃ before after, entries = before ++ (name, value) :: after ∧ name ∉ after.map (·.1)

theorem exists_lastBinds {entries : List (String × α)} {name : String}
    (h : name ∈ entries.map (·.1)) : ∃ value, LastBinds entries name value := by
  induction entries with
  | nil => cases h
  | cons e rest ih =>
    by_cases hrest : name ∈ rest.map (·.1)
    · obtain ⟨value, before, after, rfl, hafter⟩ := ih hrest
      exact ⟨value, e :: before, after, rfl, hafter⟩
    · have hname : name = e.1 := (List.mem_cons.mp h).resolve_right hrest
      exact ⟨e.2, [], rest, by rw [hname]; rfl, hrest⟩

/-- A map that is made from a list binds a name as the last entry with it does. -/
theorem find?_ofList_eq_some_iff {entries : List (String × α)} {name : String} {value : α} :
    (ofList entries).find? name = some value ↔ LastBinds entries name value := by
  have hlast {value : α} (h : LastBinds entries name value) :
      (ofList entries).find? name = some value := by
    obtain ⟨before, after, rfl, hafter⟩ := h
    unfold ofList insertAll
    rw [List.foldl_append, List.foldl_cons]
    refine (find?_insertAll_of_notMem hafter).trans ?_
    rw [find?_insert, if_pos rfl]
  refine ⟨fun h => ?_, hlast⟩
  -- a name that is bound is in the list, hence has a last entry, and that is the one found
  have hmem : name ∈ entries.map (·.1) :=
    mem_keys_ofList.mp (mem_keys_iff_find?.mpr ⟨value, h⟩)
  obtain ⟨other, hother⟩ := exists_lastBinds hmem
  rw [hlast hother] at h
  exact Option.some.inj h ▸ hother

theorem LastBinds.mem {entries : List (String × α)} {name : String} {value : α}
    (h : LastBinds entries name value) : (name, value) ∈ entries := by
  obtain ⟨before, after, rfl, -⟩ := h
  exact List.mem_append_right _ List.mem_cons_self

theorem map_fst_eq_of_forall₂ {β : Type} {R : α → β → Prop} {xs : List (String × α)}
    {ys : List (String × β)} (h : List.Forall₂ (fun x y => x.1 = y.1 ∧ R x.2 y.2) xs ys) :
    xs.map (·.1) = ys.map (·.1) := by
  induction h with
  | nil => rfl
  | cons hxy _ ih => rw [List.map_cons, List.map_cons, ih, hxy.1]

/-- Entries under the same names, one by one, have related values where they are the last. -/
theorem LastBinds.of_forall₂ {β : Type} {R : α → β → Prop} {xs : List (String × α)}
    {ys : List (String × β)} (h : List.Forall₂ (fun x y => x.1 = y.1 ∧ R x.2 y.2) xs ys)
    {name : String} {a : α} (ha : LastBinds xs name a) : ∃ b, LastBinds ys name b ∧ R a b := by
  obtain ⟨before, after, rfl, hafter⟩ := ha
  induction before generalizing ys with
  | nil =>
    obtain ⟨y, ys, hy, hrest, rfl⟩ := List.forall₂_cons_left_iff.mp h
    have hname : name = y.1 := hy.1
    exact ⟨y.2, ⟨[], ys, by rw [List.nil_append, hname], map_fst_eq_of_forall₂ hrest ▸ hafter⟩,
      hy.2⟩
  | cons x rest ih =>
    obtain ⟨y, ys, -, hrest, rfl⟩ := List.forall₂_cons_left_iff.mp h
    obtain ⟨b, ⟨before, after', rfl, hafter'⟩, hb⟩ := ih hrest
    exact ⟨b, ⟨y :: before, after', rfl, hafter'⟩, hb⟩

end NameMap

theorem NameSet.add_comm_of_ne (s : NameSet) {a b : String} (hab : a ≠ b) :
    (s.add b).add a = (s.add a).add b :=
  NameMap.insert_comm_of_ne s hab.symm () ()

/-- A set that is made from a list has the members of the list. -/
theorem NameSet.mem_keys_ofNames {names : List String} {name : String} :
    name ∈ (NameSet.ofNames names).keys ↔ name ∈ names := by
  rw [ofNames, NameMap.mem_keys_ofList, List.map_map]
  simp [Function.comp_def]

end StartOrder
