/-!
# Maps in the order of their names

A finite map from names to values that is always walked in ascending order of the names, by code
point. The entries are kept sorted and without repetition, and the proof of that is part of the map,
so two maps with the same entries are equal and every walk over a map can be repeated. A later
binding of a name replaces an earlier one.
-/

namespace StartOrder

/-- A finite map from names to values, with its entries in ascending order of the names. -/
structure NameMap (α : Type) where
  /-- The entries in ascending order of the names. -/
  toList : List (String × α) := []
  /-- Each entry stands before all those with a greater name. -/
  sorted : toList.Pairwise (fun a b => a.1 < b.1) := by simp

namespace NameMap

variable {α β : Type}

instance : EmptyCollection (NameMap α) := ⟨⟨[], List.Pairwise.nil⟩⟩

instance : Inhabited (NameMap α) := ⟨∅⟩

@[ext] theorem ext {m n : NameMap α} (h : m.toList = n.toList) : m = n := by
  cases m; cases n; simp_all

instance [DecidableEq α] : DecidableEq (NameMap α) := fun m n =>
  if h : m.toList = n.toList then isTrue (ext h) else isFalse fun e => h (congrArg toList e)

/-- The names in ascending order. -/
def keys (m : NameMap α) : List String := m.toList.map (·.1)

@[simp] theorem keys_empty : (∅ : NameMap α).keys = [] := rfl

/-- The number of entries. -/
def size (m : NameMap α) : Nat := m.toList.length

/-- Whether there is no entry. -/
def isEmpty (m : NameMap α) : Bool := m.toList.isEmpty

/-- The value bound to a name. -/
def find? (m : NameMap α) (name : String) : Option α := m.toList.lookup name

/-- Whether a name is bound. -/
def contains (m : NameMap α) (name : String) : Bool := m.toList.any (·.1 == name)

/-! ## Binding a name -/

/-- Put an entry into its place among sorted entries, over one with the same name. -/
def insertEntry (name : String) (value : α) : List (String × α) → List (String × α)
  | [] => [(name, value)]
  | entry :: rest =>
    if name < entry.1 then (name, value) :: entry :: rest
    else if name = entry.1 then (name, value) :: rest
    else entry :: insertEntry name value rest

theorem mem_insertEntry {name : String} {value : α} {entries : List (String × α)}
    {e : String × α} (h : e ∈ insertEntry name value entries) :
    e = (name, value) ∨ e ∈ entries := by
  induction entries with
  | nil => exact .inl (List.mem_singleton.mp h)
  | cons entry rest ih =>
    unfold insertEntry at h
    split at h
    · rcases List.mem_cons.mp h with heq | hmem
      · exact .inl heq
      · exact .inr hmem
    · split at h
      · rcases List.mem_cons.mp h with heq | hmem
        · exact .inl heq
        · exact .inr (List.mem_cons_of_mem _ hmem)
      · rcases List.mem_cons.mp h with rfl | hmem
        · exact .inr List.mem_cons_self
        · rcases ih hmem with heq | hrest
          · exact .inl heq
          · exact .inr (List.mem_cons_of_mem _ hrest)

theorem lt_of_not_lt_of_ne {a b : String} (h : ¬a < b) (hne : a ≠ b) : b < a :=
  Decidable.byContradiction fun h' =>
    hne (String.le_antisymm (String.not_lt.mp h') (String.not_lt.mp h))

theorem sorted_insertEntry {name : String} {value : α} {entries : List (String × α)}
    (h : entries.Pairwise (fun a b => a.1 < b.1)) :
    (insertEntry name value entries).Pairwise (fun a b => a.1 < b.1) := by
  induction entries with
  | nil => simp [insertEntry]
  | cons entry rest ih =>
    have hrest := List.pairwise_cons.mp h
    unfold insertEntry
    split
    · next hlt =>
      refine List.pairwise_cons.mpr ⟨fun e he => ?_, h⟩
      rcases List.mem_cons.mp he with rfl | he
      · exact hlt
      · exact String.lt_trans hlt (hrest.1 e he)
    · next hlt =>
      split
      · next heq => exact List.pairwise_cons.mpr ⟨fun e he => heq ▸ hrest.1 e he, hrest.2⟩
      · next hne =>
        refine List.pairwise_cons.mpr ⟨fun e he => ?_, ih hrest.2⟩
        rcases mem_insertEntry he with rfl | he
        · exact lt_of_not_lt_of_ne hlt hne
        · exact hrest.1 e he

/-- Bind a name, replacing what it was bound to. -/
def insert (m : NameMap α) (name : String) (value : α) : NameMap α where
  toList := insertEntry name value m.toList
  sorted := sorted_insertEntry m.sorted

/-- Unbind a name. -/
def erase (m : NameMap α) (name : String) : NameMap α where
  toList := m.toList.filter (·.1 != name)
  sorted := m.sorted.filter _

/-- Bind the entries of a list from left to right, behind those of a map; of two entries with one
name the later wins. -/
def insertAll (m : NameMap α) (entries : List (String × α)) : NameMap α :=
  entries.foldl (fun m e => m.insert e.1 e.2) m

/-- The map with the entries of a list. -/
def ofList (entries : List (String × α)) : NameMap α := insertAll ∅ entries

/-- Change every value, keeping its name. -/
def map (f : String → α → β) (m : NameMap α) : NameMap β where
  toList := m.toList.map fun e => (e.1, f e.1 e.2)
  sorted := List.pairwise_map.mpr m.sorted

theorem lookup_cons_eq_ite (entry : String × α) (rest : List (String × α)) (other : String) :
    (entry :: rest).lookup other = if other = entry.1 then some entry.2 else rest.lookup other := by
  rw [List.lookup_cons]
  by_cases h : other = entry.1
  · rw [if_pos h, beq_iff_eq.mpr h]
  · rw [if_neg h, beq_eq_false_iff_ne.mpr h]

theorem lookup_insertEntry (name : String) (value : α) (entries : List (String × α))
    (other : String) :
    (insertEntry name value entries).lookup other =
      if other = name then some value else entries.lookup other := by
  induction entries with
  | nil => exact lookup_cons_eq_ite (name, value) [] other
  | cons entry rest ih =>
    unfold insertEntry
    split
    · exact lookup_cons_eq_ite (name, value) (entry :: rest) other
    · split
      · next heq =>
        -- the entry that is replaced has the same name, and is not found any more
        rw [lookup_cons_eq_ite, lookup_cons_eq_ite, ← heq]
        by_cases h : other = name
        · rw [if_pos h, if_pos h]
        · rw [if_neg h, if_neg h, if_neg h]
      · next hne =>
        rw [lookup_cons_eq_ite, ih, lookup_cons_eq_ite]
        by_cases h : other = entry.1
        · have hother : other ≠ name := fun heq => hne (heq.symm.trans h)
          rw [if_pos h, if_neg hother, if_pos h]
        · rw [if_neg h, if_neg h]

/-- A binding is found under its own name and disturbs no other. -/
theorem find?_insert (m : NameMap α) (name : String) (value : α) (other : String) :
    (m.insert name value).find? other = if other = name then some value else m.find? other :=
  lookup_insertEntry name value m.toList other

theorem mem_map_fst_insertEntry {name : String} {value : α} {entries : List (String × α)}
    {other : String} :
    other ∈ (insertEntry name value entries).map (·.1) ↔
      other = name ∨ other ∈ entries.map (·.1) := by
  induction entries with
  | nil => simp [insertEntry]
  | cons entry rest ih =>
    unfold insertEntry
    split
    · simp
    · split
      · next heq => simp [heq]
      · rw [List.map_cons, List.mem_cons, ih, List.map_cons, List.mem_cons]
        exact or_left_comm

/-- Binding a name adds it to the names and removes none. -/
theorem mem_keys_insert {m : NameMap α} {name : String} {value : α} {other : String} :
    other ∈ (m.insert name value).keys ↔ other = name ∨ other ∈ m.keys :=
  mem_map_fst_insertEntry

end NameMap

/-! ## Sets of names -/

/-- A finite set of names in ascending order. -/
abbrev NameSet := NameMap Unit

namespace NameSet

/-- The set of the names in a list. -/
def ofNames (names : List String) : NameSet := NameMap.ofList (names.map fun n => (n, ()))

/-- Add a name. -/
def add (s : NameSet) (name : String) : NameSet := NameMap.insert s name ()

end NameSet

end StartOrder
