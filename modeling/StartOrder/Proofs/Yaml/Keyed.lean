import StartOrder.Proofs.Yaml.Records

/-!
# What becomes of the entries of a record

A record that is read has taken each of its entries: a known field holds what its only entry says,
or what it is without one, and the keys that are not known are noted one and all. So a record says
nothing that stands in no entry, and no entry is lost.

Both halves are stated of one view of a record at a time. `Meanings.IsField` is a view that one key
sets and all others leave alone; it is then settled by cases on whether the key is there
(`Meanings.IsField.cases`). `Meanings.Notes` is a set that known fields leave alone and every other
key joins; it is settled by induction along the entries (`Meanings.Notes.mem_keys_iff`). What is
needed of the entries for that is only the texts of their keys, so the mapping is first replaced by
its entries by name, `Node.keyed`.
-/

namespace StartOrder.Yaml

variable {σ α β : Type}

/-! ## Entries by name -/

/-- The entries of a mapping whose keys are scalars, under the texts of their keys. -/
def Node.keyed (n : Node) : List (String × Node) :=
  (n.entries?.getD []).filterMap fun e => e.1.text?.map (·, e.2)

/-- All keys of a mapping are scalars, so that no entry is without a name. -/
def Node.AllKeyed (n : Node) : Prop := ∀ e ∈ n.entries?.getD [], e.1.text?.isSome

/-- Null has no entries. -/
theorem Node.entries?_getD_of_isNull {n : Node} (h : n.isNull) : n.entries?.getD [] = [] := by
  rcases n with ⟨p, tag, style, text⟩ | _ | _
  · rw [show (Node.scalar p tag style text).entries? =
      if (Node.scalar p tag style text).isBlank then some [] else none from rfl]
    split <;> rfl
  · cases h
  · cases h

/-- The changes of a meaning leave alone what is seen of a record in one view. -/
def Meaning.Keeps (p : Meaning σ) (view : σ → α) : Prop :=
  ∀ n f, p n = some f → ∀ x, view (f x) = view x

/-- Setting one field leaves another alone. -/
theorem Meaning.sets_keeps {reading : Node → Option β} {set : σ → β → σ} {view : σ → α}
    (h : ∀ x b, view (set x b) = view x) : (sets reading set).Keeps view := by
  intro n f hf x
  obtain ⟨b, -, rfl⟩ := Option.map_eq_some_iff.mp hf
  exact h x b

/-- A tree that is let through and says nothing makes one change, whatever it is. -/
theorem Meaning.eq_of_sets_unit {reading : Node → Option Unit} {set : σ → Unit → σ} {n n' : Node}
    {f g : σ → σ} (hf : sets reading set n = some f) (hg : sets reading set n' = some g) :
    f = g := by
  obtain ⟨_, -, rfl⟩ := Option.map_eq_some_iff.mp hf
  obtain ⟨_, -, rfl⟩ := Option.map_eq_some_iff.mp hg
  rfl

namespace Meanings

variable {m : Meanings σ}

/-- The record that entries make of another, by the texts of their keys. -/
def foldKeyed (m : Meanings σ) (x : σ) (keyed : List (String × Node)) : Option σ :=
  keyed.foldlM (fun x e => (m.under e.1 e.2).map (· x)) x

theorem foldKeyed_cons (m : Meanings σ) (x : σ) (e : String × Node) (rest : List (String × Node)) :
    m.foldKeyed x (e :: rest) = (m.under e.1 e.2).bind fun f => m.foldKeyed (f x) rest := by
  unfold foldKeyed
  rw [List.foldlM_cons]
  cases m.under e.1 e.2 <;> rfl

theorem foldKeyed_append (m : Meanings σ) (x : σ) (xs ys : List (String × Node)) :
    m.foldKeyed x (xs ++ ys) = (m.foldKeyed x xs).bind fun y => m.foldKeyed y ys :=
  List.foldlM_append

/-- Where entries make a record, all their keys have texts, and the texts are all that matters. -/
theorem foldKeyed_of_fold {entries : List (Node × Node)} {x y : σ}
    (h : m.fold x entries = some y) :
    m.foldKeyed x (entries.filterMap fun e => e.1.text?.map (·, e.2)) = some y := by
  induction entries generalizing x with
  | nil => exact h
  | cons e rest ih =>
    rw [fold_cons] at h
    obtain ⟨f, hf, hrest⟩ := Option.bind_eq_some_iff.mp h
    obtain ⟨name, hname, hunder⟩ := Option.bind_eq_some_iff.mp hf
    rw [List.filterMap_cons, hname]
    show m.foldKeyed x ((name, e.2) :: _) = _
    rw [foldKeyed_cons, hunder]
    exact ih hrest

/-- The keys of a record that is read are scalars. -/
theorem allKeyed_of_record? {absent x : σ} {n : Node} (h : m.record? absent n = some x) :
    n.AllKeyed := by
  obtain ⟨entries, hentries, h⟩ := Option.bind_eq_some_iff.mp h
  intro e he
  rw [hentries, Option.getD_some] at he
  split at h
  · rw [fold_eq] at h
    split at h
    · next hchange =>
      obtain ⟨f, hf⟩ := Option.isSome_iff_exists.mp (hchange e he)
      obtain ⟨name, hname, -⟩ := Option.bind_eq_some_iff.mp hf
      rw [hname, Option.isSome_some]
    · cases h
  · cases h

theorem given_eq_filter (m : Meanings σ) (entries : List (Node × Node)) :
    m.given entries =
      ((entries.filterMap fun e => e.1.text?.map (·, e.2)).map (·.1)).filter m.knows := by
  unfold given
  rw [List.map_filterMap, List.filter_filterMap]
  congr 1
  funext e
  cases e.1.text? <;> rfl

/-- A record is made by its entries one after another, among which no known field is given twice. -/
theorem foldKeyed_of_record? {absent x : σ} {n : Node} (h : m.record? absent n = some x) :
    ((n.keyed.map (·.1)).filter m.knows).Nodup ∧ m.foldKeyed absent n.keyed = some x := by
  obtain ⟨entries, hentries, h⟩ := Option.bind_eq_some_iff.mp h
  have hkeyed : n.keyed = entries.filterMap fun e => e.1.text?.map (·, e.2) := by
    rw [Node.keyed, hentries, Option.getD_some]
  rw [hkeyed, ← given_eq_filter]
  split at h
  · next hnodup => exact ⟨hnodup, foldKeyed_of_fold h⟩
  · cases h

/-- Entries that leave a view alone one by one leave it alone together. -/
theorem view_foldKeyed {view : σ → α} {keyed : List (String × Node)} {x y : σ}
    (hkeeps : ∀ e ∈ keyed, (m.under e.1).Keeps view) (h : m.foldKeyed x keyed = some y) :
    view y = view x := by
  induction keyed generalizing x with
  | nil => rw [Option.some.inj h]
  | cons e rest ih =>
    obtain ⟨hfirst, hrest⟩ := List.forall_mem_cons.mp hkeeps
    rw [foldKeyed_cons] at h
    obtain ⟨f, hf, h⟩ := Option.bind_eq_some_iff.mp h
    rw [ih hrest h, hfirst e.2 f hf x]

/-! ## Known fields -/

theorem knows_iff {name : String} : m.knows name ↔ name ∈ m.fields.map (·.1) := by
  rw [knows, List.lookup_isSome_iff]
  constructor
  · rintro ⟨f, hf, heq⟩
    exact beq_iff_eq.mp heq ▸ List.mem_map_of_mem hf
  · intro h
    obtain ⟨f, hf, rfl⟩ := List.mem_map.mp h
    exact ⟨f, hf, beq_self_eq_true _⟩

/-- A field of a record: it holds what stands under its name, and is left alone by other entries. -/
structure IsField (m : Meanings σ) (name : String) (reading : Node → Option α) (view : σ → α) :
    Prop where
  known : m.knows name
  reads : ∀ n f, m.under name n = some f → ∃ a, reading n = some a ∧ ∀ x, view (f x) = a
  others : ∀ other, other ≠ name → (m.under other).Keeps view

/-- A field that is set under its name, among others that set something else. -/
theorem isField_of_sets {name : String} {reading : Node → Option α} {set : σ → α → σ}
    {view : σ → α} (hname : m.fields.lookup name = some (.sets reading set))
    (hset : ∀ x a, view (set x a) = a) (hfields : ∀ f ∈ m.fields, f.1 = name ∨ f.2.Keeps view)
    (hother : ∀ other, (m.other other).Keeps view) : m.IsField name reading view where
  known := by rw [knows, hname, Option.isSome_some]
  reads n f hf := by
    rw [under, hname] at hf
    obtain ⟨a, ha, rfl⟩ := Option.map_eq_some_iff.mp hf
    exact ⟨a, ha, fun x => hset x a⟩
  others other hne := by
    unfold under
    cases hlookup : m.fields.lookup other with
    | none => exact hother other
    | some p => exact (hfields _ (mem_fields_of_lookup hlookup)).resolve_left hne

/-- A field of a record that is read has no entry and is as it is without one, or has one entry and
holds what that says. -/
theorem IsField.cases {name : String} {reading : Node → Option α} {view : σ → α}
    (hfield : m.IsField name reading view) {absent x : σ} {n : Node}
    (h : m.record? absent n = some x) :
    (name ∉ n.keyed.map (·.1) ∧ view x = view absent) ∨
      ∃ before value after, n.keyed = before ++ (name, value) :: after ∧
        name ∉ before.map (·.1) ∧ name ∉ after.map (·.1) ∧ reading value = some (view x) := by
  obtain ⟨hnodup, hfold⟩ := foldKeyed_of_record? h
  generalize n.keyed = keyed at hnodup hfold ⊢
  have hkeeps {entries : List (String × Node)} (hnot : name ∉ entries.map (·.1)) :
      ∀ e ∈ entries, (m.under e.1).Keeps view := fun e he =>
    hfield.others e.1 fun heq => hnot (heq ▸ List.mem_map_of_mem he)
  by_cases hmem : name ∈ keyed.map (·.1)
  · obtain ⟨e, he, rfl⟩ := List.mem_map.mp hmem
    obtain ⟨before, after, rfl⟩ := List.append_of_mem he
    rw [List.map_append, List.map_cons, List.filter_append, List.filter_cons_of_pos hfield.known]
      at hnodup
    -- the name is known, and no known name is given twice
    obtain ⟨-, hafter, hboth⟩ := List.nodup_append.mp hnodup
    have hbefore : e.1 ∉ before.map (·.1) := fun hb =>
      hboth e.1 (List.mem_filter.mpr ⟨hb, hfield.known⟩) e.1 List.mem_cons_self rfl
    have hafter : e.1 ∉ after.map (·.1) := fun ha =>
      (List.nodup_cons.mp hafter).1 (List.mem_filter.mpr ⟨ha, hfield.known⟩)
    rw [foldKeyed_append, Option.bind_eq_some_iff] at hfold
    obtain ⟨y, -, hfold⟩ := hfold
    rw [foldKeyed_cons] at hfold
    obtain ⟨f, hf, hfold⟩ := Option.bind_eq_some_iff.mp hfold
    obtain ⟨a, ha, hview⟩ := hfield.reads e.2 f hf
    refine .inr ⟨before, e.2, after, rfl, hbefore, hafter, ?_⟩
    rw [ha, view_foldKeyed (hkeeps hafter) hfold, hview]
  · exact .inl ⟨hmem, view_foldKeyed (hkeeps hmem) hfold⟩

/-- A field that has an entry holds what that says. -/
theorem IsField.reading_of_mem {name : String} {reading : Node → Option α} {view : σ → α}
    (hfield : m.IsField name reading view) {absent x : σ} {n value : Node}
    (h : m.record? absent n = some x) (hmem : (name, value) ∈ n.keyed) :
    reading value = some (view x) := by
  rcases hfield.cases h with ⟨hnot, -⟩ | ⟨before, value', after, heq, hbefore, hafter, hread⟩
  · exact absurd (List.mem_map_of_mem hmem) hnot
  · rw [heq, List.mem_append, List.mem_cons] at hmem
    rcases hmem with hmem | heq | hmem
    · exact absurd (List.mem_map_of_mem hmem) hbefore
    · cases heq
      exact hread
    · exact absurd (List.mem_map_of_mem hmem) hafter

/-! ## Keys that are not known -/

/-- The keys that a record does not know are noted in a set, which known fields leave alone. -/
structure Notes (m : Meanings σ) (noted : σ → NameSet) : Prop where
  fields : ∀ f ∈ m.fields, f.2.Keeps noted
  other : ∀ name n f, m.other name n = some f → ∀ x, noted (f x) = (noted x).add name

/-- What an entry notes. -/
theorem Notes.mem_keys_change {noted : σ → NameSet} (hnotes : m.Notes noted) {name : String}
    {n : Node} {f : σ → σ} (hf : m.under name n = some f) (x : σ) {key : String} :
    key ∈ (noted (f x)).keys ↔ (key = name ∧ ¬m.knows name) ∨ key ∈ (noted x).keys := by
  unfold under at hf
  rw [knows]
  cases hlookup : m.fields.lookup name with
  | some p =>
    rw [hlookup] at hf
    rw [hnotes.fields _ (mem_fields_of_lookup hlookup) n f hf x]
    simp
  | none =>
    rw [hlookup] at hf
    rw [hnotes.other name n f hf x, NameSet.add, NameMap.mem_keys_insert]
    simp

/-- A record that is read notes exactly the keys of its entries that it does not know. -/
theorem Notes.mem_keys_iff {noted : σ → NameSet} (hnotes : m.Notes noted) {absent x : σ} {n : Node}
    (h : m.record? absent n = some x) {key : String} :
    key ∈ (noted x).keys ↔
      (key ∈ n.keyed.map (·.1) ∧ ¬m.knows key) ∨ key ∈ (noted absent).keys := by
  replace h := (foldKeyed_of_record? h).2
  generalize n.keyed = keyed at h ⊢
  -- entry by entry, from the first on; what is noted before stays
  induction keyed generalizing absent with
  | nil => simp [← Option.some.inj h]
  | cons e rest ih =>
    rw [foldKeyed_cons] at h
    obtain ⟨f, hf, hrest⟩ := Option.bind_eq_some_iff.mp h
    refine (ih hrest).trans ?_
    rw [hnotes.mem_keys_change hf, List.map_cons, List.mem_cons]
    constructor
    · rintro (⟨hmem, hknows⟩ | ⟨rfl, hknows⟩ | hmem)
      · exact .inl ⟨.inr hmem, hknows⟩
      · exact .inl ⟨.inl rfl, hknows⟩
      · exact .inr hmem
    · rintro (⟨rfl | hmem, hknows⟩ | hmem)
      · exact .inr (.inl ⟨rfl, hknows⟩)
      · exact .inl ⟨hmem, hknows⟩
      · exact .inr (.inr hmem)

/-! ## Values that make no difference -/

/-- Records are the same if the values of their known fields make the same changes, one by one, and
the values under other keys make no difference. -/
theorem record?_eq_of_forall₂
    (hother : ∀ name n n' f g, m.other name n = some f → m.other name n' = some g → f = g)
    {absent x y : σ} {n n' : Node}
    (hall : List.Forall₂ (fun a b => a.1 = b.1 ∧ (m.knows a.1 → ∀ f g,
      m.under a.1 a.2 = some f → m.under a.1 b.2 = some g → f = g)) n.keyed n'.keyed)
    (hx : m.record? absent n = some x) (hy : m.record? absent n' = some y) : x = y := by
  replace hx := (foldKeyed_of_record? hx).2
  replace hy := (foldKeyed_of_record? hy).2
  generalize n.keyed = xs, n'.keyed = ys at hall hx hy
  induction hall generalizing absent with
  | nil => exact Option.some.inj (hx.symm.trans hy)
  | @cons a b _ _ hab _ ih =>
    obtain ⟨hname, hknown⟩ := hab
    rw [foldKeyed_cons] at hx hy
    obtain ⟨f, hf, hx⟩ := Option.bind_eq_some_iff.mp hx
    obtain ⟨g, hg, hy⟩ := Option.bind_eq_some_iff.mp hy
    rw [← hname] at hg
    have hfg : f = g := by
      cases hlookup : m.fields.lookup a.1 with
      | some p => exact hknown (by rw [knows, hlookup, Option.isSome_some]) f g hf hg
      | none =>
        rw [under, hlookup] at hf hg
        exact hother a.1 a.2 b.2 f g hf hg
    subst hfg
    exact ih hx hy

end Meanings

end StartOrder.Yaml
