import Mathlib.Data.List.Pairwise
import StartOrder.Proofs.Rearranged
import StartOrder.Proofs.Yaml.Trees

/-!
# What a record says

A reader of a record goes through the entries of a mapping and puts what it finds into the record as
read so far, and any step may fail. Yet a field reader that succeeds changes the record in a way
that the tree under its key alone decides: neither the path, nor the record read so far, nor the
entries before matter. So a record is the fold of the *changes* that its entries make, and questions
about the order of entries become questions about whether changes commute.

A `Meaning` is the change that a tree makes, if it makes one, and `Meanings` assigns one to each
key. `Record.Has` ties them to a reader, field by field, and `Record.Has.toOption_read` is the
result: the reader reads what the meanings say.

The rest of the module no longer mentions readers. If the changes of different keys commute
(`Meanings.Lawful`), then entries may be moved (`Meanings.Lawful.fold_perm`), and if nulls change
nothing (`Meaning.Neutral`), then they may be left out (`Meanings.Lawful.fold_filter`). This takes
entries with different keys. `Record.Has.fold_of_rearranged` combines the two and allows for values
that are written differently but say the same.
-/

namespace StartOrder.Yaml

variable {σ α β : Type}

/-! ## Meanings -/

/-- The change that a tree makes to a record, where the tree is not refused. -/
abbrev Meaning (σ : Type) := Node → Option (σ → σ)

namespace Meaning

/-- The change that puts what a tree says into a field. -/
def sets (reading : Node → Option α) (set : σ → α → σ) : Meaning σ := fun n =>
  (reading n).map fun a x => set x a

theorem map_sets (reading : Node → Option α) (set : σ → α → σ) (n : Node) (x : σ) :
    (sets reading set n).map (· x) = (reading n).bind fun a => some (set x a) := by
  rw [sets, Option.map_map, Option.map_eq_bind]
  rfl

/-- The changes of two meanings can be made in either order. -/
def Commutes (p q : Meaning σ) : Prop :=
  ∀ m n f g, p m = some f → q n = some g → ∀ x, f (g x) = g (f x)

theorem Commutes.symm {p q : Meaning σ} (h : Commutes p q) : Commutes q p :=
  fun m n f g hf hg x => (h n m g f hg hf x).symm

/-- Fields that are set one after another hold the same in either order. -/
theorem sets_commutes {reading : Node → Option α} {set : σ → α → σ} {reading' : Node → Option β}
    {set' : σ → β → σ} (h : ∀ x a b, set (set' x b) a = set' (set x a) b) :
    Commutes (sets reading set) (sets reading' set') := by
  intro m n f g hf hg x
  obtain ⟨a, -, rfl⟩ := Option.map_eq_some_iff.mp hf
  obtain ⟨b, -, rfl⟩ := Option.map_eq_some_iff.mp hg
  exact h x a b

/-- Some trees are taken, and leave a record as it is. -/
def Neutral (p : Meaning σ) (nulls : Node → Bool) (absent : σ) : Prop :=
  ∀ n : Node, nulls n → ∃ f, p n = some f ∧ f absent = absent

/-- A field is read from null as what it is when it is absent. -/
theorem sets_neutral {reading : Node → Option α} {set : σ → α → σ} {nulls : Node → Bool}
    {absent : σ} {null : α} (hread : ∀ n : Node, nulls n → reading n = some null)
    (hset : set absent null = absent) : Neutral (sets reading set) nulls absent :=
  fun n hn => ⟨fun x => set x null, congrArg (Option.map _) (hread n hn), hset⟩

end Meaning

/-- What a reader makes of a spot is what its tree says. -/
def FieldReader.Has (read : FieldReader σ) (meaning : Meaning σ) : Prop :=
  ∀ owner s x, (read owner s x).toOption = (meaning s.tree).map (· x)

/-- The meanings of the keys of a record. -/
structure Meanings (σ : Type) where
  fields : List (String × Meaning σ)
  other : String → Meaning σ

/-- The readers of a record read what the meanings of its keys say. -/
structure Record.Has (r : Record σ) (m : Meanings σ) : Prop where
  fields : List.Forall₂ (fun f g => f.1 = g.1 ∧ f.2.Has g.2) r.fields m.fields
  other : ∀ name s x, (r.other name s x).toOption = (m.other name s.tree).map (· x)

namespace Meanings

/-- Whether a name is that of a known field. -/
def knows (m : Meanings σ) (name : String) : Bool := (m.fields.lookup name).isSome

theorem mem_fields_of_lookup {m : Meanings σ} {name : String} {meaning : Meaning σ}
    (h : m.fields.lookup name = some meaning) : (name, meaning) ∈ m.fields := by
  obtain ⟨before, after, heq, -⟩ := List.lookup_eq_some_iff.mp h
  exact heq ▸ List.mem_append_right _ List.mem_cons_self

/-- The meaning of a key. -/
def under (m : Meanings σ) (name : String) : Meaning σ :=
  (m.fields.lookup name).getD (m.other name)

/-- The change that an entry makes. -/
def change (m : Meanings σ) (e : Node × Node) : Option (σ → σ) :=
  e.1.text?.bind fun name => m.under name e.2

/-- The names of the known fields among some entries. -/
def given (m : Meanings σ) (entries : List (Node × Node)) : List String :=
  entries.filterMap fun e => e.1.text?.filter m.knows

/-- The record that entries make of another. -/
def fold (m : Meanings σ) (x : σ) (entries : List (Node × Node)) : Option σ :=
  entries.foldlM (fun x e => (m.change e).map (· x)) x

/-- The record that a tree says, on the values that absent fields have. -/
def record? (m : Meanings σ) (absent : σ) (n : Node) : Option σ :=
  n.entries?.bind fun entries =>
    if (m.given entries).Nodup then m.fold absent entries else none

theorem fold_nil (m : Meanings σ) (x : σ) : m.fold x [] = some x := rfl

theorem fold_cons (m : Meanings σ) (x : σ) (e : Node × Node) (rest : List (Node × Node)) :
    m.fold x (e :: rest) = (m.change e).bind fun f => m.fold (f x) rest := by
  unfold fold
  rw [List.foldlM_cons]
  cases m.change e <;> rfl

/-- An entry under the name of a field puts what its tree says into the field. -/
theorem fold_singleton {m : Meanings σ} {name : String} {reading : Node → Option α}
    {set : σ → α → σ} (hname : m.under name = .sets reading set) {key n : Node}
    (hkey : key.text? = some name) {a : α} (hread : reading n = some a) (x : σ) :
    m.fold x [(key, n)] = some (set x a) := by
  have hchange : m.change (key, n) = some fun x => set x a := by
    rw [change, hkey, Option.bind_some, hname, Meaning.sets, hread, Option.map_some]
  rw [fold_cons, hchange]
  rfl

theorem given_cons (m : Meanings σ) {key n : Node} {name : String} (h : key.text? = some name)
    (rest : List (Node × Node)) :
    m.given ((key, n) :: rest) = if m.knows name then name :: m.given rest else m.given rest := by
  unfold given
  rw [List.filterMap_cons, h, Option.filter_some]
  cases m.knows name <;> rfl

end Meanings

/-! ## Records are read as their meanings say -/

namespace Record

variable {r : Record σ} {m : Meanings σ}

/-- A name is that of no field on either side, or of fields that belong together. -/
theorem Has.lookup (h : r.Has m) (name : String) :
    (r.fields.lookup name = none ∧ m.fields.lookup name = none) ∨
      ∃ read meaning, r.fields.lookup name = some read ∧ m.fields.lookup name = some meaning ∧
        read.Has meaning := by
  have hall := h.fields
  generalize r.fields = readers at hall ⊢
  generalize m.fields = meanings at hall ⊢
  induction hall with
  | nil => exact .inl ⟨rfl, rfl⟩
  | @cons f g _ _ hfg _ ih =>
    rw [NameMap.lookup_cons_eq_ite, NameMap.lookup_cons_eq_ite, ← hfg.1]
    by_cases hname : name = f.1
    · rw [if_pos hname, if_pos hname]
      exact .inr ⟨f.2, g.2, rfl, rfl, hfg.2⟩
    · rw [if_neg hname, if_neg hname]
      exact ih

theorem knows_eq_isSome_lookup (r : Record σ) (name : String) :
    r.knows name = (r.fields.lookup name).isSome := by
  unfold knows
  induction r.fields with
  | nil => rfl
  | cons f rest ih =>
    rw [List.any_cons, ih, NameMap.lookup_cons_eq_ite]
    by_cases hname : name = f.1
    · simp [hname]
    · simp [hname, Ne.symm hname]

theorem Has.knows_eq (h : r.Has m) (name : String) : r.knows name = m.knows name := by
  rw [knows_eq_isSome_lookup, Meanings.knows]
  rcases h.lookup name with ⟨hr, hm⟩ | ⟨read, meaning, hr, hm, -⟩ <;> rw [hr, hm] <;> rfl

/-- One entry is read as its meaning says, unless it is a known field read before. -/
theorem Has.toOption_readEntry (h : r.Has m) (owner : Spot) (x : σ) (seen : List String)
    (e : Spot × Spot) :
    (r.readEntry owner (x, seen) e).toOption = e.1.tree.text?.bind fun name =>
      if m.knows name && seen.contains name then none
      else (m.under name e.2.tree).map fun f =>
        (f x, if m.knows name then name :: seen else seen) := by
  unfold readEntry
  rw [Except.toOption_bind, Spot.toOption_string]
  congr 1
  funext name
  rcases h.lookup name with ⟨hr, hm⟩ | ⟨read, meaning, hr, hm, hread⟩
  · rw [hr, Meanings.knows, hm, Meanings.under, hm]
    have hother := h.other name e.2 x
    cases hx : r.other name e.2 x <;> cases hy : m.other name e.2.tree <;> simp_all
  · rw [hr, Meanings.knows, hm, Meanings.under, hm]
    have hfield := hread owner e.2 x
    by_cases hseen : name ∈ seen
    · simp [hseen, Except.toOption_bind]
    · cases hx : read owner e.2 x <;> cases hy : meaning e.2.tree <;> simp_all

/-- Entries are read as their meanings say if no known field is given twice, here or before. -/
theorem Has.toOption_foldlM_readEntry (h : r.Has m) (owner : Spot) (entries : List (Spot × Spot))
    (x : σ) (seen : List String) :
    (entries.foldlM (r.readEntry owner) (x, seen)).toOption.map (·.1) =
      (let trees := entries.map fun e => (e.1.tree, e.2.tree)
      if (m.given trees).Nodup ∧ ∀ name ∈ m.given trees, name ∉ seen then m.fold x trees
      else none) := by
  -- what was read before only matters through the names of known fields in it, so that the
  -- induction has to carry those along
  induction entries generalizing x seen with
  | nil => simp [Meanings.given, Meanings.fold_nil]
  | cons e rest ih =>
    rw [List.foldlM_cons, Except.toOption_bind, h.toOption_readEntry]
    cases hname : e.1.tree.text? with
    | none => simp [Meanings.fold_cons, Meanings.change, hname]
    | some name =>
      simp only [List.map_cons, m.given_cons hname, Meanings.fold_cons, Meanings.change, hname,
        Option.bind_some]
      cases hf : m.under name e.2.tree with
      | none => simp
      | some f =>
        cases hknows : m.knows name with
        | false => simpa [hknows, hf] using ih (f x) seen
        | true =>
          by_cases hseen : name ∈ seen
          · simp [hseen]
          · have hrest := ih (f x) (name :: seen)
            simp only [hseen, List.contains_eq_mem, decide_false, Bool.and_false,
              Bool.false_eq_true, if_false, if_true, Option.map_some, Option.bind_some] at hrest ⊢
            rw [hrest]
            refine if_congr ?_ rfl rfl
            rw [List.nodup_cons, List.forall_mem_cons]
            constructor
            · rintro ⟨hnd, hfresh⟩
              exact ⟨⟨fun hmem => hfresh name hmem List.mem_cons_self, hnd⟩, hseen,
                fun other hother hmem => hfresh other hother (List.mem_cons_of_mem _ hmem)⟩
            · rintro ⟨⟨hnot, hnd⟩, -, hfresh⟩
              refine ⟨hnd, fun other hother hmem => ?_⟩
              rcases List.mem_cons.mp hmem with rfl | hmem
              · exact hnot hother
              · exact hfresh other hother hmem

/-- A record is read as the meanings of its keys say. -/
theorem Has.toOption_read (h : r.Has m) (absent : σ) (s : Spot) :
    (r.read absent s).toOption = m.record? absent s.tree := by
  unfold read Meanings.record?
  rw [← s.toOption_entries (.record r.name), Except.toOption_bind]
  cases s.entries (.record r.name) with
  | error problem => rfl
  | ok entries =>
    show ((entries.foldlM (r.readEntry s) (absent, [])) >>= fun state =>
      pure state.1).toOption = _
    have hentries := h.toOption_foldlM_readEntry s entries absent []
    simp only [List.not_mem_nil, not_false_eq_true, implies_true, and_true] at hentries
    rw [Except.toOption_bind, Except.toOption_ok, Option.map_some, Option.bind_some, ← hentries]
    exact Option.map_eq_bind.symm

end Record

/-! ## What may be done to entries -/

/-- Two texts are different, or there is none. -/
def Apart (a b : Option String) : Prop := a = none ∨ a ≠ b

theorem Apart.symm {a b : Option String} (h : Apart a b) : Apart b a := by
  by_cases hb : b = none
  · exact .inl hb
  · rcases h with rfl | hne
    · exact .inr hb
    · exact .inr hne.symm

/-- No two entries have keys that are written with the same text. -/
def WrittenApart (entries : List (Node × Node)) : Prop :=
  entries.Pairwise fun e e' => Apart e.1.text? e'.1.text?

/-- Different entries that are written apart have different keys. -/
theorem WrittenApart.text?_ne {entries : List (Node × Node)} (h : WrittenApart entries)
    {e e' : Node × Node} (he : e ∈ entries) (he' : e' ∈ entries) (hne : e ≠ e') {name : String}
    (hname : e.1.text? = some name) : e'.1.text? ≠ some name := by
  have hsymm : Std.Symm fun e e' : Node × Node => Apart e.1.text? e'.1.text? :=
    ⟨fun _ _ => Apart.symm⟩
  intro hname'
  rcases List.Pairwise.forall h he he' hne with hnone | hdiffer
  · cases hname.symm.trans hnone
  · exact hdiffer (hname.trans hname'.symm)

namespace Meanings

theorem given_nodup (m : Meanings σ) {entries : List (Node × Node)} (h : WrittenApart entries) :
    (m.given entries).Nodup := by
  refine List.pairwise_filterMap.mpr (h.imp fun {e e'} he => ?_)
  rintro name hname _ hname' rfl
  obtain ⟨hname, -⟩ := Option.filter_eq_some_iff.mp hname
  obtain ⟨hname', -⟩ := Option.filter_eq_some_iff.mp hname'
  rcases he with hnone | hdiffer
  · cases hname.symm.trans hnone
  · exact hdiffer (hname.trans hname'.symm)

/-- A mapping whose keys are apart gives no field twice. -/
theorem record?_mapping (m : Meanings σ) {entries : List (Node × Node)}
    (h : WrittenApart entries) (absent : σ) (p : Place) (tag : Option Tag) :
    m.record? absent (.mapping p tag entries) = m.fold absent entries :=
  if_pos (m.given_nodup h)

/-- The changes of different keys can be made in either order. -/
structure Lawful (m : Meanings σ) : Prop where
  fields : m.fields.Pairwise fun f g => f.2.Commutes g.2
  mixed : ∀ f ∈ m.fields, ∀ name, f.2.Commutes (m.other name)
  others : ∀ a b, a ≠ b → (m.other a).Commutes (m.other b)

variable {m : Meanings σ}

theorem Lawful.under (h : m.Lawful) {a b : String} (hab : a ≠ b) :
    (m.under a).Commutes (m.under b) := by
  unfold Meanings.under
  cases ha : m.fields.lookup a with
  | none =>
    cases hb : m.fields.lookup b with
    | none => exact h.others a b hab
    | some q => exact (h.mixed _ (mem_fields_of_lookup hb) a).symm
  | some p =>
    cases hb : m.fields.lookup b with
    | none => exact h.mixed _ (mem_fields_of_lookup ha) b
    | some q =>
      have hsymm : Std.Symm fun f g : String × Meaning σ => f.2.Commutes g.2 :=
        ⟨fun _ _ hfg => hfg.symm⟩
      exact h.fields.forall (mem_fields_of_lookup ha) (mem_fields_of_lookup hb)
        fun heq => hab (congrArg Prod.fst heq)

/-- What an entry does to a record: the change that it makes, if it makes one. -/
def effect (m : Meanings σ) (e : Node × Node) : σ → σ := (m.change e).getD id

theorem fold_eq (m : Meanings σ) (x : σ) (entries : List (Node × Node)) :
    m.fold x entries = if ∀ e ∈ entries, (m.change e).isSome then
      some (entries.foldl (fun x e => m.effect e x) x) else none := by
  induction entries generalizing x with
  | nil => simp [fold_nil]
  | cons e rest ih =>
    rw [fold_cons]
    cases he : m.change e with
    | none => simp [he]
    | some f =>
      have hall : (∀ e' ∈ e :: rest, (m.change e').isSome) ↔ ∀ e' ∈ rest, (m.change e').isSome := by
        simp [he]
      rw [Option.bind_some, ih, if_congr hall rfl rfl, List.foldl_cons, effect, he]
      rfl

theorem Lawful.effect_comm (h : m.Lawful) {entries : List (Node × Node)}
    (hapart : WrittenApart entries) {e e' : Node × Node} (he : e ∈ entries) (he' : e' ∈ entries)
    (x : σ) : m.effect e' (m.effect e x) = m.effect e (m.effect e' x) := by
  by_cases heq : e = e'
  · rw [heq]
  · unfold effect
    cases hf : m.change e with
    | none => rfl
    | some f =>
      cases hg : m.change e' with
      | none => rfl
      | some g =>
        obtain ⟨name, hname, hunder⟩ := Option.bind_eq_some_iff.mp hf
        obtain ⟨name', hname', hunder'⟩ := Option.bind_eq_some_iff.mp hg
        have hne : name ≠ name' := fun hsame =>
          hapart.text?_ne he he' heq hname (hsame ▸ hname')
        exact (h.under hne e.2 e'.2 f g hunder hunder' x).symm

/-- Entries can be written in any order. -/
theorem Lawful.fold_perm (h : m.Lawful) {xs ys : List (Node × Node)} (hapart : WrittenApart xs)
    (hp : xs.Perm ys) (x : σ) : m.fold x xs = m.fold x ys := by
  rw [fold_eq, fold_eq]
  refine if_congr (by simp only [hp.mem_iff]) (congrArg some (hp.foldl_eq' ?_ x)) rfl
  exact fun e he e' he' z => h.effect_comm hapart he he' z

theorem fold_append (m : Meanings σ) (x : σ) (xs ys : List (Node × Node)) :
    m.fold x (xs ++ ys) = (m.fold x xs).bind fun y => m.fold y ys :=
  List.foldlM_append

theorem fold_eq_self (m : Meanings σ) {x : σ} {entries : List (Node × Node)}
    (h : ∀ e ∈ entries, ∃ f, m.change e = some f ∧ f x = x) : m.fold x entries = some x := by
  induction entries with
  | nil => rfl
  | cons e rest ih =>
    obtain ⟨⟨f, hf, hx⟩, hrest⟩ := List.forall_mem_cons.mp h
    rw [fold_cons, hf, Option.bind_some, hx, ih hrest]

/-- Entries that change nothing where they stand alone can be left out. -/
theorem Lawful.fold_filter (h : m.Lawful) {absent : σ} {entries : List (Node × Node)}
    (hapart : WrittenApart entries) {keep : Node × Node → Bool}
    (hneutral : ∀ e ∈ entries, keep e = false → ∃ f, m.change e = some f ∧ f absent = absent) :
    m.fold absent (entries.filter keep) = m.fold absent entries := by
  -- those that are left out come first, where they find the record as it is without any entry
  have hp : entries.Perm (entries.filter (!keep ·) ++ entries.filter keep) :=
    (List.perm_append_comm.trans (List.filter_append_perm keep entries)).symm
  have hleft : m.fold absent (entries.filter (!keep ·)) = some absent := by
    refine m.fold_eq_self fun e he => ?_
    obtain ⟨hmem, hkeep⟩ := List.mem_filter.mp he
    exact hneutral e hmem (by simpa using hkeep)
  rw [h.fold_perm hapart hp, fold_append, hleft, Option.bind_some]

/-- Entries whose values say the same can be written in another order. -/
theorem Lawful.fold_of_rearranged (h : m.Lawful) {xs ys : List (Node × Node)}
    (hapart : WrittenApart xs) {R : Node → Node → Node → Prop} (hre : Rearranged R xs ys)
    (hR : ∀ key n n' f, R key n n' → m.change (key, n) = some f → m.change (key, n') = some f)
    {x y : σ} (hx : m.fold x xs = some y) : m.fold x ys = some y := by
  obtain ⟨zs, hp, hall⟩ := hre
  rw [h.fold_perm hapart hp] at hx
  clear hp
  induction hall generalizing x with
  | nil => exact hx
  | @cons e e' _ _ he _ ih =>
    rw [fold_cons] at hx ⊢
    obtain ⟨f, hf, hrest⟩ := Option.bind_eq_some_iff.mp hx
    have hf' : m.change (e.1, e'.2) = some f := hR e.1 e.2 e'.2 f he.2 hf
    rw [he.1] at hf'
    rw [hf', Option.bind_some]
    exact ih hrest

end Meanings

/-- The entries of a record without the known fields that are null, where `nulls` tells by the name
of a field which trees are. -/
def Record.stated (r : Record σ) (nulls : String → Node → Bool) (entries : List (Node × Node)) :
    List (Node × Node) :=
  entries.filter fun e => !e.1.text?.any fun name => r.knows name && nulls name e.2

/-- A record is read from its entries whatever their order, with or without fields that are null,
and from values that say the same. -/
theorem Record.Has.fold_of_rearranged {r : Record σ} {m : Meanings σ} (h : r.Has m)
    (hm : m.Lawful) {nulls : String → Node → Bool} {absent x : σ}
    (hnull : ∀ f ∈ m.fields, f.2.Neutral (nulls f.1) absent)
    {xs ys : List (Node × Node)} (hxs : WrittenApart xs) (hys : WrittenApart ys)
    {R : Node → Node → Node → Prop} (hre : Rearranged R (r.stated nulls xs) (r.stated nulls ys))
    (hR : ∀ key n n' f, (key, n) ∈ xs → (key, n') ∈ ys → R key n n' →
      m.change (key, n) = some f → m.change (key, n') = some f)
    (hx : m.fold absent xs = some x) : m.fold absent ys = some x := by
  have hneutral (entries : List (Node × Node)) :
      ∀ e ∈ entries, (!e.1.text?.any fun name => r.knows name && nulls name e.2) = false →
        ∃ f, m.change e = some f ∧ f absent = absent := by
    intro e _ hleft
    obtain ⟨name, hname, hboth⟩ := (Option.any_eq_true _ _).mp ((Bool.not_eq_false' _).mp hleft)
    obtain ⟨hknows, hisNull⟩ := Bool.and_eq_true_iff.mp hboth
    rw [h.knows_eq] at hknows
    obtain ⟨meaning, hlookup⟩ := Option.isSome_iff_exists.mp hknows
    have hchange : m.change e = meaning e.2 := by
      rw [Meanings.change, hname, Option.bind_some, Meanings.under, hlookup]
      rfl
    rw [hchange]
    exact hnull _ (Meanings.mem_fields_of_lookup hlookup) e.2 hisNull
  have hmem {e : Node × Node} {entries : List (Node × Node)} (he : e ∈ r.stated nulls entries) :
      e ∈ entries := (List.mem_filter.mp he).1
  -- known fields that are null are left out on either side, and what is left is rearranged
  rw [← hm.fold_filter hxs (hneutral xs)] at hx
  rw [← hm.fold_filter hys (hneutral ys)]
  have hre' : Rearranged (fun key n n' => ∀ f, m.change (key, n) = some f →
      m.change (key, n') = some f) (r.stated nulls xs) (r.stated nulls ys) :=
    hre.imp_mem fun key n n' hn hn' hnn' f => hR key n n' f (hmem hn) (hmem hn') hnn'
  exact hm.fold_of_rearranged (hxs.filter _) hre' (fun _ _ _ f hall => hall f) hx

end StartOrder.Yaml
