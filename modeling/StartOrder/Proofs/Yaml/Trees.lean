import StartOrder.Text.Blank
import StartOrder.Yaml.Record
import StartOrder.Yaml.Tree.Builder

/-!
# What readers see of a document

A reader that succeeds has seen the tree of its document and nothing else: neither where a node
stands, nor the path to it, nor whether an alias stands for it. Those only go into complaints.

So each reading at a spot is compared with a function of the tree there, once the reason of a
failure is forgotten: `Spot.present?_eq`, `Spot.toOption_string`, `Spot.toOption_items` and so on.
`Node.unplaced` takes the places out of a tree, `treeOf?` is the tree of a text, and the functions
under "What there is to be seen" are all that the readers of this library look at. There are two
notions of null among them. `Node.isNull` goes by how a scalar is written, and decides whether a
field counts as absent; `Node.hasNullValue` is wider and goes by the value, as the readers do that
look at values.

Trees are compared as data in tests, so their equality is decided by recursion (`Node.decEq`), in a
form that computes.
-/

/-! ## Forgetting the reason of a failure -/

namespace Except

variable {ε ε' α β : Type}

@[simp] theorem toOption_ok (a : α) : (ok a : Except ε α).toOption = some a := rfl

@[simp] theorem toOption_error (e : ε) : (error e : Except ε α).toOption = none := rfl

@[simp] theorem toOption_pure (a : α) : (pure a : Except ε α).toOption = some a := rfl

@[simp] theorem toOption_throw (e : ε) : (throw e : Except ε α).toOption = none := rfl

theorem toOption_bind (x : Except ε α) (f : α → Except ε β) :
    (x >>= f).toOption = x.toOption.bind fun a => (f a).toOption := by
  cases x <;> rfl

theorem toOption_map (x : Except ε α) (f : α → β) : (x.map f).toOption = x.toOption.map f := by
  cases x <;> rfl

@[simp] theorem toOption_mapError (f : ε → ε') (x : Except ε α) :
    (x.mapError f).toOption = x.toOption := by
  cases x <;> rfl

theorem toOption_eq_some_iff {x : Except ε α} {a : α} : x.toOption = some a ↔ x = .ok a := by
  cases x <;> simp

theorem toOption_mapM (f : α → Except ε β) (xs : List α) :
    (xs.mapM f).toOption = xs.mapM fun a => (f a).toOption := by
  induction xs with
  | nil => rfl
  | cons x rest ih =>
    rw [List.mapM_cons, List.mapM_cons, toOption_bind, ← ih]
    cases f x with
    | error e => rfl
    | ok b => cases rest.mapM f <;> rfl

end Except

namespace StartOrder.Yaml

namespace Node

/-! ## Trees without places -/

mutual

/-- A tree whose nodes are found nowhere in particular. -/
def unplaced : Node → Node
  | .scalar _ tag style text => .scalar {} tag style text
  | .sequence _ tag items => .sequence {} tag (unplacedItems items)
  | .mapping _ tag entries => .mapping {} tag (unplacedEntries entries)

/-- The items of a sequence, found nowhere in particular. -/
def unplacedItems : List Node → List Node
  | [] => []
  | n :: rest => unplaced n :: unplacedItems rest

/-- The keys and values of a mapping, found nowhere in particular. -/
def unplacedEntries : List (Node × Node) → List (Node × Node)
  | [] => []
  | (key, n) :: rest => (unplaced key, unplaced n) :: unplacedEntries rest

end

theorem unplacedItems_eq_map (items : List Node) : unplacedItems items = items.map unplaced := by
  induction items with
  | nil => rfl
  | cons n rest ih => rw [unplacedItems, ih, List.map_cons]

theorem unplacedEntries_eq_map (entries : List (Node × Node)) :
    unplacedEntries entries = entries.map fun e => (e.1.unplaced, e.2.unplaced) := by
  induction entries with
  | nil => rfl
  | cons e rest ih => rw [unplacedEntries, ih, List.map_cons]

/-! ## Comparing trees -/

mutual

/-- Whether two trees are the same. -/
def decEq : (m n : Node) → Decidable (m = n)
  | .scalar p tag style text, .scalar p' tag' style' text' =>
    decidable_of_iff (p = p' ∧ tag = tag' ∧ style = style' ∧ text = text') (by simp)
  | .sequence p tag items, .sequence p' tag' items' =>
    have : Decidable (items = items') := decEqItems items items'
    decidable_of_iff (p = p' ∧ tag = tag' ∧ items = items') (by simp)
  | .mapping p tag entries, .mapping p' tag' entries' =>
    have : Decidable (entries = entries') := decEqEntries entries entries'
    decidable_of_iff (p = p' ∧ tag = tag' ∧ entries = entries') (by simp)
  | .scalar .., .sequence .. | .scalar .., .mapping .. | .sequence .., .scalar ..
  | .sequence .., .mapping .. | .mapping .., .scalar .. | .mapping .., .sequence .. =>
    isFalse (by simp)

/-- Whether two sequences have the same items. -/
def decEqItems : (ms ns : List Node) → Decidable (ms = ns)
  | [], [] => isTrue rfl
  | m :: ms, n :: ns =>
    have : Decidable (m = n) := decEq m n
    have : Decidable (ms = ns) := decEqItems ms ns
    decidable_of_iff (m = n ∧ ms = ns) (by simp)
  | [], _ :: _ | _ :: _, [] => isFalse (by simp)

/-- Whether two mappings have the same entries. -/
def decEqEntries : (ms ns : List (Node × Node)) → Decidable (ms = ns)
  | [], [] => isTrue rfl
  | (key, m) :: ms, (key', n) :: ns =>
    have : Decidable (key = key') := decEq key key'
    have : Decidable (m = n) := decEq m n
    have : Decidable (ms = ns) := decEqEntries ms ns
    decidable_of_iff ((key = key' ∧ m = n) ∧ ms = ns) (by simp)
  | [], _ :: _ | _ :: _, [] => isFalse (by simp)

end

instance : DecidableEq Node := decEq

/-! ## What there is to be seen -/

/-- Whether nothing stands where a node should be, or a plain scalar that spells null. -/
def isNull : Node → Bool
  | .scalar _ tag .plain text =>
    if tag = some (.core .null) then Yaml.isNull text
    else tag = none && (text.isEmpty || Yaml.isNull text)
  | _ => false

/-- Whether a plain scalar is tagged as null and spells something else. -/
def isMisspeltNull : Node → Bool
  | .scalar _ tag .plain text => tag = some (.core .null) && !Yaml.isNull text
  | _ => false

/-- Whether a node is a plain scalar without a character. -/
def isBlank : Node → Bool
  | .scalar _ _ style text => style = .plain && text.isEmpty
  | _ => false

/-- The items of a sequence; a blank scalar has none. -/
def items? : Node → Option (List Node)
  | .sequence _ _ items => some items
  | n => if n.isBlank then some [] else none

/-- The entries of a mapping; a blank scalar has none. -/
def entries? : Node → Option (List (Node × Node))
  | .mapping _ _ entries => some entries
  | n => if n.isBlank then some [] else none

/-- The number of at most 64 bits that a scalar spells. -/
def unsigned? : Node → Option Nat
  | .scalar _ tag style text =>
    (Yaml.unsigned? text).filter fun n => Spot.maySpellNumber tag style && n < UInt64.size
  | _ => none

mutual

/-- Whether there is a tag of the author's own anywhere in a tree. -/
def hasOwnTag : Node → Bool
  | .scalar _ tag _ _ => (tag.bind Tag.ownName?).isSome
  | .sequence _ tag items => (tag.bind Tag.ownName?).isSome || anyOwnTag items
  | .mapping _ tag entries => (tag.bind Tag.ownName?).isSome || anyEntryOwnTag entries

/-- Whether there is a tag of the author's own in some trees. -/
def anyOwnTag : List Node → Bool
  | [] => false
  | n :: rest => hasOwnTag n || anyOwnTag rest

/-- Whether there is a tag of the author's own in the keys and values of a mapping. -/
def anyEntryOwnTag : List (Node × Node) → Bool
  | [] => false
  | (key, n) :: rest => hasOwnTag key || (hasOwnTag n || anyEntryOwnTag rest)

end

/-- The value of a tree without tags of the author's own. -/
def untagged? (n : Node) : Option Value := if n.hasOwnTag then none else n.value.toOption

/-- The reading of a tree that may be null. -/
def orNull {α : Type} (null : α) (reading : Node → Option α) (n : Node) : Option α :=
  if n.isNull then some null else if n.isMisspeltNull then none else reading n

theorem orNull_of_isNull {α : Type} {null : α} {reading : Node → Option α} {n : Node}
    (h : n.isNull) : orNull null reading n = some null := if_pos h

theorem anyEntryOwnTag_eq_any (entries : List (Node × Node)) :
    anyEntryOwnTag entries = entries.any fun e => e.1.hasOwnTag || e.2.hasOwnTag := by
  induction entries with
  | nil => rfl
  | cons e rest ih => rw [anyEntryOwnTag, ih, List.any_cons, Bool.or_assoc]

/-! ## Places do not matter -/

mutual

theorem value_unplaced : (n : Node) → n.unplaced.value = n.value
  | .scalar .. => rfl
  | .sequence _ _ items => by rw [unplaced, value, valueItems_unplaced items, value]
  | .mapping _ _ entries => by rw [unplaced, value, valueEntries_unplaced entries, value]

theorem valueItems_unplaced : (items : List Node) →
    valueItems (unplacedItems items) = valueItems items
  | [] => rfl
  | n :: rest => by
    rw [unplacedItems, valueItems, value_unplaced n, valueItems_unplaced rest, valueItems]

theorem valueEntries_unplaced : (entries : List (Node × Node)) →
    valueEntries (unplacedEntries entries) = valueEntries entries
  | [] => rfl
  | (key, n) :: rest => by
    rw [unplacedEntries, valueEntries, value_unplaced key, value_unplaced n,
      valueEntries_unplaced rest, valueEntries]

end

mutual

theorem hasOwnTag_unplaced : (n : Node) → n.unplaced.hasOwnTag = n.hasOwnTag
  | .scalar .. => rfl
  | .sequence _ _ items => by rw [unplaced, hasOwnTag, anyOwnTag_unplaced items, hasOwnTag]
  | .mapping _ _ entries => by rw [unplaced, hasOwnTag, anyEntryOwnTag_unplaced entries, hasOwnTag]

theorem anyOwnTag_unplaced : (items : List Node) →
    anyOwnTag (unplacedItems items) = anyOwnTag items
  | [] => rfl
  | n :: rest => by
    rw [unplacedItems, anyOwnTag, hasOwnTag_unplaced n, anyOwnTag_unplaced rest, anyOwnTag]

theorem anyEntryOwnTag_unplaced : (entries : List (Node × Node)) →
    anyEntryOwnTag (unplacedEntries entries) = anyEntryOwnTag entries
  | [] => rfl
  | (key, n) :: rest => by
    rw [unplacedEntries, anyEntryOwnTag, hasOwnTag_unplaced key, hasOwnTag_unplaced n,
      anyEntryOwnTag_unplaced rest, anyEntryOwnTag]

end

/-! ## Null -/

/-- Whether null is the value of a tree. -/
def hasNullValue (n : Node) : Bool :=
  match n.value with
  | .ok .null => true
  | _ => false

theorem value_of_hasNullValue {n : Node} (h : n.hasNullValue) : n.value = .ok .null := by
  unfold hasNullValue at h
  split at h
  · next hvalue => exact hvalue
  · cases h

theorem hasNullValue_of_value {n : Node} (h : n.value = .ok .null) : n.hasNullValue := by
  rw [hasNullValue, h]

/-- Where nothing stands, or a plain scalar that spells null, the value is null. -/
theorem hasNullValue_of_isNull {n : Node} (h : n.isNull) : n.hasNullValue := by
  apply hasNullValue_of_value
  rcases n with ⟨p, tag, style, text⟩ | _ | _
  · cases style <;> try cases h
    simp only [isNull] at h
    by_cases hcore : tag = some (.core .null)
    · rw [if_pos hcore] at h
      subst hcore
      simp [value, Value.ofScalar, Value.ofCoreScalar, h, Except.map, Value.withTag, Tag.ownName?]
    · rw [if_neg hcore] at h
      obtain ⟨htag, hnull⟩ := Bool.and_eq_true_iff.mp h
      obtain rfl := of_decide_eq_true htag
      simp only [value, Value.ofScalar, Value.ofPlain, if_true, if_pos hnull]
      rfl
  · cases h
  · cases h

/-- What is tagged as null and spells something else has no value. -/
theorem toOption_value_of_isMisspeltNull {n : Node} (h : n.isMisspeltNull) :
    n.value.toOption = none := by
  rcases n with ⟨p, tag, style, text⟩ | _ | _
  · cases style <;> try cases h
    obtain ⟨htag, hnull⟩ := Bool.and_eq_true_iff.mp h
    obtain rfl := of_decide_eq_true htag
    simp only [Bool.not_eq_true'] at hnull
    simp [value, Value.ofScalar, Value.ofCoreScalar, hnull, Except.map]
  · cases h
  · cases h

/-! ## The values of collections -/

/-- The values of a key and of what is under it. -/
def entryValue? (e : Node × Node) : Option (Value × Value) :=
  e.1.value.toOption.bind fun k => e.2.value.toOption.map (k, ·)

theorem toOption_valueEntries (entries : List (Node × Node)) :
    (valueEntries entries).toOption = entries.mapM entryValue? := by
  induction entries with
  | nil => rfl
  | cons e rest ih =>
    rw [valueEntries, List.mapM_cons, ← ih, entryValue?]
    cases e.1.value <;> cases e.2.value <;> cases valueEntries rest <;> rfl

theorem toOption_value_mapping (p : Place) (tag : Option Tag) (entries : List (Node × Node)) :
    (Node.mapping p tag entries).value.toOption =
      (entries.mapM entryValue?).map fun values => Value.withTag tag (.mapping values) := by
  rw [value, Except.toOption_map, toOption_valueEntries]

theorem toOption_wellKeyedValue (n : Node) :
    n.wellKeyedValue.toOption = n.value.toOption.filter Value.wellKeyed := by
  unfold wellKeyedValue
  cases n.value with
  | error reason => rfl
  | ok v => cases hkeyed : v.wellKeyed <;> simp [Except.bind, Option.filter_some, hkeyed]

end Node

namespace Value

theorem distinctKeys_iff {entries : List (Value × Value)} :
    distinctKeys entries = true ↔ entries.Pairwise fun e e' => equals e.1 e'.1 = false := by
  induction entries with
  | nil => simp [distinctKeys]
  | cons e rest ih => simp [distinctKeys, ih]

theorem wellKeyedEntries_iff {entries : List (Value × Value)} :
    wellKeyedEntries entries = true ↔ ∀ e ∈ entries, e.1.wellKeyed ∧ e.2.wellKeyed := by
  induction entries with
  | nil => simp [wellKeyedEntries]
  | cons e rest ih => simp [wellKeyedEntries, ih, Bool.and_eq_true]

end Value

/-! ## Reading at a spot -/

namespace Spot

/-- The tree at a spot. -/
def tree (s : Spot) : Node := s.node.unplaced

theorem present?_eq (s : Spot) :
    s.present? = if s.tree.isNull then .ok none
      else if s.tree.isMisspeltNull then .error (.unreadable .badCoreScalar)
      else .ok (some s) := by
  obtain ⟨path, node⟩ := s
  rcases node with ⟨p, tag, style, text⟩ | _ | _
  · cases style <;> try rfl
    simp only [present?, tree, Node.unplaced, Node.isNull, Node.isMisspeltNull]
    by_cases htag : tag = some (.core .null)
    · by_cases hnull : isNull text <;> simp [htag, hnull]
    · simp [htag]
  · rfl
  · rfl

/-- A reader that takes null apart reads what the tree holds, if it does so in either case. -/
theorem toOption_orNull {α β : Type} {s : Spot} {read : Option Spot → Except Problem β} {null : α}
    {reading : Node → Option α} {f : α → Option β} (hnone : (read none).toOption = f null)
    (hsome : (read (some s)).toOption = (reading s.tree).bind f) :
    (s.present? >>= read).toOption = (Node.orNull null reading s.tree).bind f := by
  rw [s.present?_eq, Node.orNull]
  -- a plain scalar that is tagged as null and spells something else fails before it is read
  by_cases hnull : s.tree.isNull
  · rw [if_pos hnull, if_pos hnull]
    exact hnone
  · rw [if_neg hnull, if_neg hnull]
    by_cases hbad : s.tree.isMisspeltNull
    · rw [if_pos hbad, if_pos hbad]
      rfl
    · rw [if_neg hbad, if_neg hbad]
      exact hsome

@[simp] theorem toOption_string (s : Spot) (expected : Expected) :
    (s.string expected).toOption = s.tree.text? := by
  obtain ⟨path, node⟩ := s
  cases node <;> rfl

@[simp] theorem toOption_unsigned (s : Spot) : s.unsigned.toOption = s.tree.unsigned? := by
  obtain ⟨path, node⟩ := s
  rcases node with ⟨p, tag, style, text⟩ | _ | _
  · simp only [unsigned, tree, Node.unplaced, Node.unsigned?]
    cases (Yaml.unsigned? text).filter fun n => maySpellNumber tag style && n < UInt64.size <;> rfl
  · rfl
  · rfl

theorem toOption_items (s : Spot) :
    s.items.toOption.map (·.map tree) = s.tree.items? := by
  obtain ⟨path, node⟩ := s
  rcases node with ⟨p, tag, style, text⟩ | ⟨p, tag, items⟩ | _
  · simp only [Spot.items, isBlank, tree, Node.unplaced, Node.items?, Node.isBlank]
    by_cases hblank : decide (style = .plain) && text.isEmpty <;> simp [hblank]
  · -- the index of an item goes into its path, not into its tree
    simp only [Spot.items, tree, Node.unplaced, Node.items?, Node.unplacedItems_eq_map,
      Except.toOption_ok, Option.map_some, List.map_map]
    refine congrArg some (List.ext_getElem (by simp) fun i _ _ => by simp [tree])
  · rfl

theorem toOption_entries (s : Spot) (expected : Expected) :
    (s.entries expected).toOption.map (·.map fun e => (e.1.tree, e.2.tree)) =
      s.tree.entries? := by
  obtain ⟨path, node⟩ := s
  rcases node with ⟨p, tag, style, text⟩ | _ | ⟨p, tag, entries⟩
  · simp only [Spot.entries, isBlank, tree, Node.unplaced, Node.entries?, Node.isBlank]
    by_cases hblank : decide (style = .plain) && text.isEmpty <;> simp [hblank]
  · rfl
  · simp only [Spot.entries, tree, Node.unplaced, Node.entries?, Node.unplacedEntries_eq_map,
      Except.toOption_ok, Option.map_some, List.map_map]
    rfl

@[simp] theorem toOption_value (s : Spot) :
    s.value.toOption = s.tree.wellKeyedValue.toOption := by
  rw [value, Except.toOption_mapError, tree, Node.wellKeyedValue, Node.wellKeyedValue,
    Node.value_unplaced]

theorem isSome_ofTag (path : Path) (p : Place) (tag : Option Tag) :
    (ofTag path p tag).isSome = (tag.bind Tag.ownName?).isSome := Option.isSome_map

mutual

theorem isSome_findTag : (path : Path) → (n : Node) → (findTag path n).isSome = n.hasOwnTag
  | path, .scalar p tag _ _ => isSome_ofTag path p tag
  | path, .sequence p tag items => by
    simp [findTag, isSome_ofTag, Node.hasOwnTag, isSome_findTagItems path 0 items]
  | path, .mapping p tag entries => by
    simp [findTag, isSome_ofTag, Node.hasOwnTag, isSome_findTagEntries path entries]

theorem isSome_findTagItems : (path : Path) → (index : Nat) → (items : List Node) →
    (findTagItems path index items).isSome = Node.anyOwnTag items
  | _, _, [] => rfl
  | path, index, n :: rest => by
    simp [findTagItems, Node.anyOwnTag, isSome_findTag (.item index :: path) n,
      isSome_findTagItems path (index + 1) rest]

theorem isSome_findTagEntries : (path : Path) → (entries : List (Node × Node)) →
    (findTagEntries path entries).isSome = Node.anyEntryOwnTag entries
  | _, [] => rfl
  | path, (key, n) :: rest => by
    simp [findTagEntries, Node.anyEntryOwnTag, isSome_findTag path key,
      isSome_findTag (key.label?.elim .unnamed .field :: path) n, isSome_findTagEntries path rest]

end

@[simp] theorem toOption_untagged (s : Spot) : s.untagged.toOption = s.tree.untagged? := by
  rw [untagged, tree, Node.untagged?, Node.hasOwnTag_unplaced, Node.value_unplaced,
    ← isSome_findTag s.path]
  cases findTag s.path s.node with
  | some problem => rfl
  | none => exact Except.toOption_mapError _ _

end Spot

/-! ## The tree of a text -/

/-- The tree of a text, if it is a document. Nothing but blanks is the empty document. -/
def treeOf? (text : String) : Option Node :=
  if Text.allBlank text then some (.plain "")
  else ((Document.ofText? text).toOption.bind fun d => d.expand.toOption).map Node.unplaced

/-- What is read from the root of a document is what is read there. -/
theorem Document.toOption_read {α : Type} {d : Document} {root : Node} (h : d.expand = .ok root)
    (reader : Spot → Except Problem α) :
    (d.read reader).toOption = (reader ⟨[], root⟩).toOption := by
  have hroot : ((d.expand d.aliasLimit).mapError .unreadable >>= fun root => reader ⟨[], root⟩) =
      reader ⟨[], root⟩ := by
    rw [show d.expand d.aliasLimit = .ok root from h]
    rfl
  unfold Document.read
  rw [hroot]
  -- where the reader fails, the value of the root decides on the problem that is reported
  cases reader ⟨[], root⟩ with
  | ok a => rfl
  | error problem => cases d.expand >>= Node.wellKeyedValue <;> rfl

end StartOrder.Yaml
