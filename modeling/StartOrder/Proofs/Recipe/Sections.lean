import StartOrder.Proofs.Positions
import StartOrder.Proofs.Recipe.Fields

/-!
# Sections whose entries may be moved

The maps of a service and its `build` section are not read entry by entry as records are. They are
first turned into one value, and what is made of that depends on how keys compare as values. This
module is about these: where no two keys are the same, as written or when coerced to texts
(`Yaml.Node.KeysApart`), the entries may stand in any order (`Stated.value_perm`,
`Build.ofEntries?_perm`), and a part of a `build` section that is null may be left out unless it is
called by its number as well (`Build.ofEntries?_append_of_null`).

Equality of values is that of the reader, under which numbers compare as numbers. It is not
symmetric on all values, but it is on those that can be coerced to a text
(`Yaml.Value.equals_comm_of_isSome`), and maps of texts have no other keys.
-/

namespace StartOrder

open Yaml (Node Value Apart)

/-! ## Keys -/

namespace Yaml.Node

/-- The text that a key has once it is coerced to a string. -/
def coercedText? (key : Node) : Option String := key.value.toOption.bind Value.scalarText?

/-- No two keys have the same text, neither as written nor as coerced. -/
def KeysApart (entries : List (Node × Node)) : Prop :=
  entries.Pairwise fun e e' =>
    Apart e.1.text? e'.1.text? ∧ Apart e.1.coercedText? e'.1.coercedText?

theorem KeysApart.written {entries : List (Node × Node)} (h : KeysApart entries) :
    WrittenApart entries :=
  h.imp And.left

theorem KeysApart.perm {xs ys : List (Node × Node)} (h : KeysApart xs) (hp : xs.Perm ys) :
    KeysApart ys :=
  (hp.pairwise_iff fun he => ⟨he.1.symm, he.2.symm⟩).mp h

/-- Texts that are read from members of a list that are apart are different. -/
theorem nodup_of_apart {α : Type} {xs : List α} {text? : α → Option String} {names : List String}
    (h : xs.Pairwise fun e e' => Apart (text? e) (text? e'))
    (hnames : xs.map text? = names.map some) : names.Nodup := by
  have hmap : (names.map some).Pairwise Apart := hnames ▸ List.pairwise_map.mpr h
  refine (List.pairwise_map.mp hmap).imp fun hapart heq => ?_
  rcases hapart with hnone | hne
  · cases hnone
  · exact hne (congrArg some heq)

end Yaml.Node

/-! ## Equal keys -/

namespace Yaml.Value

theorem binary64_equals_comm (x y : Number.Binary64) : x.equals y = y.equals x := by
  cases x <;> cases y <;>
    simp only [Number.Binary64.equals, Bool.beq_comm, Bool.and_comm, Bool.and_left_comm,
      Bool.or_comm]

/-- Values with texts are compared the same in either order. -/
theorem equals_comm_of_isSome {a b : Value} (ha : a.scalarText?.isSome)
    (hb : b.scalarText?.isSome) : equals a b = equals b a := by
  cases a <;> cases hb' : b <;> simp_all [scalarText?, equals, Bool.beq_comm, Bool.and_comm,
    binary64_equals_comm]

/-- Whether keys with texts are different does not depend on their order. -/
theorem distinctKeys_perm {xs ys : List (Value × Value)} (hp : xs.Perm ys)
    (hscalar : ∀ e ∈ xs, e.1.scalarText?.isSome) (h : distinctKeys xs = true) :
    distinctKeys ys = true := by
  rw [distinctKeys_iff] at h ⊢
  -- `equals` is not symmetric on all values, so the order of two keys is carried along both ways
  have hboth : xs.Pairwise fun e e' => equals e.1 e'.1 = false ∧ equals e'.1 e.1 = false :=
    h.imp_of_mem fun he he' hne =>
      ⟨hne, equals_comm_of_isSome (hscalar _ he') (hscalar _ he) ▸ hne⟩
  exact ((hp.pairwise_iff fun he => ⟨he.2, he.1⟩).mp hboth).imp And.left

/-- Whether a mapping with texts for keys is well keyed does not depend on their order. -/
theorem wellKeyed_mapping_perm {xs ys : List (Value × Value)} (hp : xs.Perm ys)
    (hscalar : ∀ e ∈ xs, e.1.scalarText?.isSome) (h : wellKeyed (.mapping xs) = true) :
    wellKeyed (.mapping ys) = true := by
  obtain ⟨hdistinct, hentries⟩ := Bool.and_eq_true_iff.mp h
  refine Bool.and_eq_true_iff.mpr ⟨distinctKeys_perm hp hscalar hdistinct, ?_⟩
  rw [wellKeyedEntries_iff] at hentries ⊢
  exact fun e he => hentries e (hp.mem_iff.mpr he)

end Yaml.Value

/-! ## Maps of texts -/

namespace Stated

theorem textEntry_eq_ok {e : Value × Value} {t : String × String} (h : textEntry e = .ok t) :
    e.1.scalarText? = some t.1 := by
  unfold textEntry at h
  split at h
  · cases h
  · next hkey _ =>
    cases h
    exact hkey
  · next hkey _ =>
    split at h
    · cases h
      exact hkey
    · cases h

/-- The names that are read from entries are the texts to which their keys are coerced. -/
theorem map_coercedText? {entries : List (Node × Node)} {values : List (Value × Value)}
    {texts : List (String × String)} (hvalues : entries.mapM Node.entryValue? = some values)
    (htexts : values.mapM textEntry = .ok texts) :
    entries.map (·.1.coercedText?) = (texts.map (·.1)).map some := by
  rw [mapM_eq_ok_iff] at htexts
  rw [mapM_eq_some_iff] at hvalues
  induction hvalues generalizing texts with
  | nil =>
    cases htexts
    rfl
  | @cons e v _ _ hv _ ih =>
    obtain ⟨t, rest, ht, hrest, rfl⟩ := List.forall₂_cons_left_iff.mp htexts
    obtain ⟨key, hkey, hvalue⟩ := Option.bind_eq_some_iff.mp hv
    obtain ⟨value, -, rfl⟩ := Option.map_eq_some_iff.mp hvalue
    have hname : key.scalarText? = some t.1 := textEntry_eq_ok ht
    rw [List.map_cons, ih hrest, Node.coercedText?, hkey, Option.bind_some, hname]
    rfl

/-- What the entries of a mapping state to a reader of maps of texts. -/
theorem value_mapping {read : Value → Except FieldProblem (NameMap String)}
    (hread : ∀ entries, read (.mapping entries) = (entries.mapM textEntry).map NameMap.ofList)
    (htagged : ∀ tag v, (read (.tagged tag v)).toOption = none) (p : Yaml.Place)
    (tag : Option Yaml.Tag) (entries : List (Node × Node)) (m : NameMap String) :
    value read (.mapping p tag entries) = some m ↔
      tag.bind Yaml.Tag.ownName? = none ∧ ∃ values texts,
        entries.mapM Node.entryValue? = some values ∧ Value.wellKeyed (.mapping values) ∧
        values.mapM textEntry = .ok texts ∧ NameMap.ofList texts = m := by
  show ((Node.mapping p tag entries).wellKeyedValue.toOption.bind fun v => (read v).toOption) =
    some m ↔ _
  rw [Node.toOption_wellKeyedValue, Node.toOption_value_mapping]
  constructor
  · intro h
    obtain ⟨v, hv, hm⟩ := Option.bind_eq_some_iff.mp h
    obtain ⟨hv, hkeyed⟩ := Option.filter_eq_some_iff.mp hv
    obtain ⟨values, hvalues, rfl⟩ := Option.map_eq_some_iff.mp hv
    cases htag : tag.bind Yaml.Tag.ownName? with
    | some name =>
      rw [Value.withTag, htag, htagged] at hm
      cases hm
    | none =>
      rw [Value.withTag, htag] at hkeyed hm
      rw [hread, Except.toOption_map] at hm
      obtain ⟨texts, htexts, rfl⟩ := Option.map_eq_some_iff.mp hm
      exact ⟨rfl, values, texts, hvalues, hkeyed, Except.toOption_eq_some_iff.mp htexts, rfl⟩
  · rintro ⟨htag, values, texts, hvalues, hkeyed, htexts, rfl⟩
    rw [hvalues, Option.map_some, Value.withTag, htag, Option.filter_some, if_pos hkeyed,
      Option.bind_some, hread, htexts]
    rfl

/-- The entries of a map of texts may stand in any order. -/
theorem value_perm {read : Value → Except FieldProblem (NameMap String)}
    (hread : ∀ entries, read (.mapping entries) = (entries.mapM textEntry).map NameMap.ofList)
    (htagged : ∀ tag v, (read (.tagged tag v)).toOption = none) {p : Yaml.Place}
    {tag : Option Yaml.Tag} {xs ys : List (Node × Node)} (hp : xs.Perm ys)
    (hapart : Node.KeysApart xs) {m : NameMap String}
    (h : value read (.mapping p tag xs) = some m) :
    value read (.mapping p tag ys) = some m := by
  rw [value_mapping hread htagged] at h ⊢
  obtain ⟨htag, values, texts, hvalues, hkeyed, htexts, rfl⟩ := h
  -- no two entries are put under one name, so none is lost in either order
  have hnodup : (texts.map (·.1)).Nodup :=
    Node.nodup_of_apart (hapart.imp And.right) (map_coercedText? hvalues htexts)
  obtain ⟨values', hvperm, hvalues'⟩ := mapM_perm hp hvalues
  have htexts' := Except.toOption_eq_some_iff.mpr htexts
  rw [Except.toOption_mapM] at htexts'
  obtain ⟨texts', htperm, htexts''⟩ := mapM_perm hvperm htexts'
  rw [← Except.toOption_mapM, Except.toOption_eq_some_iff] at htexts''
  refine ⟨htag, values', texts', hvalues', ?_, htexts'',
    (NameMap.ofList_perm htperm hnodup).symm⟩
  have hscalar : ∀ v ∈ values, v.1.scalarText?.isSome := fun v hv => by
    obtain ⟨t, -, ht⟩ := exists_mem_of_forall₂ (mapM_eq_some_iff.mp htexts') hv
    rw [textEntry_eq_ok (Except.toOption_eq_some_iff.mp ht)]
    rfl
  exact Value.wellKeyed_mapping_perm hvperm hscalar hkeyed

end Stated

/-! ## Build sections -/

namespace Yaml.Node

theorem eq_of_withTag_eq {tag : Option Tag} {v w : Value} (h : Value.withTag tag v = w)
    (hw : ∀ name inner, w ≠ .tagged name inner) : tag.bind Tag.ownName? = none ∧ v = w := by
  unfold Value.withTag at h
  cases htag : tag.bind Tag.ownName? with
  | some name =>
    rw [htag] at h
    exact absurd h.symm (hw _ _)
  | none =>
    rw [htag] at h
    exact ⟨rfl, h⟩

/-- Only a scalar without a tag of the author's own is a text or null. -/
theorem hasOwnTag_of_value {n : Node} {v : Value} (h : n.value = .ok v)
    (hv : v = .null ∨ ∃ t, v = .text t) : n.hasOwnTag = false := by
  have htagged : ∀ name inner, v ≠ .tagged name inner := by
    rcases hv with rfl | ⟨t, rfl⟩ <;> exact nofun
  rw [← Except.toOption_eq_some_iff] at h
  rcases n with ⟨p, tag, style, text⟩ | ⟨p, tag, items⟩ | ⟨p, tag, entries⟩
  · rw [value, Except.toOption_map] at h
    obtain ⟨u, -, hu⟩ := Option.map_eq_some_iff.mp h
    rw [hasOwnTag, (eq_of_withTag_eq hu htagged).1]
    rfl
  · rw [value, Except.toOption_map] at h
    obtain ⟨items', -, hu⟩ := Option.map_eq_some_iff.mp h
    rcases hv with rfl | ⟨t, rfl⟩ <;> cases (eq_of_withTag_eq hu htagged).2
  · rw [toOption_value_mapping] at h
    obtain ⟨entries', -, hu⟩ := Option.map_eq_some_iff.mp h
    rcases hv with rfl | ⟨t, rfl⟩ <;> cases (eq_of_withTag_eq hu htagged).2

end Yaml.Node

namespace Build

/-- The `build` section that the entries of a mapping state. -/
def ofEntries? (entries : List (Node × Node)) : Option Build :=
  if entries.any fun e => e.1.hasOwnTag || e.2.hasOwnTag then none
  else (entries.mapM Node.entryValue?).bind fun values => ofValue? (.mapping values)

theorem partText?_perm {xs ys : List (Value × Value)} (hp : xs.Perm ys) (part : Part) :
    partText? part xs = partText? part ys := by
  have hfilter := hp.filter fun e => part? e.1 = some part
  unfold partText?
  generalize xs.filter (fun e => part? e.1 = some part) = us at hfilter ⊢
  generalize ys.filter (fun e => part? e.1 = some part) = ws at hfilter ⊢
  match us, ws, hfilter with
  | [], ws, h => rw [h.nil_eq]
  | [e], ws, h => rw [List.singleton_perm.mp h]
  | e :: e' :: rest, ws, h =>
    have hlength := h.length_eq
    match ws, hlength with
    | u :: u' :: others, _ => simp

/-- The entries of a `build` section may stand in any order. -/
theorem ofEntries?_perm {xs ys : List (Node × Node)} (hp : xs.Perm ys) {b : Build}
    (h : ofEntries? xs = some b) : ofEntries? ys = some b := by
  unfold ofEntries? at h ⊢
  rw [← hp.any_eq]
  split at h
  · cases h
  · next htag =>
    rw [if_neg htag]
    obtain ⟨values, hvalues, hb⟩ := Option.bind_eq_some_iff.mp h
    obtain ⟨values', hperm, hvalues'⟩ := mapM_perm hp hvalues
    rw [hvalues', Option.bind_some, ← hb]
    unfold ofValue?
    simp only [hperm.all_eq, partText?_perm hperm]

theorem ofEntries?_eq_of_perm {xs ys : List (Node × Node)} (hp : xs.Perm ys) :
    ofEntries? xs = ofEntries? ys :=
  Option.ext fun _ => ⟨ofEntries?_perm hp, ofEntries?_perm hp.symm⟩

/-- The part that a key calls by its name. -/
def namedPart? (key : Node) : Option Part :=
  match key.value with
  | .ok (.text name) => part? (.text name)
  | _ => none

/-- The part that a key calls by its number. -/
def numberedPart? (key : Node) : Option Part :=
  match key.value with
  | .ok (.natural n) => part? (.natural n)
  | _ => none

/-- A key whose value calls a part calls it by its name or by its number. -/
theorem part?_of_entryValue? {e : Node × Node} {v : Value × Value} {part : Part}
    (hv : Node.entryValue? e = some v) (hpart : part? v.1 = some part) :
    namedPart? e.1 = some part ∨ numberedPart? e.1 = some part := by
  obtain ⟨key, hkey, hvalue⟩ := Option.bind_eq_some_iff.mp hv
  obtain ⟨value, -, rfl⟩ := Option.map_eq_some_iff.mp hvalue
  rw [Except.toOption_eq_some_iff] at hkey
  unfold namedPart? numberedPart?
  rw [hkey]
  cases key with
  | text name => exact .inl hpart
  | natural n => exact .inr hpart
  | _ => cases hpart

theorem partText?_cons_null {key : Value} {part : Part} (hkey : part? key = some part)
    {values : List (Value × Value)} (hvalues : ∀ v ∈ values, part? v.1 ≠ some part) (q : Part) :
    partText? q ((key, .null) :: values) = partText? q values := by
  unfold partText?
  by_cases hq : part = q
  · subst hq
    have hnone : values.filter (fun e => part? e.1 = some part) = [] := by
      rw [List.filter_eq_nil_iff]
      exact fun v hv hsome => hvalues v hv (of_decide_eq_true hsome)
    rw [List.filter_cons_of_pos (by simp [hkey]), hnone]
  · rw [List.filter_cons_of_neg (by simp [hkey, hq])]

/-- A part that is null can be left out where no other entry calls it. -/
theorem ofEntries?_cons_of_null {e : Node × Node} {rest : List (Node × Node)} {part : Part}
    (hpart : namedPart? e.1 = some part) (hnull : e.2.hasNullValue)
    (hrest : ∀ other ∈ rest, namedPart? other.1 ≠ some part ∧ numberedPart? other.1 ≠ some part) :
    ofEntries? (e :: rest) = ofEntries? rest := by
  obtain ⟨name, hname, hcalls⟩ : ∃ name, e.1.value = .ok (.text name) ∧
      part? (.text name) = some part := by
    unfold namedPart? at hpart
    split at hpart
    · next name hname => exact ⟨name, hname, hpart⟩
    · cases hpart
  have hvalue : Node.entryValue? e = some (.text name, .null) := by
    unfold Node.entryValue?
    rw [hname, Node.value_of_hasNullValue hnull]
    rfl
  have htags : (e :: rest).any (fun e => e.1.hasOwnTag || e.2.hasOwnTag) =
      rest.any fun e => e.1.hasOwnTag || e.2.hasOwnTag := by
    rw [List.any_cons, Node.hasOwnTag_of_value hname (.inr ⟨name, rfl⟩),
      Node.hasOwnTag_of_value (Node.value_of_hasNullValue hnull) (.inl rfl)]
    rfl
  unfold ofEntries?
  rw [htags, List.mapM_cons, hvalue]
  refine if_congr Iff.rfl rfl ?_
  cases hvalues : rest.mapM Node.entryValue? with
  | none => rfl
  | some values =>
    show ofValue? (.mapping ((.text name, .null) :: values)) = ofValue? (.mapping values)
    have hvrest : ∀ v ∈ values, part? v.1 ≠ some part := fun v hv hsome => by
      obtain ⟨other, hother, hread⟩ := exists_mem_of_forall₂
        (List.Forall₂.flip (mapM_eq_some_iff.mp hvalues)) hv
      obtain ⟨hnamed, hnumbered⟩ := hrest other hother
      rcases part?_of_entryValue? hread hsome with h | h
      · exact hnamed h
      · exact hnumbered h
    unfold ofValue?
    simp only [List.all_cons, hcalls, Option.isSome_some, Bool.true_and,
      partText?_cons_null hcalls hvrest]

/-- The text of a key that calls a part by its name. -/
theorem coercedText?_of_namedPart? {key : Node} {part : Part} (hpart : namedPart? key = some part) :
    ∃ name, key.coercedText? = some name ∧ part? (.text name) = some part := by
  unfold namedPart? at hpart
  split at hpart
  · next name hname =>
    refine ⟨name, ?_, hpart⟩
    rw [Node.coercedText?, hname]
    rfl
  · cases hpart

/-- A part has one name. -/
theorem part?_text_inj {a b : String} {part : Part} (hne : part ≠ .other)
    (ha : part? (.text a) = some part) (hb : part? (.text b) = some part) : a = b := by
  have hname {t : String} (h : part? (.text t) = some part) :
      part = .context ∧ t = "context" ∨ part = .dockerfile ∧ t = "dockerfile" := by
    have hpart := Option.some.inj h
    split at hpart
    · next ht => exact .inl ⟨hpart.symm, ht⟩
    · split at hpart
      · next ht => exact .inr ⟨hpart.symm, ht⟩
      · exact absurd hpart.symm hne
  rcases hname ha with ⟨rfl, rfl⟩ | ⟨rfl, rfl⟩ <;> rcases hname hb with ⟨h, rfl⟩ | ⟨h, rfl⟩
  · rfl
  · cases h
  · cases h
  · rfl

/-- Null parts that no entry calls by their number can be left out. -/
theorem ofEntries?_append_of_null {left kept : List (Node × Node)}
    (hapart : Node.KeysApart (left ++ kept))
    (hleft : ∀ e ∈ left, e.2.hasNullValue ∧ ∃ part, part ≠ .other ∧ namedPart? e.1 = some part ∧
      ∀ other ∈ left ++ kept, numberedPart? other.1 ≠ some part) :
    ofEntries? (left ++ kept) = ofEntries? kept := by
  induction left with
  | nil => rfl
  | cons e rest ih =>
    obtain ⟨⟨hnull, part, hne, hpart, hnumbered⟩, hrest⟩ := List.forall_mem_cons.mp hleft
    obtain ⟨hfirst, happart⟩ := List.pairwise_cons.mp hapart
    -- the key of another entry that calls the part by its name would have the same text
    have hothers : ∀ other ∈ rest ++ kept,
        namedPart? other.1 ≠ some part ∧ numberedPart? other.1 ≠ some part := by
      refine fun other hother =>
        ⟨fun hother' => ?_, hnumbered other (List.mem_cons_of_mem _ hother)⟩
      obtain ⟨name, hname, hcalls⟩ := coercedText?_of_namedPart? hpart
      obtain ⟨name', hname', hcalls'⟩ := coercedText?_of_namedPart? hother'
      rcases (hfirst other hother).2 with hnone | hdiffer
      · cases hname.symm.trans hnone
      · exact hdiffer (by rw [hname, hname', part?_text_inj hne hcalls hcalls'])
    rw [List.cons_append, ofEntries?_cons_of_null hpart hnull hothers, ih happart]
    refine fun e' he' => ⟨(hrest e' he').1, ?_⟩
    obtain ⟨part', hne', hpart', hnumbered'⟩ := (hrest e' he').2
    exact ⟨part', hne', hpart',
      fun other hother => hnumbered' other (List.mem_cons_of_mem _ hother)⟩

end Build

theorem Stated.build_mapping (p : Yaml.Place) (tag : Option Yaml.Tag)
    (entries : List (Node × Node)) :
    Stated.build (.mapping p tag entries) =
      if (tag.bind Yaml.Tag.ownName?).isSome then none
      else (Build.ofEntries? entries).map some := by
  show ((Node.mapping p tag entries).untagged?.bind Build.ofValue?).map some = _
  unfold Node.untagged? Build.ofEntries?
  rw [Node.toOption_value_mapping, Node.hasOwnTag, Node.anyEntryOwnTag_eq_any]
  cases htag : tag.bind Yaml.Tag.ownName? with
  | some name => rfl
  | none =>
    simp only [Value.withTag, htag, Option.isSome_none, Bool.false_or, Bool.false_eq_true, if_false]
    split
    · rfl
    · rw [Option.bind_map]
      rfl

end StartOrder
