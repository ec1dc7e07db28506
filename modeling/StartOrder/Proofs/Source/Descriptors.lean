import Mathlib.Data.List.Perm.Basic
import StartOrder.Proofs.Json.Texts
import StartOrder.Source.Descriptor

/-!
# Spellings of descriptors

A descriptor is written in one way and read from many: from an object with its fields in any order,
with other fields among them, and with null for what is absent, or else from the array of its three
parts. `IsSpelling` says which values these are without mentioning the reader, and `IsFaulty` which
values spell no descriptor at all; `ofText?_spellings` is the account of both, over all texts of
such values.

The argument rests on one observation about objects. What is read of an object is settled by the
lists of the values under each of the three names (`ofJson?_object_eq_some_iff`), so that two
objects with the same lists need not be compared any further. In one direction, the lists of a
spelling are those that it was put together from, up to an order that lists of at most one value do
not have (`valuesOf_perm`, `IsPart.eq_of_perm`). In the other, any object is put together from the
fields under each name and the rest (`perm_flatMap_named`).

Faults need no case analysis of their own: each contradicts something that is known of the lists of
an object that is read (`valuesOf_of_ofJson?`).
-/

namespace StartOrder.Descriptor

/-! ## Spellings -/

/-- The values of a part that may be absent: its text, or else null or no value at all. -/
inductive IsPart : Option String → List Json → Prop
  | given (s : String) : IsPart (some s) [.text s]
  | null : IsPart none [.null]
  | omitted : IsPart none []

/-- The values that spell a descriptor: an object with its parts and other fields in any order, or
an array of its parts. -/
inductive IsSpelling (d : Descriptor) : Json → Prop
  | object {contents locations : List Json} {others fields : List (String × Json)}
      (hcontents : IsPart d.content contents) (hlocations : IsPart d.location locations)
      (hothers : ∀ field ∈ others, field.1 ∉ fieldNames)
      (hfields : fields.Perm (contents.map ("content", ·) ++ locations.map ("location", ·) ++
        ("contentType", .text d.contentType) :: others)) :
      IsSpelling d (.ofFields fields)
  | array {content location : Json} (hcontent : IsPart d.content [content])
      (hlocation : IsPart d.location [location]) :
      IsSpelling d (.array [content, location, .text d.contentType])

/-- A value may be given to a part: a text, or null if the part may be absent. -/
def HasType (name : String) (v : Json) : Prop :=
  (∃ s, v = .text s) ∨ name ≠ "contentType" ∧ v = .null

/-- Values that spell no descriptor: the media type is missing, a part is repeated, or it is given a
value that it cannot have. -/
inductive IsFaulty : Json → Prop
  | missing {fields : List (Option String × Json)} (h : some "contentType" ∉ fields.map (·.1)) :
      IsFaulty (.object fields)
  | repeated {fields : List (Option String × Json)} {name : String} (hname : name ∈ fieldNames)
      (h : 1 < (fields.map (·.1)).count (some name)) : IsFaulty (.object fields)
  | mistyped {fields : List (Option String × Json)} {name : String} {v : Json}
      (hname : name ∈ fieldNames) (hfield : (some name, v) ∈ fields) (h : ¬HasType name v) :
      IsFaulty (.object fields)
  | short {items : List Json} (h : items.length < 3) : IsFaulty (.array items)
  | mistypedItem {items : List Json} {i : Nat} {name : String} {v : Json}
      (hname : fieldNames[i]? = some name) (hitem : items[i]? = some v) (h : ¬HasType name v) :
      IsFaulty (.array items)

/-! ## The values under a name -/

variable {d : Descriptor} {name : String} {part : Option String}

/-- A part that may be absent is read from just the values that spell it. -/
theorem optionalPart?_eq_some_iff {v : Json} : optionalPart? v = some part ↔ IsPart part [v] := by
  constructor
  · intro h
    unfold optionalPart? at h
    split at h
    · cases h
      exact .null
    · cases h
      exact .given _
    · cases h
  · intro h
    cases h with
    | given s => rfl
    | null => rfl

theorem requiredPart?_eq_some_iff {v : Json} {s : String} :
    requiredPart? v = some s ↔ v = .text s := by
  constructor
  · intro h
    unfold requiredPart? at h
    split at h
    · cases h
      rfl
    · cases h
  · rintro rfl
    rfl

/-- A descriptor is made of three parts that are all read. -/
theorem ofParts_eq_some_iff {content? location? : Option (Option String)}
    {contentType? : Option String} :
    (do return { content := ← content?, location := ← location?, contentType := ← contentType? }
      : Option Descriptor) = some d ↔
      content? = some d.content ∧ location? = some d.location ∧
        contentType? = some d.contentType := by
  cases d
  simp [Option.bind_eq_some_iff]

theorem ofJson?_array_eq_some_iff {content location contentType : Json} :
    ofJson? (.array [content, location, contentType]) = some d ↔
      IsPart d.content [content] ∧ IsPart d.location [location] ∧
        contentType = .text d.contentType := by
  rw [← optionalPart?_eq_some_iff, ← optionalPart?_eq_some_iff, ← requiredPart?_eq_some_iff]
  exact ofParts_eq_some_iff

section Object

variable {fields : List (Option String × Json)}

theorem optionalField?_eq_some_iff :
    optionalField? name fields = some part ↔ IsPart part (valuesOf name fields) := by
  unfold optionalField?
  split
  · next hnone =>
    rw [hnone]
    constructor
    · intro h
      cases h
      exact .omitted
    · intro h
      cases h
      rfl
  · next v hv => rw [hv, optionalPart?_eq_some_iff]
  · next hnil hsingle =>
    -- the name is given more than once, which no part allows
    refine iff_of_false nofun fun h => ?_
    cases hvalues : valuesOf name fields with
    | nil => exact hnil hvalues
    | cons v rest =>
      rw [hvalues] at h
      cases h with
      | given s => exact hsingle _ hvalues
      | null => exact hsingle _ hvalues

theorem requiredField?_eq_some_iff {s : String} :
    requiredField? name fields = some s ↔ valuesOf name fields = [.text s] := by
  unfold requiredField?
  split
  · next v hv => rw [hv, requiredPart?_eq_some_iff, List.singleton_inj]
  · next hsingle => exact iff_of_false nofun fun h => hsingle _ h

/-- The descriptor of an object is settled by the values under each name. -/
theorem ofJson?_object_eq_some_iff :
    ofJson? (.object fields) = some d ↔ (∀ field ∈ fields, field.1.isSome) ∧
      IsPart d.content (valuesOf "content" fields) ∧
      IsPart d.location (valuesOf "location" fields) ∧
      valuesOf "contentType" fields = [.text d.contentType] := by
  rw [← optionalField?_eq_some_iff, ← optionalField?_eq_some_iff, ← requiredField?_eq_some_iff,
    ← List.all_eq_true]
  show (if _ then _ else none : Option Descriptor) = _ ↔ _
  split
  · next hnamed => exact ofParts_eq_some_iff.trans (and_iff_right hnamed).symm
  · next hnamed => exact iff_of_false nofun fun h => hnamed h.1

/-- A value that is found under a name is a value of a field with that name. -/
theorem mem_valuesOf {v : Json} : v ∈ valuesOf name fields ↔ (some name, v) ∈ fields := by
  simp [valuesOf]

theorem length_valuesOf :
    (valuesOf name fields).length = (fields.map (·.1)).count (some name) := by
  rw [valuesOf, List.length_map, List.count, List.countP_map, List.countP_eq_length_filter]
  rfl

end Object

/-! ## Fields name by name -/

section Named

variable {fields : List (String × Json)}

theorem valuesOf_map_some (name : String) (fields : List (String × Json)) :
    valuesOf name (fields.map fun e => (some e.1, e.2)) =
      (fields.filter (·.1 == name)).map (·.2) := by
  rw [valuesOf, List.filter_map, List.map_map]
  rfl

/-- The fields with a name are the values under it, each with the name. -/
theorem map_valuesOf (name : String) (fields : List (String × Json)) :
    (valuesOf name (fields.map fun e => (some e.1, e.2))).map (name, ·) =
      fields.filter (·.1 == name) := by
  rw [valuesOf_map_some, List.map_map]
  refine (List.map_congr_left fun field hfield => ?_).trans (List.map_id _)
  have hname : field.1 = name := beq_iff_eq.mp (List.mem_filter.mp hfield).2
  exact Prod.ext hname.symm rfl

/-- An object whose names are all texts is one of fields with names. -/
theorem exists_ofFields {fields : List (Option String × Json)}
    (h : ∀ field ∈ fields, field.1.isSome) :
    ∃ named : List (String × Json), fields = named.map fun e => (some e.1, e.2) := by
  induction fields with
  | nil => exact ⟨[], rfl⟩
  | cons field rest ih =>
    obtain ⟨hfield, hrest⟩ := List.forall_mem_cons.mp h
    obtain ⟨name, hname⟩ := Option.isSome_iff_exists.mp hfield
    obtain ⟨named, rfl⟩ := ih hrest
    exact ⟨(name, field.2) :: named, by rw [List.map_cons, ← hname]⟩

/-- The fields of an object are those under each of some names, and the others. -/
theorem perm_flatMap_named {names : List String} (hnd : names.Nodup)
    (fields : List (String × Json)) :
    (names.flatMap (fun name => fields.filter (·.1 == name)) ++
      fields.filter (·.1 ∉ names)).Perm fields := by
  induction names with
  | nil => simp
  | cons head rest ih =>
    obtain ⟨hhead, hrest⟩ := List.nodup_cons.mp hnd
    -- the fields with the first name are found among those that have no other of the names
    have hown : (fields.filter (·.1 ∉ rest)).filter (·.1 == head) =
        fields.filter (·.1 == head) := by
      rw [List.filter_filter]
      refine List.filter_congr fun field _ => ?_
      by_cases heq : field.1 = head
      · simp [heq, hhead]
      · simp [heq]
    have hothers : (fields.filter (·.1 ∉ rest)).filter (fun field => !(field.1 == head)) =
        fields.filter (·.1 ∉ head :: rest) := by
      rw [List.filter_filter]
      refine List.filter_congr fun field _ => ?_
      by_cases heq : field.1 = head
      · simp [heq]
      · simp [heq]
    have hsplit := List.filter_append_perm (·.1 == head) (fields.filter (·.1 ∉ rest))
    rw [hown, hothers] at hsplit
    rw [List.flatMap_cons, List.append_assoc]
    exact (List.perm_append_comm_assoc _ _ _).trans ((hsplit.append_left _).trans (ih hrest))

/-- The values of a part have no other order: there is at most one. -/
theorem IsPart.eq_of_perm {values values' : List Json} (h : IsPart part values)
    (hp : values'.Perm values) : values' = values := by
  cases h with
  | given s => exact List.perm_singleton.mp hp
  | null => exact List.perm_singleton.mp hp
  | omitted => exact List.perm_nil.mp hp

/-- The fields of one name have the values that they were given. -/
theorem map_snd_filter_map (name other : String) (values : List Json) :
    ((values.map (name, ·)).filter (·.1 == other)).map (·.2) =
      if name = other then values else [] := by
  by_cases h : name = other
  · simp [List.filter_map, Function.comp_def, h]
  · simp [List.filter_map, Function.comp_def, h]

end Named

/-! ## What is read -/

/-- The values under the name of a part, among fields that are told part by part. -/
theorem valuesOf_perm {contents locations : List Json} {contentType : Json}
    {others fields : List (String × Json)} (hothers : ∀ field ∈ others, field.1 ∉ fieldNames)
    (hfields : fields.Perm (contents.map ("content", ·) ++ locations.map ("location", ·) ++
      ("contentType", contentType) :: others)) (hname : name ∈ fieldNames) :
    (valuesOf name (fields.map fun e => (some e.1, e.2))).Perm
      ((if "content" = name then contents else []) ++
        (if "location" = name then locations else []) ++
        if "contentType" = name then [contentType] else []) := by
  have hnone : others.filter (·.1 == name) = [] :=
    List.filter_eq_nil_iff.mpr fun field hfield heq =>
      hothers field hfield (beq_iff_eq.mp heq ▸ hname)
  have hparts : fields.Perm (contents.map ("content", ·) ++ locations.map ("location", ·) ++
      ([contentType].map ("contentType", ·) ++ others)) := hfields
  have hnamed := (hparts.filter (·.1 == name)).map (·.2)
  simp only [List.filter_append, List.map_append, map_snd_filter_map, hnone,
    List.append_nil] at hnamed
  rwa [valuesOf_map_some]

/-- What spells a descriptor is read as it. -/
theorem ofJson?_of_isSpelling {v : Json} (h : d.IsSpelling v) : ofJson? v = some d := by
  cases h with
  | object hcontents hlocations hothers hfields =>
    have hvalues := fun name hname => @valuesOf_perm name _ _ _ _ _ hothers hfields hname
    have hcontent := hvalues "content" (by decide)
    have hlocation := hvalues "location" (by decide)
    have hcontentType := hvalues "contentType" (by decide)
    simp only [String.reduceEq, if_true, if_false, List.append_nil, List.nil_append]
      at hcontent hlocation hcontentType
    refine ofJson?_object_eq_some_iff.mpr ⟨?_, ?_, ?_, List.perm_singleton.mp hcontentType⟩
    · exact List.forall_mem_map.mpr fun _ _ => rfl
    · rwa [hcontents.eq_of_perm hcontent]
    · rwa [hlocations.eq_of_perm hlocation]
  | array hcontent hlocation => exact ofJson?_array_eq_some_iff.mpr ⟨hcontent, hlocation, rfl⟩

/-- What is read as a descriptor spells it: the fields of an object are taken apart by their
names. -/
theorem isSpelling_of_ofJson? {v : Json} (h : ofJson? v = some d) : d.IsSpelling v := by
  unfold ofJson? at h
  split at h
  · next fields =>
    obtain ⟨hnamed, hcontent, hlocation, hcontentType⟩ := ofJson?_object_eq_some_iff.mp h
    obtain ⟨named, rfl⟩ := exists_ofFields hnamed
    have hothers : ∀ field ∈ named.filter (·.1 ∉ fieldNames), field.1 ∉ fieldNames :=
      fun field hfield => of_decide_eq_true (List.mem_filter.mp hfield).2
    have hvalues : named.filter (·.1 == "contentType") =
        [("contentType", .text d.contentType)] := by
      rw [← map_valuesOf, hcontentType]
      rfl
    -- the fields are those with the name of each part, and the others
    have hperm : (fieldNames.flatMap (fun name => named.filter (·.1 == name)) ++
        named.filter (·.1 ∉ fieldNames)).Perm named := perm_flatMap_named (by decide) named
    refine .object hcontent hlocation hothers ?_
    rw [map_valuesOf, map_valuesOf]
    simp only [fieldNames, List.flatMap_cons, List.flatMap_nil, List.append_nil, hvalues,
      List.append_assoc] at hperm ⊢
    exact hperm.symm
  · next content location contentType =>
    obtain ⟨hcontent, hlocation, rfl⟩ := ofJson?_array_eq_some_iff.mp h
    exact .array hcontent hlocation
  · cases h

theorem ofJson?_eq_some_iff {v : Json} : ofJson? v = some d ↔ d.IsSpelling v :=
  ⟨isSpelling_of_ofJson?, ofJson?_of_isSpelling⟩

/-- A descriptor is written as a spelling of it. -/
theorem isSpelling_toJson (d : Descriptor) : d.IsSpelling d.toJson := by
  have hpart : ∀ part : Option String, IsPart part (part.toList.map Json.text) := fun part =>
    match part with
    | some s => .given s
    | none => .omitted
  have hothers : ∀ field ∈ ([] : List (String × Json)), field.1 ∉ fieldNames := nofun
  refine .object (hpart d.content) (hpart d.location) hothers (List.Perm.of_eq ?_)
  rw [List.map_map, List.map_map]
  rfl

/-! ## What is not read -/

/-- The values of a part that may be absent are as few as it may have, and of its type. -/
theorem IsPart.length_le_and_hasType {values : List Json} (h : IsPart part values)
    (hname : name ≠ "contentType") : values.length ≤ 1 ∧ ∀ v ∈ values, HasType name v := by
  cases h with
  | given s => exact ⟨Nat.le_refl 1, List.forall_mem_singleton.mpr (.inl ⟨s, rfl⟩)⟩
  | null => exact ⟨Nat.le_refl 1, List.forall_mem_singleton.mpr (.inr ⟨hname, rfl⟩)⟩
  | omitted => exact ⟨Nat.zero_le 1, nofun⟩

theorem valuesOf_of_ofJson? {fields : List (Option String × Json)}
    (h : ofJson? (.object fields) = some d) (hname : name ∈ fieldNames) :
    (valuesOf name fields).length ≤ 1 ∧ ∀ v ∈ valuesOf name fields, HasType name v := by
  obtain ⟨-, hcontent, hlocation, hcontentType⟩ := ofJson?_object_eq_some_iff.mp h
  simp only [fieldNames, List.mem_cons, List.not_mem_nil, or_false] at hname
  rcases hname with rfl | rfl | rfl
  · exact hcontent.length_le_and_hasType (by decide)
  · exact hlocation.length_le_and_hasType (by decide)
  · rw [hcontentType]
    exact ⟨Nat.le_refl 1, List.forall_mem_singleton.mpr (.inl ⟨_, rfl⟩)⟩

theorem hasType_of_ofJson?_array {items : List Json} {i : Nat} {v : Json}
    (h : ofJson? (.array items) = some d) (hname : fieldNames[i]? = some name)
    (hitem : items[i]? = some v) : HasType name v := by
  unfold ofJson? at h
  split at h
  · next heq => cases heq
  · next content location contentType heq =>
    cases heq
    obtain ⟨hcontent, hlocation, rfl⟩ := ofJson?_array_eq_some_iff.mp h
    match i with
    | 0 =>
      cases hname
      cases hitem
      exact (hcontent.length_le_and_hasType (by decide)).2 _ List.mem_cons_self
    | 1 =>
      cases hname
      cases hitem
      exact (hlocation.length_le_and_hasType (by decide)).2 _ List.mem_cons_self
    | 2 =>
      cases hname
      cases hitem
      exact .inl ⟨_, rfl⟩
    | i + 3 => cases hname
  · cases h

/-- What has a fault is read as no descriptor. -/
theorem ofJson?_of_isFaulty {v : Json} (h : IsFaulty v) : ofJson? v = none := by
  rw [Option.eq_none_iff_forall_ne_some]
  intro d hd
  cases h with
  | @missing fields h =>
    have hmem : Json.text d.contentType ∈ valuesOf "contentType" fields := by
      rw [(ofJson?_object_eq_some_iff.mp hd).2.2.2]
      exact List.mem_singleton_self _
    exact h (List.mem_map_of_mem (mem_valuesOf.mp hmem))
  | repeated hname h =>
    rw [← length_valuesOf] at h
    exact Nat.not_lt.mpr (valuesOf_of_ofJson? hd hname).1 h
  | mistyped hname hfield h =>
    exact h ((valuesOf_of_ofJson? hd hname).2 _ (mem_valuesOf.mpr hfield))
  | short h =>
    cases isSpelling_of_ofJson? hd with
    | array => exact Nat.lt_irrefl 3 h
  | mistypedItem hname hitem h => exact h (hasType_of_ofJson?_array hd hname hitem)

/-! ## Texts -/

/-- **A descriptor is read from each of its spellings.** What is written of a descriptor is read as
it. So is every text of an object that holds its parts in any order, where what is absent may be
null or left out, with any other fields; and every text of the array of its parts. A text is not
read if the media type is missing, a part is repeated, or it is given a value that it cannot have;
and nothing but a spelling is read as the descriptor. -/
theorem ofText?_spellings (d : Descriptor) :
    ofText? d.text = some d ∧
    (∀ v (text : String), d.IsSpelling v → v.IsTextOf text.toList → ofText? text = some d) ∧
    (∀ v (text : String), IsFaulty v → v.IsTextOf text.toList → ofText? text = none) ∧
    ∀ text, ofText? text = some d ↔ ∃ v, Json.ofText? text = some v ∧ d.IsSpelling v := by
  have hread : ∀ v (text : String), d.IsSpelling v → v.IsTextOf text.toList →
      ofText? text = some d := by
    intro v text hv htext
    rw [ofText?, Json.ofText?_of_isTextOf htext]
    exact ofJson?_of_isSpelling hv
  refine ⟨?_, hread, ?_, ?_⟩
  · have hspelled : d.toJson.IsSpelled := by
      refine Json.isSpelled_ofFields.mpr fun field hfield => ?_
      simp only [List.mem_append, List.mem_map, List.mem_singleton] at hfield
      rcases hfield with (⟨s, -, rfl⟩ | ⟨s, -, rfl⟩) | rfl <;> exact Json.isSpelled_text _
    exact hread d.toJson d.text (isSpelling_toJson d) (Json.isTextOf_compact hspelled)
  · intro v text hv htext
    rw [ofText?, Json.ofText?_of_isTextOf htext]
    exact ofJson?_of_isFaulty hv
  · intro text
    rw [ofText?, Option.bind_eq_some_iff]
    exact exists_congr fun v => and_congr_right fun _ => ofJson?_eq_some_iff

/-- A descriptor of an address. -/
def pageDescriptor : Descriptor := { location := some "http://h/", contentType := "text/yaml" }

/-- A descriptor is read from an object with its parts in another order, an absent part as null and
another field, and from an array. It is not read if a part is repeated. -/
theorem ofText?_spellings_page :
    let fields := [("x", Json.bool true), ("contentType", .text "text/yaml"), ("content", .null),
      ("location", .text "http://h/")]
    let items := [Json.null, .text "http://h/", .text "text/yaml"]
    let repeated := [("contentType", Json.text "a"), ("contentType", .text "b")]
    pageDescriptor.IsSpelling (.ofFields fields) ∧ pageDescriptor.IsSpelling (.array items) ∧
      IsFaulty (.ofFields repeated) ∧ ofText? pageDescriptor.text = some pageDescriptor ∧
      ofText? (Json.ofFields fields).compact = some pageDescriptor ∧
      ofText? (Json.array items).compact = some pageDescriptor ∧
      ofText? (Json.ofFields repeated).compact = none := by
  intro fields items repeated
  obtain ⟨htext, hread, hfaulty, -⟩ := ofText?_spellings pageDescriptor
  have hfields : pageDescriptor.IsSpelling (.ofFields fields) :=
    ofJson?_eq_some_iff.mp rfl
  have hitems : pageDescriptor.IsSpelling (.array items) := .array .null (.given "http://h/")
  have hrepeated : IsFaulty (.ofFields repeated) :=
    .repeated (List.mem_cons_of_mem _ (List.mem_cons_of_mem _ List.mem_cons_self)) (by decide)
  exact ⟨hfields, hitems, hrepeated, htext,
    hread _ _ hfields (Json.isTextOf_compact (by simp [fields])),
    hread _ _ hitems (Json.isTextOf_compact (by simp [items])),
    hfaulty _ _ hrepeated (Json.isTextOf_compact (by simp [repeated]))⟩

end StartOrder.Descriptor
