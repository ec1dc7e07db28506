import StartOrder.Proofs.Recipe.Fields
import StartOrder.Proofs.Yaml.Decimal
import StartOrder.Recipe.Written

/-!
# Recipes that are written and read

The document that holds an environment is read as that environment, without the keys that are not
known: fields that are absent or empty are left out and read as absent or empty, and everything else
is written in a form that is read as what it was.

For each kind of field there is one lemma that what is written is read (`Stated.list_quoted`,
`Stated.map_quoted`, `Stated.number_plain`, `Stated.build_toNode`). All scalars but numbers are in
quotes; numbers are the only ones for which something has to be shown about characters, namely that
their digits are not mistaken for a null.

A service is written as up to sixteen entries, in the order of its fields. Reading them is a fold
over entries from an empty service. Each entry that may be left out puts the value of its field into
a record that does not hold it yet, whether it is there or not (`Written.fold_toList`,
`Written.fold_list`, `Written.fold_map`), so that the fold can be run symbolically, without a case
for each of the fields that is absent.
-/

namespace StartOrder

open Yaml (Node Spot Value Meaning Meanings treeOf?)

/-! ## Leaving out what is not known -/

/-- A service without the keys that are not known. -/
def Service.withoutUnknown (s : Service) : Service := { s with unknown := ∅ }

/-- An environment without the keys that are not known, its own and those of its services. -/
def Environment.withoutUnknown (e : Environment) : Environment :=
  { e with services := e.services.map fun _ s => s.withoutUnknown, unknown := ∅ }

/-- What is not known is not written. -/
theorem Environment.toNode_withoutUnknown (e : Environment) :
    e.withoutUnknown.toNode = e.toNode := by
  unfold toNode withoutUnknown NameMap.map
  rw [List.map_map]
  rfl

/-! ## Fields -/

namespace Stated

theorem version_quoted (t : String) : value versionText (.quoted t) = some (some t) := rfl

theorem list_quoted (ts : List String) :
    list (.sequence {} none (ts.map .quoted)) = some ts := by
  have hread := mapM_map_eq_pure (g := Node.text?) (k := id) (f := Node.quoted) (fun _ => rfl) ts
  rw [List.map_id] at hread
  exact hread

theorem number_plain (n : UInt64) : number (.plain (toString n.toNat)) = some (some n) := by
  have hread := Yaml.unsigned?_toString n.toNat
  -- nothing but that it spells the number is used of the text
  generalize toString n.toNat = t at hread
  obtain ⟨hempty, hnull⟩ := Yaml.not_null_of_unsigned? hread
  have hfits : n.toNat < UInt64.size := n.toNat_lt
  have hsome : (Node.plain t).unsigned? = some n.toNat := by
    simp [Node.unsigned?, Node.plain, hread, Spot.maySpellNumber, hfits]
  show (if (Node.plain t).isNull then some none
    else if (Node.plain t).isMisspeltNull then none
    else (Node.plain t).unsigned?.map fun k => some (UInt64.ofNat k)) = _
  rw [hsome]
  simp [Node.isNull, Node.isMisspeltNull, Node.plain, hempty, hnull]

/-- Absent parts are not written, and read as absent. -/
theorem build_toNode (b : Build) : build b.toNode = some (some b) := by
  rcases b with context | ⟨context, dockerfile⟩
  · rfl
  · cases context <;> cases dockerfile <;> rfl

/-- The entries of a map of texts as they are written. -/
def mapNode (m : NameMap String) : Node :=
  .mapping {} none (m.toList.map fun (key, s) => Written.entry key (.quoted s))

/-- The values of the entries of a map of texts as they are written. -/
def mapValues (entries : List (String × String)) : List (Value × Value) :=
  entries.map fun (key, s) => (.text key, .text s)

theorem value_quoted (entries : List (String × String)) :
    (Node.mapping {} none (entries.map fun (key, s) =>
      Written.entry key (.quoted s))).value.toOption = some (.mapping (mapValues entries)) := by
  have hentry (e : String × String) :
      Node.entryValue? (Written.entry e.1 (.quoted e.2)) = pure (.text e.1, .text e.2) := rfl
  have hvalues := mapM_map_eq_pure hentry entries
  rw [Node.toOption_value_mapping, hvalues]
  rfl

/-- Different texts are different keys, and texts are well keyed. -/
theorem wellKeyed_mapValues {entries : List (String × String)} (h : (entries.map (·.1)).Nodup) :
    Value.wellKeyed (.mapping (mapValues entries)) = true := by
  refine Bool.and_eq_true_iff.mpr ⟨?_, ?_⟩
  · rw [Value.distinctKeys_iff]
    refine List.pairwise_map.mpr ((List.pairwise_map.mp h).imp fun {a b} hne => ?_)
    simpa [Value.equals] using hne
  · rw [Value.wellKeyedEntries_iff]
    intro v hv
    obtain ⟨e, -, rfl⟩ := List.mem_map.mp hv
    exact ⟨rfl, rfl⟩

/-- A map of texts is read as it was written, by any reader that takes mappings as such maps. -/
theorem map_quoted {read : Value → Except FieldProblem (NameMap String)}
    (hread : ∀ entries, read (.mapping entries) = (entries.mapM textEntry).map NameMap.ofList)
    (m : NameMap String) : value read (mapNode m) = some m := by
  -- the mapping has a value because its keys are different, and each entry of it is two texts
  have htexts : (mapValues m.toList).mapM textEntry = .ok (m.toList.map id) :=
    mapM_map_eq_pure (g := textEntry) (k := id) (fun _ => rfl) m.toList
  show ((mapNode m).wellKeyedValue.toOption.bind fun v => (read v).toOption) = some m
  rw [Node.toOption_wellKeyedValue, mapNode, value_quoted, Option.filter_some,
    if_pos (wellKeyed_mapValues m.keys_nodup), Option.bind_some, hread, htexts, List.map_id]
  exact congrArg some (NameMap.ofList_toList m)

end Stated

/-! ## Entries that may be left out -/

namespace Written

variable {σ α : Type} (m : Meanings σ) {x : σ}

theorem fold_entry (name : String) {reading : Node → Option α} {set : σ → α → σ}
    (hname : m.under name = .sets reading set) {n : Node} {a : α} (hread : reading n = some a)
    (x : σ) : m.fold x [entry name n] = some (set x a) :=
  Meanings.fold_singleton hname rfl hread x

/-- A value that may be absent is put into the record, which holds none before. -/
theorem fold_toList (name : String) {reading : Node → Option (Option α)}
    {set : σ → Option α → σ} (hname : m.under name = .sets reading set)
    (habsent : set x none = x) {toNode : α → Node}
    (hread : ∀ a, reading (toNode a) = some (some a)) (v : Option α) :
    m.fold x (v.toList.map fun a => entry name (toNode a)) = some (set x v) := by
  cases v with
  | none => rw [habsent]; rfl
  | some a => exact fold_entry m name hname (hread a) x

/-- A text that may be absent is put into the record, which holds none before. -/
theorem fold_optional (name : String) {set : σ → Option String → σ}
    (hname : m.under name = .sets Stated.text set) (habsent : set x none = x) (v : Option String) :
    m.fold x (optional name v) = some (set x v) :=
  fold_toList m name hname habsent (Stated.text_quoted {} none) v

/-- A list of texts is put into the record, which holds an empty one before. -/
theorem fold_list (name : String) {set : σ → List String → σ}
    (hname : m.under name = .sets Stated.list set) (habsent : set x [] = x) (v : List String) :
    m.fold x (list name v) = some (set x v) := by
  cases v with
  | nil => rw [habsent]; rfl
  | cons t rest => exact fold_entry m name hname (Stated.list_quoted (t :: rest)) x

/-- A map of texts is put into the record, which holds an empty one before. -/
theorem fold_map (name : String) {read : Value → Except FieldProblem (NameMap String)}
    {set : σ → NameMap String → σ} (hname : m.under name = .sets (Stated.value read) set)
    (hread : ∀ entries, read (.mapping entries) = (entries.mapM textEntry).map NameMap.ofList)
    (habsent : set x ∅ = x) (v : NameMap String) : m.fold x (map name v) = some (set x v) := by
  unfold map
  cases hempty : v.isEmpty with
  | true =>
    have hv : v = ∅ := NameMap.ext (List.isEmpty_iff.mp hempty)
    rw [hv, habsent]
    rfl
  | false => exact fold_entry m name hname (Stated.map_quoted hread v) x

end Written

/-! ## Keys -/

namespace Written

/-- The texts of the keys of some entries. -/
def keyTexts (entries : List (Node × Node)) : List (Option String) := entries.map (·.1.text?)

theorem keyTexts_toList {α : Type} (name : String) (toNode : α → Node) (v : Option α) :
    (keyTexts (v.toList.map fun a => entry name (toNode a))).Sublist [some name] := by
  cases v with
  | none => exact List.nil_sublist _
  | some a => exact .refl _

theorem keyTexts_optional (name : String) (v : Option String) :
    (keyTexts (optional name v)).Sublist [some name] :=
  keyTexts_toList name .quoted v

theorem keyTexts_list (name : String) (v : List String) :
    (keyTexts (list name v)).Sublist [some name] := by
  cases v with
  | nil => exact List.nil_sublist _
  | cons t rest => exact .refl _

theorem keyTexts_map (name : String) (v : NameMap String) :
    (keyTexts (map name v)).Sublist [some name] := by
  unfold map
  cases v.isEmpty with
  | true => exact List.nil_sublist _
  | false => exact .refl _

theorem keyTexts_append {xs ys : List (Node × Node)} {name : String} {names : List (Option String)}
    (hx : (keyTexts xs).Sublist [some name]) (hy : (keyTexts ys).Sublist names) :
    (keyTexts (xs ++ ys)).Sublist (some name :: names) := by
  unfold keyTexts
  rw [List.map_append]
  exact hx.append hy

/-- Keys that are some of a list of different names, in its order, are written apart. -/
theorem writtenApart_of_sublist {entries : List (Node × Node)} {names : List (Option String)}
    (h : (keyTexts entries).Sublist names) (hnd : names.Nodup) : Yaml.WrittenApart entries := by
  have hkeys : (keyTexts entries).Nodup := hnd.sublist h
  exact (List.pairwise_map.mp hkeys).imp fun hne => .inr hne

end Written

/-! ## The two records -/

namespace Service

open Written in
theorem writtenApart_toNode (s : Service) : Yaml.WrittenApart (s.toNode.entries?.getD []) := by
  simp only [toNode, Node.entries?, Option.getD_some, List.append_assoc]
  refine writtenApart_of_sublist (
    keyTexts_append (keyTexts_optional "image" _) <|
    keyTexts_append (keyTexts_toList "build" _ _) <|
    keyTexts_append (keyTexts_optional "context" _) <|
    keyTexts_append (keyTexts_optional "dockerfile" _) <|
    keyTexts_append (keyTexts_list "command" _) <|
    keyTexts_append (keyTexts_list "entrypoint" _) <|
    keyTexts_append (keyTexts_map "environment" _) <|
    keyTexts_append (keyTexts_list "depends_on" _) <|
    keyTexts_append (keyTexts_list "links" _) <|
    keyTexts_append (keyTexts_optional "container_name" _) <|
    keyTexts_append (keyTexts_map "labels" _) <|
    keyTexts_append (keyTexts_list "expose" _) <|
    keyTexts_append (keyTexts_list "ports" _) <|
    keyTexts_append (keyTexts_list "volumes" _) <|
    keyTexts_append (keyTexts_list "volumes_from" _) <|
    keyTexts_toList "mem_limit" _ _) (by decide)

theorem ofNode?_toNode (s : Service) : ofNode? s.toNode = some s.withoutUnknown := by
  refine (meanings.record?_mapping s.writtenApart_toNode {} {} none).trans ?_
  simp only [toNode, Node.entries?, Option.getD_some, Meanings.fold_append]
  -- entry by entry, each puts its field into a record that does not hold it yet
  rw [Written.fold_optional meanings "image" rfl rfl, Option.bind_some,
    Written.fold_toList meanings "build" rfl rfl Stated.build_toNode, Option.bind_some,
    Written.fold_optional meanings "context" rfl rfl, Option.bind_some,
    Written.fold_optional meanings "dockerfile" rfl rfl, Option.bind_some,
    Written.fold_list meanings "command" rfl rfl, Option.bind_some,
    Written.fold_list meanings "entrypoint" rfl rfl, Option.bind_some,
    Written.fold_map meanings "environment" rfl (fun _ => rfl) rfl, Option.bind_some,
    Written.fold_list meanings "depends_on" rfl rfl, Option.bind_some,
    Written.fold_list meanings "links" rfl rfl, Option.bind_some,
    Written.fold_optional meanings "container_name" rfl rfl, Option.bind_some,
    Written.fold_map meanings "labels" rfl (fun _ => rfl) rfl, Option.bind_some,
    Written.fold_list meanings "expose" rfl rfl, Option.bind_some,
    Written.fold_list meanings "ports" rfl rfl, Option.bind_some,
    Written.fold_list meanings "volumes" rfl rfl, Option.bind_some,
    Written.fold_list meanings "volumes_from" rfl rfl, Option.bind_some,
    Written.fold_toList meanings "mem_limit" rfl rfl Stated.number_plain]
  rfl

end Service

namespace Environment

/-- A section of services is read as it was written, without what is not known. -/
theorem services_mapping (services : NameMap Service) :
    Stated.services (.mapping {} none (services.toList.map fun (name, s) =>
      Written.entry name s.toNode)) = some (services.map fun _ s => s.withoutUnknown) := by
  have hentry (e : String × Service) : Stated.serviceEntry (Written.entry e.1 e.2.toNode) =
      pure (e.1, e.2.withoutUnknown) := by
    unfold Stated.serviceEntry Written.entry
    rw [Service.ofNode?_toNode]
    rfl
  have hentries : (services.toList.map fun (name, s) => Written.entry name s.toNode).mapM
      Stated.serviceEntry = some (services.map fun _ s => s.withoutUnknown).toList :=
    mapM_map_eq_pure hentry services.toList
  refine (congrArg (Option.map NameMap.ofList) hentries).trans ?_
  exact congrArg some (NameMap.ofList_toList _)

theorem writtenApart_toNode (e : Environment) : Yaml.WrittenApart (e.toNode.entries?.getD []) :=
  Written.writtenApart_of_sublist
    (Written.keyTexts_append (Written.keyTexts_optional "version" _) (.refl [some "services"]))
    (by decide)

theorem ofNode?_toNode (e : Environment) : ofNode? e.toNode = some e.withoutUnknown := by
  refine (meanings.record?_mapping e.writtenApart_toNode {} {} none).trans ?_
  simp only [toNode, Node.entries?, Option.getD_some, Meanings.fold_append]
  rw [Written.optional, Written.fold_toList meanings "version" rfl rfl Stated.version_quoted,
    Option.bind_some]
  rw [Written.fold_entry meanings "services" rfl (services_mapping e.services)]
  rfl

/-- The document that holds an environment is read as that environment without the keys that are not
known, be it taken as a tree or as a text with that tree, wherever the nodes stand in it; and the
environment that is read is held by the same document. -/
theorem read_written (e : Environment) :
    (∀ s : Spot, s.tree = e.toNode → read s = .ok e.withoutUnknown) ∧
      (∀ text, treeOf? text = some e.toNode → ofYaml text = .ok e.withoutUnknown) ∧
      e.withoutUnknown.toNode = e.toNode := by
  refine ⟨fun s hs => ?_, fun text htext => ?_, e.toNode_withoutUnknown⟩
  · rw [← Except.toOption_eq_some_iff, toOption_read, hs, ofNode?_toNode]
  · rcases ofYaml_of_treeOf? htext with ⟨problem, -, hnone⟩ | ⟨e', hread, hsome⟩
    · rw [ofNode?_toNode] at hnone
      cases hnone
    · rw [ofNode?_toNode] at hsome
      rw [hread, Option.some.inj hsome]

/-- An environment with keys that are not known, at the top and in a service. -/
def overtold : Environment where
  version := some "2.10"
  services := NameMap.ofList [
    ("db",
      { image := some "postgres"
        environment := NameMap.ofList [("USER", "null"), ("PORT", "")]
        memLimit := some 65536
        unknown := NameSet.ofNames ["restart"] }),
    ("web", { build := some (.parts (some "./web") none), dependsOn := ["db"] })]
  unknown := NameSet.ofNames ["networks"]

/-- A text that holds it. -/
def overtoldText : String :=
  "'version': '2.10'\n'services':\n  'db':\n    'image': \"postgres\"\n    'environment':\n" ++
  "      'PORT': ''\n      'USER': 'null'\n    'mem_limit': 65536\n" ++
  "  'web':\n    'build':\n      'context': './web'\n    'depends_on':\n      - 'db'\n"

/-- The environment is read from the text without the two keys. -/
theorem overtold_read_written :
    treeOf? overtoldText = some overtold.toNode ∧
      ofYaml overtoldText = .ok overtold.withoutUnknown ∧ overtold.withoutUnknown ≠ overtold := by
  have htree : treeOf? overtoldText = some overtold.toNode := by decide +kernel
  exact ⟨htree, overtold.read_written.2.1 overtoldText htree, by decide +kernel⟩

end Environment

end StartOrder
