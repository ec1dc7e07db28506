import StartOrder.Proofs.Recipe.Keys
import StartOrder.Proofs.Recipe.Sections

/-!
# Unknown keys of build sections

Keys that are not known are reported, at the top of a recipe and in its services. A `build` section
is the exception: it is read for its two parts, by whichever name or number they are called, and
what else stands in it leaves no trace. Nothing is reported or warned of, and a recipe that is the
same but for such keys is the same environment.

That is `Environment.build_keys_dropped`, and `build_key_not_reported` states the consequence: it is
not so that every key that is no part of the format is reported.

The proof takes the keys out of the tree (`Environment.withoutBuildKeys`), which changes values two
levels down, in each section of `services` under the key `build`. Rather than once for each level,
it is shown once that a record states the same if values under one of its keys are replaced by
others that state the same (`Yaml.Meanings.record?_mapUnder`). What remains is the `build` section
itself (`Build.ofEntries?_filter_callsOther`).
-/

namespace StartOrder

open Yaml (Node Value Meaning Meanings treeOf?)
open NameMap (LastBinds)

/-! ## Other values in a tree -/

namespace Yaml

variable {σ α : Type}

namespace Node

/-- A mapping with other entries. -/
def mapEntries (f : List (Node × Node) → List (Node × Node)) : Node → Node
  | .mapping p tag entries => .mapping p tag (f entries)
  | n => n

/-- A mapping with other values under a key. -/
def mapUnder (name : String) (f : Node → Node) : Node → Node :=
  mapEntries (·.map fun e => (e.1, if e.1.text? = some name then f e.2 else e.2))

/-- A mapping with other values. -/
def mapValues (f : Node → Node) : Node → Node := mapEntries (·.map fun e => (e.1, f e.2))

/-- What is read of a tree that may be null is read of a mapping with other entries, if it is read
of these. -/
theorem orNull_mapEntries {null a : α} {reading : Node → Option α}
    {f : List (Node × Node) → List (Node × Node)}
    (hf : ∀ p tag entries, reading (.mapping p tag entries) = some a →
      reading (.mapping p tag (f entries)) = some a) {n : Node}
    (h : orNull null reading n = some a) : orNull null reading (n.mapEntries f) = some a := by
  cases n with
  | mapping p tag entries => exact hf p tag entries h
  | scalar p tag style text => exact h
  | sequence p tag items => exact h

end Node

/-- Entries make the same changes with other values that say the same. -/
theorem Meanings.fold_map {m : Meanings σ} {name : String} {f : Node → Node}
    (hf : ∀ n g, m.under name n = some g → m.under name (f n) = some g)
    {entries : List (Node × Node)} {x y : σ} (h : m.fold x entries = some y) :
    m.fold x (entries.map fun e => (e.1, if e.1.text? = some name then f e.2 else e.2)) =
      some y := by
  induction entries generalizing x with
  | nil => exact h
  | cons e rest ih =>
    rw [fold_cons] at h
    obtain ⟨g, hg, hrest⟩ := Option.bind_eq_some_iff.mp h
    obtain ⟨key, hkey, hunder⟩ := Option.bind_eq_some_iff.mp hg
    have hchange : m.change (e.1, if e.1.text? = some name then f e.2 else e.2) = some g := by
      rw [change, hkey, Option.bind_some]
      by_cases heq : key = name
      · rw [if_pos (congrArg some heq), heq]
        exact hf e.2 g (heq ▸ hunder)
      · rwa [if_neg fun hsome => heq (Option.some.inj hsome)]
    rw [List.map_cons, fold_cons, hchange]
    exact ih hrest

/-- A record says the same with other values under a key that say the same. -/
theorem Meanings.record?_mapUnder {m : Meanings σ} {name : String} {f : Node → Node}
    (hf : ∀ n g, m.under name n = some g → m.under name (f n) = some g) {absent x : σ} {n : Node}
    (h : m.record? absent n = some x) : m.record? absent (n.mapUnder name f) = some x := by
  cases n with
  | mapping p tag entries =>
    -- the keys stay as they are, so no field is given twice that was not before
    have hgiven : m.given (entries.map fun e =>
        (e.1, if e.1.text? = some name then f e.2 else e.2)) = m.given entries := by
      rw [given, List.filterMap_map]
      rfl
    change (if (m.given entries).Nodup then m.fold absent entries else none) = some x at h
    show (if (m.given _).Nodup then m.fold absent _ else none) = some x
    rw [hgiven]
    split at h
    · next hnodup =>
      rw [if_pos hnodup]
      exact fold_map hf h
    · cases h
  | scalar p tag style text => exact h
  | sequence p tag items => exact h

end Yaml

/-! ## Build sections -/

namespace Build

/-- The key of an entry calls no part. -/
def callsOther (e : Node × Node) : Bool := e.1.value.toOption.bind part? = some .other

/-- A `build` section without the keys that call no part. -/
def withoutOthers : Node → Node := Node.mapEntries (·.filter fun e => !callsOther e)

/-- The keys that call no part do not matter to the text of a part. -/
theorem partText?_filter {part : Part} (h : part ≠ .other) (values : List (Value × Value)) :
    partText? part (values.filter fun v => part? v.1 ≠ some .other) = partText? part values := by
  have hfilter : (values.filter fun v => part? v.1 ≠ some .other).filter
      (fun v => part? v.1 = some part) = values.filter fun v => part? v.1 = some part := by
    rw [List.filter_filter]
    refine List.filter_congr fun v _ => ?_
    by_cases hv : part? v.1 = some part
    · simp [hv, h]
    · simp [hv]
  unfold partText?
  rw [hfilter]

/-- The values of the entries that are left are those that call a part. -/
theorem mapM_filter_callsOther {entries : List (Node × Node)} {values : List (Value × Value)}
    (h : entries.mapM Node.entryValue? = some values) :
    (entries.filter fun e => !callsOther e).mapM Node.entryValue? =
      some (values.filter fun v => part? v.1 ≠ some .other) := by
  rw [mapM_eq_some_iff] at h ⊢
  refine List.rel_filter (fun e v hv => ?_) h
  obtain ⟨key, hkey, hvalue⟩ := Option.bind_eq_some_iff.mp hv
  obtain ⟨value, -, rfl⟩ := Option.map_eq_some_iff.mp hvalue
  simp [callsOther, hkey]

/-- A `build` section states the same without the keys that call no part. -/
theorem ofEntries?_filter_callsOther {entries : List (Node × Node)} {b : Build}
    (h : ofEntries? entries = some b) :
    ofEntries? (entries.filter fun e => !callsOther e) = some b := by
  unfold ofEntries? at h ⊢
  split at h
  · cases h
  · next htags =>
    -- entries without tags of the author's own have none either when there are fewer of them
    have htags' : ¬(entries.filter fun e => !callsOther e).any fun e =>
        e.1.hasOwnTag || e.2.hasOwnTag := by
      intro hany
      obtain ⟨e, he, htag⟩ := List.any_eq_true.mp hany
      exact htags (List.any_eq_true.mpr ⟨e, (List.mem_filter.mp he).1, htag⟩)
    obtain ⟨values, hvalues, hb⟩ := Option.bind_eq_some_iff.mp h
    rw [if_neg htags', mapM_filter_callsOther hvalues, Option.bind_some]
    unfold ofValue? at hb ⊢
    dsimp only at hb ⊢
    split at hb
    · next hall =>
      have hall' : (values.filter fun v => part? v.1 ≠ some .other).all
          fun v => (part? v.1).isSome :=
        List.all_eq_true.mpr fun v hv => List.all_eq_true.mp hall v (List.mem_filter.mp hv).1
      rw [if_pos hall', partText?_filter (by decide), partText?_filter (by decide)]
      exact hb
    · cases hb

end Build

theorem Stated.build_withoutOthers {n : Node} {b : Option Build} (h : build n = some b) :
    build (Build.withoutOthers n) = some b := by
  refine Node.orNull_mapEntries (fun p tag entries hb => ?_) h
  change build (.mapping p tag entries) = some b at hb
  show build (.mapping p tag (entries.filter _)) = some b
  rw [build_mapping] at hb ⊢
  split at hb
  · cases hb
  · next htag =>
    rw [if_neg htag]
    obtain ⟨b, hentries, rfl⟩ := Option.map_eq_some_iff.mp hb
    rw [Build.ofEntries?_filter_callsOther hentries]
    rfl

/-! ## Recipes -/

/-- A service states the same without such keys. -/
theorem Service.ofNode?_mapUnder_build {sec : Node} {s : Service} (h : ofNode? sec = some s) :
    ofNode? (sec.mapUnder "build" Build.withoutOthers) = some s := by
  refine Meanings.record?_mapUnder (fun n g hg => ?_) h
  obtain ⟨b, hb, rfl⟩ := Option.map_eq_some_iff.mp hg
  exact congrArg (Option.map _) (Stated.build_withoutOthers hb)

/-- Entries state the same services if each of them states the same with another value. -/
theorem Stated.mapM_serviceEntry_map {f : Node → Node}
    (hf : ∀ sec s, Service.ofNode? sec = some s → Service.ofNode? (f sec) = some s)
    {entries : List (Node × Node)} {services : List (String × Service)}
    (h : entries.mapM serviceEntry = some services) :
    (entries.map fun e => (e.1, f e.2)).mapM serviceEntry = some services := by
  rw [mapM_eq_some_iff] at h ⊢
  rw [List.forall₂_map_left_iff]
  refine h.imp fun e service he => ?_
  obtain ⟨name, hname, hservice⟩ := Option.bind_eq_some_iff.mp he
  obtain ⟨s, hs, rfl⟩ := Option.map_eq_some_iff.mp hservice
  rw [serviceEntry, hname, Option.bind_some, hf e.2 s hs]
  rfl

namespace Environment

/-- A recipe without the keys of `build` sections that call no part. -/
def withoutBuildKeys (root : Node) : Node :=
  root.mapUnder "services" (Node.mapValues (Node.mapUnder "build" Build.withoutOthers))

/-- An environment states the same without such keys. -/
theorem ofNode?_withoutBuildKeys {root : Node} {e : Environment} (h : ofNode? root = some e) :
    ofNode? (withoutBuildKeys root) = some e := by
  refine Meanings.record?_mapUnder (fun n g hg => ?_) h
  obtain ⟨services, hservices, rfl⟩ := Option.map_eq_some_iff.mp hg
  refine congrArg (Option.map _) (Node.orNull_mapEntries (fun p tag entries hread => ?_) hservices)
  obtain ⟨list, hlist, hmap⟩ := Option.map_eq_some_iff.mp hread
  exact Option.map_eq_some_iff.mpr ⟨list,
    Stated.mapM_serviceEntry_map (fun _ _ => Service.ofNode?_mapUnder_build) hlist, hmap⟩

/-! ## What is reported -/

/-- The last section of a service has a `build` section with a key that is the name of neither
part. -/
def HasBuildKey (root : Node) (name key : String) : Prop :=
  ∃ sec build, LastBinds (sections root) name sec ∧ ("build", build) ∈ sec.keyed ∧
    key ∈ build.keyed.map (·.1) ∧ key ≠ "context" ∧ key ≠ "dockerfile"

/-- A path is reported exactly if it is a key at the top that is no field, or the path to a key of a
service that is none. -/
theorem mem_unknownKeys_iff {root : Node} {e : Environment} (h : ofNode? root = some e)
    {path : String} : path ∈ e.unknownKeys ↔
      (path ∈ root.keyed.map (·.1) ∧ path ∉ fieldNames) ∨
      ∃ name sec key, LastBinds (sections root) name sec ∧ key ∈ sec.keyed.map (·.1) ∧
        key ∉ Service.fieldNames ∧ path = s!"services.{name}.{key}" := by
  rw [unknownKeys, List.mem_append, (lists_unknown h).mem_iff, List.mem_flatMap]
  refine or_congr_right ?_
  constructor
  · rintro ⟨⟨name, s⟩, hservice, hpath⟩
    obtain ⟨key, hkey, rfl⟩ := List.mem_map.mp hpath
    obtain ⟨sec, hsec, hs⟩ := (find?_services_iff h).mp (NameMap.find?_eq_some_iff.mpr hservice)
    obtain ⟨hmem, hfield⟩ := ((Service.lists_unknown hs).mem_iff key).mp hkey
    exact ⟨name, sec, key, hsec, hmem, hfield, rfl⟩
  · rintro ⟨name, sec, key, hsec, hmem, hfield, rfl⟩
    obtain ⟨s, hs⟩ := exists_ofNode?_of_mem_sections h hsec.mem
    have hservice := NameMap.find?_eq_some_iff.mp ((find?_services_iff h).mpr ⟨sec, hsec, hs⟩)
    have hkey := ((Service.lists_unknown hs).mem_iff key).mpr ⟨hmem, hfield⟩
    exact ⟨(name, s), hservice, List.mem_map_of_mem hkey⟩

/-- **The keys of a `build` section that call no part are dropped.** A recipe that is read says the
same without them, and another recipe that is the same without them says the same: what is reported
and warned of is the same in particular. What is reported is the keys at the top and those of each
service that are no fields, and nothing else. -/
theorem build_keys_dropped {text : String} {e : Environment} (h : ofYaml text = .ok e) :
    ∃ root, treeOf? text = some root ∧ ofNode? (withoutBuildKeys root) = some e ∧
      (∀ text' root' e', treeOf? text' = some root' →
        withoutBuildKeys root' = withoutBuildKeys root → ofYaml text' = .ok e' →
        e' = e ∧ e'.unknownKeys = e.unknownKeys ∧ e'.warnings = e.warnings) ∧
      ∀ path, path ∈ e.unknownKeys ↔
        (path ∈ root.keyed.map (·.1) ∧ path ∉ fieldNames) ∨
        ∃ name sec key, LastBinds (sections root) name sec ∧ key ∈ sec.keyed.map (·.1) ∧
          key ∉ Service.fieldNames ∧ path = s!"services.{name}.{key}" := by
  obtain ⟨root, hroot, he⟩ := ofYaml_eq_ok_iff.mp h
  refine ⟨root, hroot, ofNode?_withoutBuildKeys he, fun text' root' e' hroot' hsame h' => ?_,
    fun path => mem_unknownKeys_iff he⟩
  obtain ⟨root'', hroot'', he'⟩ := ofYaml_eq_ok_iff.mp h'
  obtain rfl := Option.some.inj (hroot'.symm.trans hroot'')
  -- the two trees are one without such keys, and that states both environments
  have hboth := ofNode?_withoutBuildKeys he'
  rw [hsame, ofNode?_withoutBuildKeys he] at hboth
  obtain rfl := Option.some.inj hboth
  exact ⟨rfl, rfl, rfl⟩

/-! ### A build section with another key -/

/-- A recipe with a `build` section of some parts. -/
def buildTree (parts : List (Node × Node)) : Node :=
  .mapping {} none [(.plain "services", .mapping {} none [(.plain "a",
    .mapping {} none [(.plain "build", .mapping {} none parts)])])]

def contextText : String := "services:\n  a:\n    build:\n      context: .\n"

/-- The recipe with a key that calls no part. -/
def argsText : String := contextText ++ "      args: x\n"

/-- What both of them say. -/
def built : Environment where
  services := NameMap.ofList [("a", { build := some (.parts (some ".") none) })]

theorem treeOf?_argsText : treeOf? argsText =
    some (buildTree [(.plain "context", .plain "."), (.plain "args", .plain "x")]) := by
  decide +kernel

theorem ofYaml_argsText : ofYaml argsText = .ok built := by
  rw [← Except.toOption_eq_some_iff]
  decide +kernel

/-- The key that calls no part is dropped, and neither reported nor warned of. -/
theorem build_keys_dropped_args :
    ofYaml argsText = .ok built ∧ built.unknownKeys = [] ∧ built.warnings = [] ∧
      withoutBuildKeys (buildTree [(.plain "context", .plain "."), (.plain "args", .plain "x")]) =
        buildTree [(.plain "context", .plain ".")] ∧
      ∀ e, ofYaml contextText = .ok e → e = built := by
  have hwithout : withoutBuildKeys
      (buildTree [(.plain "context", .plain "."), (.plain "args", .plain "x")]) =
        buildTree [(.plain "context", .plain ".")] := by
    decide +kernel
  have hcontext : treeOf? contextText = some (buildTree [(.plain "context", .plain ".")]) := by
    decide +kernel
  obtain ⟨root, hroot, -, hsame, -⟩ := build_keys_dropped ofYaml_argsText
  obtain rfl := Option.some.inj (treeOf?_argsText.symm.trans hroot)
  refine ⟨ofYaml_argsText, by decide +kernel, by decide +kernel, hwithout, fun e he => ?_⟩
  exact (hsame contextText _ e hcontext (by decide +kernel) he).1

/-- A key of a `build` section may not be reported, though it is no part. -/
theorem build_key_not_reported :
    ¬∀ (text : String) (root : Node) (e : Environment) (name key : String),
      treeOf? text = some root → ofYaml text = .ok e → HasBuildKey root name key →
        s!"services.{name}.build.{key}" ∈ e.unknownKeys := by
  intro hreported
  have hkey : HasBuildKey
      (buildTree [(.plain "context", .plain "."), (.plain "args", .plain "x")]) "a" "args" := by
    refine ⟨_, _, ⟨[], [], rfl, List.not_mem_nil⟩, List.mem_cons_self, ?_, by decide, by decide⟩
    exact List.mem_cons_of_mem _ List.mem_cons_self
  have hmem := hreported argsText _ built "a" "args" treeOf?_argsText ofYaml_argsText hkey
  have hnone : built.unknownKeys = [] := by decide +kernel
  rw [hnone] at hmem
  exact List.not_mem_nil hmem

end Environment

end StartOrder
