import StartOrder.Proofs.Recipe.Contents

/-!
# The keys that are not known

Each key of a recipe, and of each of its services, is either a field or is reported as unknown, and
no key is both. What stands under an unknown key makes no difference to the environment.
`Environment.keys_accounted` is the account of all keys of a recipe that is read, down to the order
in which they are reported and the wording of the warnings.

It needs little more than what each record notes (`Service.lists_unknown`,
`Environment.lists_unknown`), since the reports are put together from that. The independence of
values under unknown keys is by induction along the entries of two trees at once
(`Service.eq_of_sameFields`, `Environment.eq_of_sameFields`). Such values are still looked at, as
far as it takes to refuse a tree without a value, so that both recipes are assumed to be read.

Keys of a `build` section are neither fields nor reported; they have a module of their own.
-/

namespace StartOrder

open Yaml (Node Meaning Meanings treeOf?)
open NameMap (LastBinds)

/-! ## Ascending lists -/

/-- A list holds exactly the texts with a property, in ascending order and each once. -/
structure Lists (names : List String) (p : String → Prop) : Prop where
  ascending : names.Pairwise (· < ·)
  mem_iff : ∀ name, name ∈ names ↔ p name

namespace NameMap

variable {α : Type} (m : NameMap α)

theorem lists_keys {p : String → Prop} (h : ∀ name, name ∈ m.keys ↔ p name) : Lists m.keys p :=
  ⟨m.keys_sorted, h⟩

/-- A walk over the entries of a map is a walk over its names. -/
theorem flatMap_toList {β : Type} {f : String × α → List β} {g : String → List β}
    (h : ∀ name value, m.find? name = some value → f (name, value) = g name) :
    m.toList.flatMap f = m.keys.flatMap g := by
  rw [keys, List.flatMap_map]
  exact List.flatMap_congr fun e he => h e.1 e.2 (find?_eq_some_iff.mpr he)

/-- The names of the entries with a property, in ascending order. -/
theorem lists_filter (q : String × α → Bool) :
    Lists ((m.toList.filter q).map (·.1)) fun name =>
      ∃ value, m.find? name = some value ∧ q (name, value) where
  ascending := m.keys_sorted.sublist (List.filter_sublist.map _)
  mem_iff name := by
    constructor
    · intro h
      obtain ⟨⟨name, value⟩, he, rfl⟩ := List.mem_map.mp h
      obtain ⟨hmem, hq⟩ := List.mem_filter.mp he
      exact ⟨value, find?_eq_some_iff.mpr hmem, hq⟩
    · rintro ⟨value, hfind, hq⟩
      exact List.mem_map.mpr
        ⟨(name, value), List.mem_filter.mpr ⟨find?_eq_some_iff.mp hfind, hq⟩, rfl⟩

end NameMap

/-! ## Services -/

namespace Service

/-- The keys of a service that are fields. -/
def fieldNames : List String :=
  ["image", "build", "context", "dockerfile", "command", "entrypoint", "environment", "depends_on",
    "links", "container_name", "labels", "expose", "ports", "volumes", "volumes_from", "mem_limit"]

theorem knows_iff {key : String} : meanings.knows key ↔ key ∈ fieldNames := Meanings.knows_iff

/-- A service notes exactly the keys of its section that are no fields. -/
theorem lists_unknown {sec : Node} {s : Service} (h : ofNode? sec = some s) :
    Lists s.unknown.keys fun key => key ∈ sec.keyed.map (·.1) ∧ key ∉ fieldNames := by
  refine s.unknown.lists_keys fun key => ?_
  rw [notes_unknown.mem_keys_iff h, knows_iff]
  exact or_iff_left List.not_mem_nil

/-- Two sections have the same keys, and differ only in what stands under keys that are no
fields. -/
def SameFields (sec sec' : Node) : Prop :=
  List.Forall₂ (fun a b => a.1 = b.1 ∧ (a.1 ∈ fieldNames → a.2 = b.2)) sec.keyed sec'.keyed

instance (sec sec' : Node) : Decidable (SameFields sec sec') :=
  inferInstanceAs (Decidable (List.Forall₂ _ _ _))

/-- What stands under keys that are no fields makes no difference to a service. -/
theorem eq_of_sameFields {sec sec' : Node} {s s' : Service} (h : SameFields sec sec')
    (hs : ofNode? sec = some s) (hs' : ofNode? sec' = some s') : s = s' := by
  refine Meanings.record?_eq_of_forall₂ (fun _ _ _ _ _ => Meaning.eq_of_sets_unit)
    (h.imp fun a b hab => ⟨hab.1, fun hknows f g hf hg => ?_⟩) hs hs'
  rw [← hab.2 (knows_iff.mp hknows), hf] at hg
  exact Option.some.inj hg

end Service

/-! ## Environments -/

namespace Environment

/-- The keys of a recipe that are fields. -/
def fieldNames : List String := ["version", "services"]

theorem knows_iff {key : String} : meanings.knows key ↔ key ∈ fieldNames := Meanings.knows_iff

/-- An environment notes exactly the keys of its tree that are no fields. -/
theorem lists_unknown {root : Node} {e : Environment} (h : ofNode? root = some e) :
    Lists e.unknown.keys fun key => key ∈ root.keyed.map (·.1) ∧ key ∉ fieldNames := by
  refine e.unknown.lists_keys fun key => ?_
  rw [notes_unknown.mem_keys_iff h, knows_iff]
  exact or_iff_left List.not_mem_nil

/-- Two recipes have the same keys, as have their services, and differ only in what stands under
keys that are no fields. -/
def SameFields (root root' : Node) : Prop :=
  List.Forall₂ (fun a b => a.1 = b.1 ∧ (a.1 = "version" → a.2 = b.2) ∧
    (a.1 = "services" → List.Forall₂ (fun s s' => s.1 = s'.1 ∧ Service.SameFields s.2 s'.2)
      a.2.keyed b.2.keyed)) root.keyed root'.keyed

instance (root root' : Node) : Decidable (SameFields root root') :=
  inferInstanceAs (Decidable (List.Forall₂ _ _ _))

/-- The same services are stated by sections that differ only under keys that are no fields. -/
theorem services_eq_of_sameFields {n n' : Node} {x x' : NameMap Service}
    (h : List.Forall₂ (fun s s' => s.1 = s'.1 ∧ Service.SameFields s.2 s'.2) n.keyed n'.keyed)
    (hx : Stated.services n = some x) (hx' : Stated.services n' = some x') : x = x' := by
  obtain ⟨-, entries, rfl, hall⟩ := Stated.exists_of_services hx
  obtain ⟨-, entries', rfl, hall'⟩ := Stated.exists_of_services hx'
  congr 1
  -- of the two trees only the lists of sections matter from here on
  generalize n.keyed = secs, n'.keyed = secs' at h hall hall'
  clear hx hx'
  induction h generalizing entries entries' with
  | nil =>
    cases hall
    cases hall'
    rfl
  | cons hsec _ ih =>
    obtain ⟨s, rest, hs, hrest, rfl⟩ := List.forall₂_cons_left_iff.mp hall
    obtain ⟨s', rest', hs', hrest', rfl⟩ := List.forall₂_cons_left_iff.mp hall'
    rw [ih rest rest' hrest hrest']
    congr 1
    exact Prod.ext (hs.1.symm.trans (hsec.1.trans hs'.1))
      (Service.eq_of_sameFields hsec.2 hs.2 hs'.2)

/-- What stands under keys that are no fields makes no difference to an environment. -/
theorem eq_of_sameFields {root root' : Node} {e e' : Environment} (h : SameFields root root')
    (he : ofNode? root = some e) (he' : ofNode? root' = some e') : e = e' := by
  refine Meanings.record?_eq_of_forall₂ (fun _ _ _ _ _ => Meaning.eq_of_sets_unit)
    (h.imp fun a b hab => ⟨hab.1, fun hknows f g hf hg => ?_⟩) he he'
  obtain ⟨-, hversion, hservices⟩ := hab
  have hname : a.1 = "version" ∨ a.1 = "services" := by
    simpa [fieldNames] using knows_iff.mp hknows
  rcases hname with hname | hname
  · rw [← hversion hname, hf] at hg
    exact Option.some.inj hg
  · rw [hname] at hf hg
    obtain ⟨x, hx, rfl⟩ := Option.map_eq_some_iff.mp hf
    obtain ⟨x', hx', rfl⟩ := Option.map_eq_some_iff.mp hg
    rw [services_eq_of_sameFields (hservices hname) hx hx']

/-! ## What is reported -/

/-- The path to a key of a service is no field of a recipe, for it is longer than any of them. -/
theorem path_notMem_fieldNames (name key : String) : s!"services.{name}.{key}" ∉ fieldNames := by
  intro hmem
  have hlong : ∀ field ∈ fieldNames, field.length ≤ 8 := by decide
  have hlength := hlong _ hmem
  have hprefix : "services.".length = 9 := by decide
  simp only [toString, String.length_append, hprefix] at hlength
  omega

/-- The keys that are reported: those at the top, and behind them those of each service. -/
theorem unknownKeys_eq (e : Environment) {keys : String → List String}
    (h : ∀ name s, e.services.find? name = some s → s.unknown.keys = keys name) :
    e.unknownKeys = e.unknown.keys ++
      e.serviceNames.flatMap fun name => (keys name).map fun key => s!"services.{name}.{key}" := by
  unfold unknownKeys serviceNames
  congr 1
  refine e.services.flatMap_toList fun name s hs => ?_
  exact congrArg (List.map _) (h name s hs)

theorem isLaunchable_eq_false_iff {s : Service} :
    s.isLaunchable = false ↔ s.image = none ∧ s.buildContext = none := by
  simp [Service.isLaunchable]

/-- Each key of a recipe that is read, and each key of the section that is read for a service, is
a scalar, and either a field or reported as unknown: those at the top in ascending order, then those
of each service in the order of the services. What stands under the keys that are reported makes no
difference. There is a warning for each service without an image and a build context, and then one
for each key that is reported. -/
theorem keys_accounted {text : String} {e : Environment} (h : ofYaml text = .ok e) :
    ∃ root top names, ∃ keys : String → List String, ∃ bare, treeOf? text = some root ∧
      root.AllKeyed ∧ (∀ n, ("services", n) ∈ root.keyed → n.AllKeyed) ∧
      Lists top (fun key => key ∈ root.keyed.map (·.1) ∧ key ∉ fieldNames) ∧
      Lists names (fun name => name ∈ (sections root).map (·.1)) ∧
      (∀ name sec, LastBinds (sections root) name sec → sec.AllKeyed ∧
        Lists (keys name) fun key => key ∈ sec.keyed.map (·.1) ∧ key ∉ Service.fieldNames) ∧
      e.unknownKeys = top ++
        names.flatMap (fun name => (keys name).map fun key => s!"services.{name}.{key}") ∧
      (∀ field ∈ fieldNames, field ∉ e.unknownKeys) ∧
      (∀ text' root' e', treeOf? text' = some root' → SameFields root root' →
        ofYaml text' = .ok e' → e' = e) ∧
      Lists bare (fun name => ∃ s, e.services.find? name = some s ∧ s.image = none ∧
        s.buildContext = none) ∧
      e.warnings =
        bare.map (fun name => s!"Service '{name}' has neither an image nor a build context") ++
          e.unknownKeys.map (fun key => s!"Unsupported key '{key}' is ignored") := by
  obtain ⟨root, hroot, he⟩ := ofYaml_eq_ok_iff.mp h
  let keys (name : String) : List String := (e.services.find? name).elim [] (·.unknown.keys)
  have hkeys (name : String) (s : Service) (hs : e.services.find? name = some s) :
      s.unknown.keys = keys name := by
    show s.unknown.keys = (e.services.find? name).elim [] _
    rw [hs, Option.elim_some]
  have hunknown := e.unknownKeys_eq hkeys
  have htop := lists_unknown he
  refine ⟨root, e.unknown.keys, e.serviceNames, keys,
    (e.services.toList.filter fun s => !s.2.isLaunchable).map (·.1), hroot,
    Meanings.allKeyed_of_record? he,
    fun n hn => (Stated.exists_of_services (isField_services.reading_of_mem he hn)).1, htop,
    e.services.lists_keys fun name => mem_serviceNames_iff he, fun name sec hsec => ?_, hunknown,
    fun field hfield hmem => ?_, fun text' root' e' hroot' hsame h' => ?_, ?_, ?_⟩
  · obtain ⟨s, hs⟩ := exists_ofNode?_of_mem_sections he hsec.mem
    rw [← hkeys name s ((find?_services_iff he).mpr ⟨sec, hsec, hs⟩)]
    exact ⟨Meanings.allKeyed_of_record? hs, Service.lists_unknown hs⟩
  · -- a field is no unknown key at the top, and no path to a key of a service
    rw [hunknown, List.mem_append] at hmem
    rcases hmem with hmem | hmem
    · exact ((htop.mem_iff field).mp hmem).2 hfield
    · obtain ⟨name, -, hmem⟩ := List.mem_flatMap.mp hmem
      obtain ⟨key, -, rfl⟩ := List.mem_map.mp hmem
      exact path_notMem_fieldNames name key hfield
  · obtain ⟨root'', hroot'', he'⟩ := ofYaml_eq_ok_iff.mp h'
    obtain rfl := Option.some.inj (hroot'.symm.trans hroot'')
    exact (eq_of_sameFields hsame he he').symm
  · have hbare := e.services.lists_filter fun s => !s.2.isLaunchable
    simp only [Bool.not_eq_true', isLaunchable_eq_false_iff] at hbare
    exact hbare
  · rw [warnings, List.map_map]
    rfl

/-! ### A recipe with keys that are not known -/

/-- A recipe with a key that is not known at the top and in both of its services. -/
def strangeText : String :=
  "networks:\n  default: {}\nservices:\n  web:\n    image: nginx\n    restart: always\n" ++
  "  db:\n    1: x\nversion: 2\n"

/-- The recipe with other values under these keys. -/
def strangerText : String :=
  "networks: ~\nservices:\n  web:\n    image: nginx\n    restart: [never, 2]\n" ++
  "  db:\n    1: {image: x}\nversion: 2\n"

def strange : Environment where
  version := some "2"
  services := NameMap.ofList [
    ("db", { unknown := NameSet.ofNames ["1"] }),
    ("web", { image := some "nginx", unknown := NameSet.ofNames ["restart"] })]
  unknown := NameSet.ofNames ["networks"]

/-- The keys are reported, the service without an image is too, and the other values make no
difference. -/
theorem strange_keys_accounted :
    ofYaml strangeText = .ok strange ∧
      strange.unknownKeys = ["networks", "services.db.1", "services.web.restart"] ∧
      strange.warnings = [
        "Service 'db' has neither an image nor a build context",
        "Unsupported key 'networks' is ignored",
        "Unsupported key 'services.db.1' is ignored",
        "Unsupported key 'services.web.restart' is ignored"] ∧
      "version" ∉ strange.unknownKeys ∧
      ∀ e, ofYaml strangerText = .ok e → e = strange := by
  have hread : ofYaml strangeText = .ok strange := by
    rw [← Except.toOption_eq_some_iff]
    decide +kernel
  have hsame : ∃ root root', treeOf? strangeText = some root ∧
      treeOf? strangerText = some root' ∧ SameFields root root' := by
    have hboth : ((treeOf? strangeText).bind fun root => (treeOf? strangerText).map fun root' =>
        decide (SameFields root root')) = some true := by decide +kernel
    obtain ⟨root, hroot, hboth⟩ := Option.bind_eq_some_iff.mp hboth
    obtain ⟨root', hroot', hsame⟩ := Option.map_eq_some_iff.mp hboth
    exact ⟨root, root', hroot, hroot', of_decide_eq_true hsame⟩
  obtain ⟨root, top, names, keys, bare, hroot, -, -, -, -, -, -, hfields, hagree, -, -⟩ :=
    keys_accounted hread
  obtain ⟨root₀, root', hroot₀, hroot', hsame⟩ := hsame
  obtain rfl := Option.some.inj (hroot.symm.trans hroot₀)
  exact ⟨hread, by decide +kernel, by decide +kernel, hfields "version" (by decide),
    fun e he => hagree strangerText root' e hroot' hsame he⟩

end Environment

end StartOrder
