import StartOrder.Proofs.Recipe.Sections

/-!
# Recipes written in another order

The order of the entries of a recipe makes no difference, and neither does a known field that is
null: it may as well be left out. This holds where no two keys of a mapping have the same text, for
of two such keys the later one counts, unless they are a fault.

Two kinds of null must stay where they are. One is a part of a `build` section that is called by its
number as well, for giving a part twice is a fault even if it is null. The other is a scalar that is
tagged as null and not plain: it has the value null, but only some fields are read by their value;
for the others it is a text (`Stated.text_quoted`). `numbered_not_sameReading` and
`quotedNull_not_sameReading` show that these are real, and `Nulls` tells them from the others.

What two recipes may differ in is defined level by level, as their format is: `BuildAlike`,
`FieldAlike`, `ServiceAlike`, `ServicesAlike`, `RecipeAlike`. On each level the same step is taken.
A record does not see a rearrangement of its entries if its fields do not see one of their values
(`Yaml.Record.Has.record?_of_upTo`); from there, `Environment.ofYaml_of_alike` is put together from
the inside out.
-/

namespace StartOrder

open Yaml (Node Value Meaning Meanings treeOf?)

/-! ## Trees whose keys are apart -/

namespace Yaml

instance (a b : Option String) : Decidable (Apart a b) :=
  inferInstanceAs (Decidable (a = none ∨ a ≠ b))

namespace Node

instance (entries : List (Node × Node)) : Decidable (KeysApart entries) :=
  inferInstanceAs (Decidable (entries.Pairwise fun e e' =>
    Apart e.1.text? e'.1.text? ∧ Apart e.1.coercedText? e'.1.coercedText?))

mutual

/-- Whether in no mapping of a tree two keys have the same text, as written or as coerced. -/
def wellNamed : Node → Bool
  | .scalar .. => true
  | .sequence _ _ items => wellNamedItems items
  | .mapping _ _ entries => decide (KeysApart entries) && wellNamedEntries entries

/-- Whether in no mapping of some trees two keys have the same text. -/
def wellNamedItems : List Node → Bool
  | [] => true
  | n :: rest => wellNamed n && wellNamedItems rest

/-- Whether in no mapping of the keys and values of a mapping two keys have the same text. -/
def wellNamedEntries : List (Node × Node) → Bool
  | [] => true
  | (key, n) :: rest => wellNamed key && (wellNamed n && wellNamedEntries rest)

end

theorem wellNamed_of_mem {entries : List (Node × Node)} (h : wellNamedEntries entries)
    {e : Node × Node} (he : e ∈ entries) : e.2.wellNamed := by
  induction entries with
  | nil => cases he
  | cons first rest ih =>
    simp only [wellNamedEntries, Bool.and_eq_true] at h
    rcases List.mem_cons.mp he with rfl | he
    · exact h.2.1
    · exact ih h.2.2 he

/-- The keys of a well-named mapping are apart, and what is under them is well named. -/
theorem wellNamed_mapping {p : Place} {tag : Option Tag} {entries : List (Node × Node)}
    (h : (mapping p tag entries).wellNamed) :
    KeysApart entries ∧ ∀ e ∈ entries, e.2.wellNamed := by
  obtain ⟨hkeys, hentries⟩ := Bool.and_eq_true_iff.mp h
  exact ⟨of_decide_eq_true hkeys, fun e he => wellNamed_of_mem hentries he⟩

/-- Two trees are the same, or mappings with related entries. -/
inductive UpTo (R : List (Node × Node) → List (Node × Node) → Prop) : Node → Node → Prop where
  | same (n : Node) : UpTo R n n
  | mapping (p : Place) (tag : Option Tag) {xs ys : List (Node × Node)} (h : R xs ys) :
    UpTo R (.mapping p tag xs) (.mapping p tag ys)

theorem UpTo.symm {R : List (Node × Node) → List (Node × Node) → Prop}
    (hR : ∀ xs ys, R xs ys → R ys xs) {m n : Node} (h : UpTo R m n) : UpTo R n m := by
  cases h with
  | same => exact .same _
  | mapping p tag h => exact .mapping p tag (hR _ _ h)

end Node

/-- A record is read alike from mappings whose stated entries are in another order, with values that
say the same. -/
theorem Record.Has.record?_of_upTo {σ : Type} {r : Record σ} {m : Meanings σ} (h : r.Has m)
    (hm : m.Lawful) {nulls : String → Node → Bool} {absent x : σ}
    (hnull : ∀ f ∈ m.fields, f.2.Neutral (nulls f.1) absent) {R : Node → Node → Node → Prop}
    (hR : ∀ key n n' f, R key n n' → n.wellNamed → n'.wellNamed → m.change (key, n) = some f →
      m.change (key, n') = some f) {n n' : Node}
    (halike : Node.UpTo (fun xs ys => Rearranged R (r.stated nulls xs) (r.stated nulls ys)) n n')
    (hn : n.wellNamed) (hn' : n'.wellNamed) (hx : m.record? absent n = some x) :
    m.record? absent n' = some x := by
  cases halike with
  | same => exact hx
  | @mapping p tag xs ys hre =>
    obtain ⟨hxs, hxvalues⟩ := Node.wellNamed_mapping hn
    obtain ⟨hys, hyvalues⟩ := Node.wellNamed_mapping hn'
    rw [m.record?_mapping hxs.written] at hx
    rw [m.record?_mapping hys.written]
    refine h.fold_of_rearranged hm hnull hxs.written hys.written hre ?_ hx
    exact fun key n n' f hn hn' hnn' => hR key n n' f hnn' (hxvalues _ hn) (hyvalues _ hn')

end Yaml

/-! ## What recipes may differ in -/

/-- Which nulls may be left out. -/
inductive Nulls where
  /-- All of them. -/
  | all
  /-- Plain ones, others where a field is read by its value, and of the parts of a `build` section
  those that no entry calls by their number. -/
  | neutral
  deriving DecidableEq

namespace Nulls

/-- Whether a tree is a null that may be left out, of a field that is read by its value or not. -/
def takes (which : Nulls) (byValue : Bool) (n : Node) : Bool :=
  n.isNull || (which = .all || byValue) && n.hasNullValue

/-- Whether an entry of a `build` section is a null part that may be left out. -/
def takesPart (which : Nulls) (entries : List (Node × Node)) (e : Node × Node) : Bool :=
  e.2.hasNullValue && match Build.namedPart? e.1 with
    | none | some .other => false
    | some part =>
      which = .all || entries.all fun other => Build.numberedPart? other.1 ≠ some part

theorem isNull_of_takes {n : Node} (h : neutral.takes false n) : n.isNull := by
  rcases Bool.or_eq_true_iff.mp h with hnull | hvalue
  · exact hnull
  · cases hvalue

theorem hasNullValue_of_takes {which : Nulls} {byValue : Bool} {n : Node}
    (h : which.takes byValue n) : n.hasNullValue := by
  rcases Bool.or_eq_true_iff.mp h with hnull | hvalue
  · exact Node.hasNullValue_of_isNull hnull
  · exact (Bool.and_eq_true_iff.mp hvalue).2

end Nulls

/-- Which trees may be left out under a key of a service. -/
def Service.nulls (which : Nulls) (name : String) : Node → Bool :=
  which.takes (name = "environment" || name = "labels")

/-- Which trees may be left out under a key of an environment. -/
def Environment.nulls (which : Nulls) (name : String) : Node → Bool :=
  which.takes (name = "version")

/-- The entries of two `build` sections are the same in another order, but for null parts. -/
def BuildAlike (which : Nulls) (xs ys : List (Node × Node)) : Prop :=
  (xs.filter (!which.takesPart xs ·)).Perm (ys.filter (!which.takesPart ys ·))

/-- Two trees under a key of a service are the same, but for the order of the entries of a map or a
`build` section and for null parts. -/
def FieldAlike (which : Nulls) (key m n : Node) : Prop :=
  if key.text? = some "build" then Node.UpTo (BuildAlike which) m n
  else if key.text? = some "environment" ∨ key.text? = some "labels" then Node.UpTo List.Perm m n
  else m = n

/-- The entries of two services are alike in another order, but for known fields that are null. -/
def ServiceAlike (which : Nulls) (xs ys : List (Node × Node)) : Prop :=
  Rearranged (FieldAlike which) (Service.record.stated (Service.nulls which) xs)
    (Service.record.stated (Service.nulls which) ys)

/-- The entries of two `services` sections are alike in another order. -/
def ServicesAlike (which : Nulls) (xs ys : List (Node × Node)) : Prop :=
  Rearranged (fun _ => Node.UpTo (ServiceAlike which)) xs ys

/-- Two trees under a key of an environment are alike, if they are `services` sections, and the same
otherwise. -/
def SectionAlike (which : Nulls) (key m n : Node) : Prop :=
  if key.text? = some "services" then Node.UpTo (ServicesAlike which) m n else m = n

/-- Two recipes differ only in the order of the entries of the mappings of the format, and in known
fields that are null. -/
def RecipeAlike (which : Nulls) : Node → Node → Prop :=
  Node.UpTo fun xs ys =>
    Rearranged (SectionAlike which) (Environment.record.stated (Environment.nulls which) xs)
      (Environment.record.stated (Environment.nulls which) ys)

section Symmetry

variable {which : Nulls}

theorem BuildAlike.symm {xs ys : List (Node × Node)} (h : BuildAlike which xs ys) :
    BuildAlike which ys xs :=
  List.Perm.symm h

theorem FieldAlike.symm {key m n : Node} (h : FieldAlike which key m n) :
    FieldAlike which key n m := by
  unfold FieldAlike at h ⊢
  by_cases hbuild : key.text? = some "build"
  · rw [if_pos hbuild] at h ⊢
    exact h.symm fun _ _ => BuildAlike.symm
  · rw [if_neg hbuild] at h ⊢
    by_cases hmap : key.text? = some "environment" ∨ key.text? = some "labels"
    · rw [if_pos hmap] at h ⊢
      exact h.symm fun _ _ => List.Perm.symm
    · rw [if_neg hmap] at h ⊢
      exact h.symm

theorem ServiceAlike.symm {xs ys : List (Node × Node)} (h : ServiceAlike which xs ys) :
    ServiceAlike which ys xs :=
  (Rearranged.symm h).imp_mem fun _ _ _ _ _ => FieldAlike.symm

theorem SectionAlike.symm {key m n : Node} (h : SectionAlike which key m n) :
    SectionAlike which key n m := by
  unfold SectionAlike at h ⊢
  by_cases hservices : key.text? = some "services"
  · rw [if_pos hservices] at h ⊢
    refine h.symm fun _ _ hsection => (Rearranged.symm hsection).imp_mem fun _ _ _ _ _ hs => ?_
    exact hs.symm fun _ _ => ServiceAlike.symm
  · rw [if_neg hservices] at h ⊢
    exact h.symm

theorem RecipeAlike.symm {m n : Node} (h : RecipeAlike which m n) : RecipeAlike which n m := by
  unfold RecipeAlike at h ⊢
  refine h.symm fun _ _ hentries => ?_
  exact (Rearranged.symm hentries).imp_mem fun _ _ _ _ _ => SectionAlike.symm

end Symmetry

/-! ## Alike recipes are read alike -/

namespace Build

/-- What `Nulls.takesPart` leaves out calls a part by its name, and no entry calls that part by its
number. -/
theorem exists_of_takesPart {entries : List (Node × Node)} {e : Node × Node}
    (h : Nulls.neutral.takesPart entries e) : e.2.hasNullValue ∧ ∃ part, part ≠ .other ∧
      namedPart? e.1 = some part ∧ ∀ other ∈ entries, numberedPart? other.1 ≠ some part := by
  obtain ⟨hnull, hpart'⟩ := Bool.and_eq_true_iff.mp h
  refine ⟨hnull, ?_⟩
  split at hpart'
  · cases hpart'
  · cases hpart'
  · next part hother hpart =>
    refine ⟨part, hother, hpart, fun other hmem => ?_⟩
    have hall : (entries.all fun other => numberedPart? other.1 ≠ some part) := by
      simpa using hpart'
    exact of_decide_eq_true (List.all_eq_true.mp hall other hmem)

/-- Null parts that may be left out make no difference. -/
theorem ofEntries?_filter {entries : List (Node × Node)} (hapart : Node.KeysApart entries) :
    ofEntries? (entries.filter (!Nulls.neutral.takesPart entries ·)) = ofEntries? entries := by
  have hp : (entries.filter (Nulls.neutral.takesPart entries ·) ++
      entries.filter (!Nulls.neutral.takesPart entries ·)).Perm entries :=
    List.filter_append_perm ..
  -- the null parts are moved to the front, where they can be dropped
  rw [← ofEntries?_eq_of_perm hp, ofEntries?_append_of_null (hapart.perm hp.symm)]
  intro e he
  obtain ⟨hnull, part, hne, hpart, hnumbered⟩ := exists_of_takesPart (List.mem_filter.mp he).2
  exact ⟨hnull, part, hne, hpart, fun other hother => hnumbered other (hp.mem_iff.mp hother)⟩

end Build

theorem Stated.build_of_alike {m n : Node} (h : Node.UpTo (BuildAlike .neutral) m n)
    (hm : m.wellNamed) (hn : n.wellNamed) {b : Option Build} (hb : build m = some b) :
    build n = some b := by
  cases h with
  | same => exact hb
  | mapping p tag h =>
    rw [build_mapping] at hb ⊢
    split at hb
    · cases hb
    · next htag =>
      rw [if_neg htag]
      obtain ⟨build, hbuild, rfl⟩ := Option.map_eq_some_iff.mp hb
      rw [← Build.ofEntries?_filter (Node.wellNamed_mapping hm).1] at hbuild
      rw [← Build.ofEntries?_filter (Node.wellNamed_mapping hn).1,
        Build.ofEntries?_perm h hbuild]
      rfl

/-- Entries under one key make the same change if the second tree states what the first does. -/
theorem change_of_sets {σ α : Type} {m : Meanings σ} {name : String} {reading : Node → Option α}
    {set : σ → α → σ} (hname : m.under name = .sets reading set) {key n n' : Node}
    (hkey : key.text? = some name) (h : ∀ a, reading n = some a → reading n' = some a) {f : σ → σ}
    (hf : m.change (key, n) = some f) : m.change (key, n') = some f := by
  rw [Meanings.change, hkey, Option.bind_some, hname] at hf ⊢
  obtain ⟨a, ha, rfl⟩ := Option.map_eq_some_iff.mp hf
  exact Option.map_eq_some_iff.mpr ⟨a, h a ha, rfl⟩

theorem Stated.value_of_hasNullValue {α : Type} (read : Value → Except FieldProblem α) {n : Node}
    (h : n.hasNullValue) : value read n = (read .null).toOption := by
  refine value_of_wellKeyedValue read (Except.toOption_eq_some_iff.mp ?_)
  rw [Node.toOption_wellKeyedValue, Node.value_of_hasNullValue h]
  rfl

namespace Service

theorem change_of_alike {key m n : Node} (h : FieldAlike .neutral key m n) (hm : m.wellNamed)
    (hn : n.wellNamed) {f : Service → Service} (hf : meanings.change (key, m) = some f) :
    meanings.change (key, n) = some f := by
  unfold FieldAlike at h
  by_cases hbuild : key.text? = some "build"
  · rw [if_pos hbuild] at h
    exact change_of_sets rfl hbuild (fun b hb => Stated.build_of_alike h hm hn hb) hf
  · rw [if_neg hbuild] at h
    by_cases hmap : key.text? = some "environment" ∨ key.text? = some "labels"
    · rw [if_pos hmap] at h
      cases h with
      | same => exact hf
      | mapping p tag hp =>
        have hapart := (Node.wellNamed_mapping hm).1
        rcases hmap with hkey | hkey
        · exact change_of_sets rfl hkey
            (fun a ha => Stated.value_perm (fun _ => rfl) (fun _ _ => rfl) hp hapart ha) hf
        · exact change_of_sets rfl hkey
            (fun a ha => Stated.value_perm (fun _ => rfl) (fun _ _ => rfl) hp hapart ha) hf
    · rw [if_neg hmap] at h
      exact h ▸ hf

theorem meanings_neutral :
    ∀ f ∈ meanings.fields, f.2.Neutral (nulls .neutral f.1) ({} : Service) := by
  simp only [meanings, List.forall_mem_cons, List.not_mem_nil, false_imp_iff, implies_true,
    and_true]
  repeat' apply And.intro
  all_goals first
    | exact Meaning.sets_neutral (fun _ hn => Node.orNull_of_isNull (Nulls.isNull_of_takes hn)) rfl
    | exact Meaning.sets_neutral
        (fun _ hn => Stated.value_of_hasNullValue _ (Nulls.hasNullValue_of_takes hn)) rfl

/-- Alike services are read alike. -/
theorem ofNode?_of_alike {m n : Node} (h : Node.UpTo (ServiceAlike .neutral) m n)
    (hm : m.wellNamed) (hn : n.wellNamed) {s : Service} (hs : ofNode? m = some s) :
    ofNode? n = some s :=
  record_has.record?_of_upTo meanings_lawful meanings_neutral
    (fun _ _ _ _ halike hm hn => change_of_alike halike hm hn) h hm hn hs

end Service

/-- The names of services are the texts of their keys. -/
theorem Stated.map_text?_of_mapM {xs : List (Node × Node)} {entries : List (String × Service)}
    (h : xs.mapM serviceEntry = some entries) :
    xs.map (·.1.text?) = (entries.map (·.1)).map some := by
  rw [mapM_eq_some_iff] at h
  induction h with
  | nil => rfl
  | cons he _ ih =>
    obtain ⟨name, hname, hservice⟩ := Option.bind_eq_some_iff.mp he
    obtain ⟨s, -, rfl⟩ := Option.map_eq_some_iff.mp hservice
    rw [List.map_cons, ih, hname]
    rfl

/-- Alike `services` sections are read alike. -/
theorem Stated.services_of_alike {m n : Node} (h : Node.UpTo (ServicesAlike .neutral) m n)
    (hm : m.wellNamed) (hn : n.wellNamed) {x : NameMap Service} (hx : services m = some x) :
    services n = some x := by
  cases h with
  | same => exact hx
  | @mapping p tag xs ys h =>
    obtain ⟨hxs, hxvalues⟩ := Node.wellNamed_mapping hm
    obtain ⟨-, hyvalues⟩ := Node.wellNamed_mapping hn
    obtain ⟨entries, hentries, rfl⟩ := Option.map_eq_some_iff.mp hx
    replace hentries : xs.mapM serviceEntry = some entries := hentries
    have hsame : Rearranged (fun _ n n' => ∀ s, Service.ofNode? n = some s →
        Service.ofNode? n' = some s) xs ys :=
      Rearranged.imp_mem h fun key n n' hn hn' hnn' s =>
        Service.ofNode?_of_alike hnn' (hxvalues _ hn) (hyvalues _ hn')
    have hentry (key n n' : Node) (e : String × Service)
        (hnn' : ∀ s, Service.ofNode? n = some s → Service.ofNode? n' = some s)
        (he : serviceEntry (key, n) = some e) : serviceEntry (key, n') = some e := by
      obtain ⟨name, hname, hservice⟩ := Option.bind_eq_some_iff.mp he
      obtain ⟨s, hs, rfl⟩ := Option.map_eq_some_iff.mp hservice
      unfold serviceEntry
      rw [hname, Option.bind_some, hnn' s hs]
      rfl
    obtain ⟨entries', hp, hentries'⟩ := hsame.mapM hentry hentries
    -- no two services have one name, so that the map does not depend on their order
    have hnodup := Node.nodup_of_apart (hxs.imp And.left) (map_text?_of_mapM hentries)
    show (ys.mapM serviceEntry).map NameMap.ofList = _
    rw [hentries', Option.map_some, NameMap.ofList_perm hp hnodup]

namespace Environment

theorem meanings_neutral :
    ∀ f ∈ meanings.fields, f.2.Neutral (nulls .neutral f.1) ({} : Environment) := by
  simp only [meanings, List.forall_mem_cons, List.not_mem_nil, false_imp_iff, implies_true,
    and_true]
  exact ⟨Meaning.sets_neutral
      (fun _ hn => Stated.value_of_hasNullValue _ (Nulls.hasNullValue_of_takes hn)) rfl,
    Meaning.sets_neutral (fun _ hn => Node.orNull_of_isNull (Nulls.isNull_of_takes hn)) rfl⟩

theorem change_of_alike {key m n : Node} (h : SectionAlike .neutral key m n) (hm : m.wellNamed)
    (hn : n.wellNamed) {f : Environment → Environment} (hf : meanings.change (key, m) = some f) :
    meanings.change (key, n) = some f := by
  unfold SectionAlike at h
  by_cases hservices : key.text? = some "services"
  · rw [if_pos hservices] at h
    exact change_of_sets rfl hservices (fun x hx => Stated.services_of_alike h hm hn hx) hf
  · rw [if_neg hservices] at h
    exact h ▸ hf

/-- Alike recipes are read alike. -/
theorem ofNode?_of_alike {m n : Node} (h : RecipeAlike .neutral m n) (hm : m.wellNamed)
    (hn : n.wellNamed) {e : Environment} (he : ofNode? m = some e) : ofNode? n = some e :=
  record_has.record?_of_upTo meanings_lawful meanings_neutral
    (fun _ _ _ _ halike hm hn => change_of_alike halike hm hn) h hm hn he

/-- Two texts are both malformed recipes, or they are recipes of one environment. -/
def SameReading (a b : Except Failure Environment) : Prop :=
  (∃ problem problem', a = .error (.malformed problem) ∧ b = .error (.malformed problem')) ∨
    ∃ e, a = .ok e ∧ b = .ok e

theorem SameReading.toOption_eq {a b : Except Failure Environment} (h : SameReading a b) :
    a.toOption = b.toOption := by
  rcases h with ⟨_, _, rfl, rfl⟩ | ⟨_, rfl, rfl⟩ <;> rfl

/-- Two texts whose trees are well-named recipes and alike are both malformed, or both are read as
the same environment, with the same keys that are not known. -/
theorem ofYaml_of_alike {s t : String} {m n : Node} (hs : treeOf? s = some m)
    (ht : treeOf? t = some n) (hm : m.wellNamed) (hn : n.wellNamed)
    (h : RecipeAlike .neutral m n) : SameReading (ofYaml s) (ofYaml t) := by
  -- what one tree states the other states, either way round
  rcases ofYaml_of_treeOf? hs with ⟨problem, hread, hnone⟩ | ⟨e, hread, hsome⟩
  · rcases ofYaml_of_treeOf? ht with ⟨problem', hread', -⟩ | ⟨e', -, hsome'⟩
    · exact .inl ⟨problem, problem', hread, hread'⟩
    · rw [ofNode?_of_alike h.symm hn hm hsome'] at hnone
      cases hnone
  · rcases ofYaml_of_treeOf? ht with ⟨problem', -, hnone'⟩ | ⟨e', hread', hsome'⟩
    · rw [ofNode?_of_alike h hm hn hsome] at hnone'
      cases hnone'
    · rw [ofNode?_of_alike h hm hn hsome] at hsome'
      exact .inr ⟨e, hread, Option.some.inj hsome' ▸ hread'⟩

/-! ### Two recipes that are alike -/

/-- A recipe of two services, with null fields at every level. -/
def shuffled : Node :=
  .mapping {} none [
    (.plain "services", .mapping {} none [
      (.plain "web", .mapping {} none [
        (.plain "image", .plain "nginx"),
        (.plain "environment", .mapping {} none [
          (.plain "A", .plain "1"), (.plain "B", .plain "b")]),
        (.plain "links", .plain "~")]),
      (.plain "db", .mapping {} none [
        (.plain "build", .mapping {} none [
          (.plain "dockerfile", .plain ""), (.plain "context", .plain "./db")])])]),
    (.plain "version", .plain "null")]

def shuffledText : String :=
  "services:\n  web:\n    image: nginx\n    environment:\n      A: 1\n      B: b\n    links: ~\n" ++
  "  db:\n    build:\n      dockerfile:\n      context: ./db\nversion: null\n"

/-- The recipe without null fields, in another order. -/
def tidy : Node :=
  .mapping {} none [
    (.plain "services", .mapping {} none [
      (.plain "db", .mapping {} none [
        (.plain "build", .mapping {} none [(.plain "context", .plain "./db")])]),
      (.plain "web", .mapping {} none [
        (.plain "environment", .mapping {} none [
          (.plain "B", .plain "b"), (.plain "A", .plain "1")]),
        (.plain "image", .plain "nginx")])])]

def tidyText : String :=
  "services:\n  db:\n    build:\n      context: ./db\n" ++
  "  web:\n    environment:\n      B: b\n      A: 1\n    image: nginx\n"

theorem shuffled_alike_tidy : RecipeAlike .neutral shuffled tidy := by
  refine .mapping {} none ⟨_, .refl _, .cons ⟨rfl, (if_pos rfl).mpr ?_⟩ .nil⟩
  refine .mapping {} none ⟨_, .swap _ _ _, .cons ⟨rfl, ?_⟩ (.cons ⟨rfl, ?_⟩ .nil)⟩
  · refine .mapping {} none ⟨_, .refl _, .cons ⟨rfl, (if_pos rfl).mpr ?_⟩ .nil⟩
    exact .mapping {} none (.refl _)
  · refine .mapping {} none ⟨_, .swap _ _ _, .cons ⟨rfl, ?_⟩ (.cons ⟨rfl, ?_⟩ .nil)⟩
    · exact (if_neg (by decide)).mpr ((if_pos (.inl rfl)).mpr (.mapping {} none (.swap _ _ _)))
    · exact (if_neg (by decide)).mpr ((if_neg (by decide)).mpr rfl)

/-- Both texts are read as one environment. -/
theorem shuffled_sameReading_tidy :
    treeOf? shuffledText = some shuffled ∧ treeOf? tidyText = some tidy ∧
      shuffled.wellNamed ∧ tidy.wellNamed ∧ RecipeAlike .neutral shuffled tidy ∧
      SameReading (ofYaml shuffledText) (ofYaml tidyText) := by
  have hshuffled : treeOf? shuffledText = some shuffled := by decide +kernel
  have htidy : treeOf? tidyText = some tidy := by decide +kernel
  have hnamed : shuffled.wellNamed ∧ tidy.wellNamed := by decide +kernel
  exact ⟨hshuffled, htidy, hnamed.1, hnamed.2, shuffled_alike_tidy,
    ofYaml_of_alike hshuffled htidy hnamed.1 hnamed.2 shuffled_alike_tidy⟩

/-! ### Nulls that are seen -/

/-- A recipe of one service with some fields. -/
def ofFields (fields : List (Node × Node)) : Node :=
  .mapping {} none [(.plain "services", .mapping {} none [(.plain "a", .mapping {} none fields)])]

/-- A recipe that calls the first part of a `build` section by its number, with other entries
behind. -/
def numberedTree (others : List (Node × Node)) : Node :=
  ofFields [(.plain "build", .mapping {} none ((.plain "0", .plain "x") :: others))]

def numberedText : String := "services:\n  a:\n    build:\n      0: x\n"

def numberedNullText : String := numberedText ++ "      context: ~\n"

/-- The two recipes differ in a known field that is null, and yet only one of them is malformed:
it gives a part twice, by its number and by its name. -/
theorem numbered_not_sameReading :
    treeOf? numberedText = some (numberedTree []) ∧
      treeOf? numberedNullText = some (numberedTree [(.plain "context", .plain "~")]) ∧
      (numberedTree []).wellNamed ∧ (numberedTree [(.plain "context", .plain "~")]).wellNamed ∧
      RecipeAlike .all (numberedTree []) (numberedTree [(.plain "context", .plain "~")]) ∧
      ¬SameReading (ofYaml numberedText) (ofYaml numberedNullText) := by
  refine ⟨by decide +kernel, by decide +kernel, by decide +kernel, by decide +kernel, ?_, ?_⟩
  · refine .mapping {} none ⟨_, .refl _, .cons ⟨rfl, ?_⟩ .nil⟩
    refine (if_pos rfl).mpr ?_
    refine .mapping {} none ⟨_, .refl _, .cons ⟨rfl, ?_⟩ .nil⟩
    refine .mapping {} none ⟨_, .refl _, .cons ⟨rfl, ?_⟩ .nil⟩
    refine (if_pos rfl).mpr ?_
    exact .mapping {} none (.refl _)
  · have hread : (ofYaml numberedText).toOption.isSome = true := by decide +kernel
    have hrejected : (ofYaml numberedNullText).toOption.isSome = false := by decide +kernel
    intro hsame
    rw [hsame.toOption_eq, hrejected] at hread
    cases hread

/-- A null in quotes. -/
def quotedNull : Node := .scalar {} (some (.core .null)) .quoted "~"

def bareText : String := "services:\n  a: {}\n"

def quotedNullText : String := "services:\n  a:\n    image: !!null '~'\n"

/-- The two recipes differ in a known field whose value is null, and yet it is read as a text. -/
theorem quotedNull_not_sameReading :
    treeOf? bareText = some (ofFields []) ∧
      treeOf? quotedNullText = some (ofFields [(.plain "image", quotedNull)]) ∧
      (ofFields []).wellNamed ∧ (ofFields [(.plain "image", quotedNull)]).wellNamed ∧
      RecipeAlike .all (ofFields []) (ofFields [(.plain "image", quotedNull)]) ∧
      ¬SameReading (ofYaml bareText) (ofYaml quotedNullText) := by
  refine ⟨by decide +kernel, by decide +kernel, by decide +kernel, by decide +kernel, ?_, ?_⟩
  · refine .mapping {} none ⟨_, .refl _, .cons ⟨rfl, ?_⟩ .nil⟩
    refine (if_pos rfl).mpr ?_
    refine .mapping {} none ⟨_, .refl _, .cons ⟨rfl, ?_⟩ .nil⟩
    -- the image is left out as null, and then the service has no field on either side
    exact .mapping {} none ⟨_, .refl _, .nil⟩
  · let images (e : Environment) := e.services.toList.map (·.2.image)
    have hbare : (ofYaml bareText).toOption.map images = some [none] := by decide +kernel
    have hquoted : (ofYaml quotedNullText).toOption.map images = some [some "~"] := by
      decide +kernel
    intro hsame
    rw [hsame.toOption_eq, hquoted] at hbare
    cases hbare

end Environment

end StartOrder
