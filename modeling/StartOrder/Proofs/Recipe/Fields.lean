import StartOrder.Proofs.NameMap
import StartOrder.Proofs.Yaml.Records
import StartOrder.Recipe.Reading

/-!
# What a recipe states

Reading a recipe can fail in many ways, and a failure tells where in the document it happened. The
results in the modules behind this one are about what is read and not about positions in a text. So
readers are compared with functions from *trees* to what they state, which either give a result or
none: `Stated.text`, `Stated.list` and the others for the kinds of fields, `Service.ofNode?` and
`Environment.ofNode?` for the records. The tree of a recipe decides what is read of it, whatever
text it is the tree of (`Environment.ofYaml_of_treeOf?`).

For each kind of field there is one lemma that its reader has its meaning (`textField_has` and so
on). The records are then settled by their lists of fields, entry by entry (`Service.record_has`,
`Environment.record_has`). The keys of a record do not get into each other's way: setting different
fields commutes, and so does noting different unknown keys (`Service.meanings_lawful`,
`Environment.meanings_lawful`). That is what lets entries be moved.
-/

namespace StartOrder

open Yaml (Node Spot Value Meaning Meanings FieldReader treeOf?)

/-! ## Fields -/

namespace Stated

/-- The text that a tree states, or none. -/
def text : Node → Option (Option String) := Node.orNull none fun n => n.text?.map some

/-- What is in quotes is a text, even if it is tagged as null. -/
theorem text_quoted (p : Yaml.Place) (tag : Option Yaml.Tag) (t : String) :
    text (.scalar p tag .quoted t) = some (some t) := rfl

/-- The list of texts that a tree states. -/
def list : Node → Option (List String) := Node.orNull [] fun n => n.items?.bind (·.mapM Node.text?)

/-- The number that a tree states, or none. -/
def number : Node → Option (Option UInt64) :=
  Node.orNull none fun n => n.unsigned?.map fun k => some (UInt64.ofNat k)

/-- What the value of a tree states. -/
def value {α : Type} (read : Value → Except FieldProblem α) (n : Node) : Option α :=
  (Node.orNull .null (fun n => n.wellKeyedValue.toOption) n).bind fun v => (read v).toOption

/-- A field that is read from its value holds what that is read as. -/
theorem value_of_wellKeyedValue {α : Type} (read : Value → Except FieldProblem α) {n : Node}
    {v : Value} (h : n.wellKeyedValue = .ok v) : value read n = (read v).toOption := by
  have hvalue := Except.toOption_eq_some_iff.mpr h
  unfold value Node.orNull
  by_cases hnull : n.isNull
  · rw [Node.toOption_wellKeyedValue,
      Node.value_of_hasNullValue (Node.hasNullValue_of_isNull hnull)] at hvalue
    obtain rfl : Value.null = v := Option.some.inj hvalue
    rw [if_pos hnull, Option.bind_some]
  · have hspelt : n.isMisspeltNull = false := by
      rw [Bool.eq_false_iff]
      intro hbad
      rw [Node.toOption_wellKeyedValue, Node.toOption_value_of_isMisspeltNull hbad] at hvalue
      cases hvalue
    rw [if_neg hnull, hspelt, if_neg Bool.false_ne_true]
    show (n.wellKeyedValue.toOption.bind fun v => (read v).toOption) = _
    rw [hvalue, Option.bind_some]

/-- The `build` section that a tree states, or none. -/
def build : Node → Option (Option Build) :=
  Node.orNull none fun n => (n.untagged?.bind Build.ofValue?).map some

/-- Whether the tree under a key that is not known is let through. -/
def ignored (n : Node) : Option Unit := (n.untagged?.filter Value.wellKeyed).map fun _ => ()

end Stated

section Fields

variable {σ : Type}

theorem textField_has (set : σ → Option String → σ) :
    (textField set).Has (.sets Stated.text set) := by
  intro owner s x
  rw [Meaning.map_sets]
  refine Spot.toOption_orNull rfl ?_
  rw [Except.toOption_bind, Spot.toOption_string]
  cases s.tree.text? <;> rfl

/-- The items of a spot are read as what their trees hold. -/
theorem toOption_mapM_items {α : Type} {read : Spot → Except Yaml.Problem α}
    {reading : Node → Option α} (h : ∀ item, (read item).toOption = reading item.tree) (s : Spot) :
    (s.items >>= (·.mapM read)).toOption = s.tree.items?.bind (·.mapM reading) := by
  rw [← s.toOption_items, Except.toOption_bind, Option.bind_map]
  congr 1
  funext items
  rw [Except.toOption_mapM, Function.comp_apply, List.mapM_map]
  simp only [h]
  rfl

theorem listField_has (set : σ → List String → σ) :
    (listField set).Has (.sets Stated.list set) := by
  intro owner s x
  rw [Meaning.map_sets]
  refine Spot.toOption_orNull rfl ?_
  show (s.items >>= fun items => (items.mapM fun item : Spot => item.string) >>= fun texts =>
    pure (set x texts)).toOption = _
  rw [← bind_assoc, Except.toOption_bind,
    toOption_mapM_items (fun item => item.toOption_string .string) s]
  rfl

theorem numberField_has (set : σ → Option UInt64 → σ) :
    (numberField set).Has (.sets Stated.number set) := by
  intro owner s x
  rw [Meaning.map_sets]
  refine Spot.toOption_orNull rfl ?_
  rw [Except.toOption_bind, Spot.toOption_unsigned]
  cases s.tree.unsigned? <;> rfl

theorem valueField_has {α : Type} (read : Value → Except FieldProblem α) (set : σ → α → σ) :
    (valueField read set).Has (.sets (Stated.value read) set) := by
  intro owner s x
  rw [Meaning.map_sets]
  rw [Stated.value, Option.bind_assoc]
  refine Spot.toOption_orNull ?_ ?_
  · dsimp only
    rw [pure_bind]
    cases read Value.null <;> rfl
  · rw [← Spot.toOption_value, Except.toOption_bind]
    congr 1
    funext v
    dsimp only
    cases read v <;> rfl

theorem buildField_has (set : σ → Option Build → σ) :
    (buildField set).Has (.sets Stated.build set) := by
  intro owner s x
  rw [Meaning.map_sets]
  refine Spot.toOption_orNull rfl ?_
  rw [Except.toOption_bind, Spot.toOption_untagged]
  cases s.tree.untagged? with
  | none => rfl
  | some v =>
    rw [Option.bind_some, Option.bind_some]
    cases Build.ofValue? v <;> rfl

theorem toOption_skipValue (s : Spot) : (skipValue s).toOption = Stated.ignored s.tree := by
  unfold skipValue Stated.ignored
  rw [Except.toOption_bind, Spot.toOption_untagged]
  cases s.tree.untagged? with
  | none => rfl
  | some v => cases hkeyed : v.wellKeyed <;> simp [hkeyed, Option.filter]

/-- A key that is not known is noted, where its value is let through. -/
theorem skipValue_has (set : σ → Unit → σ) (s : Spot) (x : σ) :
    (skipValue s >>= fun u => pure (set x u)).toOption =
      (Meaning.sets Stated.ignored set s.tree).map (· x) := by
  rw [Meaning.map_sets, Except.toOption_bind, toOption_skipValue]
  rfl

end Fields

/-! ## Services -/

namespace Service

/-- The meanings of the keys of a service. -/
def meanings : Meanings Service where
  fields := [
    ("image", .sets Stated.text fun r x => { r with image := x }),
    ("build", .sets Stated.build fun r x => { r with build := x }),
    ("context", .sets Stated.text fun r x => { r with context := x }),
    ("dockerfile", .sets Stated.text fun r x => { r with dockerfile := x }),
    ("command", .sets Stated.list fun r x => { r with command := x }),
    ("entrypoint", .sets Stated.list fun r x => { r with entrypoint := x }),
    ("environment", .sets (Stated.value environmentMap) fun r x => { r with environment := x }),
    ("depends_on", .sets Stated.list fun r x => { r with dependsOn := x }),
    ("links", .sets Stated.list fun r x => { r with links := x }),
    ("container_name", .sets Stated.text fun r x => { r with containerName := x }),
    ("labels", .sets (Stated.value labelMap) fun r x => { r with labels := x }),
    ("expose", .sets Stated.list fun r x => { r with expose := x }),
    ("ports", .sets Stated.list fun r x => { r with ports := x }),
    ("volumes", .sets Stated.list fun r x => { r with volumes := x }),
    ("volumes_from", .sets Stated.list fun r x => { r with volumesFrom := x }),
    ("mem_limit", .sets Stated.number fun r x => { r with memLimit := x })]
  other name := .sets Stated.ignored fun r _ => { r with unknown := r.unknown.add name }

/-- The service that a tree states. -/
def ofNode? (n : Node) : Option Service := meanings.record? {} n

theorem record_has : record.Has meanings where
  fields := by
    -- the two tables are gone through side by side
    repeat' first
      | exact List.Forall₂.nil
      | refine List.Forall₂.cons ⟨rfl, ?_⟩ ?_
    all_goals dsimp only
    all_goals first
      | exact textField_has _
      | exact listField_has _
      | exact valueField_has _ _
      | exact buildField_has _
      | exact numberField_has _
  other name s r :=
    skipValue_has (fun (r : Service) _ => { r with unknown := r.unknown.add name }) s r

theorem toOption_read (s : Spot) : (read s).toOption = ofNode? s.tree :=
  record_has.toOption_read {} s

theorem meanings_lawful : meanings.Lawful where
  fields := by
    simp only [meanings, List.pairwise_cons, List.forall_mem_cons, List.not_mem_nil,
      false_imp_iff, implies_true, List.Pairwise.nil, and_true]
    repeat' apply And.intro
    all_goals exact Meaning.sets_commutes fun _ _ _ => rfl
  mixed := by
    simp only [meanings, List.forall_mem_cons, List.not_mem_nil, false_imp_iff, implies_true,
      and_true]
    repeat' apply And.intro
    all_goals exact fun name => Meaning.sets_commutes fun _ _ _ => rfl
  others a b hab := Meaning.sets_commutes fun r _ _ => by
    dsimp only
    rw [NameSet.add_comm_of_ne r.unknown hab]

end Service

namespace Stated

/-- The name and the service that an entry of a `services` section states. -/
def serviceEntry (e : Node × Node) : Option (String × Service) :=
  e.1.text?.bind fun name => (Service.ofNode? e.2).map (name, ·)

/-- The services that a tree states. -/
def services : Node → Option (NameMap Service) :=
  Node.orNull ∅ fun n => (n.entries?.bind (·.mapM serviceEntry)).map NameMap.ofList

end Stated

theorem toOption_readServiceEntry (e : Spot × Spot) :
    (readServiceEntry e).toOption = Stated.serviceEntry (e.1.tree, e.2.tree) := by
  unfold readServiceEntry Stated.serviceEntry
  rw [Except.toOption_bind, Spot.toOption_string]
  congr 1
  funext name
  rw [Except.toOption_bind, Service.toOption_read, Option.map_eq_bind]
  rfl

theorem servicesField_has :
    servicesField.Has (.sets Stated.services fun e x => { e with services := x }) := by
  intro owner s e
  rw [Meaning.map_sets]
  refine Spot.toOption_orNull rfl ?_
  show (s.entries >>= fun entries => (entries.mapM readServiceEntry) >>= fun services =>
    pure { e with services := NameMap.ofList services }).toOption = _
  rw [← s.toOption_entries .mapping, Except.toOption_bind]
  cases s.entries with
  | error problem => rfl
  | ok entries =>
    simp only [Except.toOption_ok, Option.map_some, Option.bind_some, Except.toOption_bind,
      Except.toOption_mapM, toOption_readServiceEntry, List.mapM_map]
    rw [Option.bind_map]
    rfl

/-! ## Environments -/

namespace Environment

/-- The meanings of the keys of an environment. -/
def meanings : Meanings Environment where
  fields := [
    ("version", .sets (Stated.value versionText) fun e x => { e with version := x }),
    ("services", .sets Stated.services fun e x => { e with services := x })]
  other name := .sets Stated.ignored fun e _ => { e with unknown := e.unknown.add name }

/-- The environment that a tree states. -/
def ofNode? (n : Node) : Option Environment := meanings.record? {} n

theorem record_has : record.Has meanings where
  fields := .cons ⟨rfl, valueField_has _ _⟩ <| .cons ⟨rfl, servicesField_has⟩ .nil
  other name s e :=
    skipValue_has (fun (e : Environment) _ => { e with unknown := e.unknown.add name }) s e

theorem toOption_read (s : Spot) : (read s).toOption = ofNode? s.tree :=
  record_has.toOption_read {} s

theorem meanings_lawful : meanings.Lawful where
  fields := by
    simp only [meanings, List.pairwise_cons, List.forall_mem_cons, List.not_mem_nil,
      false_imp_iff, implies_true, List.Pairwise.nil, and_true]
    exact Meaning.sets_commutes fun _ _ _ => rfl
  mixed := by
    simp only [meanings, List.forall_mem_cons, List.not_mem_nil, false_imp_iff, implies_true,
      and_true]
    exact ⟨fun name => Meaning.sets_commutes fun _ _ _ => rfl,
      fun name => Meaning.sets_commutes fun _ _ _ => rfl⟩
  others a b hab := Meaning.sets_commutes fun e _ _ => by
    dsimp only
    rw [NameSet.add_comm_of_ne e.unknown hab]

/-- A text is read as the environment that its tree states, and is malformed if that states none. -/
theorem ofYaml_of_treeOf? {text : String} {n : Node} (h : treeOf? text = some n) :
    (∃ problem, ofYaml text = .error (.malformed problem) ∧ ofNode? n = none) ∨
      ∃ e, ofYaml text = .ok e ∧ ofNode? n = some e := by
  unfold treeOf? at h
  unfold ofYaml
  by_cases hblank : Text.allBlank text
  · rw [if_pos hblank] at h ⊢
    obtain rfl := Option.some.inj h
    exact .inr ⟨{}, rfl, rfl⟩
  · rw [if_neg hblank] at h ⊢
    obtain ⟨root, hroot, rfl⟩ := Option.map_eq_some_iff.mp h
    obtain ⟨d, hd, hexpand⟩ := Option.bind_eq_some_iff.mp hroot
    rw [Except.toOption_eq_some_iff.mp hd]
    -- a failure at the root is reported in one of two ways, and either way there is no result
    have hread := Yaml.Document.toOption_read (Except.toOption_eq_some_iff.mp hexpand)
      Environment.read
    rw [toOption_read] at hread
    have hfollow : ((Except.ok d).mapError Yaml.Problem.unreadable >>= fun d => d.read read) =
        d.read read := rfl
    rw [hfollow]
    cases hd' : d.read read with
    | ok e =>
      rw [hd'] at hread
      exact .inr ⟨e, rfl, hread.symm⟩
    | error problem =>
      rw [hd'] at hread
      exact .inl ⟨.document problem, rfl, hread.symm⟩

end Environment

end StartOrder
