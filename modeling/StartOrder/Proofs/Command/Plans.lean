import StartOrder.Command.Execution
import StartOrder.Proofs.Json.Texts
import StartOrder.Proofs.Plan.Layers

/-!
# Printed plans

The layers of a plan build on each other, and each way to print a plan tells the plan as it is.

`Plan.BuildsUp` collects how the layers of an environment's plan stand to its order, its weights and
the dependencies. All of it comes down to one fact about layers, that a layer holds the services
whose weight is its place, together with what weights mean: nothing that a service needs weighs as
much as the service, and something that it needs weighs one less.

`Plan.IsPrinted` says what the printed lines tell, with no hypothesis about the plan. As text this
is a matter of computation. As JSON, the one line that is printed is read back, and what is read is
the object of the layers, or of order and weights; since weights are the only numbers in it, and are
printed as digits, there is nothing that reading could get wrong (`isSpelled_planJson`).
-/

namespace StartOrder

open Relation (TransGen)

namespace Plan

/-- The layers of a plan are its order, layer by layer. A layer holds, by name, the services whose
weight is the number of layers before it, and there is one for each weight. A service needs nothing
of its own layer or a later one, over any number of steps, and it needs a service of the layer right
before its own. -/
structure BuildsUp (e : Environment) (p : Plan) : Prop where
  flatten_layers : p.layers.flatten = p.order
  ne_nil : ∀ layer ∈ p.layers, layer ≠ []
  sorted : ∀ layer ∈ p.layers, layer.Pairwise (· < ·)
  mem_layer_iff : ∀ (i : Nat) layer, p.layers[i]? = some layer →
    ∀ a, a ∈ layer ↔ p.weight? a = some i
  exists_layer : ∀ a i, p.weight? a = some i → ∃ layer, p.layers[i]? = some layer ∧ a ∈ layer
  not_reaches : ∀ (i j : Nat) layer other, p.layers[i]? = some layer → p.layers[j]? = some other →
    i ≤ j → ∀ a ∈ layer, ∀ b ∈ other, ¬TransGen e.DependsOn a b
  dependsOn_below : ∀ (i : Nat) layer, p.layers[i + 1]? = some layer →
    ∃ below, p.layers[i]? = some below ∧ ∀ a ∈ layer, ∃ b ∈ below, e.DependsOn a b

/-- What is printed of a plan: the order line by line, or a line for each layer, with the weight of
its services and their names; or a single text, which is read as an object with the order and the
weights, or as one with the layers. -/
structure IsPrinted (p : Plan) : Prop where
  lines : Command.planLines p false false = p.order
  layerLines : ∀ i : Nat, (Command.planLines p false true)[i]? =
    p.layers[i]?.map fun layer => s!"{i}: " ++ ", ".intercalate layer
  json : ∃ text, Command.planLines p true false = [text] ∧ Json.ofText? text =
    some (.ofFields [("order", .texts p.order),
      ("weights", .ofFields (p.weights.toList.map fun e => (e.1, .ofNat e.2)))])
  layersJson : ∃ text, Command.planLines p true true = [text] ∧ Json.ofText? text =
    some (.ofFields [("layers", .array (p.layers.map Json.texts))])

variable {e : Environment} {p : Plan}

/-- The plan of an environment builds up. -/
theorem buildsUp_of_plan (hp : e.plan = .ok p) : p.BuildsUp e := by
  have hisOf := Environment.isOf_of_plan hp
  refine ⟨p.flatten_groups .layered, fun _ => ne_nil_of_mem_layers,
    fun _ => hisOf.layer_sorted, fun i layer hlayer a => mem_layer_iff_weight? hp hlayer,
    fun a i => exists_layer_of_weight? hp, ?_, ?_⟩
  · intro i j layer other hlayer hother hle a ha b hb hab
    obtain ⟨n, m, hn, hm, hlt⟩ := hisOf.weight?_lt_of_transGen hab
    -- the weights are the places of the layers
    rw [(mem_layer_iff_weight? hp hother).mp hb] at hn
    rw [(mem_layer_iff_weight? hp hlayer).mp ha] at hm
    cases hn
    cases hm
    exact Nat.not_lt_of_le hle hlt
  · intro i layer hlayer
    have hbound : i < p.layers.length :=
      Nat.lt_of_succ_lt (List.getElem?_eq_some_iff.mp hlayer).1
    refine ⟨p.layers[i], List.getElem?_eq_getElem hbound, fun a ha => ?_⟩
    obtain ⟨b, hab, hb⟩ :=
      exists_dependsOn_of_weight? hp ((mem_layer_iff_weight? hp hlayer).mp ha)
    exact ⟨b, (mem_layer_iff_weight? hp (List.getElem?_eq_getElem hbound)).mpr hb, hab⟩

end Plan

namespace Command

variable {e : Environment} {p : Plan}

/-- All numbers in what is printed of a plan are weights. -/
theorem isSpelled_planJson (p : Plan) (layers : Bool) : (planJson p layers).IsSpelled := by
  cases layers with
  | true => simp [planJson]
  | false =>
    refine Json.isSpelled_ofFields.mpr (List.forall_mem_cons.mpr
      ⟨Json.isSpelled_texts _, List.forall_mem_singleton.mpr ?_⟩)
    exact Json.isSpelled_ofFields.mpr
      (List.forall_mem_map.mpr fun entry _ => Json.isSpelled_ofNat entry.2)

/-- What is printed of a plan as JSON is read as that. -/
theorem ofText?_planLines (p : Plan) (layers : Bool) : ∃ text,
    planLines p true layers = [text] ∧ Json.ofText? text = some (planJson p layers) :=
  ⟨_, rfl, Json.ofText?_of_isTextOf (Json.isTextOf_pretty (isSpelled_planJson p layers))⟩

theorem isPrinted (p : Plan) : p.IsPrinted where
  lines := rfl
  layerLines i := by
    show (p.layers.zipIdx.map _)[i]? = _
    rw [List.getElem?_map, List.getElem?_zipIdx, Nat.zero_add, Option.map_map]
    rfl
  json := ofText?_planLines p false
  layersJson := ofText?_planLines p true

/-- **The layers of a plan build on each other, and all that is printed of a plan tells it.** -/
theorem buildsUp_and_isPrinted_of_plan (hp : e.plan = .ok p) : p.BuildsUp e ∧ p.IsPrinted :=
  ⟨Plan.buildsUp_of_plan hp, isPrinted p⟩

/-- Four services in three layers, of which one needs services of both layers below. -/
def stack : Environment :=
  (((({} : Environment).withService "web" { dependsOn := ["api"], links := ["log:events"] })
    |>.withService "api" { dependsOn := ["db"] }).withService "log" {}).withService "db" {}

/-- The layers of four services as they are printed. -/
theorem buildsUp_and_isPrinted_stack :
    let p : Plan := ⟨[("db", 0), ("log", 0), ("api", 1), ("web", 2)]⟩
    stack.plan = .ok p ∧ p.layers = [["db", "log"], ["api"], ["web"]] ∧ p.BuildsUp stack ∧
      p.IsPrinted ∧ planLines p false true = ["0: db, log", "1: api", "2: web"] := by
  intro p
  have hp : stack.plan = .ok p := Environment.plan_eq_ok_iff_fits.mpr (by decide +kernel)
  exact ⟨hp, by decide, (buildsUp_and_isPrinted_of_plan hp).1,
    (buildsUp_and_isPrinted_of_plan hp).2, by decide⟩

end Command

end StartOrder
