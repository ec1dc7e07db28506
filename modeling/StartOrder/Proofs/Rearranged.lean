import Mathlib.Data.List.Perm.Basic

/-!
# Entries in another order

Two lists of entries hold the same in another order: under each key there is a value on either side,
and the two values are related, though they need not be equal. Defined as a permutation followed by
a relation member by member (`Rearranged`), it can be turned round, and what is read from the
entries of one list is read from those of the other (`Rearranged.mapM`).

A key may occur more than once; the relation pairs entries, not keys.
-/

namespace StartOrder

variable {κ α β γ δ : Type}

/-- What is written of each member of a list is read, if each of it is. -/
theorem mapM_map_eq_pure {m : Type → Type} [Monad m] [LawfulMonad m] {f : α → β} {g : β → m γ}
    {k : α → γ} (h : ∀ x, g (f x) = pure (k x)) (xs : List α) :
    (xs.map f).mapM g = pure (xs.map k) := by
  rw [List.mapM_map, ← List.mapM_pure]
  exact congrArg xs.mapM (funext h)

/-- What is read from all of a list is read from each of its members. -/
theorem mapM_eq_some_iff {f : α → Option γ} {xs : List α} {ys : List γ} :
    xs.mapM f = some ys ↔ List.Forall₂ (fun x y => f x = some y) xs ys := by
  induction xs generalizing ys with
  | nil => cases ys <;> simp
  | cons x rest ih =>
    rw [List.mapM_cons, List.forall₂_cons_left_iff]
    constructor
    · intro h
      obtain ⟨y, hy, h⟩ := Option.bind_eq_some_iff.mp h
      obtain ⟨ys, hys, h⟩ := Option.bind_eq_some_iff.mp h
      exact ⟨y, ys, hy, ih.mp hys, (Option.some.inj h).symm⟩
    · rintro ⟨y, ys, hy, hys, rfl⟩
      rw [hy, ih.mpr hys]
      rfl

theorem mapM_eq_ok_iff {ε : Type} {f : α → Except ε γ} {xs : List α} {ys : List γ} :
    xs.mapM f = .ok ys ↔ List.Forall₂ (fun x y => f x = .ok y) xs ys := by
  induction xs generalizing ys with
  | nil => cases ys <;> simp [pure, Except.pure]
  | cons x rest ih =>
    rw [List.mapM_cons, List.forall₂_cons_left_iff]
    cases hx : f x with
    | error e => simp [bind, Except.bind]
    | ok y =>
      cases hrest : rest.mapM f with
      | error e => simp [bind, Except.bind, ← ih, hrest]
      | ok ys' => simp [bind, Except.bind, pure, Except.pure, ← ih, hrest, eq_comm]

/-- What is read from a list is read from it in another order. -/
theorem mapM_perm {f : α → Option γ} {xs ys : List α} {cs : List γ} (hp : xs.Perm ys)
    (h : xs.mapM f = some cs) : ∃ cs', cs.Perm cs' ∧ ys.mapM f = some cs' := by
  obtain ⟨cs', hall, hperm⟩ := List.perm_comp_forall₂ hp.symm (mapM_eq_some_iff.mp h)
  exact ⟨cs', hperm.symm, mapM_eq_some_iff.mpr hall⟩

/-- Two lists hold entries under the same keys, in another order, with related values. -/
def Rearranged (R : κ → α → β → Prop) (xs : List (κ × α)) (ys : List (κ × β)) : Prop :=
  ∃ zs, xs.Perm zs ∧ List.Forall₂ (fun e e' => e.1 = e'.1 ∧ R e.1 e.2 e'.2) zs ys

namespace Rearranged

variable {R : κ → α → β → Prop} {xs : List (κ × α)} {ys : List (κ × β)}

theorem symm (h : Rearranged R xs ys) : Rearranged (fun key b a => R key a b) ys xs := by
  obtain ⟨zs, hperm, hall⟩ := h
  -- the permutation is moved from one side of the relation to the other
  obtain ⟨ws, hall', hperm'⟩ := List.perm_comp_forall₂ hperm hall
  refine ⟨ws, hperm'.symm, List.Forall₂.flip (hall'.imp fun e e' he => ?_)⟩
  exact ⟨he.1.symm, he.1 ▸ he.2⟩

/-- Values need only be related in another way where they occur. -/
theorem imp_mem {S : κ → α → β → Prop} (h : Rearranged R xs ys)
    (hRS : ∀ key a b, (key, a) ∈ xs → (key, b) ∈ ys → R key a b → S key a b) :
    Rearranged S xs ys := by
  obtain ⟨zs, hperm, hall⟩ := h
  refine ⟨zs, hperm, List.forall₂_iff_zip.mpr ⟨hall.length_eq, fun {e e'} hmem => ?_⟩⟩
  obtain ⟨hz, hy⟩ := List.of_mem_zip hmem
  obtain ⟨hkey, hR⟩ := List.forall₂_zip hall hmem
  refine ⟨hkey, hRS e.1 e.2 e'.2 (hperm.mem_iff.mpr hz) ?_ hR⟩
  rw [hkey]
  exact hy

/-- What is read from the entries of one list is read from those of the other, in another order. -/
theorem mapM {f : κ × α → Option γ} {g : κ × β → Option γ} {cs : List γ}
    (h : Rearranged R xs ys)
    (hR : ∀ key a b c, R key a b → f (key, a) = some c → g (key, b) = some c)
    (hcs : xs.mapM f = some cs) : ∃ cs', cs.Perm cs' ∧ ys.mapM g = some cs' := by
  obtain ⟨zs, hperm, hall⟩ := h
  obtain ⟨ds, hds, hread⟩ := mapM_perm hperm hcs
  refine ⟨ds, hds, mapM_eq_some_iff.mpr ?_⟩
  rw [mapM_eq_some_iff] at hread
  clear hperm hcs hds
  induction hall generalizing ds with
  | nil =>
    cases hread
    exact .nil
  | @cons e e' _ _ he _ ih =>
    obtain ⟨c, cs', hc, hrest, rfl⟩ := List.forall₂_cons_left_iff.mp hread
    refine .cons ?_ (ih cs' hrest)
    have hg : g (e.1, e'.2) = some c := hR e.1 e.2 e'.2 c he.2 hc
    rwa [he.1] at hg

end Rearranged

end StartOrder
