import Mathlib.Data.List.Basic
import Mathlib.Data.List.Forall2
import Mathlib.Data.List.TakeWhile

/-!
# Positions in lists

Where members of a list stand, and what becomes of that where one list follows another: lists are
taken apart at a member, at a pair of members in order, or at the first mark, and the lemmas say how
the parts lie in the lists that were joined.
-/

namespace StartOrder

variable {α : Type} {l m before after : List α} {a b : α}

/-- Two members of a list stand in it in one order or the other. -/
theorem pair_sublist_or (ha : a ∈ l) (hb : b ∈ l) (hne : a ≠ b) :
    [a, b].Sublist l ∨ [b, a].Sublist l := by
  obtain ⟨before, after, rfl⟩ := List.append_of_mem ha
  rcases List.mem_append.mp hb with hbefore | hafter
  · refine .inr ((List.singleton_sublist.mpr hbefore).append (?_ : [a].Sublist (a :: after)))
    exact List.singleton_sublist.mpr List.mem_cons_self
  · rcases List.mem_cons.mp hafter with rfl | hafter
    · exact absurd rfl hne
    · exact .inl (((List.singleton_sublist.mpr hafter).cons_cons a).trans
        (List.sublist_append_right before _))

theorem notMem_of_nodup_append (h : (l ++ a :: m).Nodup) : a ∉ l := fun hmem =>
  (List.nodup_append.mp h).2.2 a hmem a List.mem_cons_self rfl

/-- What precedes in two lists together precedes in one of them, or is in the one before. -/
theorem pair_sublist_append (h : [b, a].Sublist (l ++ m)) :
    [b, a].Sublist l ∨ b ∈ l ∧ a ∈ m ∨ [b, a].Sublist m := by
  obtain ⟨front, back, heq, hfront, hback⟩ := List.sublist_append_iff.mp h
  -- the first list has neither of the two, the first of them, or both
  rcases front with _ | ⟨first, _ | ⟨second, rest⟩⟩
  · exact .inr (.inr (heq ▸ hback))
  · cases heq
    exact .inr (.inl ⟨List.singleton_sublist.mp hfront, List.singleton_sublist.mp hback⟩)
  · rw [List.cons_append, List.cons_append, List.cons.injEq, List.cons.injEq] at heq
    obtain ⟨rfl, rfl, hnil⟩ := heq
    rw [(List.append_eq_nil_iff.mp hnil.symm).1] at hfront
    exact .inl hfront

/-- An entry of two lists one after the other is in the first of them, or behind it. -/
theorem split_append (h : l ++ m = before ++ a :: after) :
    (∃ behind, l = before ++ a :: behind) ∨
      ∃ front, before = l ++ front ∧ m = front ++ a :: after := by
  rcases List.append_eq_append_iff.mp h with ⟨front, hbefore, hm⟩ | ⟨back, hl, hback⟩
  · exact .inr ⟨front, hbefore, hm⟩
  · cases back with
    | nil => exact .inr ⟨[], by rw [hl, List.append_nil, List.append_nil], hback.symm⟩
    | cons first back =>
      rw [List.cons_append, List.cons.injEq] at hback
      exact .inl ⟨back, by rw [hl, hback.1]⟩

/-- An entry of lists one after another is in one of them, behind those before it. -/
theorem split_flatten {parts : List (List α)} (h : parts.flatten = before ++ a :: after) :
    ∃ good left right later, parts = good ++ (left ++ a :: right) :: later ∧
      before = good.flatten ++ left := by
  induction parts generalizing before with
  | nil => simp at h
  | cons part rest ih =>
    rw [List.flatten_cons] at h
    rcases split_append h with ⟨behind, rfl⟩ | ⟨front, rfl, hrest⟩
    · exact ⟨[], before, behind, rest, rfl, rfl⟩
    · obtain ⟨good, left, right, later, rfl, rfl⟩ := ih hrest
      exact ⟨part :: good, left, right, later, rfl, by rw [List.flatten_cons, List.append_assoc]⟩

/-- Each member of a list has one in a list that corresponds to it. -/
theorem exists_mem_of_forall₂ {β : Type} {r : α → β → Prop} {bs : List β}
    (h : List.Forall₂ r l bs) (ha : a ∈ l) : ∃ b ∈ bs, r a b := by
  induction h with
  | nil => cases ha
  | cons hhead _ ih =>
    rcases List.mem_cons.mp ha with rfl | ha
    · exact ⟨_, List.mem_cons_self, hhead⟩
    · obtain ⟨b, hb, hr⟩ := ih ha
      exact ⟨b, List.mem_cons_of_mem _ hb, hr⟩

section Cut

variable [DecidableEq α] {mark : α} {front : List α}

theorem decide_ne_of_notMem (h : mark ∉ front) : ∀ a ∈ front, decide (a ≠ mark) = true :=
  fun _ ha => decide_eq_true fun heq => h (heq ▸ ha)

theorem takeWhile_ne_of_notMem (h : mark ∉ front) : front.takeWhile (· ≠ mark) = front :=
  List.takeWhile_eq_self_iff.mpr (decide_ne_of_notMem h)

theorem dropWhile_ne_of_notMem (h : mark ∉ front) : front.dropWhile (· ≠ mark) = [] :=
  List.dropWhile_eq_nil_iff.mpr (decide_ne_of_notMem h)

theorem takeWhile_ne_append (h : mark ∉ front) (back : List α) :
    (front ++ mark :: back).takeWhile (· ≠ mark) = front := by
  rw [List.takeWhile_append_of_pos (decide_ne_of_notMem h), List.takeWhile_cons_of_neg (by simp),
    List.append_nil]

/-- What stands from a mark on makes no difference to what is before the first one. -/
theorem takeWhile_ne_append_of_head? {back : List α} (h : ∀ a ∈ back.head?, a = mark)
    (front : List α) : (front ++ back).takeWhile (· ≠ mark) = front.takeWhile (· ≠ mark) := by
  by_cases hfront : mark ∈ front
  · obtain ⟨before, after, rfl, hbefore⟩ := List.eq_append_cons_of_mem hfront
    rw [List.append_assoc, List.cons_append, takeWhile_ne_append hbefore,
      takeWhile_ne_append hbefore]
  · rw [takeWhile_ne_of_notMem hfront]
    cases back with
    | nil => rw [List.append_nil, takeWhile_ne_of_notMem hfront]
    | cons a back =>
      obtain rfl : a = mark := h a rfl
      exact takeWhile_ne_append hfront back

theorem dropWhile_ne_append (h : mark ∉ front) (back : List α) :
    (front ++ mark :: back).dropWhile (· ≠ mark) = mark :: back := by
  rw [List.dropWhile_append_of_pos (decide_ne_of_notMem h), List.dropWhile_cons_of_neg (by simp)]

end Cut

end StartOrder
