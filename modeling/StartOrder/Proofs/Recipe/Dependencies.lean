import Mathlib.Logic.Relation
import StartOrder.Proofs.NameMap
import StartOrder.Proofs.Positions
import StartOrder.Proofs.Rearranged
import StartOrder.Recipe.Environment

/-!
# Dependencies between services

What an environment says about the order of its services, without a graph and without an algorithm:
`Environment.DependsOn` relates a service to what it needs, `Environment.IsClosed` and
`Environment.IsAcyclic` are the two conditions under which there is an order. All other modules that
speak of dependencies compare what they compute with these.

A service needs what it depends on and what it links to. The links are texts that have to be read
first, and one that cannot be read is an error of the recipe. Which of several is reported is part
of the specification, too: the first one of the list (`Link.FirstUnread`). Hence the pair of
`Service.dependencyNames_of_isRead` and `Service.dependencyNames_of_firstUnread`, of which one
always applies (`Link.isRead_or_firstUnread`).
-/

namespace StartOrder

/-! ## Links that are read -/

namespace Link

/-- An entry of a `links` list is read as a link. -/
def IsRead (entry : String) : Prop := ∃ link, ofText entry = .ok link

instance (entry : String) : Decidable (IsRead entry) :=
  match h : ofText entry with
  | .ok link => .isTrue ⟨link, h⟩
  | .error _ => .isFalse fun hread => by
    obtain ⟨link, hlink⟩ := hread
    rw [h] at hlink
    cases hlink

/-- The first of some entries that is not read as a link. -/
def FirstUnread (entries : List String) (entry : String) : Prop :=
  ∃ before after, entries = before ++ entry :: after ∧
    (∀ other ∈ before, IsRead other) ∧ ¬IsRead entry

/-- What is not read as a link is reported as it was written. -/
theorem ofText_of_not_isRead {entry : String} (h : ¬IsRead entry) :
    ofText entry = .error (.badLink entry) := by
  unfold IsRead at h
  unfold ofText at h ⊢
  split at h
  · rfl
  · rfl
  · exact absurd ⟨_, rfl⟩ h
  · exact absurd ⟨_, rfl⟩ h
  · exact absurd ⟨_, rfl⟩ h
  · rfl

/-- Either all entries are read, or one is the first that is not. -/
theorem isRead_or_firstUnread (entries : List String) :
    (∀ entry ∈ entries, IsRead entry) ∨ ∃ entry, FirstUnread entries entry := by
  induction entries with
  | nil => exact .inl (by simp)
  | cons entry rest ih =>
    by_cases hread : IsRead entry
    · rcases ih with hall | ⟨bad, before, after, rfl, hbefore, hbad⟩
      · exact .inl (List.forall_mem_cons.mpr ⟨hread, hall⟩)
      · exact .inr ⟨bad, entry :: before, after, rfl,
          List.forall_mem_cons.mpr ⟨hread, hbefore⟩, hbad⟩
    · exact .inr ⟨entry, [], rest, rfl, by simp, hread⟩

theorem exists_firstUnread_iff {entries : List String} :
    (∃ entry, FirstUnread entries entry) ↔ ∃ entry ∈ entries, ¬IsRead entry := by
  constructor
  · rintro ⟨entry, before, after, rfl, -, hbad⟩
    exact ⟨entry, List.mem_append_right before List.mem_cons_self, hbad⟩
  · rintro ⟨entry, hmem, hbad⟩
    exact (isRead_or_firstUnread entries).resolve_left fun hall => hbad (hall entry hmem)

/-- In two lists of entries behind each other, the first that is not read is in the first list, or
all of the first list is read and it is in the second. -/
theorem firstUnread_append {first second : List String} {entry : String}
    (h : FirstUnread (first ++ second) entry) :
    FirstUnread first entry ∨ (∀ other ∈ first, IsRead other) ∧ FirstUnread second entry := by
  obtain ⟨before, after, heq, hbefore, hbad⟩ := h
  rcases split_append heq with ⟨behind, rfl⟩ | ⟨front, rfl, rfl⟩
  · exact .inl ⟨before, behind, rfl, hbefore, hbad⟩
  · refine .inr ⟨fun other hother => hbefore other (List.mem_append_left _ hother), front, after,
      rfl, fun other hother => hbefore other (List.mem_append_right _ hother), hbad⟩

/-- If each entry is read, then so are all of them together. -/
theorem mapM_ofText_of_isRead {entries : List String} (h : ∀ entry ∈ entries, IsRead entry) :
    ∃ links, entries.mapM ofText = .ok links := by
  induction entries with
  | nil => exact ⟨[], rfl⟩
  | cons entry rest ih =>
    obtain ⟨⟨link, hlink⟩, hrest⟩ := List.forall_mem_cons.mp h
    obtain ⟨links, hlinks⟩ := ih hrest
    refine ⟨link :: links, ?_⟩
    rw [List.mapM_cons, hlink, hlinks]
    rfl

/-- Reading entries together fails at the first that is not read. -/
theorem mapM_ofText_of_firstUnread {entries : List String} {entry : String}
    (h : FirstUnread entries entry) : entries.mapM ofText = .error (.badLink entry) := by
  obtain ⟨before, after, rfl, hbefore, hbad⟩ := h
  induction before with
  | nil =>
    rw [List.nil_append, List.mapM_cons, ofText_of_not_isRead hbad]
    rfl
  | cons head rest ih =>
    obtain ⟨⟨link, hlink⟩, hrest⟩ := List.forall_mem_cons.mp hbefore
    rw [List.cons_append, List.mapM_cons, hlink]
    show ((rest ++ entry :: after).mapM ofText >>= fun links => pure (link :: links)) = _
    rw [ih hrest]
    rfl

end Link

/-! ## The dependencies of a service -/

theorem nodup_firstOccurrences (names : List String) : (firstOccurrences names).Nodup := by
  induction names with
  | nil => exact List.nodup_nil
  | cons head rest ih =>
    rw [firstOccurrences, List.nodup_cons]
    exact ⟨by simp [List.mem_filter], ih.filter _⟩

theorem mem_firstOccurrences {names : List String} {name : String} :
    name ∈ firstOccurrences names ↔ name ∈ names := by
  induction names with
  | nil => exact Iff.rfl
  | cons head rest ih =>
    rw [firstOccurrences, List.mem_cons, List.mem_cons, List.mem_filter, ih]
    constructor
    · rintro (heq | ⟨hmem, -⟩)
      · exact .inl heq
      · exact .inr hmem
    · intro h
      by_cases heq : name = head
      · exact .inl heq
      · exact .inr ⟨h.resolve_left heq, decide_eq_true heq⟩

/-- Names without repetition, in the order in which they are first stated. -/
structure IsFirstStated (stated names : List String) : Prop where
  mem_iff : ∀ name, name ∈ names ↔ name ∈ stated
  nodup : names.Nodup
  ordered : names.Pairwise fun a b => stated.idxOf a < stated.idxOf b

theorem ordered_firstOccurrences (stated : List String) :
    (firstOccurrences stated).Pairwise fun a b => stated.idxOf a < stated.idxOf b := by
  induction stated with
  | nil => exact List.Pairwise.nil
  | cons head rest ih =>
    -- the other names stand one place further behind than without the first
    have hbehind : ∀ name ∈ (firstOccurrences rest).filter (· ≠ head),
        (head :: rest).idxOf name = rest.idxOf name + 1 := fun name hname =>
      List.idxOf_cons_ne rest (of_decide_eq_true (List.mem_filter.mp hname).2).symm
    refine List.pairwise_cons.mpr ⟨fun name hname => ?_, ?_⟩
    · rw [List.idxOf_cons_self, hbehind name hname]
      exact Nat.succ_pos _
    · refine (ih.filter _).imp_of_mem fun ha hb hlt => ?_
      rw [hbehind _ ha, hbehind _ hb]
      exact Nat.succ_lt_succ hlt

theorem isFirstStated_firstOccurrences (stated : List String) :
    IsFirstStated stated (firstOccurrences stated) where
  mem_iff _ := mem_firstOccurrences
  nodup := nodup_firstOccurrences stated
  ordered := ordered_firstOccurrences stated

namespace Service

theorem dependencyNames_of_isRead {s : Service} (h : ∀ entry ∈ s.links, Link.IsRead entry) :
    ∃ names, s.dependencyNames = .ok names := by
  obtain ⟨links, hlinks⟩ := Link.mapM_ofText_of_isRead h
  refine ⟨firstOccurrences (s.dependsOn ++ links.map Link.service), ?_⟩
  rw [dependencyNames, hlinks]
  rfl

theorem dependencyNames_of_firstUnread {s : Service} {entry : String}
    (h : Link.FirstUnread s.links entry) : s.dependencyNames = .error (.badLink entry) := by
  rw [dependencyNames, Link.mapM_ofText_of_firstUnread h]
  rfl

theorem dependencyNames_eq_ok_iff {s : Service} {names : List String} :
    s.dependencyNames = .ok names ↔ ∃ links, s.links.mapM Link.ofText = .ok links ∧
      firstOccurrences (s.dependsOn ++ links.map Link.service) = names := by
  unfold dependencyNames
  cases s.links.mapM Link.ofText <;> simp [Except.map]

/-- A service names each of its dependencies once. -/
theorem nodup_dependencyNames {s : Service} {names : List String}
    (h : s.dependencyNames = .ok names) : names.Nodup := by
  obtain ⟨links, -, rfl⟩ := dependencyNames_eq_ok_iff.mp h
  exact nodup_firstOccurrences _

/-- The dependencies of a service: those under `depends_on`, then the targets of its links. -/
def IsNeeding (s : Service) (names : List String) : Prop :=
  ∃ targets, List.Forall₂
      (fun entry target => ∃ link, Link.ofText entry = .ok link ∧ link.service = target)
      s.links targets ∧
    IsFirstStated (s.dependsOn ++ targets) names

theorem isNeeding_of_dependencyNames {s : Service} {names : List String}
    (h : s.dependencyNames = .ok names) : s.IsNeeding names := by
  obtain ⟨links, hlinks, rfl⟩ := dependencyNames_eq_ok_iff.mp h
  refine ⟨links.map Link.service, ?_, isFirstStated_firstOccurrences _⟩
  rw [List.forall₂_map_right_iff]
  exact (mapM_eq_ok_iff.mp hlinks).imp fun _ link hlink => ⟨link, hlink, rfl⟩

end Service

/-! ## The dependencies of an environment -/

namespace Environment

/-- The entries of all `links` lists: by the names of their services, and in the order of each
list. -/
def linkEntries (e : Environment) : List String := e.services.toList.flatMap fun s => s.2.links

theorem mem_linkEntries {e : Environment} {entry : String} :
    entry ∈ e.linkEntries ↔
      ∃ name service, e.services.find? name = some service ∧ entry ∈ service.links := by
  unfold linkEntries
  rw [List.mem_flatMap]
  constructor
  · rintro ⟨⟨name, service⟩, hmem, hentry⟩
    exact ⟨name, service, NameMap.find?_eq_some_iff.mpr hmem, hentry⟩
  · rintro ⟨name, service, hfind, hentry⟩
    exact ⟨(name, service), NameMap.find?_eq_some_iff.mp hfind, hentry⟩

/-- A service needs another to run before it. The other may not be defined. -/
def DependsOn (e : Environment) (a b : String) : Prop :=
  ∃ service names, e.services.find? a = some service ∧ service.dependencyNames = .ok names ∧
    b ∈ names

/-- All that services need is defined. -/
def IsClosed (e : Environment) : Prop := ∀ a b, e.DependsOn a b → b ∈ e.serviceNames

/-- No service needs itself, over one step or more. -/
def IsAcyclic (e : Environment) : Prop := ∀ a, ¬Relation.TransGen e.DependsOn a a

theorem mem_serviceNames_of_dependsOn {e : Environment} {a b : String} (h : e.DependsOn a b) :
    a ∈ e.serviceNames := by
  obtain ⟨service, -, hfind, -, -⟩ := h
  exact NameMap.mem_keys_iff_find?.mpr ⟨service, hfind⟩

end Environment

end StartOrder
