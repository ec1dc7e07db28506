import StartOrder.Proofs.Recipe.Dependencies

/-!
# Links as they are written

An entry of a `links` list is cut at its first colon. It is a link if no other colon follows and
something stands before the cut. Empty is as good as absent behind the colon, so `db:` is read as
`db`: a link is written in one way only, and reading what is written gives the link back, but
writing what is read may drop a colon at the end of the entry.

The reader splits an entry at all of its colons and looks at the list of parts. `ofText_eq` replaces
this by the two sides of the first colon and the number of colons, in one case analysis. All else
about reading and writing follows from it, and `ofText_and_text` states it together.
-/

namespace StartOrder.Link

/-! ## The two sides of a colon -/

/-- The characters of an entry before its first colon, or all of them. -/
def before (entry : String) : List Char := entry.toList.takeWhile (· ≠ ':')

/-- The characters of an entry behind its first colon. -/
def behind (entry : String) : List Char := (entry.toList.dropWhile (· ≠ ':')).tail

/-- The text that some characters are, unless there are none. -/
def textOf? (cs : List Char) : Option String :=
  if cs.isEmpty then none else some (String.ofList cs)

theorem notMem_before (entry : String) : ':' ∉ before entry := fun hmem => by
  have hne := List.mem_takeWhile_imp hmem
  exact of_decide_eq_true hne rfl

section Sides

variable {entry : String} {front back : List Char}

theorem before_of_notMem (h : ':' ∉ entry.toList) : before entry = entry.toList :=
  takeWhile_ne_of_notMem h

theorem behind_of_notMem (h : ':' ∉ entry.toList) : behind entry = [] := by
  rw [behind, dropWhile_ne_of_notMem h, List.tail_nil]

theorem before_of_append (hentry : entry.toList = front ++ ':' :: back) (h : ':' ∉ front) :
    before entry = front := by
  rw [before, hentry, takeWhile_ne_append h]

theorem behind_of_append (hentry : entry.toList = front ++ ':' :: back) (h : ':' ∉ front) :
    behind entry = back := by
  rw [behind, hentry, dropWhile_ne_append h, List.tail_cons]

theorem count_of_append (hentry : entry.toList = front ++ ':' :: back) (h : ':' ∉ front) :
    entry.toList.count ':' = back.count ':' + 1 := by
  rw [hentry, List.count_append, List.count_eq_zero.mpr h, List.count_cons_self, Nat.zero_add]

/-- An entry has no colon, or it is what stands before its first colon, the colon, and the rest. -/
theorem notMem_or_exists_append (entry : String) : ':' ∉ entry.toList ∨
    ∃ front back, entry.toList = front ++ ':' :: back ∧ ':' ∉ front := by
  by_cases hcolon : ':' ∈ entry.toList
  · exact .inr (List.eq_append_cons_of_mem hcolon)
  · exact .inl hcolon

end Sides

/-! ## Reading -/

/-- An entry is cut at its first colon, and must not have another. -/
theorem ofText_eq (entry : String) : ofText entry =
    if entry.toList.count ':' ≤ 1 ∧ before entry ≠ [] then
      .ok { service := String.ofList (before entry), aliasName := textOf? (behind entry) }
    else .error (.badLink entry) := by
  rcases notMem_or_exists_append entry with hnone | ⟨front, back, hentry, hfront⟩
  · rw [before_of_notMem hnone, behind_of_notMem hnone, List.count_eq_zero.mpr hnone]
    unfold ofText colonParts
    rw [List.splitOn_eq_singleton hnone]
    cases entry.toList <;> rfl
  · rw [before_of_append hentry hfront, behind_of_append hentry hfront,
      count_of_append hentry hfront]
    unfold ofText colonParts
    rw [hentry, List.splitOn_append_cons_self_of_not_mem hfront]
    by_cases hback : ':' ∈ back
    · -- a second colon leaves at least three parts
      have hmany : ¬(back.count ':' + 1 ≤ 1 ∧ front ≠ []) := fun hfew =>
        absurd (List.count_pos_iff.mpr hback) (by omega)
      obtain ⟨middle, rest, rfl, hmiddle⟩ := List.eq_append_cons_of_mem hback
      rw [List.splitOn_append_cons_self_of_not_mem hmiddle, if_neg hmany]
      obtain ⟨part, parts, hparts⟩ := List.exists_cons_of_ne_nil (List.splitOn_ne_nil ':' rest)
      rw [hparts]
      cases front <;> cases middle <;> rfl
    · rw [List.splitOn_eq_singleton hback, List.count_eq_zero.mpr hback]
      cases front <;> cases back <;> rfl

theorem ofText_eq_ok_iff {entry : String} {l : Link} : ofText entry = .ok l ↔
    (entry.toList.count ':' ≤ 1 ∧ before entry ≠ []) ∧
      l = { service := String.ofList (before entry), aliasName := textOf? (behind entry) } := by
  rw [ofText_eq]
  constructor
  · intro h
    split at h
    · next hread =>
      cases h
      exact ⟨hread, rfl⟩
    · cases h
  · rintro ⟨hread, rfl⟩
    exact if_pos hread

/-- An entry is read exactly if it has one colon at most and something before it. -/
theorem isRead_iff {entry : String} :
    IsRead entry ↔ entry.toList.count ':' ≤ 1 ∧ before entry ≠ [] := by
  unfold IsRead
  simp only [ofText_eq_ok_iff, exists_and_left, exists_eq, and_true]

/-! ## Writing -/

/-- Neither the name of the service nor the alias of a link is empty or has a colon. -/
structure IsWellNamed (l : Link) : Prop where
  service_ne : l.service ≠ ""
  notMem_service : ':' ∉ l.service.toList
  aliasName_ne : l.aliasName ≠ some ""
  notMem_aliasName : ∀ other, l.aliasName = some other → ':' ∉ other.toList

namespace IsWellNamed

variable {l : Link}

theorem hostname_ne (h : l.IsWellNamed) : l.hostname ≠ "" ∧ ':' ∉ l.hostname.toList := by
  unfold hostname
  cases hother : l.aliasName with
  | none => exact ⟨h.service_ne, h.notMem_service⟩
  | some other =>
    exact ⟨fun heq => h.aliasName_ne (heq ▸ hother), h.notMem_aliasName other hother⟩

/-- What is written is read. -/
theorem ofText_text (h : l.IsWellNamed) : ofText l.text = .ok l := by
  have hservice : l.service.toList ≠ [] :=
    fun hnil => h.service_ne (String.toList_eq_nil_iff.mp hnil)
  rw [ofText_eq_ok_iff]
  unfold text
  cases hother : l.aliasName with
  | none =>
    dsimp only
    rw [before_of_notMem h.notMem_service, behind_of_notMem h.notMem_service,
      List.count_eq_zero.mpr h.notMem_service, String.ofList_toList]
    exact ⟨⟨Nat.zero_le 1, hservice⟩, by rw [textOf?, List.isEmpty_nil, if_pos rfl, ← hother]⟩
  | some other =>
    have htext : (l.service ++ ":" ++ other).toList = l.service.toList ++ ':' :: other.toList := by
      rw [String.toList_append, String.toList_append, List.append_assoc]
      rfl
    have hnotEmpty : other.toList.isEmpty = false := by
      rw [List.isEmpty_eq_false_iff]
      exact fun hnil => h.aliasName_ne (String.toList_eq_nil_iff.mp hnil ▸ hother)
    dsimp only
    rw [before_of_append htext h.notMem_service, behind_of_append htext h.notMem_service,
      count_of_append htext h.notMem_service,
      List.count_eq_zero.mpr (h.notMem_aliasName other hother), String.ofList_toList]
    exact ⟨⟨Nat.le_refl 1, hservice⟩, by
      rw [textOf?, hnotEmpty, if_neg Bool.false_ne_true, String.ofList_toList, ← hother]⟩

end IsWellNamed

/-- What is read can be written. -/
theorem isWellNamed_of_ofText {entry : String} {l : Link} (h : ofText entry = .ok l) :
    l.IsWellNamed := by
  obtain ⟨⟨hcount, hbefore⟩, rfl⟩ := ofText_eq_ok_iff.mp h
  have hbehind : ':' ∉ behind entry := by
    rcases notMem_or_exists_append entry with hnone | ⟨front, back, hentry, hfront⟩
    · rw [behind_of_notMem hnone]
      exact List.not_mem_nil
    · rw [behind_of_append hentry hfront, ← List.count_eq_zero]
      rw [count_of_append hentry hfront] at hcount
      omega
  refine ⟨?_, ?_, ?_, ?_⟩
  · simpa using hbefore
  · simpa using notMem_before entry
  · unfold textOf?
    split
    · exact nofun
    · next hne => simpa using hne
  · intro other hother
    unfold textOf? at hother
    split at hother
    · cases hother
    · cases hother
      simpa using hbehind

/-- An entry without a colon at its end. -/
def withoutLastColon (entry : String) : String :=
  if entry.toList.getLast? = some ':' then String.ofList entry.toList.dropLast else entry

/-- What is read is written as it was, but for a colon at the end. -/
theorem text_of_ofText {entry : String} {l : Link} (h : ofText entry = .ok l) :
    l.text = withoutLastColon entry := by
  obtain ⟨⟨hcount, hbefore⟩, rfl⟩ := ofText_eq_ok_iff.mp h
  rw [withoutLastColon]
  rcases notMem_or_exists_append entry with hnone | ⟨front, back, hentry, hfront⟩
  · rw [before_of_notMem hnone, behind_of_notMem hnone, if_neg fun hlast =>
      hnone (List.mem_of_getLast? hlast)]
    exact String.ofList_toList
  · rw [before_of_append hentry hfront, behind_of_append hentry hfront]
    rw [count_of_append hentry hfront] at hcount
    have hback : ':' ∉ back := List.count_eq_zero.mp (by omega)
    rw [hentry]
    cases back with
    | nil =>
      rw [List.getLast?_concat, if_pos rfl, List.dropLast_concat]
      rfl
    | cons c rest =>
      -- the last character stands behind the colon
      have hlast : (front ++ ':' :: c :: rest).getLast? = (c :: rest).getLast? := by
        rw [List.getLast?_append_of_ne_nil _ (List.cons_ne_nil _ _), List.getLast?_cons_cons]
      rw [hlast, if_neg fun hcolon => hback (List.mem_of_getLast? hcolon), ← String.toList_inj,
        hentry]
      simp [text, textOf?]

/-- **An entry is read exactly if it has one colon at most and something before it: as the service
before the colon, under the alias behind it if there is one.** Every other entry is reported as it
is written. Reading and writing are inverse to each other, but for a colon at the end of an entry,
so different links are written differently. -/
theorem ofText_and_text (entry : String) :
    (IsRead entry ↔ entry.toList.count ':' ≤ 1 ∧ before entry ≠ []) ∧
    (¬IsRead entry → ofText entry = .error (.badLink entry)) ∧
    (∀ l, ofText entry = .ok l →
      l.service = String.ofList (before entry) ∧ l.aliasName = textOf? (behind entry) ∧
      (l.hostname ≠ "" ∧ ':' ∉ l.hostname.toList) ∧
      l.IsWellNamed ∧ l.text = withoutLastColon entry) ∧
    (∀ l : Link, l.IsWellNamed → ofText l.text = .ok l) ∧
    ∀ l l' : Link, l.IsWellNamed → l'.IsWellNamed → l ≠ l' → l.text ≠ l'.text := by
  refine ⟨isRead_iff, ofText_of_not_isRead, fun l hl => ?_, fun l hl => hl.ofText_text,
    fun l l' hl hl' hne htext => hne ?_⟩
  · have hnamed := isWellNamed_of_ofText hl
    obtain ⟨-, rfl⟩ := ofText_eq_ok_iff.mp hl
    exact ⟨rfl, rfl, hnamed.hostname_ne, hnamed, text_of_ofText hl⟩
  · -- two links with one text would both be what is read of it
    have hread := hl.ofText_text
    rw [htext, hl'.ofText_text] at hread
    cases hread
    rfl

end StartOrder.Link
