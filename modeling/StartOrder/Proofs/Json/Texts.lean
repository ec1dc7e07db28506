import StartOrder.Proofs.Json.Written

/-!
# All texts of a value

A value can be written in many ways: with blanks around each of its parts, and with characters of
its strings escaped or not. `IsTextOf` is the grammar of these texts, part by part and apart from
any reader. A value is read from each of them (`ofText?_of_isTextOf`), and what is written of a
value, without blanks or with a line for each item and field, is one of them (`isTextOf_compact`,
`isTextOf_pretty`).

The grammar is not followed by the reader but by what the tokens of a value are spelled by
(`spells_of_isTextOf`), by induction on the value and, for the items of an array and the fields of
an object, on their lists.
-/

namespace StartOrder.Json

open JsonToken (Spells Stops IsQuoted spells_nil spells_word stops_cons)

/-! ## Texts -/

/-- Blanks between the parts of a value. -/
def AreBlank (cs : List Char) : Prop := ∀ c ∈ cs, JsonToken.isBlank c = true

/-- A text with blanks around it. -/
def Padded (inner : List Char → Prop) (cs : List Char) : Prop :=
  ∃ front mid back, AreBlank front ∧ inner mid ∧ AreBlank back ∧ cs = front ++ mid ++ back

/-- Two texts with a mark between them. -/
def Joined (mark : Char) (first second : List Char → Prop) (cs : List Char) : Prop :=
  ∃ front back, first front ∧ second back ∧ cs = front ++ mark :: back

/-- A text between two brackets, with blanks before the second. -/
def Enclosed (left right : Char) (inner : List Char → Prop) (cs : List Char) : Prop :=
  ∃ mid back, inner mid ∧ AreBlank back ∧ cs = left :: mid ++ back ++ [right]

mutual

/-- The texts of a value. -/
def IsTextOf : Json → List Char → Prop
  | .null => Padded (· = ['n', 'u', 'l', 'l'])
  | .bool true => Padded (· = ['t', 'r', 'u', 'e'])
  | .bool false => Padded (· = ['f', 'a', 'l', 's', 'e'])
  | .number spelling =>
    Padded fun cs => cs = spelling.toList ∧ JsonToken.number? cs = some (cs, [])
  | .string s => Padded (IsQuoted s)
  | .array items => Padded (Enclosed '[' ']' (AreItems items))
  | .object fields => Padded (Enclosed '\x7b' '\x7d' (AreFields fields))

/-- The texts of the items of an array, with commas between them. -/
def AreItems : List Json → List Char → Prop
  | [] => AreBlank
  | [v] => IsTextOf v
  | v :: rest => Joined ',' (IsTextOf v) (AreItems rest)

/-- The texts of the fields of an object, with commas between them. -/
def AreFields : List (Option String × Json) → List Char → Prop
  | [] => AreBlank
  | [(key, v)] => Joined ':' (Padded (IsQuoted key)) (IsTextOf v)
  | (key, v) :: rest =>
    Joined ',' (Joined ':' (Padded (IsQuoted key)) (IsTextOf v)) (AreFields rest)

end

/-! ## Reading them -/

variable {cs : List Char} {tokens : List JsonToken} {token : JsonToken}

theorem spells_of_areBlank (h : AreBlank cs) : Spells cs [] := by
  have hblanks : Spells (cs ++ []) [] := .blanks h spells_nil
  rwa [List.append_nil] at hblanks

/-- Blanks are no part of a number. -/
theorem stops_of_areBlank (h : AreBlank cs) : Stops cs := by
  cases cs with
  | nil => exact JsonToken.stops_nil
  | cons c cs =>
    have hc : JsonToken.isBlank c = true := h c List.mem_cons_self
    simp only [JsonToken.isBlank, Bool.or_eq_true, decide_eq_true_eq] at hc
    refine stops_cons.mpr ?_
    rcases hc with ((rfl | rfl) | rfl) | rfl <;> decide

theorem Padded.spells {inner : List Char → Prop} (h : Padded inner cs)
    (hinner : ∀ mid, inner mid → Spells mid tokens) : Spells cs tokens := by
  obtain ⟨front, mid, back, hfront, hmid, hback, rfl⟩ := h
  -- blanks in front are skipped one by one; those behind spell nothing, and end a number
  have hspells := ((hinner mid hmid).blanks hfront).append (spells_of_areBlank hback)
    (stops_of_areBlank hback)
  rwa [List.append_nil] at hspells

/-- A bracket before what it opens, and one behind what it closes. -/
theorem Enclosed.spells {left right : Char} {opening closing : JsonToken}
    {inner : List Char → Prop} (h : Enclosed left right inner cs)
    (hleft : ∀ rest, JsonToken.next? (left :: rest) = some (opening, rest))
    (hright : ∀ rest, JsonToken.next? (right :: rest) = some (closing, rest))
    (hstops : Stops [right]) (hinner : ∀ mid, inner mid → Spells mid tokens) :
    Spells cs (opening :: tokens ++ [closing]) := by
  obtain ⟨mid, back, hmid, hback, rfl⟩ := h
  have hclose : Spells (back ++ [right]) [closing] := .blanks hback (.char hright spells_nil)
  rw [List.append_assoc]
  exact ((hinner mid hmid).char hleft).append hclose ((stops_of_areBlank hback).append hstops)

/-- A comma between two spellings. -/
theorem spells_comma {cs cs' : List Char} {tokens tokens' : List JsonToken}
    (h : Spells cs tokens) (h' : Spells cs' tokens') :
    Spells (cs ++ ',' :: cs') (tokens ++ .comma :: tokens') :=
  h.append (.char (fun _ => rfl) h') (stops_cons.mpr (by decide))

/-- A key and a colon before a value. -/
theorem spells_of_joined_key {key : Option String} {value : List Char → Prop}
    (h : Joined ':' (Padded (IsQuoted key)) value cs)
    (hvalue : ∀ back, value back → Spells back tokens) :
    Spells cs (.string key :: .colon :: tokens) := by
  obtain ⟨front, back, hkey, hback, rfl⟩ := h
  have hfront : Spells front [.string key] :=
    hkey.spells fun _ hquoted => spells_word (JsonToken.next?_of_isQuoted hquoted)
  exact hfront.append (.char (fun _ => rfl) (hvalue back hback)) (stops_cons.mpr (by decide))

mutual

/-- A text of a value spells its tokens. -/
theorem spells_of_isTextOf : ∀ (v : Json) (cs : List Char), v.IsTextOf cs → Spells cs v.tokens
  | .null, _, h => h.spells fun _ heq => heq ▸ spells_word fun _ => rfl
  | .bool true, _, h => h.spells fun _ heq => heq ▸ spells_word fun _ => rfl
  | .bool false, _, h => h.spells fun _ heq => heq ▸ spells_word fun _ => rfl
  | .number spelling, _, h => h.spells fun _ hnumber => by
    obtain ⟨rfl, hread⟩ := hnumber
    exact JsonToken.spells_number hread
  | .string _, _, h =>
    h.spells fun _ hquoted => spells_word (JsonToken.next?_of_isQuoted hquoted)
  | .array items, _, h => h.spells fun _ henclosed =>
    henclosed.spells (fun _ => rfl) (fun _ => rfl) (stops_cons.mpr (by decide))
      (spells_of_areItems items)
  | .object fields, _, h => h.spells fun _ henclosed =>
    henclosed.spells (fun _ => rfl) (fun _ => rfl) (stops_cons.mpr (by decide))
      (spells_of_areFields fields)

theorem spells_of_areItems : ∀ (items : List Json) (cs : List Char), AreItems items cs →
    Spells cs (itemTokens items)
  | [], _, h => spells_of_areBlank h
  | [v], _, h => spells_of_isTextOf v _ h
  | v :: w :: rest, _, h => by
    obtain ⟨front, back, hfront, hback, rfl⟩ := h
    exact spells_comma (spells_of_isTextOf v front hfront)
      (spells_of_areItems (w :: rest) back hback)

theorem spells_of_areFields : ∀ (fields : List (Option String × Json)) (cs : List Char),
    AreFields fields cs → Spells cs (fieldTokens fields)
  | [], _, h => spells_of_areBlank h
  | [(_, v)], _, h => spells_of_joined_key h (spells_of_isTextOf v)
  | (key, v) :: field :: rest, _, h => by
    obtain ⟨front, back, hfront, hback, rfl⟩ := h
    exact spells_comma (spells_of_joined_key hfront (spells_of_isTextOf v))
      (spells_of_areFields (field :: rest) back hback)

end

/-- A text of a value is read as the value. -/
theorem ofText?_of_isTextOf {v : Json} {text : String} (h : v.IsTextOf text.toList) :
    ofText? text = some v :=
  ofText?_of_spells (spells_of_isTextOf v _ h)

/-! ## Writing them -/

theorem areBlank_nil : AreBlank [] := fun _ hc => nomatch hc

theorem areBlank_lineStart (level : Nat) : AreBlank (lineStart level) := by
  intro c hc
  rcases List.mem_cons.mp hc with rfl | hc
  · rfl
  · rw [List.eq_of_mem_replicate hc]
    rfl

theorem padded_of_bare {inner : List Char → Prop} (h : inner cs) : Padded inner cs :=
  ⟨[], cs, [], areBlank_nil, h, areBlank_nil, (List.append_nil cs).symm⟩

theorem Padded.blanks {front : List Char} (hfront : AreBlank front) {inner : List Char → Prop}
    (h : Padded inner cs) : Padded inner (front ++ cs) := by
  obtain ⟨front', mid, back, hfront', hmid, hback, rfl⟩ := h
  refine ⟨front ++ front', mid, back, ?_, hmid, hback, by simp⟩
  exact fun c hc => (List.mem_append.mp hc).elim (hfront c) (hfront' c)

/-- Blanks may stand before a value. -/
theorem IsTextOf.blanks {front : List Char} (hfront : AreBlank front) : ∀ {v : Json},
    v.IsTextOf cs → v.IsTextOf (front ++ cs)
  | .null, h => Padded.blanks hfront h
  | .bool true, h => Padded.blanks hfront h
  | .bool false, h => Padded.blanks hfront h
  | .number _, h => Padded.blanks hfront h
  | .string _, h => Padded.blanks hfront h
  | .array _, h => Padded.blanks hfront h
  | .object _, h => Padded.blanks hfront h

/-- What is written between brackets without blanks is enclosed in them. -/
theorem enclosed_of_bare {left right : Char} {inner : List Char → Prop} (h : inner cs) :
    Enclosed left right inner (left :: cs ++ [right]) :=
  ⟨cs, [], h, areBlank_nil, by rw [List.append_nil]⟩

mutual

/-- What is written of a value without blanks is a text of it. -/
theorem isTextOf_compactChars : ∀ v : Json, v.IsSpelled → v.IsTextOf v.compactChars
  | .null, _ => padded_of_bare rfl
  | .bool true, _ => padded_of_bare rfl
  | .bool false, _ => padded_of_bare rfl
  | .number spelling, h => padded_of_bare ⟨rfl, h spelling List.mem_cons_self⟩
  | .string s, _ => padded_of_bare (JsonToken.isQuoted_stringText s)
  | .array items, h =>
    padded_of_bare (enclosed_of_bare (areItems_compactItems items (isSpelled_array.mp h)))
  | .object fields, h =>
    padded_of_bare (enclosed_of_bare (areFields_compactFields fields (isSpelled_object.mp h)))

theorem areItems_compactItems : ∀ items : List Json, (∀ v ∈ items, v.IsSpelled) →
    AreItems items (compactItems items)
  | [], _ => areBlank_nil
  | [v], h => isTextOf_compactChars v (h v List.mem_cons_self)
  | v :: w :: rest, h =>
    ⟨_, _, isTextOf_compactChars v (h v List.mem_cons_self),
      areItems_compactItems (w :: rest) (List.forall_mem_cons.mp h).2, rfl⟩

theorem areFields_compactFields : ∀ fields : List (Option String × Json),
    (∀ field ∈ fields, field.2.IsSpelled) → AreFields fields (compactFields fields)
  | [], _ => areBlank_nil
  | [(key, v)], h =>
    ⟨_, _, padded_of_bare (JsonToken.isQuoted_stringText key),
      isTextOf_compactChars v (h (key, v) List.mem_cons_self), rfl⟩
  | (key, v) :: field :: rest, h =>
    ⟨_, _, ⟨_, _, padded_of_bare (JsonToken.isQuoted_stringText key),
        isTextOf_compactChars v (h (key, v) List.mem_cons_self), rfl⟩,
      areFields_compactFields (field :: rest) (List.forall_mem_cons.mp h).2, rfl⟩

end

/-- A key on a line before a value. -/
theorem joined_lineStart (level : Nat) (key : Option String) {v : Json} (h : v.IsTextOf cs) :
    Joined ':' (Padded (IsQuoted key)) v.IsTextOf
      (lineStart level ++ stringText key ++ ':' :: ' ' :: cs) := by
  have hblank : AreBlank [' '] := by simp [AreBlank, JsonToken.isBlank]
  exact ⟨_, _, Padded.blanks (areBlank_lineStart level)
    (padded_of_bare (JsonToken.isQuoted_stringText key)), IsTextOf.blanks hblank h, rfl⟩

mutual

/-- What is written of a value with a line for each item and field is a text of it. -/
theorem isTextOf_prettyChars : ∀ (v : Json) (level : Nat), v.IsSpelled →
    v.IsTextOf (v.prettyChars level)
  | .null, _, _ => padded_of_bare rfl
  | .bool true, _, _ => padded_of_bare rfl
  | .bool false, _, _ => padded_of_bare rfl
  | .number spelling, _, h => padded_of_bare ⟨rfl, h spelling List.mem_cons_self⟩
  | .string s, _, _ => padded_of_bare (JsonToken.isQuoted_stringText s)
  | .array [], _, _ => padded_of_bare (enclosed_of_bare areBlank_nil)
  | .array (v :: rest), level, h =>
    padded_of_bare ⟨_, _, areItems_prettyItems (v :: rest) (level + 1) (isSpelled_array.mp h),
      areBlank_lineStart level, rfl⟩
  | .object [], _, _ => padded_of_bare (enclosed_of_bare areBlank_nil)
  | .object (field :: rest), level, h =>
    padded_of_bare ⟨_, _,
      areFields_prettyFields (field :: rest) (level + 1) (isSpelled_object.mp h),
      areBlank_lineStart level, rfl⟩

theorem areItems_prettyItems : ∀ (items : List Json) (level : Nat), (∀ v ∈ items, v.IsSpelled) →
    AreItems items (prettyItems level items)
  | [], _, _ => areBlank_nil
  | [v], level, h =>
    IsTextOf.blanks (areBlank_lineStart level)
      (isTextOf_prettyChars v level (h v List.mem_cons_self))
  | v :: w :: rest, level, h =>
    ⟨_, _, IsTextOf.blanks (areBlank_lineStart level)
        (isTextOf_prettyChars v level (h v List.mem_cons_self)),
      areItems_prettyItems (w :: rest) level (List.forall_mem_cons.mp h).2, rfl⟩

theorem areFields_prettyFields : ∀ (fields : List (Option String × Json)) (level : Nat),
    (∀ field ∈ fields, field.2.IsSpelled) → AreFields fields (prettyFields level fields)
  | [], _, _ => areBlank_nil
  | [(key, v)], level, h =>
    joined_lineStart level key (isTextOf_prettyChars v level (h (key, v) List.mem_cons_self))
  | (key, v) :: field :: rest, level, h =>
    ⟨_, _, joined_lineStart level key
        (isTextOf_prettyChars v level (h (key, v) List.mem_cons_self)),
      areFields_prettyFields (field :: rest) level (List.forall_mem_cons.mp h).2, rfl⟩

end

theorem isTextOf_compact {v : Json} (h : v.IsSpelled) : v.IsTextOf v.compact.toList :=
  String.toList_ofList.symm ▸ isTextOf_compactChars v h

theorem isTextOf_pretty {v : Json} (h : v.IsSpelled) : v.IsTextOf v.pretty.toList :=
  String.toList_ofList.symm ▸ isTextOf_prettyChars v 0 h

end StartOrder.Json
