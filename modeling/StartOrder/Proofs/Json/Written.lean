import StartOrder.Proofs.Json.Spelling

/-!
# The tokens of a value

Between a value and its texts stand its tokens: a text spells them, and they make the value. That
they do is shown for any stack of open arrays and objects in which a value is expected
(`foldlM_step_tokens`), since it is by induction on the value, and its parts are read while it is
still open.

Numbers are kept as they are spelled. A value that is written is read back only if the spellings of
its numbers are numbers (`IsSpelled`), which all values are that this library writes.
-/

namespace StartOrder.Json

open JsonToken (Spells stops_nil)

/-! ## The tokens of a value -/

mutual

/-- The tokens of a value. -/
def tokens : Json → List JsonToken
  | .null => [.null]
  | .bool b => [.bool b]
  | .number spelling => [.number spelling]
  | .string s => [.string s]
  | .array items => .openArray :: itemTokens items ++ [.closeArray]
  | .object fields => .openObject :: fieldTokens fields ++ [.closeObject]

/-- The tokens of the items of an array. -/
def itemTokens : List Json → List JsonToken
  | [] => []
  | [v] => tokens v
  | v :: rest => tokens v ++ .comma :: itemTokens rest

/-- The tokens of the fields of an object. -/
def fieldTokens : List (Option String × Json) → List JsonToken
  | [] => []
  | [(key, v)] => .string key :: .colon :: tokens v
  | (key, v) :: rest => .string key :: .colon :: (tokens v ++ .comma :: fieldTokens rest)

end

/-! ## Values whose numbers are numbers -/

/-- All numbers among some tokens are spelled like numbers. -/
def AreSpelled (tokens : List JsonToken) : Prop :=
  ∀ spelling, .number spelling ∈ tokens →
    JsonToken.number? spelling.toList = some (spelling.toList, [])

theorem areSpelled_comma {front back : List JsonToken} :
    AreSpelled (front ++ .comma :: back) ↔ AreSpelled front ∧ AreSpelled back := by
  simp [AreSpelled, or_imp, forall_and]

theorem areSpelled_key {key : Option String} {tokens : List JsonToken} :
    AreSpelled (.string key :: .colon :: tokens) ↔ AreSpelled tokens := by
  simp [AreSpelled]

theorem areSpelled_itemTokens : ∀ {items : List Json},
    AreSpelled (itemTokens items) ↔ ∀ v ∈ items, AreSpelled v.tokens
  | [] => by simp [AreSpelled, itemTokens]
  | [v] => by
    rw [List.forall_mem_singleton]
    rfl
  | v :: w :: rest => by
    rw [List.forall_mem_cons, ← areSpelled_itemTokens]
    exact areSpelled_comma

theorem areSpelled_fieldTokens : ∀ {fields : List (Option String × Json)},
    AreSpelled (fieldTokens fields) ↔ ∀ field ∈ fields, AreSpelled field.2.tokens
  | [] => by simp [AreSpelled, fieldTokens]
  | [(key, v)] => by
    rw [List.forall_mem_singleton]
    exact areSpelled_key
  | (key, v) :: field :: rest => by
    rw [List.forall_mem_cons, ← areSpelled_fieldTokens]
    exact areSpelled_key.trans areSpelled_comma

/-- All numbers of a value are spelled like numbers. -/
def IsSpelled (v : Json) : Prop := AreSpelled v.tokens

@[simp]
theorem isSpelled_null : null.IsSpelled := by
  simp [IsSpelled, AreSpelled, tokens]

@[simp]
theorem isSpelled_bool (b : Bool) : (bool b).IsSpelled := by
  simp [IsSpelled, AreSpelled, tokens]

@[simp]
theorem isSpelled_text (s : String) : (text s).IsSpelled := by
  simp [IsSpelled, AreSpelled, tokens, text]

@[simp]
theorem isSpelled_ofNat (n : Nat) : (ofNat n).IsSpelled := by
  intro spelling hmem
  cases List.mem_singleton.mp hmem
  exact JsonToken.number?_toString n

@[simp]
theorem isSpelled_array {items : List Json} :
    (array items).IsSpelled ↔ ∀ v ∈ items, v.IsSpelled := by
  refine Iff.trans ?_ areSpelled_itemTokens
  simp [IsSpelled, AreSpelled, tokens]

theorem isSpelled_object {fields : List (Option String × Json)} :
    (object fields).IsSpelled ↔ ∀ field ∈ fields, field.2.IsSpelled := by
  refine Iff.trans ?_ areSpelled_fieldTokens
  simp [IsSpelled, AreSpelled, tokens]

@[simp]
theorem isSpelled_texts (l : List String) : (texts l).IsSpelled := by
  simp [texts]

@[simp]
theorem isSpelled_ofFields {fields : List (String × Json)} :
    (ofFields fields).IsSpelled ↔ ∀ field ∈ fields, field.2.IsSpelled := by
  rw [ofFields, isSpelled_object, List.forall_mem_map]

/-! ## Reading tokens -/

/-- A string is a value where one is expected. -/
theorem takeString_of_expectsValue {stack : List JsonFrame} (h : expectsValue stack = true)
    (s : Option String) : takeString s stack = place (.string s) stack := by
  unfold expectsValue at h
  split at h
  · rfl
  · rfl
  · rfl
  · rfl
  · cases h

theorem place_array {slot : ItemSlot} (h : slot ≠ .comma) (v : Json) (done : List Json)
    (stack : List JsonFrame) :
    place v (.array done slot :: stack) = some (.array (v :: done) .comma :: stack) ∧
      expectsValue (.array done slot :: stack) = true := by
  cases slot with
  | first => exact ⟨rfl, rfl⟩
  | item => exact ⟨rfl, rfl⟩
  | comma => exact absurd rfl h

/-- A key and a colon lead to where a value is expected. -/
theorem foldlM_step_key {slot : FieldSlot} (h : slot = .first ∨ slot = .key) (key : Option String)
    (done : List (Option String × Json)) (stack : List JsonFrame) (tokens : List JsonToken) :
    (.string key :: .colon :: tokens).foldlM step (.object done slot :: stack) =
      tokens.foldlM step (.object done (.value key) :: stack) := by
  rcases h with rfl | rfl <;> rfl

mutual

/-- The tokens of a value put it where one is expected. -/
theorem foldlM_step_tokens : ∀ (v : Json) (stack : List JsonFrame), expectsValue stack = true →
    v.tokens.foldlM step stack = place v stack
  | .null, stack, _ => by simp [tokens, step]
  | .bool b, stack, _ => by simp [tokens, step]
  | .number spelling, stack, _ => by simp [tokens, step]
  | .string s, stack, h => by simp [tokens, step, takeString_of_expectsValue h]
  | .array [], stack, h => by
    show (openFrame (.array [] .first) stack >>= _) = _
    rw [openFrame, if_pos h]
    simp [itemTokens, step]
  | .array (v :: rest), stack, h => by
    rw [tokens, List.cons_append, List.foldlM_cons]
    show (openFrame (.array [] .first) stack >>= _) = _
    rw [openFrame, if_pos h]
    show (itemTokens (v :: rest) ++ [JsonToken.closeArray]).foldlM step
      (.array [] .first :: stack) = _
    -- the items are kept last first, and turned round at the closing bracket
    rw [List.foldlM_append,
      foldlM_step_itemTokens (v :: rest) [] .first stack (List.cons_ne_nil _ _) (by decide)]
    simp [step]
  | .object [], stack, h => by
    show (openFrame (.object [] .first) stack >>= _) = _
    rw [openFrame, if_pos h]
    simp [fieldTokens, step]
  | .object (field :: rest), stack, h => by
    rw [tokens, List.cons_append, List.foldlM_cons]
    show (openFrame (.object [] .first) stack >>= _) = _
    rw [openFrame, if_pos h]
    show (fieldTokens (field :: rest) ++ [JsonToken.closeObject]).foldlM step
      (.object [] .first :: stack) = _
    rw [List.foldlM_append,
      foldlM_step_fieldTokens (field :: rest) [] .first stack (List.cons_ne_nil _ _) (.inl rfl)]
    simp [step]

/-- The tokens of items put them behind those that were there. -/
theorem foldlM_step_itemTokens : ∀ (items done : List Json) (slot : ItemSlot)
    (stack : List JsonFrame), items ≠ [] → slot ≠ .comma →
    (itemTokens items).foldlM step (.array done slot :: stack) =
      some (.array (items.reverse ++ done) .comma :: stack)
  | [], _, _, _, hne, _ => absurd rfl hne
  | [v], done, slot, stack, _, h => by
    obtain ⟨hplace, hexpects⟩ := place_array h v done stack
    rw [itemTokens, foldlM_step_tokens v _ hexpects, hplace]
    rfl
  | v :: w :: rest, done, slot, stack, _, h => by
    obtain ⟨hplace, hexpects⟩ := place_array h v done stack
    show (v.tokens ++ .comma :: itemTokens (w :: rest)).foldlM step _ = _
    rw [List.foldlM_append, foldlM_step_tokens v _ hexpects, hplace]
    show (itemTokens (w :: rest)).foldlM step (.array (v :: done) .item :: stack) = _
    rw [foldlM_step_itemTokens (w :: rest) (v :: done) .item stack (List.cons_ne_nil _ _)
      (by decide)]
    simp

/-- The tokens of fields put them behind those that were there. -/
theorem foldlM_step_fieldTokens : ∀ (fields done : List (Option String × Json)) (slot : FieldSlot)
    (stack : List JsonFrame), fields ≠ [] → slot = .first ∨ slot = .key →
    (fieldTokens fields).foldlM step (.object done slot :: stack) =
      some (.object (fields.reverse ++ done) .comma :: stack)
  | [], _, _, _, hne, _ => absurd rfl hne
  | [(key, v)], done, slot, stack, _, h => by
    rw [fieldTokens, foldlM_step_key h, foldlM_step_tokens v _ rfl]
    rfl
  | (key, v) :: field :: rest, done, slot, stack, _, h => by
    show (.string key :: .colon :: (v.tokens ++ .comma :: fieldTokens (field :: rest))).foldlM
      step _ = _
    rw [foldlM_step_key h, List.foldlM_append, foldlM_step_tokens v _ rfl]
    show (fieldTokens (field :: rest)).foldlM step (.object ((key, v) :: done) .key :: stack) = _
    rw [foldlM_step_fieldTokens (field :: rest) ((key, v) :: done) .key stack
      (List.cons_ne_nil _ _) (.inr rfl)]
    simp

end

/-- The tokens of a value make the value. -/
theorem ofTokens?_tokens (v : Json) : ofTokens? v.tokens = some v := by
  rw [ofTokens?, foldlM_step_tokens v _ rfl]
  rfl

/-! ## Reading texts -/

/-- A text that spells the tokens of a value is read as the value. -/
theorem ofText?_of_spells {v : Json} {text : String} (h : Spells text.toList v.tokens) :
    ofText? text = some v := by
  -- nothing is behind the text, which does not go on with a number
  have hchars := h [] stops_nil
  rw [List.append_nil] at hchars
  rw [ofText?, hchars]
  simp [JsonToken.ofChars?, ofTokens?_tokens]

end StartOrder.Json
