import StartOrder.Proofs.Positions
import StartOrder.Proofs.Text.Blanks
import StartOrder.Source.Files
import StartOrder.Source.Loader

/-!
# Media types are checked first, and alike

A recipe is given as a text, in a file, or by a descriptor. Each of the three ways checks the media
type before it does anything else, and makes no other use of it.

Both halves of that are theorems here. `TurnedAway` says that a media type outside the known ones
fails at once and verbatim; that nothing is read or requested on the way is part of the equations,
which hold for any monad of file actions and give an empty list of requests. `LetIn` and
`SameReading` say of a known one that it is never the reason of a failure, and that it cannot be
told from any other known one. Which of the two it is depends on its essence alone: the part before
the first semicolon, without the blanks around it and the case of its letters
(`essence_eq_of_toLower_eq`, `essence_append_parameters`, `essence_append_blanks`).

The main result is `checked_first_and_alike`. It does not repeat the list of the media types that
are known; `Accepts` can be evaluated.
-/

namespace StartOrder.ContentType

/-! ## The essence of a media type -/

/-- A media type is one of those of recipes, whatever the case of its letters, its parameters and
the blanks around it. -/
def Accepts (mediaType : String) : Prop := essence mediaType ∈ supported

instance (mediaType : String) : Decidable (Accepts mediaType) :=
  inferInstanceAs (Decidable (essence mediaType ∈ supported))

/-- Lower case makes no semicolon, and takes none away. -/
theorem toLower_ne_semicolon (c : Char) : decide (c.toLower ≠ ';') = decide (c ≠ ';') := by
  by_cases hupper : c.isUpper = true
  · obtain ⟨hrange, hlower⟩ := Text.toNat_of_isUpper hupper
    have hc : c ≠ ';' := by
      rintro rfl
      exact absurd hrange (by decide)
    have hlowered : c.toLower ≠ ';' := by
      intro heq
      rw [heq] at hlower
      have hcode : ';'.toNat = 59 := rfl
      omega
    rw [decide_eq_true hc, decide_eq_true hlowered]
  · rw [Text.toLower_of_not_isUpper hupper]

/-- Lower case can as well come first. -/
theorem essence_eq (mediaType : String) : essence mediaType =
    String.ofList (Text.trimChars (mediaType.toLower.toList.takeWhile (· ≠ ';'))) := by
  have hmark : (fun c => decide (c ≠ ';')) ∘ Char.toLower = fun c => decide (c ≠ ';') :=
    funext toLower_ne_semicolon
  rw [essence, Text.toList_toLower, List.takeWhile_map, hmark, Text.trimChars_map_toLower]

theorem essence_eq_of_toLower_eq {a b : String} (h : a.toLower = b.toLower) :
    essence a = essence b := by
  rw [essence_eq, essence_eq, h]

theorem essence_append_parameters (mediaType parameters : String) :
    essence (mediaType ++ ";" ++ parameters) = essence mediaType := by
  have hchars : (mediaType ++ ";" ++ parameters).toList =
      mediaType.toList ++ ';' :: parameters.toList := by simp
  rw [essence, hchars, takeWhile_ne_append_of_head? (by simp), essence]

/-- Blanks around the part before the parameters make no difference. -/
theorem essence_append_blanks {blanks blanks' rest : String} (h : Text.allBlank blanks)
    (h' : Text.allBlank blanks') (hrest : ∀ c ∈ rest.toList.head?, c = ';') (front : String) :
    essence (blanks ++ front ++ blanks' ++ rest) = essence (front ++ rest) := by
  have hblanks : ∀ c ∈ blanks.toList, Text.isBlank c := List.all_eq_true.mp h
  have hblanks' : ∀ c ∈ blanks'.toList, Text.isBlank c := List.all_eq_true.mp h'
  have hfree : ∀ c ∈ blanks.toList, decide (c ≠ ';') = true := by
    refine fun c hc => decide_eq_true ?_
    rintro rfl
    exact absurd (hblanks ';' hc) (by decide)
  -- if the parameters begin in the middle, the blanks behind it are parameters too
  obtain ⟨back, hback, hcut⟩ : ∃ back, (∀ c ∈ back, Text.isBlank c) ∧
      (front.toList ++ blanks'.toList).takeWhile (· ≠ ';') =
        front.toList.takeWhile (· ≠ ';') ++ back := by
    rw [List.takeWhile_append]
    split
    · next hall =>
      rw [(List.takeWhile_prefix _).eq_of_length hall]
      exact ⟨_, fun c hc => hblanks' c ((List.takeWhile_sublist _).subset hc), rfl⟩
    · exact ⟨[], fun _ hc => absurd hc List.not_mem_nil, (List.append_nil _).symm⟩
  simp only [essence, String.toList_append, takeWhile_ne_append_of_head? hrest]
  rw [List.append_assoc, List.takeWhile_append_of_pos hfree, hcut, ← List.append_assoc,
    Text.trimChars_append_of_isBlank hblanks hback]

/-! ## What becomes of a media type -/

theorem ofMediaType_of_accepts {mediaType : String} (h : Accepts mediaType) :
    ofMediaType mediaType = .ok .yaml :=
  if_pos (List.contains_iff_mem.mpr h)

theorem ofMediaType_of_not_accepts {mediaType : String} (h : ¬Accepts mediaType) :
    ofMediaType mediaType = .error (.contentType mediaType supported) :=
  if_neg fun hmem => h (List.contains_iff_mem.mp hmem)

/-- A media type is turned away as it is written. No file is read, whatever it takes to read one,
and no request is made. -/
structure TurnedAway (mediaType : String) : Prop where
  text : ∀ content, Environment.ofRecipe content mediaType =
    .error (.contentType mediaType supported)
  file : ∀ {m : Type → Type} [Monad m] (readFile : String → m (Except FileProblem String))
    (path : String), Environment.ofFileWith readFile path mediaType =
      pure (.error (.contentType mediaType supported))
  descriptor : ∀ (l : Loader) (web : Web) (current : Option Subject)
    (content location : Option String), l.read web current ⟨content, location, mediaType⟩ =
      ⟨[], .error (.contentType mediaType supported)⟩

/-- A media type is let in: whatever else may go wrong, it is not the media type. -/
structure LetIn (mediaType : String) : Prop where
  text : ∀ content given known,
    Environment.ofRecipe content mediaType ≠ .error (.contentType given known)
  file : ∀ (files : Files) (path : String) given known,
    Environment.ofFile files path mediaType ≠ .error (.contentType given known)
  descriptor : ∀ (l : Loader) (web : Web) (current : Option Subject)
    (content location : Option String) given known,
    (l.read web current ⟨content, location, mediaType⟩).result ≠ .error (.contentType given known)

/-- Two media types come to the same, with the same files read and the same requests made. -/
structure SameReading (a b : String) : Prop where
  text : ∀ content, Environment.ofRecipe content a = Environment.ofRecipe content b
  file : ∀ {m : Type → Type} [Monad m] (readFile : String → m (Except FileProblem String))
    (path : String),
    Environment.ofFileWith readFile path a = Environment.ofFileWith readFile path b
  descriptor : ∀ (l : Loader) (web : Web) (current : Option Subject)
    (content location : Option String),
    l.read web current ⟨content, location, a⟩ = l.read web current ⟨content, location, b⟩

section Checked

variable {mediaType : String}

theorem turnedAway_of_not_accepts (h : ¬Accepts mediaType) : TurnedAway mediaType where
  text content := by rw [Environment.ofRecipe, ofMediaType_of_not_accepts h]
  file readFile path := by rw [Environment.ofFileWith, ofMediaType_of_not_accepts h]
  descriptor l web current content location := by
    rw [Loader.read, ofMediaType_of_not_accepts h]

/-! ### Accepted media types -/

theorem ofRecipe_of_accepts (h : Accepts mediaType) (content : String) :
    Environment.ofRecipe content mediaType = Environment.ofYaml content := by
  rw [Environment.ofRecipe, ofMediaType_of_accepts h]

/-- What is read of a file is the recipe in it, if it can be read at all. -/
theorem ofFileWith_of_accepts (h : Accepts mediaType) {m : Type → Type} [Monad m]
    (readFile : String → m (Except FileProblem String)) (path : String) :
    Environment.ofFileWith readFile path mediaType = (do
      match ← readFile path with
      | .ok content => return Environment.ofYaml content
      | .error problem => return .error (.settings (.recipeFile path problem))) := by
  rw [Environment.ofFileWith, ofMediaType_of_accepts h]
  refine congrArg (readFile path >>= ·) (funext fun read => ?_)
  cases read with
  | ok content => exact congrArg pure (ofRecipe_of_accepts h content)
  | error problem => rfl

/-- What is read of a descriptor is the recipe that is loaded, if any is. -/
theorem read_of_accepts (h : Accepts mediaType) (l : Loader) (web : Web) (current : Option Subject)
    (content location : Option String) :
    l.read web current ⟨content, location, mediaType⟩ =
      let loaded := l.load web current ⟨content, location, ""⟩
      ⟨loaded.requests, loaded.result >>= Environment.ofYaml⟩ := by
  simp only [Loader.read, ofMediaType_of_accepts h, ofRecipe_of_accepts h]
  rfl

/-- A text that is no recipe is malformed. -/
theorem ofYaml_ne_contentType (content given : String) (known : List String) :
    Environment.ofYaml content ≠ .error (.contentType given known) := by
  unfold Environment.ofYaml
  split
  · nofun
  · split <;> nofun

/-- What is not loaded is not fetched, or has no source. -/
theorem load_ne_contentType (l : Loader) (web : Web) (current : Option Subject) (d : Descriptor)
    (given : String) (known : List String) :
    (l.load web current d).result ≠ .error (.contentType given known) := by
  unfold Loader.load
  split
  · nofun
  · next location _ _ =>
    unfold Loader.fetch
    generalize l.download web (currentToken current) {} location = downloaded
    obtain ⟨d, requests, result⟩ := downloaded
    cases result <;> nofun
  · nofun

theorem letIn_of_accepts (h : Accepts mediaType) : LetIn mediaType where
  text content given known := by
    rw [ofRecipe_of_accepts h]
    exact ofYaml_ne_contentType content given known
  file files path given known := by
    rw [Environment.ofFile, ofFileWith_of_accepts h]
    show (match files path with
      | .ok content => Environment.ofYaml content
      | .error problem => .error (.settings (.recipeFile path problem))) ≠ _
    cases files path with
    | ok content => exact ofYaml_ne_contentType content given known
    | error problem => nofun
  descriptor l web current content location given known := by
    rw [read_of_accepts h]
    have hload := load_ne_contentType l web current ⟨content, location, ""⟩ given known
    dsimp only
    cases hresult : (l.load web current ⟨content, location, ""⟩).result with
    | ok text => exact ofYaml_ne_contentType text given known
    | error f =>
      rw [hresult] at hload
      intro heq
      cases heq
      exact hload rfl

theorem sameReading_of_accepts {other : String} (h : Accepts mediaType) (hother : Accepts other) :
    SameReading mediaType other where
  text content := by rw [ofRecipe_of_accepts h, ofRecipe_of_accepts hother]
  file readFile path := by rw [ofFileWith_of_accepts h, ofFileWith_of_accepts hother]
  descriptor l web current content location := by
    rw [read_of_accepts h, read_of_accepts hother]

end Checked

/-- **Media types are checked first, and alike.** A media type that is not accepted is turned away
as it is written, whichever way a recipe is given and whatever it is, and nothing is read or
requested. One that is accepted is let in every way, and comes to the same as any other that is
accepted. The media types of recipes are accepted, and it makes no difference to a media type to
append a semicolon and any text, to change the case of letters, or to put blanks around what is
before the first semicolon. -/
theorem checked_first_and_alike (mediaType : String) :
    (¬Accepts mediaType → TurnedAway mediaType) ∧
      (Accepts mediaType → LetIn mediaType ∧
        ∀ other, Accepts other → SameReading mediaType other) ∧
      (mediaType ∈ supported → Accepts mediaType) ∧
      (∀ parameters, Accepts (mediaType ++ ";" ++ parameters) ↔ Accepts mediaType) ∧
      (∀ front front' rest, mediaType = front ++ rest → front.toLower = front'.toLower →
        (Accepts (front' ++ rest) ↔ Accepts mediaType)) ∧
      ∀ front rest, mediaType = front ++ rest → (∀ c ∈ rest.toList.head?, c = ';') →
        ∀ blanks blanks', Text.allBlank blanks → Text.allBlank blanks' →
          (Accepts (blanks ++ front ++ blanks' ++ rest) ↔ Accepts mediaType) := by
  refine ⟨turnedAway_of_not_accepts,
    fun h => ⟨letIn_of_accepts h, fun _ => sameReading_of_accepts h⟩,
    fun hmem => ?_, fun parameters => ?_, ?_, ?_⟩
  · have hall : ∀ name ∈ supported, Accepts name := by decide
    exact hall mediaType hmem
  · rw [Accepts, essence_append_parameters, Accepts]
  · rintro front front' rest rfl hcase
    -- lower case goes character by character, so what is behind a front does not matter
    have hlower : (front' ++ rest).toLower = (front ++ rest).toLower := by
      refine String.toList_inj.mp ?_
      have hfront := congrArg String.toList hcase
      rw [Text.toList_toLower, Text.toList_toLower] at hfront
      rw [Text.toList_toLower, Text.toList_toLower, String.toList_append, String.toList_append,
        List.map_append, List.map_append, hfront]
    rw [Accepts, essence_eq_of_toLower_eq hlower, Accepts]
  · rintro front rest rfl hrest blanks blanks' h h'
    rw [Accepts, essence_append_blanks h h' hrest, Accepts]

/-- A media type in another spelling comes to the same as the plain one, and one of another format
is turned away. -/
theorem spelled_checked_first_and_alike :
    SameReading "\t Text/X-Yaml ; charset=utf-8" "text/x-yaml" ∧
      LetIn "\t Text/X-Yaml ; charset=utf-8" ∧ TurnedAway "application/json" := by
  obtain ⟨-, hspelled, -⟩ := checked_first_and_alike "\t Text/X-Yaml ; charset=utf-8"
  obtain ⟨hletIn, hsame⟩ := hspelled (by decide +kernel)
  exact ⟨hsame _ (by decide +kernel), hletIn,
    (checked_first_and_alike "application/json").1 (by decide +kernel)⟩

end StartOrder.ContentType
