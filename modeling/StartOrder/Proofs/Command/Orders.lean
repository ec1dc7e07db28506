import StartOrder.Proofs.Command.Plans
import StartOrder.Proofs.Source.Redirects
import StartOrder.Proofs.Yaml.Trees

/-!
# Orders from files and from the web

`order` says the same of a recipe, whether it is in a file or at an address that answers with it.

Reading comes first. Either way the settings are the same, and they are checked behind everything
that is put over them (`validate_of_settingsOf`), so that the loader is made; a text that is served
as a whole and keeps the limit is fetched as it is (`Loader.fetch_of_serves`). Hence the environment
that is read is that of the text in both cases (`readRecipe_of_file`, `readRecipe_of_serves`), and
the report depends on it alone, whatever requests were made (`reportOrder_of_result_eq`).

Then comes what is said. With a plan, the exit code is zero and the plan is printed as a whole:
`IsRendering` spells out what that is for each choice of `--json` and `--layers`, line by line or as
a JSON object, and says it of the text and not of the function that prints it. Without a plan the
exit code is one, nothing is printed and the failure is told (`told`).

The recipe at the end has services in three layers, and its order is given under all flags.
-/

namespace StartOrder

/-! ## Addresses that answer with a text -/

/-- A client gets to an answer at once, if that sends it nowhere else. -/
theorem follow_of_answered {writable : Url → Bool} {web : Web} {trusted : Option Url.Host}
    {asked : Url} {a : Answer} (hwritable : writable asked = true)
    (hanswer : web asked = .answered a) (hredirect : a.redirect? writable asked = none) :
    follow writable web trusted asked = ⟨[asked], .ok a⟩ := by
  rw [follow, if_pos hwritable, followFrom_of_answered hanswer hredirect]

namespace Loader

variable {l : Loader} {web : Web} {location text : String}

/-- A request for a location, with a token if there is one, is answered with a text as a whole. Its
length may be announced. -/
def Serves (l : Loader) (web : Web) (token : Option String) (location text : String) : Prop :=
  ∃ url a, l.authorize location token = .ok url ∧ l.writable url = true ∧ web url = .answered a ∧
    a.status = 200 ∧ (∀ n ∈ a.announced, n = a.body.length) ∧ a.complete = true ∧
    text.toUTF8 = ⟨a.body.toArray⟩

/-- A text that keeps the limit is fetched from where it is served. -/
theorem fetch_of_serves {current : Option Subject}
    (h : l.Serves web (currentToken current) location text)
    (hsize : text.utf8ByteSize ≤ l.maxRecipeSize) :
    (l.fetch web current location).result = .ok text := by
  obtain ⟨url, a, hurl, hwritable, hanswer, hstatus, hannounced, hcomplete, htext⟩ := h
  -- the limit is on the bytes that are delivered, and these are the bytes of the text
  have hlength : a.body.length = text.utf8ByteSize := by
    rw [← String.size_toByteArray, ← String.toUTF8_eq_toByteArray, htext]
    rfl
  have htaken : a.IsTaken l.maxRecipeSize :=
    { success := by simp [hstatus]
      announced := fun n hn => hannounced n hn ▸ hlength ▸ hsize
      size := hlength ▸ hsize
      complete := hcomplete }
  have hredirect : a.redirect? l.writable url = none := by
    rw [Answer.redirect?, hstatus]
    rfl
  rw [fetch_result_of_answer hurl
    (congrArg Traced.result (follow_of_answered hwritable hanswer hredirect)),
    Answer.outcome_of_isTaken htaken, decodeUtf8?_eq_some_iff.mpr htext]
  rfl

end Loader

namespace Command

/-! ## Reading the recipe -/

section Reading

variable {files : Files} {web : Web} {settings : Settings} {i : Invocation} {text : String}

theorem validate_of_checked {found : Settings}
    (h : (do found.validate.mapError Trouble.failure; return found) = Except.ok settings) :
    settings.validate = .ok () := by
  cases hvalid : found.validate with
  | error f =>
    rw [hvalid] at h
    cases h
  | ok _ =>
    rw [hvalid] at h
    cases h
    exact hvalid

/-- The settings of an invocation are checked behind all that is put over them. -/
theorem validate_of_settingsOf (h : settingsOf files i = .ok settings) :
    settings.validate = .ok () := by
  unfold settingsOf at h
  extract_lets checked overridden at h
  -- wherever the settings come from, they are overridden and then checked
  have hchecked : ∀ found, checked found = .ok settings → settings.validate = .ok () :=
    fun _ hfound => validate_of_checked hfound
  have hoverridden : ∀ found, overridden found = .ok settings →
      settings.validate = .ok () := by
    intro found hfound
    dsimp only [overridden] at hfound
    split at hfound
    · split at hfound
      · exact hchecked _ hfound
      · cases hfound
    · exact hchecked _ hfound
  split at h
  · next path _ =>
    cases hfile : (Settings.ofFile files path).mapError Trouble.failure with
    | error t =>
      rw [hfile] at h
      cases h
    | ok found =>
      rw [hfile] at h
      exact hoverridden found h
  · exact hoverridden {} h

theorem validate_default : ({} : Settings).validate = .ok () :=
  Except.toOption_eq_some_iff.mp (by decide +kernel)

/-- An invocation that says nothing about settings has the default ones. -/
theorem settingsOf_of_none (hsettings : i.settings = none) (hendpoint : i.apiEndpoint = none)
    (htimeout : i.fetchTimeout = none) : settingsOf files i = .ok {} := by
  unfold settingsOf
  rw [hsettings, hendpoint, htimeout]
  show (do ({} : Settings).validate.mapError Trouble.failure; return {}) =
    (.ok {} : Except Trouble Settings)
  rw [validate_default]
  rfl

/-- A recipe is read from the text that is loaded for it; its media type is checked either way. -/
theorem read_of_load (l : Loader) (web : Web) (current : Option Subject) {d : Descriptor}
    (h : (l.load web current d).result = .ok text) :
    (l.read web current d).result = Environment.ofRecipe text d.contentType := by
  unfold Loader.read
  cases htype : ContentType.ofMediaType d.contentType with
  | error f => rw [Environment.ofRecipe, htype]
  | ok type =>
    dsimp only
    rw [h]
    exact pure_bind text _

/-- The loader that reads the recipe of an invocation. -/
def loaderOf (settings : Settings) : Loader :=
  { trustedHost := settings.trustedHost, maxRecipeSize := settings.maxRecipeSize.toNat }

theorem ofSettings_of_settingsOf (h : settingsOf files i = .ok settings) :
    Loader.ofSettings settings = .ok (loaderOf settings) := by
  rw [Loader.ofSettings, validate_of_settingsOf h]
  rfl

/-- The recipe in a file is that of its text. -/
theorem readRecipe_of_file (hsettings : settingsOf files i = .ok settings)
    (hlocal : isRemote i.recipe = false) (hfile : files i.recipe = .ok text) :
    (readRecipe files web settings i).result = Environment.ofRecipe text i.contentType := by
  have hdescribe : describe files i.recipe i.contentType =
      .ok { content := some text, contentType := i.contentType } := by
    rw [describe, hlocal, if_neg Bool.false_ne_true, hfile]
  rw [readRecipe, hdescribe, ofSettings_of_settingsOf hsettings]
  exact read_of_load (loaderOf settings) web _ rfl

/-- The recipe at an address is that of the text that is served there. -/
theorem readRecipe_of_serves (hsettings : settingsOf files i = .ok settings)
    (hremote : isRemote i.recipe = true)
    (hserves : (loaderOf settings).Serves web i.token i.recipe text)
    (hsize : text.utf8ByteSize ≤ settings.maxRecipeSize.toNat) :
    (readRecipe files web settings i).result = Environment.ofRecipe text i.contentType := by
  have hdescribe : describe files i.recipe i.contentType =
      .ok { location := some i.recipe, contentType := i.contentType } := by
    rw [describe, hremote, if_pos rfl]
  rw [readRecipe, hdescribe, ofSettings_of_settingsOf hsettings]
  exact read_of_load (loaderOf settings) web (some { token := i.token })
    (Loader.fetch_of_serves hserves hsize)

end Reading

/-! ## Printing the order -/

/-- A failure as it is told: the sentence, and the hint if there is one. -/
def told (f : Failure) : String :=
  "Error: " ++ f.message ++ f.suggestion.elim "" ("\n\nHint: " ++ ·) ++ "\n"

/-- A value is printed as JSON over several lines: the text is one of the value by the grammar, it
is read as the value again, and there is a break behind it. -/
structure IsPrintedJson (v : Json) (out : String) : Prop where
  isTextOf : v.IsTextOf v.pretty.toList
  ofText? : Json.ofText? v.pretty = some v
  out_eq : out = v.pretty ++ "\n"

/-- What is printed of a plan as a whole, for each choice of the two flags. As text, there is a line
for each service in the order of the plan, or one for each layer with its number and its services.
As JSON, there is an object with the order and the weights, or one with the layers. -/
def IsRendering (p : Plan) (out : String) : (json layers : Bool) → Prop
  | false, false => out = String.join (p.order.map fun name => name ++ "\n")
  | false, true => out = String.join
      (p.layers.mapIdx fun i layer => toString i ++ ": " ++ ", ".intercalate layer ++ "\n")
  | true, false => IsPrintedJson (.ofFields [("order", .texts p.order),
      ("weights", .ofFields (p.weights.toList.map fun e => (e.1, .ofNat e.2)))]) out
  | true, true => IsPrintedJson (.ofFields [("layers", .array (p.layers.map Json.texts))]) out

theorem isPrintedJson_planJson (p : Plan) (layers : Bool) :
    IsPrintedJson (planJson p layers) (linesText [(planJson p layers).pretty]) :=
  have htext := Json.isTextOf_pretty (isSpelled_planJson p layers)
  ⟨htext, Json.ofText?_of_isTextOf htext, by simp [linesText, String.join]⟩

/-- The lines of a plan are the whole of it, under each flag. -/
theorem isRendering_planLines (p : Plan) : ∀ json layers : Bool,
    IsRendering p (linesText (planLines p json layers)) json layers
  | false, false => rfl
  | false, true => by
    show linesText (p.layers.zipIdx.map _) = _
    rw [linesText, List.map_map, List.mapIdx_eq_zipIdx_map]
    rfl
  | true, false => isPrintedJson_planJson p false
  | true, true => isPrintedJson_planJson p true

section Printing

variable {read : Traced (Except Failure Environment)} (json layers : Bool)

/-- What is said of a recipe depends on what is read, and not on the requests made for it. -/
theorem reportOrder_of_result_eq {read' : Traced (Except Failure Environment)}
    (h : read.result = read'.result) :
    (reportOrder read json layers).code = (reportOrder read' json layers).code ∧
      (reportOrder read json layers).out = (reportOrder read' json layers).out ∧
      (reportOrder read json layers).err = (reportOrder read' json layers).err := by
  unfold reportOrder
  rw [h]
  cases read'.result >>= Environment.plan with
  | ok plan => exact ⟨rfl, rfl, rfl⟩
  | error f => exact ⟨rfl, rfl, rfl⟩

/-- A plan is printed as a whole. -/
theorem reportOrder_of_ok {plan : Plan} (h : read.result >>= Environment.plan = .ok plan) :
    (reportOrder read json layers).code = 0 ∧
      IsRendering plan (reportOrder read json layers).out json layers ∧
      (reportOrder read json layers).err = "" := by
  have hout : ((planLines plan json layers).map Message.status).filterMap Message.out? =
      planLines plan json layers := by
    rw [List.filterMap_map]
    exact List.filterMap_some
  have herr : ((planLines plan json layers).map Message.status).filterMap Message.err? = [] := by
    rw [List.filterMap_map]
    exact List.filterMap_eq_nil_iff.mpr fun _ _ => rfl
  unfold reportOrder
  rw [h]
  refine ⟨rfl, ?_, ?_⟩
  · show IsRendering plan (linesText _) json layers
    rw [hout]
    exact isRendering_planLines plan json layers
  · show linesText (_ ++ []) = ""
    rw [herr]
    rfl

/-- A failure is told, and nothing is printed. -/
theorem reportOrder_of_error {f : Failure} (h : read.result >>= Environment.plan = .error f) :
    (reportOrder read json layers).code = 1 ∧ (reportOrder read json layers).out = "" ∧
      (reportOrder read json layers).err = told f := by
  unfold reportOrder
  rw [h]
  refine ⟨rfl, rfl, ?_⟩
  show linesText ["Error: " ++ f.withSuggestion] = told f
  unfold Failure.withSuggestion told
  cases f.suggestion with
  | none => simp [linesText, String.join]
  | some hint =>
    simp only [linesText, String.join, List.map_cons, List.map_nil, List.foldl_cons,
      List.foldl_nil, String.empty_append, String.append_assoc, Option.elim_some]
    rfl

end Printing

/-- A text has a plan if its media type is that of a recipe, it is read, and it is planned. -/
theorem plan_ofRecipe_eq_ok_iff {text mediaType : String} {plan : Plan} :
    (Environment.ofRecipe text mediaType >>= Environment.plan) = .ok plan ↔
      ∃ type e, ContentType.ofMediaType mediaType = .ok type ∧ Environment.ofYaml text = .ok e ∧
        e.plan = .ok plan := by
  unfold Environment.ofRecipe
  cases ContentType.ofMediaType mediaType with
  | error f => exact ⟨nofun, nofun⟩
  | ok type =>
    cases Environment.ofYaml text with
    | error f => exact ⟨nofun, nofun⟩
    | ok e =>
      constructor
      · exact fun hplan => ⟨type, e, rfl, rfl, hplan⟩
      · rintro ⟨_, _, -, heq, hplan⟩
        cases heq
        exact hplan

theorem ofArguments_eq_of_order {vars : String → Option String} {files : Files} {web : Web}
    {words : List String} {i : Invocation} {json layers : Bool} {settings : Settings}
    (hwords : Invocation.ofArguments vars words = .ok i) (haction : i.action = .order json layers)
    (hsettings : settingsOf files i = .ok settings) :
    let r := reportOrder (readRecipe files web settings i) json layers
    Ending.ofArguments vars files web words = ⟨r.code, r.out, r.err, r.requests⟩ := by
  rw [Ending.ofArguments_eq hwords hsettings, haction]

/-- **An order is printed of a file as of an address that serves the same text.** The exit code and
what is said on both channels are the same. The exit code is zero exactly if the media type is that
of a recipe, and the text is read and planned; then the plan is printed as a whole. Otherwise the
exit code is one, nothing is printed, and the failure is told, with a hint if there is one. -/
theorem order_of_file_or_address {vars : String → Option String} {files : Files} {web : Web}
    {words words' : List String} {i : Invocation} {json layers : Bool} {settings : Settings}
    {path location text : String}
    (hpath : Invocation.ofArguments vars words =
      .ok { i with action := .order json layers, recipe := path })
    (hlocation : Invocation.ofArguments vars words' =
      .ok { i with action := .order json layers, recipe := location })
    (hsettings : settingsOf files i = .ok settings)
    (hlocal : isRemote path = false) (hfile : files path = .ok text)
    (hremote : isRemote location = true)
    (hserves : (loaderOf settings).Serves web i.token location text)
    (hsize : text.utf8ByteSize ≤ settings.maxRecipeSize.toNat) :
    let onFile := Ending.ofArguments vars files web words
    let onWeb := Ending.ofArguments vars files web words'
    (onFile.code = onWeb.code ∧ onFile.out = onWeb.out ∧ onFile.err = onWeb.err) ∧
      (onFile.code = 0 ↔ ∃ type e plan, ContentType.ofMediaType i.contentType = .ok type ∧
        Environment.ofYaml text = .ok e ∧ e.plan = .ok plan) ∧
      (∀ plan, (Environment.ofRecipe text i.contentType >>= Environment.plan) = .ok plan →
        onFile.code = 0 ∧ IsRendering plan onFile.out json layers ∧ onFile.err = "") ∧
      ∀ f, (Environment.ofRecipe text i.contentType >>= Environment.plan) = .error f →
        onFile.code = 1 ∧ onFile.out = "" ∧ onFile.err = told f := by
  intro onFile onWeb
  have honFile : onFile = _ := ofArguments_eq_of_order hpath rfl hsettings
  have honWeb : onWeb = _ := ofArguments_eq_of_order hlocation rfl hsettings
  have hreadFile : (readRecipe files web settings
      { i with action := .order json layers, recipe := path }).result =
        Environment.ofRecipe text i.contentType :=
    readRecipe_of_file hsettings hlocal hfile
  have hreadWeb : (readRecipe files web settings
      { i with action := .order json layers, recipe := location }).result =
        Environment.ofRecipe text i.contentType :=
    readRecipe_of_serves hsettings hremote hserves hsize
  rw [honFile, honWeb]
  refine ⟨reportOrder_of_result_eq json layers (hreadFile.trans hreadWeb.symm), ?_⟩
  -- what is said of the file is settled by whether its text has a plan
  dsimp only at hreadFile ⊢
  cases hplanned : Environment.ofRecipe text i.contentType >>= Environment.plan with
  | ok plan =>
    have hreport := reportOrder_of_ok json layers (hreadFile ▸ hplanned)
    obtain ⟨type, e, hread⟩ := plan_ofRecipe_eq_ok_iff.mp hplanned
    refine ⟨⟨fun _ => ⟨type, e, plan, hread⟩, fun _ => hreport.1⟩, ?_, nofun⟩
    intro other hother
    cases hother
    exact hreport
  | error f =>
    have hreport := reportOrder_of_error json layers (hreadFile ▸ hplanned)
    refine ⟨⟨fun hzero => ?_, fun hread => ?_⟩, nofun, ?_⟩
    · rw [hreport.1] at hzero
      cases hzero
    · obtain ⟨type, e, plan, hread⟩ := hread
      have hok := plan_ofRecipe_eq_ok_iff.mpr ⟨type, e, hread⟩
      rw [hplanned] at hok
      cases hok
    · intro other hother
      cases hother
      exact hreport

/-- A recipe of four services, of which one needs two others and is needed by the fourth. -/
def layeredRecipe : String :=
  "services:\n  web:\n    links:\n      - api:backend\n  api:\n    depends_on: [db, cache]\n" ++
    "  db: \x7b\x7d\n  cache: \x7b\x7d\n"

/-- The recipe as an answer, at once and announced. -/
def layeredAnswer : Answer where
  announced := some layeredRecipe.toUTF8.data.toList.length
  chunks := [layeredRecipe.toUTF8.data.toList]

theorem serves_layeredAnswer : (loaderOf {}).Serves (Loader.webOf layeredAnswer) none
    "http://h/r" layeredRecipe := by
  have hbody : layeredAnswer.body = layeredRecipe.toUTF8.data.toList := List.append_nil _
  refine ⟨{ scheme := "http", host := some (.domain "h"), path := .names ["r"] }, layeredAnswer,
    rfl, by decide +kernel, rfl, rfl, ?_, rfl, ?_⟩
  · intro n hn
    rw [hbody]
    exact (Option.some.inj hn).symm
  · rw [hbody]

/-- The content of the recipe. -/
def layered : Environment :=
  (((({} : Environment).withService "web" { links := ["api:backend"] }).withService "api"
    { dependsOn := ["db", "cache"] }).withService "db" {}).withService "cache" {}

theorem plan_layeredRecipe : Environment.ofRecipe layeredRecipe "application/x-yaml" >>=
    Environment.plan = .ok ⟨[("cache", 0), ("db", 0), ("api", 1), ("web", 2)]⟩ := by
  have hread : Environment.ofRecipe layeredRecipe "application/x-yaml" = .ok layered :=
    Except.toOption_eq_some_iff.mp (by decide +kernel)
  have hplan : layered.plan = .ok ⟨[("cache", 0), ("db", 0), ("api", 1), ("web", 2)]⟩ :=
    Environment.plan_eq_ok_iff_fits.mpr (by decide +kernel)
  rw [hread]
  exact hplan

/-- How a command line ends, where all files hold the recipe and all addresses answer with it. -/
def endingOfLayered (words : List String) : Ending :=
  Ending.ofArguments (fun _ => none) (fun _ => .ok layeredRecipe) (Loader.webOf layeredAnswer) words

/-- The ending has an exit code and says something on each channel. -/
def Says (ending : Ending) (code : Nat) (out err : String) : Prop :=
  ending.code = code ∧ ending.out = out ∧ ending.err = err

/-- Some options lead to the same ending for a file and for an address. -/
def BothSay (options : List String) (code : Nat) (out err : String) : Prop :=
  Says (endingOfLayered ("order" :: options ++ ["compose.yml"])) code out err ∧
    Says (endingOfLayered ("order" :: options ++ ["http://h/r"])) code out err

/-- What is said of the file is said of the address, if the two endings say the same. -/
theorem bothSay_of_file {options : List String} {code : Nat} {out err : String}
    (hsame : (endingOfLayered ("order" :: options ++ ["compose.yml"])).code =
        (endingOfLayered ("order" :: options ++ ["http://h/r"])).code ∧
      (endingOfLayered ("order" :: options ++ ["compose.yml"])).out =
        (endingOfLayered ("order" :: options ++ ["http://h/r"])).out ∧
      (endingOfLayered ("order" :: options ++ ["compose.yml"])).err =
        (endingOfLayered ("order" :: options ++ ["http://h/r"])).err)
    (h : Says (endingOfLayered ("order" :: options ++ ["compose.yml"])) code out err) :
    BothSay options code out err :=
  ⟨h, hsame.1.symm.trans h.1, hsame.2.1.symm.trans h.2.1, hsame.2.2.symm.trans h.2.2⟩

/-- What is said of a recipe in several layers under each choice of the flags, and what is said of
it under a media type that is none of a recipe. -/
theorem order_of_layeredRecipe :
    BothSay [] 0 "cache\ndb\napi\nweb\n" "" ∧
    BothSay ["--layers"] 0 "0: cache, db\n1: api\n2: web\n" "" ∧
    BothSay ["--json"] 0
      ("\x7b\n  \"order\": [\n    \"cache\",\n    \"db\",\n    \"api\",\n    \"web\"\n  ],\n" ++
      "  \"weights\": \x7b\n    \"api\": 1,\n    \"cache\": 0,\n    \"db\": 0,\n    \"web\": 2\n" ++
      "  \x7d\n\x7d\n") "" ∧
    BothSay ["--json", "--layers"] 0
      ("\x7b\n  \"layers\": [\n    [\n      \"cache\",\n      \"db\"\n    ],\n" ++
      "    [\n      \"api\"\n    ],\n    [\n      \"web\"\n    ]\n  ]\n\x7d\n") "" ∧
    BothSay ["--content-type", "text/plain"] 1 ""
      ("Error: Provided environment recipe content type 'text/plain' is unsupported. " ++
      "Supported values are: application/x-yaml, text/yaml, text/x-yaml\n\n" ++
      "Hint: Pass one of the supported content types with --content-type: " ++
      "application/x-yaml, text/yaml, text/x-yaml\n") := by
  have hrefused : Environment.ofRecipe layeredRecipe "text/plain" >>= Environment.plan =
      .error (.contentType "text/plain" ContentType.supported) := rfl
  -- all five command lines differ in their words alone, and are read before anything else
  have hboth (json layers : Bool) (options : List String) (contentType : String)
      (hpath : Invocation.ofArguments (fun _ => none) ("order" :: options ++ ["compose.yml"]) =
        .ok { action := .order json layers, recipe := "compose.yml", contentType })
      (hlocation : Invocation.ofArguments (fun _ => none) ("order" :: options ++ ["http://h/r"]) =
        .ok { action := .order json layers, recipe := "http://h/r", contentType }) :=
    @order_of_file_or_address (fun _ => none) (fun _ => .ok layeredRecipe)
      (Loader.webOf layeredAnswer) _ _
      { action := .order json layers, recipe := "", contentType } json layers {} "compose.yml"
      "http://h/r" layeredRecipe hpath hlocation (settingsOf_of_none rfl rfl rfl)
      (by decide +kernel) rfl (by decide +kernel) serves_layeredAnswer (by decide +kernel)
  have hplanned (json layers : Bool) (options : List String) (out : String)
      (hpath : Invocation.ofArguments (fun _ => none) ("order" :: options ++ ["compose.yml"]) =
        .ok { action := .order json layers, recipe := "compose.yml" })
      (hlocation : Invocation.ofArguments (fun _ => none) ("order" :: options ++ ["http://h/r"]) =
        .ok { action := .order json layers, recipe := "http://h/r" })
      (hout : ∀ printed, IsRendering ⟨[("cache", 0), ("db", 0), ("api", 1), ("web", 2)]⟩ printed
        json layers → printed = out) :
      BothSay options 0 out "" := by
    -- the rendering of a given plan is a single text
    obtain ⟨hsame, -, hplanned, -⟩ := hboth json layers options _ hpath hlocation
    obtain ⟨hcode, hrendering, herr⟩ := hplanned _ plan_layeredRecipe
    exact bothSay_of_file hsame ⟨hcode, hout _ hrendering, herr⟩
  refine ⟨?_, ?_, ?_, ?_, ?_⟩
  · exact hplanned false false [] _ (by decide +kernel) (by decide +kernel)
      fun printed h => h.trans (by decide +kernel)
  · exact hplanned false true ["--layers"] _ (by decide +kernel) (by decide +kernel)
      fun printed h => h.trans (by decide +kernel)
  · exact hplanned true false ["--json"] _ (by decide +kernel) (by decide +kernel)
      fun printed h => h.out_eq.trans (by decide +kernel)
  · exact hplanned true true ["--json", "--layers"] _ (by decide +kernel) (by decide +kernel)
      fun printed h => h.out_eq.trans (by decide +kernel)
  · obtain ⟨hsame, -, -, htold⟩ := hboth false false ["--content-type", "text/plain"] "text/plain"
      (by decide +kernel) (by decide +kernel)
    obtain ⟨hcode, hout, herr⟩ := htold _ hrefused
    exact bothSay_of_file hsame ⟨hcode, hout, herr.trans (by decide +kernel)⟩

end Command

end StartOrder
