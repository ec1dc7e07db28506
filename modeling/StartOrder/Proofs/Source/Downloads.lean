import Mathlib.Data.List.Nodup
import Mathlib.Data.List.Perm.Subperm
import StartOrder.Source.Loader
import StartOrder.Proofs.NameMap

/-!
# Downloads keep their limit and leave nothing behind

A body arrives in chunks, with its length announced or not, and is written to a file until it is
complete or too large. None of that can be seen in the outcome: what comes of a download is told by
the *bytes* of the last answer (`Answer.body`, `Answer.outcome`), whichever way they are cut.
`Answer.SameBody` is the equivalence that this induces, and `fetch_last_answer` the account of a
whole fetch.

Three things carry the proof.

1. The loop over the chunks is proved about by induction on them, from any number of bytes written
   before. That number keeps the limit, and a chunk that would break it ends the loop, whence the
   bodies that are taken (`takeChunks_of_le`), those that are refused (`takeChunks_of_lt`), and the
   bound on what has been written in either case (`takeChunks_prefix`).
2. The name of the new file is free, although names are only tried as often as there are files: one
   more name is tried than can be taken (`Directory.freshName_notMem`).
3. So writing, reading and removing the file leaves the directory as it was and gives back what was
   written (`Directory.keep_eq`), and the directory drops out of the statements about a fetch.
-/

namespace StartOrder

/-! ## Bodies -/

section Chunks

variable {limit before : Nat} {complete : Bool} {chunks : List (List UInt8)}

/-- Chunks that keep the limit together are all written. -/
theorem takeChunks_of_le (h : before + chunks.flatten.length ≤ limit) :
    takeChunks limit before complete chunks =
      ⟨chunks.flatten, if complete then none else some .cutShort⟩ := by
  induction chunks generalizing before with
  | nil => rfl
  | cons chunk rest ih =>
    rw [List.flatten_cons, List.length_append, ← Nat.add_assoc] at h
    have hchunk : ¬limit < before + chunk.length :=
      Nat.not_lt.mpr (Nat.le_trans (Nat.le_add_right _ _) h)
    rw [takeChunks, if_neg hchunk, List.flatten_cons, ih h]

/-- Chunks that exceed the limit together are refused, whichever of them is the one that passes it.
-/
theorem takeChunks_of_lt (hbefore : before ≤ limit)
    (h : limit < before + chunks.flatten.length) :
    (takeChunks limit before complete chunks).problem = some (.tooLarge limit) := by
  induction chunks generalizing before with
  | nil => exact absurd h (Nat.not_lt.mpr hbefore)
  | cons chunk rest ih =>
    rw [List.flatten_cons, List.length_append, ← Nat.add_assoc] at h
    rw [takeChunks]
    by_cases hchunk : limit < before + chunk.length
    · rw [if_pos hchunk]
    · rw [if_neg hchunk]
      exact ih (Nat.not_lt.mp hchunk) h

/-- What is written of the chunks is a beginning of them that keeps the limit. -/
theorem takeChunks_prefix (hbefore : before ≤ limit) :
    (takeChunks limit before complete chunks).written <+: chunks.flatten ∧
      before + (takeChunks limit before complete chunks).written.length ≤ limit := by
  induction chunks generalizing before with
  | nil => exact ⟨List.nil_prefix, hbefore⟩
  | cons chunk rest ih =>
    rw [takeChunks, List.flatten_cons]
    by_cases hchunk : limit < before + chunk.length
    · rw [if_pos hchunk]
      exact ⟨List.nil_prefix, hbefore⟩
    · rw [if_neg hchunk]
      obtain ⟨hfront, hsize⟩ := ih (Nat.not_lt.mp hchunk)
      refine ⟨(List.prefix_append_right_inj chunk).mpr hfront, ?_⟩
      rw [List.length_append, ← Nat.add_assoc]
      exact hsize

end Chunks

/-- What was received as a whole is a text if it is one in UTF-8. -/
theorem Received.text_of_whole (bytes : List UInt8) :
    Received.text ⟨bytes, none⟩ = (Url.decodeUtf8? bytes).elim (.error .notText) .ok := by
  unfold Received.text
  cases Url.decodeUtf8? bytes with
  | some text => rfl
  | none => rfl

namespace Answer

variable {a b : Answer} {limit : Nat}

/-- The bytes of a body that arrive. -/
def body (a : Answer) : List UInt8 := a.chunks.flatten

/-- What an answer comes to, by its bytes and not by its chunks. -/
def outcome (a : Answer) (limit : Nat) : Except FetchProblem String :=
  if a.status < 200 || 300 ≤ a.status then .error (.status a.status)
  else if a.announced.any (limit < ·) || limit < a.body.length then .error (.tooLarge limit)
  else if a.complete then (Url.decodeUtf8? a.body).elim (.error .notText) .ok
  else .error .cutShort

theorem receive_text (a : Answer) (limit : Nat) : (a.receive limit).text = a.outcome limit := by
  unfold receive outcome
  by_cases hstatus : (a.status < 200 || 300 ≤ a.status) = true
  · rw [if_pos hstatus, if_pos hstatus]
    rfl
  · rw [if_neg hstatus, if_neg hstatus]
    by_cases hannounced : a.announced.any (limit < ·) = true
    · rw [if_pos hannounced, if_pos (by rw [hannounced, Bool.true_or])]
      rfl
    · rw [if_neg hannounced, Bool.eq_false_iff.mpr hannounced, Bool.false_or]
      by_cases hsize : limit < a.body.length
      · rw [if_pos (decide_eq_true hsize), Received.text, takeChunks_of_lt (Nat.zero_le limit)
          (by rw [Nat.zero_add]; exact hsize)]
      · rw [if_neg (by simpa using hsize), takeChunks_of_le
          (by rw [Nat.zero_add]; exact Nat.not_lt.mp hsize)]
        cases a.complete with
        | true => exact Received.text_of_whole a.body
        | false => rfl

/-- At most as many bytes as the limit are written of an answer, and those as they arrive. -/
theorem receive_written (a : Answer) (limit : Nat) :
    (a.receive limit).written <+: a.body ∧ (a.receive limit).written.length ≤ limit := by
  unfold receive
  split
  · exact ⟨List.nil_prefix, Nat.zero_le limit⟩
  · split
    · exact ⟨List.nil_prefix, Nat.zero_le limit⟩
    · have hfront : (takeChunks limit 0 a.complete a.chunks).written <+: a.body ∧ _ :=
        takeChunks_prefix (Nat.zero_le limit)
      rw [Nat.zero_add] at hfront
      exact hfront

/-! ### What an answer comes to -/

/-- The body of an answer is taken: it is that of a success, it arrives up to its end, and it keeps
a limit, as does the length that is announced for it. -/
structure IsTaken (a : Answer) (limit : Nat) : Prop where
  success : 200 ≤ a.status ∧ a.status < 300
  announced : ∀ n ∈ a.announced, n ≤ limit
  size : a.body.length ≤ limit
  complete : a.complete = true

theorem outcome_of_isTaken (h : a.IsTaken limit) :
    a.outcome limit = (Url.decodeUtf8? a.body).elim (.error .notText) .ok := by
  have hstatus : ¬(a.status < 200 || 300 ≤ a.status) = true := by simp [h.success]
  have hannounced : a.announced.any (limit < ·) = false := by
    cases hlength : a.announced with
    | none => rfl
    | some n => exact decide_eq_false (Nat.not_lt.mpr (h.announced n hlength))
  rw [outcome, if_neg hstatus, hannounced, if_neg (by simpa using h.size), if_pos h.complete]

theorem isTaken_of_outcome {text : String} (h : a.outcome limit = .ok text) : a.IsTaken limit := by
  unfold outcome at h
  split at h
  · cases h
  · next hstatus =>
    split at h
    · cases h
    · next hsizes =>
      split at h
      · next hcomplete =>
        simp only [Bool.or_eq_true, decide_eq_true_eq, not_or, Nat.not_lt, Nat.not_le]
          at hstatus hsizes
        refine ⟨hstatus, fun n hn => ?_, hsizes.2, hcomplete⟩
        have hany := hsizes.1
        rw [Option.mem_def.mp hn] at hany
        simpa using hany
      · cases h

/-- Answers that deliver the same bytes, cut into chunks in any way. If they arrive up to the end,
their number may be announced or not. -/
structure SameBody (a b : Answer) : Prop where
  status : a.status = b.status
  body : a.body = b.body
  complete : a.complete = b.complete
  announced : a.announced = b.announced ∨
    a.complete = true ∧ (∀ n ∈ a.announced, n = a.body.length) ∧
      ∀ n ∈ b.announced, n = b.body.length

/-- A length that is announced truly is refused if and only if the bytes are. -/
theorem any_announced_or (limit : Nat) (h : ∀ n ∈ a.announced, n = a.body.length) :
    (a.announced.any (limit < ·) || limit < a.body.length) = decide (limit < a.body.length) := by
  cases hannounced : a.announced with
  | none => rfl
  | some n =>
    rw [h n hannounced]
    exact Bool.or_self _

theorem SameBody.outcome_eq (h : SameBody a b) (limit : Nat) :
    a.outcome limit = b.outcome limit := by
  have hsizes : (a.announced.any (limit < ·) || limit < a.body.length) =
      (b.announced.any (limit < ·) || limit < b.body.length) := by
    rcases h.announced with heq | ⟨-, ha, hb⟩
    · rw [heq, h.body]
    · rw [any_announced_or limit ha, any_announced_or limit hb, h.body]
  unfold outcome
  rw [hsizes, h.status, h.body, h.complete]

end Answer

/-! ## Texts -/

/-- Bytes are decoded if they are a text in UTF-8, and then they are those of the text. -/
theorem decodeUtf8?_eq_some_iff {bytes : List UInt8} {text : String} :
    Url.decodeUtf8? bytes = some text ↔ text.toUTF8 = ⟨bytes.toArray⟩ := by
  unfold Url.decodeUtf8? String.fromUTF8?
  constructor
  · intro h
    split at h
    · cases h
      rfl
    · cases h
  · intro h
    have hvalid : ByteArray.IsValidUTF8 ⟨bytes.toArray⟩ := h ▸ text.isValidUTF8
    rw [dif_pos hvalid]
    exact congrArg some (String.toByteArray_inj.mp h.symm)

theorem isSome_decodeUtf8?_iff {bytes : List UInt8} :
    (∃ text, Url.decodeUtf8? bytes = some text) ↔ ByteArray.IsValidUTF8 ⟨bytes.toArray⟩ := by
  unfold Url.decodeUtf8? String.fromUTF8?
  by_cases hvalid : ByteArray.IsValidUTF8 ⟨bytes.toArray⟩
  · simp [hvalid]
  · simp [hvalid]

/-- The bytes of a text are decoded as the text. -/
theorem decodeUtf8?_utf8Encode (text : String) :
    Url.decodeUtf8? (text.toList.flatMap String.utf8EncodeChar) = some text := by
  refine decodeUtf8?_eq_some_iff.mpr ?_
  rw [String.toUTF8_eq_toByteArray, ← String.utf8Encode_toList]
  exact congrArg ByteArray.mk List.data_toByteArray

/-! ## The directory of downloads -/

namespace Directory

/-- The name of a download's file. -/
def nameOf (n : Nat) : String := s!"recipe{n}"

theorem nameOf_injective : Function.Injective nameOf := by
  intro m n h
  have hdigits : Nat.toDigits 10 m = Nat.toDigits 10 n := by
    have hlist := congrArg String.toList h
    simpa [nameOf, String.toList_append, toString, Nat.toList_repr] using hlist
  rw [← Nat.ofDigitChars_ten_toDigits (n := m), hdigits, Nat.ofDigitChars_ten_toDigits]

/-- If the name that is found is taken, so are all those that were tried. -/
theorem mem_keys_of_freshName_mem {d : Directory} {tries n : Nat}
    (h : d.freshName tries n ∈ d.files.keys) {i : Nat} (hi : i ≤ tries) :
    nameOf (n + i) ∈ d.files.keys := by
  induction tries generalizing n i with
  | zero =>
    cases Nat.le_zero.mp hi
    exact h
  | succ tries ih =>
    unfold freshName at h
    dsimp only at h
    split at h
    · next hcontains =>
      cases i with
      | zero => exact NameMap.contains_iff.mp hcontains
      | succ i =>
        rw [Nat.add_comm i 1, ← Nat.add_assoc]
        exact ih h (Nat.le_of_succ_le_succ hi)
    · next hcontains => exact absurd (NameMap.contains_iff.mpr h) hcontains

/-- The name of a new file is free: one more name is tried than there are files. -/
theorem freshName_notMem (d : Directory) : d.freshName d.files.size 0 ∉ d.files.keys := by
  intro h
  -- otherwise there would be a file under each of the names, which are one more than the files
  have hsubset : (List.range (d.files.size + 1)).map nameOf ⊆ d.files.keys := by
    intro name hname
    obtain ⟨i, hi, rfl⟩ := List.mem_map.mp hname
    have hmem := mem_keys_of_freshName_mem h (Nat.lt_succ_iff.mp (List.mem_range.mp hi))
    rwa [Nat.zero_add] at hmem
  have hnodup : ((List.range (d.files.size + 1)).map nameOf).Nodup :=
    List.nodup_range.map nameOf_injective
  have hlength := (hnodup.subperm hsubset).length_le
  rw [List.length_map, List.length_range, NameMap.keys, List.length_map] at hlength
  exact Nat.not_succ_le_self _ hlength

/-- A body is read back as it was written, and the directory holds the same files as before. -/
theorem keep_eq (d : Directory) (r : Received) : d.keep r = (d, r.text) := by
  have hfind : ((d.files.insert (d.freshName d.files.size 0) r.written).find?
      (d.freshName d.files.size 0)).getD [] = r.written := by
    rw [NameMap.find?_insert, if_pos rfl, Option.getD_some]
  have herase := NameMap.erase_insert_of_notMem r.written d.freshName_notMem
  unfold keep write remove
  dsimp only
  rw [hfind, herase]

end Directory

/-! ## Fetching -/

namespace Loader

variable {l : Loader} {web : Web} {url : Url} {location : String}

/-- What is received for an address, and why it is not more. -/
def received (l : Loader) (web : Web) (url : Url) : Received :=
  match (follow l.writable web l.trustedHost url).result with
  | .ok a => a.receive l.maxRecipeSize
  | .error problem => { problem := some problem }

theorem received_of_answer {a : Answer}
    (h : (follow l.writable web l.trustedHost url).result = .ok a) :
    l.received web url = a.receive l.maxRecipeSize := by
  rw [received, h]

theorem length_received_written_le (l : Loader) (web : Web) (url : Url) :
    (l.received web url).written.length ≤ l.maxRecipeSize := by
  unfold received
  split
  · next a _ => exact (a.receive_written l.maxRecipeSize).2
  · exact Nat.zero_le _

theorem download_of_authorize {token : Option String} (h : l.authorize location token = .ok url)
    (d : Directory) :
    l.download web token d location =
      ((d.keep (l.received web url)).1,
        ⟨(follow l.writable web l.trustedHost url).requests,
          (d.keep (l.received web url)).2⟩) := by
  unfold download
  rw [h]
  rfl

/-- A download leaves the directory as it was. -/
theorem download_directory (l : Loader) (web : Web) (token : Option String) (d : Directory)
    (location : String) : (l.download web token d location).1 = d := by
  cases h : l.authorize location token with
  | error problem =>
    unfold download
    rw [h]
  | ok url => rw [download_of_authorize h, Directory.keep_eq]

/-- What a download comes to does not depend on the files of the directory. -/
theorem fetch_result (l : Loader) (web : Web) (current : Option Subject) (d : Directory)
    (location : String) : (l.fetch web current location).result =
      (l.download web (currentToken current) d location).2.result.mapError (.fetch location) := by
  unfold fetch
  dsimp only
  cases h : l.authorize location (currentToken current) with
  | error problem =>
    unfold download
    rw [h]
  | ok url =>
    rw [download_of_authorize h, download_of_authorize h, Directory.keep_eq, Directory.keep_eq]

theorem fetch_result_of_answer {current : Option Subject} {a : Answer}
    (hurl : l.authorize location (currentToken current) = .ok url)
    (hanswer : (follow l.writable web l.trustedHost url).result = .ok a) :
    (l.fetch web current location).result =
      (a.outcome l.maxRecipeSize).mapError (.fetch location) := by
  rw [fetch_result l web current {} location, download_of_authorize hurl, Directory.keep_eq,
    received_of_answer hanswer]
  exact congrArg _ (a.receive_text l.maxRecipeSize)

theorem eq_of_mapError_eq_ok {ε ε' α : Type} {f : ε → ε'} {x : Except ε α} {y : α}
    (h : x.mapError f = .ok y) : x = .ok y := by
  cases x with
  | error e => cases h
  | ok y' => exact congrArg Except.ok (Except.ok.inj h)

/-- **Fetching takes a text exactly if it arrives whole within the limit.** Every failure names the
location as it was given, and the directory of downloads holds the same files behind the download as
before. What is written to the file of the download keeps the limit. The last answer is taken if it
is a success, if its bytes, and their number if it is announced, keep the limit, and if they arrive
up to the end and are a text in UTF-8; the text is then that of the bytes. Answers that deliver the
same bytes come to the same, in any chunks and with their number announced or not. -/
theorem fetch_last_answer (l : Loader) (web : Web) (current : Option Subject) (location : String) :
    (∀ f, (l.fetch web current location).result = .error f →
      ∃ problem, f = .fetch location problem) ∧
    (∀ d, (l.download web (currentToken current) d location).1 = d ∧
      (l.fetch web current location).result =
        (l.download web (currentToken current) d location).2.result.mapError (.fetch location)) ∧
    ∀ url, l.authorize location (currentToken current) = .ok url →
      (l.received web url).written.length ≤ l.maxRecipeSize ∧
      (∀ d, l.download web (currentToken current) d location =
        ((d.keep (l.received web url)).1,
          ⟨(follow l.writable web l.trustedHost url).requests,
            (d.keep (l.received web url)).2⟩)) ∧
      ∀ a, (follow l.writable web l.trustedHost url).result = .ok a →
        ((∃ text, (l.fetch web current location).result = .ok text) ↔
          a.IsTaken l.maxRecipeSize ∧ ByteArray.IsValidUTF8 ⟨a.body.toArray⟩) ∧
        (∀ text, (l.fetch web current location).result = .ok text →
          text.toUTF8 = ⟨a.body.toArray⟩) ∧
        ∀ web' b, (follow l.writable web' l.trustedHost url).result = .ok b → a.SameBody b →
          (l.fetch web' current location).result = (l.fetch web current location).result := by
  refine ⟨fun f hf => ?_, fun d => ⟨l.download_directory web _ d location,
    l.fetch_result web current d location⟩, fun url hurl => ⟨l.length_received_written_le web url,
    download_of_authorize hurl, fun a ha => ?_⟩⟩
  · -- a problem is wrapped together with the location in one place
    rw [l.fetch_result web current {} location] at hf
    cases hresult : (l.download web (currentToken current) {} location).2.result with
    | error problem =>
      rw [hresult] at hf
      exact ⟨problem, (Except.error.inj hf).symm⟩
    | ok text =>
      rw [hresult] at hf
      cases hf
  · have hfetch := fetch_result_of_answer hurl ha
    -- a text is that of the bytes, if the answer is taken
    have htext : ∀ {text}, (l.fetch web current location).result = .ok text →
        a.IsTaken l.maxRecipeSize ∧ Url.decodeUtf8? a.body = some text := by
      intro text hok
      have houtcome := eq_of_mapError_eq_ok (hfetch.symm.trans hok)
      have htaken := Answer.isTaken_of_outcome houtcome
      rw [Answer.outcome_of_isTaken htaken] at houtcome
      cases hdecode : Url.decodeUtf8? a.body with
      | none =>
        rw [hdecode] at houtcome
        cases houtcome
      | some decoded =>
        rw [hdecode] at houtcome
        exact ⟨htaken, congrArg some (Except.ok.inj houtcome)⟩
    refine ⟨⟨?_, ?_⟩, fun text hok => decodeUtf8?_eq_some_iff.mp (htext hok).2, ?_⟩
    · rintro ⟨text, hok⟩
      exact ⟨(htext hok).1, isSome_decodeUtf8?_iff.mp ⟨text, (htext hok).2⟩⟩
    · rintro ⟨htaken, hvalid⟩
      obtain ⟨text, hdecode⟩ := isSome_decodeUtf8?_iff.mpr hvalid
      refine ⟨text, ?_⟩
      rw [hfetch, Answer.outcome_of_isTaken htaken, hdecode]
      rfl
    · intro web' b hb hsame
      rw [fetch_result_of_answer hurl hb, hfetch, hsame.outcome_eq]

/-- A loader that takes five bytes. -/
def smallLoader : Loader where
  maxRecipeSize := 5

/-- A web that gives the same answer to every request. -/
def webOf (a : Answer) : Web := fun _ => .answered a

/-- Five bytes that arrive in two chunks, without their number. -/
def inChunks : Answer where
  chunks := [[104, 101], [108, 108, 111]]

/-- The same bytes that arrive at once and are announced. -/
def atOnce : Answer where
  announced := some 5
  chunks := [[104, 101, 108, 108, 111]]

/-- Five bytes are fetched under a limit of five, in two chunks or at once. -/
theorem fetch_inChunks_atOnce :
    (∃ text, (smallLoader.fetch (webOf inChunks) none "http://h/r").result = .ok text ∧
      text.toUTF8 = ⟨#[104, 101, 108, 108, 111]⟩) ∧
    (smallLoader.fetch (webOf atOnce) none "http://h/r").result =
      (smallLoader.fetch (webOf inChunks) none "http://h/r").result := by
  obtain ⟨-, -, hurl⟩ := fetch_last_answer smallLoader (webOf inChunks) none "http://h/r"
  obtain ⟨-, -, hanswer⟩ := hurl
    { scheme := "http", host := some (.domain "h"), path := .names ["r"] } rfl
  obtain ⟨hiff, htext, hsame⟩ := hanswer inChunks rfl
  have htaken : inChunks.IsTaken smallLoader.maxRecipeSize :=
    { success := by decide, announced := nofun, size := by decide, complete := rfl }
  obtain ⟨text, hok⟩ := hiff.mpr ⟨htaken, by decide⟩
  have hbody : inChunks.SameBody atOnce :=
    { status := rfl, body := rfl, complete := rfl
      announced := .inr ⟨rfl, nofun, fun _ hn => (Option.some.inj hn).symm⟩ }
  exact ⟨⟨text, hok, htext text hok⟩, hsame (webOf atOnce) atOnce rfl hbody⟩

end Loader

end StartOrder
