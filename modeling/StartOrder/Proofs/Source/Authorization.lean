import StartOrder.Proofs.Source.Downloads
import StartOrder.Proofs.Source.Noninterference
import StartOrder.Proofs.Url.Queries

/-!
# Which addresses carry a token

A location is asked for under its own address, if that is one of the web. The token of the caller is
added to the query of an address on the host of the interface, and to no other address.

Two details decide whether a token can leak. The host is compared as a whole (`isTrusted_iff`), so
that `api.example.com.evil.io` does not pass for `api.example.com`. And the token is *appended* as
one more pair, percent-encoded by itself, so that a token with an ampersand in it cannot be taken
for two pairs: `Url.Carries` therefore speaks of the decoded pairs of the query, of which the old
ones stay where they were.

`Loader.authorize_of_ofSettings` puts this together for the loader of any usable settings, as the
equation of two hosts. That such settings have a host, if they have an interface, is what
`Settings.validate` is for (`Settings.exists_host_of_validate`): an interface and an address that
both have none would satisfy the equation, too, although there is no trust.
-/

namespace StartOrder

/-- An address is another one with a token in its query, behind the pairs that were there. -/
def Url.Carries (u url : Url) (token : String) : Prop :=
  u.bare = url.bare ∧ ∃ name value, u.queryPairs = url.queryPairs ++ [(name, value)] ∧
    Url.decodeUtf8? name = some "token" ∧ Url.decodeUtf8? value = some token

/-- An address to which a token is appended carries it, whatever characters the token is of. -/
theorem Url.carries_appendPair (url : Url) (token : String) :
    (url.appendPair "token" token).Carries url token :=
  ⟨url.bare_appendPair "token" token, _, _, url.queryPairs_appendPair "token" token,
    decodeUtf8?_utf8Encode "token", decodeUtf8?_utf8Encode token⟩

theorem isWeb_iff {url : Url} : url.isWeb = true ↔ url.scheme = "http" ∨ url.scheme = "https" := by
  simp [Url.isWeb]

/-- A host is trusted if it is the one that is, and no other. In particular there is no trust where
there is no trusted host, or an address without one. -/
theorem isTrusted_iff {trusted : Option Url.Host} {url : Url} :
    isTrusted trusted url = true ↔ ∃ host, trusted = some host ∧ url.host? = some host := by
  unfold isTrusted
  cases trusted with
  | none => simp
  | some host =>
    cases url.host? with
    | none => simp
    | some other => simp [@eq_comm _ host other]

/-- The interface of usable settings has a host. -/
theorem Settings.exists_host_of_validate {s : Settings} (h : s.validate = .ok ()) {endpoint : Url}
    (hendpoint : s.apiEndpoint = some endpoint) : ∃ host, endpoint.host? = some host := by
  cases hproblem : endpointProblem? endpoint with
  | some problem =>
    rw [validate, hendpoint, Option.bind_some, hproblem] at h
    cases h
  | none =>
    cases hhost : endpoint.host? with
    | some host => exact ⟨host, rfl⟩
    | none =>
      rw [endpointProblem?, hhost] at hproblem
      split at hproblem
      · cases hproblem
      · cases hproblem

namespace Loader

variable {l : Loader} {s : Settings} {writable : Url → Bool} {location : String}

/-- The host of the interface is trusted, and no other is. -/
theorem isTrusted_iff_of_ofSettings (hl : ofSettings s writable = .ok l) {url : Url} :
    isTrusted l.trustedHost url = true ↔
      ∃ endpoint, s.apiEndpoint = some endpoint ∧ endpoint.host? = url.host? := by
  have hvalid : s.validate = .ok () := by
    unfold ofSettings at hl
    cases hvalid : s.validate with
    | error f =>
      rw [hvalid] at hl
      cases hl
    | ok _ => rfl
  rw [isTrusted_iff, (eq_of_ofSettings hl).1, Settings.trustedHost]
  constructor
  · rintro ⟨host, hbind, hhost⟩
    obtain ⟨endpoint, hendpoint, heq⟩ := Option.bind_eq_some_iff.mp hbind
    exact ⟨endpoint, hendpoint, heq.trans hhost.symm⟩
  · rintro ⟨endpoint, hendpoint, heq⟩
    -- the two have the same host only because there is one
    obtain ⟨host, hhost⟩ := Settings.exists_host_of_validate hvalid hendpoint
    exact ⟨host, Option.bind_eq_some_iff.mpr ⟨endpoint, hendpoint, hhost⟩, heq.symm.trans hhost⟩

/-- **A location is asked for under its own address, which carries the token on the host of the
interface only.** -/
theorem authorize_of_ofSettings (hl : ofSettings s writable = .ok l) (location : String) :
    (∀ token, (∃ u, l.authorize location token = .ok u) ↔
      ∃ url, Url.ofText location = .ok url ∧ (url.scheme = "http" ∨ url.scheme = "https")) ∧
    ∀ url, Url.ofText location = .ok url → url.scheme = "http" ∨ url.scheme = "https" →
      (∀ endpoint token, s.apiEndpoint = some endpoint → endpoint.host? = url.host? →
        ∃ u, l.authorize location (some token) = .ok u ∧ u.Carries url token) ∧
      ∀ token,
        (token = none ∨ ∀ endpoint, s.apiEndpoint = some endpoint → endpoint.host? ≠ url.host?) →
        l.authorize location token = .ok url := by
  refine ⟨fun token => ?_, fun url hurl hscheme => ⟨?_, ?_⟩⟩
  · constructor
    · rintro ⟨u, hu⟩
      obtain ⟨url, hurl, hweb, -⟩ := authorize_eq_ok_iff.mp hu
      exact ⟨url, hurl, isWeb_iff.mp hweb⟩
    · rintro ⟨url, hurl, hscheme⟩
      exact ⟨_, authorize_eq_ok_iff.mpr ⟨url, hurl, isWeb_iff.mpr hscheme, rfl⟩⟩
  · intro endpoint token hendpoint hhost
    have htrusted := (isTrusted_iff_of_ofSettings hl).mpr ⟨endpoint, hendpoint, hhost⟩
    refine ⟨url.appendPair "token" token, ?_, url.carries_appendPair token⟩
    exact authorize_eq_ok_iff.mpr ⟨url, hurl, isWeb_iff.mpr hscheme, (if_pos htrusted).symm⟩
  · intro token hother
    refine authorize_eq_ok_iff.mpr ⟨url, hurl, isWeb_iff.mpr hscheme, ?_⟩
    cases token with
    | none => rfl
    | some token =>
      have huntrusted : ¬isTrusted l.trustedHost url = true := by
        intro htrusted
        obtain ⟨endpoint, hendpoint, hhost⟩ := (isTrusted_iff_of_ofSettings hl).mp htrusted
        rcases hother with hnone | hother
        · cases hnone
        · exact hother endpoint hendpoint hhost
      exact (if_neg huntrusted).symm

/-- Settings with an interface on some port. -/
def interfaceSettings : Settings where
  apiEndpoint := some {
    scheme := "http", host := some (.domain "api.example.com"), port := some 8080
    path := .names ["v1"] }

/-- On the host of the interface a token of signs goes behind a token that is there; a host that
only begins like it sees none. -/
theorem authorize_interface :
    ∃ l, ofSettings interfaceSettings = .ok l ∧
      (∃ url u, Url.ofText "https://me@API.example.com/r?token=x&y#f" = .ok url ∧
        url.queryPairs = [([0x74, 0x6f, 0x6b, 0x65, 0x6e], [0x78]), ([0x79], [])] ∧
        l.authorize "https://me@API.example.com/r?token=x&y#f" (some "a&b=c+d %é") = .ok u ∧
        u.Carries url "a&b=c+d %é") ∧
      ∃ url, Url.ofText "http://api.example.com.evil.io/r" = .ok url ∧
        ∀ token, l.authorize "http://api.example.com.evil.io/r" token = .ok url := by
  obtain ⟨l, hl⟩ : ∃ l, ofSettings interfaceSettings = .ok l := ⟨_, rfl⟩
  refine ⟨l, hl, ?_, ?_⟩
  · -- neither the scheme nor the port of the interface is compared, and case makes no difference
    obtain ⟨u, hu, hcarries⟩ :=
      ((authorize_of_ofSettings hl "https://me@API.example.com/r?token=x&y#f").2
        { scheme := "https", username := "me", host := some (.domain "api.example.com")
          path := .names ["r"], query := some "token=x&y", fragment := some "f" }
        (by decide +kernel) (.inr rfl)).1 _ "a&b=c+d %é" rfl rfl
    exact ⟨_, u, by decide +kernel, by decide +kernel, hu, hcarries⟩
  · have hother := ((authorize_of_ofSettings hl "http://api.example.com.evil.io/r").2
        { scheme := "http", host := some (.domain "api.example.com.evil.io")
          path := .names ["r"] } (by decide +kernel) (.inl rfl)).2
    refine ⟨_, by decide +kernel, fun token => hother token (.inr ?_)⟩
    rintro endpoint hendpoint
    cases hendpoint
    decide

end Loader

end StartOrder
