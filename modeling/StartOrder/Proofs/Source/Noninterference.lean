import Mathlib.Data.List.Forall2
import StartOrder.Source.Loader
import StartOrder.Proofs.Source.Redirects
import StartOrder.Proofs.Url.Bare

/-!
# Tokens stay on the trusted host

Loading a recipe on behalf of two subjects gives the same result, and the same requests but for the
queries of addresses on the trusted host. So nothing of a token is seen elsewhere. It is a statement
about pairs of runs, and proved as such: `Alike` relates the addresses that the two runs ask for at
the same time, and `Indistinct` the runs.

The relation is carried through the loop over redirects as follows. Two alike addresses get the same
answer, since what comes back does not depend on queries. If they are equal, they lead to the same
place. If they differ, they are on the trusted host. An answer may then lead the two runs to
addresses that differ again, as an empty reference does, but only in their queries
(`Url.join_of_bare_eq`). Either the redirect is refused in both runs, or it stays on the trusted
host, for that is not left any more. In both cases the relation is kept (`redirect?_of_alike`),
whence `followFrom_indistinct` by induction on the number of requests left, and
`Loader.load_read_indistinct` for the loader as a whole.

The result assumes nothing of the tokens, and of the client only that it can write a request for
every address of the web.
-/

namespace StartOrder

/-- Addresses that differ in their queries at most, and only on the trusted host. -/
def Alike (trusted : Option Url.Host) (u v : Url) : Prop :=
  u.bare = v.bare ∧ (isTrusted trusted u = false → u = v)

/-- Runs with the same result and alike requests. -/
def Indistinct {α : Type} (trusted : Option Url.Host) (r s : Traced α) : Prop :=
  r.result = s.result ∧ List.Forall₂ (Alike trusted) r.requests s.requests

/-! ## Addresses that are alike -/

section Addresses

variable {trusted : Option Url.Host} {u v : Url}

theorem Alike.refl (trusted : Option Url.Host) (u : Url) : Alike trusted u u := ⟨rfl, fun _ => rfl⟩

theorem isTrusted_of_bare_eq (h : u.bare = v.bare) : isTrusted trusted u = isTrusted trusted v := by
  unfold isTrusted
  rw [Url.host?_of_bare_eq h]

/-- On the trusted host, addresses are alike if they differ in their queries alone. -/
theorem Alike.of_isTrusted (h : u.bare = v.bare) (htrusted : isTrusted trusted u = true) :
    Alike trusted u v :=
  ⟨h, fun hnot => absurd htrusted (by rw [hnot]; exact Bool.false_ne_true)⟩

theorem Alike.symm (h : Alike trusted u v) : Alike trusted v u :=
  ⟨h.1.symm, fun hnot => (h.2 ((isTrusted_of_bare_eq h.1).trans hnot)).symm⟩

theorem Alike.trans {w : Url} (h : Alike trusted u v) (h' : Alike trusted v w) :
    Alike trusted u w := by
  refine ⟨h.1.trans h'.1, fun hnot => ?_⟩
  have heq : u = v := h.2 hnot
  exact heq.trans (h'.2 (heq ▸ hnot))

end Addresses

/-! ## Redirects -/

section Redirects

variable {trusted : Option Url.Host} {writable : Url → Bool} {u v : Url}

/-- An answer sends requests for addresses that differ in their queries alone to the same place, or
to places of the web that differ in their queries alone. -/
theorem redirect?_of_bare_eq (hwritable : ∀ u, u.isWeb = true → writable u = true) (a : Answer)
    (h : u.bare = v.bare) (hweb : u.isWeb = true) :
    a.redirect? writable u = a.redirect? writable v ∨
      ∃ s t, a.redirect? writable u = some s ∧ a.redirect? writable v = some t ∧
        s.bare = t.bare := by
  unfold Answer.redirect?
  by_cases hstatus : isRedirect a.status = true
  · rw [if_pos hstatus, if_pos hstatus]
    cases a.location with
    | none => exact .inl rfl
    | some text =>
      rw [Option.bind_some, Option.bind_some]
      rcases Url.join_of_bare_eq h text with heq | ⟨s, t, hs, ht, hbare, hscheme⟩
      · rw [heq]
        exact .inl rfl
      · -- the scheme is that of an address of the web, so that both can be asked for
        have hsweb : s.isWeb = true := by rw [Url.isWeb, hscheme]; exact hweb
        have htweb : t.isWeb = true := by rw [← Url.isWeb_of_bare_eq hbare]; exact hsweb
        rw [hs, ht]
        exact .inr ⟨s, t, Option.filter_some_pos (hwritable s hsweb),
          Option.filter_some_pos (hwritable t htweb), hbare⟩
  · rw [if_neg hstatus, if_neg hstatus]
    exact .inl rfl

/-- Whether a redirect is followed does not depend on queries. -/
theorem redirectProblem?_of_bare_eq {visited₁ visited₂ : List Url}
    (hvisited : visited₁.map Url.bare = visited₂.map Url.bare) (h : u.bare = v.bare) :
    redirectProblem? trusted visited₁ u = redirectProblem? trusted visited₂ v := by
  have hlength : visited₁.length = visited₂.length := by
    rw [← List.length_map Url.bare, hvisited, List.length_map]
  have hany : visited₁.any (isTrusted trusted) = visited₂.any (isTrusted trusted) := by
    have hbare : ∀ visited : List Url,
        visited.any (isTrusted trusted) = (visited.map Url.bare).any (isTrusted trusted) := by
      intro visited
      rw [List.any_map]
      rfl
    rw [hbare, hvisited, ← hbare]
  unfold redirectProblem?
  rw [hlength, hany, isTrusted_of_bare_eq h, Url.host?_of_bare_eq h, Url.isWeb_of_bare_eq h]

/-- Behind alike addresses there is no redirect, or a redirect that, if it is followed, leads to
alike addresses. -/
theorem redirect?_of_alike (hwritable : ∀ u, u.isWeb = true → writable u = true) (a : Answer)
    (visited : List Url) (h : Alike trusted u v) (hweb : u.isWeb = true) :
    (a.redirect? writable u = none ∧ a.redirect? writable v = none) ∨
      ∃ s t, a.redirect? writable u = some s ∧ a.redirect? writable v = some t ∧ s.bare = t.bare ∧
        (redirectProblem? trusted (u :: visited) s = none → Alike trusted s t) := by
  by_cases hsame : a.redirect? writable u = a.redirect? writable v
  · cases hv : a.redirect? writable v with
    | none => exact .inl ⟨hsame.trans hv, rfl⟩
    | some t => exact .inr ⟨t, t, hsame.trans hv, rfl, rfl, fun _ => Alike.refl trusted t⟩
  · -- the addresses differ, so that they are on the trusted host, which is not left any more
    have hne : u ≠ v := fun heq => hsame (by rw [heq])
    have htrusted : isTrusted trusted u = true := by
      by_contra hnot
      exact hne (h.2 (Bool.eq_false_iff.mpr hnot))
    rcases redirect?_of_bare_eq hwritable a h.1 hweb with heq | ⟨s, t, hs, ht, hbare⟩
    · exact absurd heq hsame
    · refine .inr ⟨s, t, hs, ht, hbare, fun hnone => ?_⟩
      obtain ⟨-, hstays, -⟩ := redirectProblem?_eq_none_iff.mp hnone
      exact Alike.of_isTrusted hbare (hstays u List.mem_cons_self htrusted)

end Redirects

/-! ## Runs -/

section Runs

variable {trusted : Option Url.Host} {writable : Url → Bool} {web : Web}

/-- One request for alike addresses: if the requests behind it are alike, then so is the run. -/
theorem followFrom_indistinct_of_next (hwritable : ∀ u, u.isWeb = true → writable u = true)
    (hweb : ∀ u v : Url, u.bare = v.bare → web u = web v) {left : Nat}
    {visited₁ visited₂ : List Url} (hvisited : visited₁.map Url.bare = visited₂.map Url.bare)
    {asked₁ asked₂ : Url} (hasked : Alike trusted asked₁ asked₂) (hisWeb : asked₁.isWeb = true)
    (hnext : ∀ fewer, left = fewer + 1 → ∀ target₁ target₂, Alike trusted target₁ target₂ →
      target₁.isWeb = true →
      Indistinct trusted (followFrom writable web trusted fewer (asked₁ :: visited₁) target₁)
        (followFrom writable web trusted fewer (asked₂ :: visited₂) target₂)) :
    Indistinct trusted (followFrom writable web trusted left visited₁ asked₁)
      (followFrom writable web trusted left visited₂ asked₂) := by
  unfold followFrom
  rw [hweb asked₁ asked₂ hasked.1]
  cases web asked₂ with
  | unreachable => exact ⟨rfl, .nil⟩
  | closed => exact ⟨rfl, .cons hasked .nil⟩
  | answered a =>
    dsimp only
    rcases redirect?_of_alike hwritable a visited₁ hasked hisWeb with
      ⟨h₁, h₂⟩ | ⟨s, t, hs, ht, hbare, halike⟩
    · rw [h₁, h₂]
      exact ⟨rfl, .cons hasked .nil⟩
    · -- the policy decides alike, so that both runs go on or neither does
      have hproblem : redirectProblem? trusted (asked₁ :: visited₁) s =
          redirectProblem? trusted (asked₂ :: visited₂) t :=
        redirectProblem?_of_bare_eq
          (by rw [List.map_cons, List.map_cons, hasked.1, hvisited]) hbare
      rw [hs, ht]
      dsimp only
      rw [← hproblem]
      cases hnone : redirectProblem? trusted (asked₁ :: visited₁) s with
      | some problem => exact ⟨rfl, .cons hasked .nil⟩
      | none =>
        cases left with
        | zero => exact ⟨rfl, .cons hasked .nil⟩
        | succ fewer =>
          obtain ⟨hresult, hrequests⟩ := hnext fewer rfl s t (halike hnone)
            (redirectProblem?_eq_none_iff.mp hnone).2.2
          exact ⟨hresult, .cons hasked hrequests⟩

/-- Requests for alike addresses lead to alike requests and to the same answer. The induction is on
the number of requests that may still be made; the addresses visited before matter without their
queries only. -/
theorem followFrom_indistinct (hwritable : ∀ u, u.isWeb = true → writable u = true)
    (hweb : ∀ u v : Url, u.bare = v.bare → web u = web v) (left : Nat)
    {visited₁ visited₂ : List Url} (hvisited : visited₁.map Url.bare = visited₂.map Url.bare)
    {asked₁ asked₂ : Url} (hasked : Alike trusted asked₁ asked₂) (hisWeb : asked₁.isWeb = true) :
    Indistinct trusted (followFrom writable web trusted left visited₁ asked₁)
      (followFrom writable web trusted left visited₂ asked₂) := by
  induction left generalizing visited₁ visited₂ asked₁ asked₂ with
  | zero =>
    refine followFrom_indistinct_of_next hwritable hweb hvisited hasked hisWeb ?_
    intro fewer hfewer
    cases hfewer
  | succ left ih =>
    refine followFrom_indistinct_of_next hwritable hweb hvisited hasked hisWeb ?_
    intro fewer hfewer target₁ target₂ htarget htargetWeb
    cases hfewer
    exact ih (by rw [List.map_cons, List.map_cons, hasked.1, hvisited]) htarget htargetWeb

theorem follow_indistinct (hwritable : ∀ u, u.isWeb = true → writable u = true)
    (hweb : ∀ u v : Url, u.bare = v.bare → web u = web v) {asked₁ asked₂ : Url}
    (hasked : Alike trusted asked₁ asked₂) (hisWeb : asked₁.isWeb = true) :
    Indistinct trusted (follow writable web trusted asked₁)
      (follow writable web trusted asked₂) := by
  have hisWeb₂ : asked₂.isWeb = true := by rw [← Url.isWeb_of_bare_eq hasked.1]; exact hisWeb
  unfold follow
  rw [if_pos (hwritable asked₁ hisWeb), if_pos (hwritable asked₂ hisWeb₂)]
  exact followFrom_indistinct hwritable hweb maxRedirects rfl hasked hisWeb

end Runs

/-! ## Loading -/

namespace Loader

variable {l : Loader} {web : Web}

/-- A location is asked for if it is an address of the web, under that address; the token goes into
its query if it is on the trusted host. -/
theorem authorize_eq_ok_iff {location : String} {token : Option String} {u : Url} :
    l.authorize location token = .ok u ↔ ∃ url, Url.ofText location = .ok url ∧
      url.isWeb = true ∧ u = token.elim url fun token =>
        if isTrusted l.trustedHost url then url.appendPair "token" token else url := by
  unfold authorize
  cases Url.ofText location with
  | error problem => exact ⟨nofun, nofun⟩
  | ok url =>
    dsimp only
    cases hweb : url.isWeb with
    | false =>
      refine ⟨nofun, ?_⟩
      rintro ⟨_, heq, hnot, -⟩
      cases heq
      rw [hweb] at hnot
      cases hnot
    | true =>
      cases token with
      | none => simp [hweb, @eq_comm _ u]
      | some token => simp [hweb, @eq_comm _ u]

/-- A location of the web is asked for under an address that is alike, whatever the token. -/
theorem authorize_of_isWeb {location : String} {url : Url} (hurl : Url.ofText location = .ok url)
    (hweb : url.isWeb = true) (token : Option String) :
    ∃ u, l.authorize location token = .ok u ∧ Alike l.trustedHost url u ∧ u.isWeb = true := by
  refine ⟨_, authorize_eq_ok_iff.mpr ⟨url, hurl, hweb, rfl⟩, ?_⟩
  cases token with
  | none => exact ⟨Alike.refl _ url, hweb⟩
  | some token =>
    by_cases htrusted : isTrusted l.trustedHost url = true
    · rw [Option.elim_some, if_pos htrusted]
      exact ⟨Alike.of_isTrusted (Url.bare_appendPair url "token" token).symm htrusted, hweb⟩
    · rw [Option.elim_some, if_neg htrusted]
      exact ⟨Alike.refl _ url, hweb⟩

/-- A location that is not of the web is refused, whatever the token. -/
theorem authorize_of_not_isWeb {location : String}
    (h : ∀ url, Url.ofText location = .ok url → url.isWeb = false) :
    ∃ problem, ∀ token, l.authorize location token = .error problem := by
  unfold authorize
  cases hurl : Url.ofText location with
  | error problem => exact ⟨.badUrl problem, fun _ => rfl⟩
  | ok url =>
    have hnot : (!url.isWeb) = true := by rw [h url hurl]; rfl
    exact ⟨.schemeNotWeb url.scheme, fun _ => if_pos hnot⟩

/-- With two tokens, a location is refused alike, or asked for under alike addresses of the web. -/
theorem authorize_alike (l : Loader) (location : String) (first second : Option String) :
    (∃ problem, l.authorize location first = .error problem ∧
        l.authorize location second = .error problem) ∨
      ∃ u v, l.authorize location first = .ok u ∧ l.authorize location second = .ok v ∧
        Alike l.trustedHost u v ∧ u.isWeb = true := by
  by_cases hweb : ∃ url, Url.ofText location = .ok url ∧ url.isWeb = true
  · -- either address is alike to that of the location, and bare they are all the same
    obtain ⟨url, hurl, hweb⟩ := hweb
    obtain ⟨u, hu, hurlu, huweb⟩ := authorize_of_isWeb (l := l) hurl hweb first
    obtain ⟨v, hv, hurlv, -⟩ := authorize_of_isWeb (l := l) hurl hweb second
    exact .inr ⟨u, v, hu, hv, hurlu.symm.trans hurlv, huweb⟩
  · obtain ⟨problem, hproblem⟩ := authorize_of_not_isWeb (l := l) fun url hurl =>
      Bool.eq_false_iff.mpr fun hisWeb => hweb ⟨url, hurl, hisWeb⟩
    exact .inl ⟨problem, hproblem first, hproblem second⟩

section Subjects

variable (hwritable : ∀ u, u.isWeb = true → l.writable u = true)
  (hweb : ∀ u v : Url, u.bare = v.bare → web u = web v)

include hwritable hweb

theorem download_indistinct (first second : Option String) (d : Directory) (location : String) :
    Indistinct l.trustedHost (l.download web first d location).2
      (l.download web second d location).2 := by
  unfold download
  rcases authorize_alike l location first second with
    ⟨problem, h₁, h₂⟩ | ⟨u, v, hu, hv, halike, hisWeb⟩
  · rw [h₁, h₂]
    exact ⟨rfl, .nil⟩
  · obtain ⟨hresult, hrequests⟩ := follow_indistinct hwritable hweb halike hisWeb
    rw [hu, hv]
    dsimp only
    rw [hresult]
    exact ⟨rfl, hrequests⟩

theorem load_indistinct (first second : Option Subject) (d : Descriptor) :
    Indistinct l.trustedHost (l.load web first d) (l.load web second d) := by
  unfold load
  cases d.content with
  | some content => exact ⟨rfl, .nil⟩
  | none =>
    cases d.location with
    | none => exact ⟨rfl, .nil⟩
    | some location =>
      obtain ⟨hresult, hrequests⟩ := download_indistinct hwritable hweb (currentToken first)
        (currentToken second) {} location
      exact ⟨congrArg (Except.mapError (Failure.fetch location)) hresult, hrequests⟩

theorem read_indistinct (first second : Option Subject) (d : Descriptor) :
    Indistinct l.trustedHost (l.read web first d) (l.read web second d) := by
  obtain ⟨hresult, hrequests⟩ := load_indistinct hwritable hweb first second d
  unfold read
  cases ContentType.ofMediaType d.contentType with
  | error failure => exact ⟨rfl, .nil⟩
  | ok type =>
    dsimp only
    rw [hresult]
    exact ⟨rfl, hrequests⟩

end Subjects

/-- The loader with some settings trusts their host, and has the client that it is given. -/
theorem eq_of_ofSettings {s : Settings} {writable : Url → Bool}
    (h : ofSettings s writable = .ok l) :
    l.trustedHost = s.trustedHost ∧ l.writable = writable := by
  unfold ofSettings at h
  cases hvalid : s.validate with
  | error failure =>
    rw [hvalid] at h
    cases h
  | ok _ =>
    rw [hvalid] at h
    cases h
    exact ⟨rfl, rfl⟩

/-- **A token is seen on the trusted host only.** If what comes back does not depend on queries, and
all addresses of the web can be asked for, then loading and reading on behalf of any two subjects
give the same result, with the same requests but for the queries on the trusted host. -/
theorem load_read_indistinct {s : Settings} {writable : Url → Bool} {l : Loader}
    (hl : ofSettings s writable = .ok l) (hwritable : ∀ u, u.isWeb = true → writable u = true)
    (web : Web) (hweb : ∀ u v : Url, u.bare = v.bare → web u = web v)
    (first second : Option Subject) (d : Descriptor) :
    Indistinct s.trustedHost (l.load web first d) (l.load web second d) ∧
      Indistinct s.trustedHost (l.read web first d) (l.read web second d) := by
  obtain ⟨htrusted, hl⟩ := eq_of_ofSettings hl
  subst hl
  rw [← htrusted]
  exact ⟨load_indistinct hwritable hweb first second d,
    read_indistinct hwritable hweb first second d⟩

/-- A web in which every answer leads back to the address that was asked for, query and all. -/
def backToSelf : Web := fun _ => .answered { status := 302, location := some "" }

/-- Settings that trust one host. -/
def trustingSettings : Settings where
  apiEndpoint := some {
    scheme := "https", host := some (.domain "che.example.com"), path := .names ["api"] }

/-- A descriptor whose location is on that host. -/
def trustedRecipe : Descriptor where
  location := some "https://che.example.com/recipe"
  contentType := "text/yaml"

/-- Requests that are sent back to themselves carry the token along, if there is one. -/
theorem load_read_indistinct_backToSelf :
    ∃ l, ofSettings trustingSettings (fun _ => true) = .ok l ∧
      (l.load backToSelf none trustedRecipe).requests ≠
        (l.load backToSelf (some { token := some "secret" }) trustedRecipe).requests ∧
      Indistinct trustingSettings.trustedHost (l.load backToSelf none trustedRecipe)
        (l.load backToSelf (some { token := some "secret" }) trustedRecipe) ∧
      Indistinct trustingSettings.trustedHost (l.read backToSelf none trustedRecipe)
        (l.read backToSelf (some { token := some "secret" }) trustedRecipe) := by
  refine ⟨_, rfl, by decide +kernel, ?_⟩
  exact load_read_indistinct (s := trustingSettings) rfl (fun _ _ => rfl) backToSelf
    (fun _ _ _ => rfl) _ _ _

end Loader

end StartOrder
