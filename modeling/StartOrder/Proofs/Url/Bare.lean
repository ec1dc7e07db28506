import StartOrder.Url.Address

/-!
# Addresses without their queries

Two addresses that differ in their queries alone are on the same host, and a reference leads from
them to addresses that differ in their queries alone (`join_of_bare_eq`). Most references lead to
one and the same address, because they come with a path, a query or a host of their own. Only those
that leave the query as it is keep the difference: the empty one and a fragment. They keep the
scheme as well, so that they stay on the web.
-/

namespace StartOrder.Url

/-- An address without its query. -/
def bare (u : Url) : Url := { u with query := none }

variable {u v : Url}

/-- An address is what it is without its query, and its query. -/
theorem eq_of_bare_eq (h : u.bare = v.bare) : v = { u with query := v.query } := by
  cases u
  cases v
  simp only [bare, Url.mk.injEq] at h ⊢
  simp [h]

@[simp] theorem bare_appendPair (u : Url) (name value : String) :
    (u.appendPair name value).bare = u.bare := rfl

theorem host?_of_bare_eq (h : u.bare = v.bare) : u.host? = v.host? := by
  have hhost : u.bare.host = v.bare.host := by rw [h]
  show u.bare.host.filter _ = v.bare.host.filter _
  rw [hhost]

theorem isWeb_of_bare_eq (h : u.bare = v.bare) : u.isWeb = v.isWeb := by
  show u.bare.isWeb = v.bare.isWeb
  rw [h]

/-- What readings of a reference behind two addresses have in common if the addresses differ in
their queries alone: they are the same, or they are of addresses that differ in their queries alone,
under the scheme that was there. -/
def ReadAlike (scheme : String) (r s : Except Problem Url) : Prop :=
  r = s ∨ ∃ a b, r = .ok a ∧ s = .ok b ∧ a.bare = b.bare ∧ a.scheme = scheme

/-- A path is read alike; where there is none, the query is that of the address or a new one. -/
theorem readRelative_of_bare_eq (h : u.bare = v.bare) (segments : List String) (cs : List Char) :
    ReadAlike u.scheme (u.readRelative segments cs) (v.readRelative segments cs) := by
  rw [eq_of_bare_eq h]
  unfold readRelative
  generalize splitTail cs = parts
  obtain ⟨path, tailText⟩ := parts
  -- only where there is no path may the query be that of the address
  rcases path with _ | ⟨c, _ | ⟨d, rest⟩⟩
  · exact .inr ⟨_, _, rfl, rfl, rfl, rfl⟩
  · exact .inl rfl
  · exact .inl rfl

/-- A reference is read alike behind addresses that differ in their queries alone. -/
theorem join_of_bare_eq (h : u.bare = v.bare) (text : String) :
    ReadAlike u.scheme (u.join text) (v.join text) := by
  have hrelative := readRelative_of_bare_eq h
  rw [eq_of_bare_eq h] at hrelative ⊢
  obtain ⟨scheme, username, password, host, port, path, query, fragment⟩ := u
  unfold join
  dsimp only at hrelative ⊢
  generalize clean text = cs
  cases splitScheme? cs with
  | some parts =>
    obtain ⟨own, rest⟩ := parts
    cases path with
    | plain text => exact .inl rfl
    | names segments =>
      -- a special scheme that is the same may stand before a relative reference
      dsimp only
      split
      · exact hrelative segments rest
      · exact .inl rfl
  | none =>
    dsimp only
    split
    · exact .inr ⟨_, _, rfl, rfl, rfl, rfl⟩
    · exact hrelative _ cs
    · exact .inl rfl

/-- An empty reference keeps the query, and a name takes its place. -/
example :
    let base : Url := { scheme := "http", path := .names ["a"], query := some "token=t" }
    (base.join "").toOption.map Url.query = some (some "token=t") ∧
      (base.join "b").toOption.map Url.query = some none := by decide

end StartOrder.Url
