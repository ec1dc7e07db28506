import Mathlib.Data.List.Chain
import Mathlib.Data.List.Induction
import StartOrder.Proofs.Source.Downloads

/-!
# Redirects are followed along routes

The requests of a fetch follow each other from answer to answer, until an answer leads nowhere or
the next redirect is refused. `IsRoute` says which sequences of addresses are allowed, as properties
of the sequence: each address is where the answer to the one before leads, all can be asked for,
there are at most eleven, and behind one on the trusted host all are on it. The loop that follows
redirects looks at one redirect at a time, with the addresses visited so far in reverse.

The bridge between the two is `isRoute_concat`: a route can be extended by an address if and only if
the loop would follow the redirect to it. With it, the loop and the routes agree in both directions:

- what has been requested and what is still to come is a route (`followFrom_requests`, by induction
  on the number of requests left);
- the addresses of any route are requested in turn (`IsRoute.followFrom_eq`, by induction along the
  route from its end).

Hence `Loader.fetch_along_route`: a fetch requests a route, and every route that is there is
followed to its end, where the result is told by the last answer. The number of requests that the
loop may still make is there for its termination only. The policy counts as well, and always stops
first (`followFrom_add`).
-/

namespace StartOrder

/-- An answer to a request sends it to an address. -/
def Answer.LeadsTo (a : Answer) (asked target : Url) : Prop :=
  isRedirect a.status = true ∧ ∃ text, a.location = some text ∧ asked.join text = .ok target

/-- A request for an address is sent to another one. -/
def Leads (web : Web) (asked target : Url) : Prop :=
  ∃ a, web asked = .answered a ∧ a.LeadsTo asked target

/-- Addresses that may be asked for one after the other, from a first one on. Requests for them can
be written, and each is where the one before leads. Behind one on the trusted host all are. -/
structure IsRoute (writable : Url → Bool) (web : Web) (trusted : Option Url.Host) (first : Url)
    (us : List Url) : Prop where
  head : us.head? = some first
  chain : us.IsChain (Leads web)
  writable : ∀ u ∈ us, writable u = true
  isWeb : ∀ u ∈ us.tail, u.isWeb = true
  stays : us.Pairwise fun u v => isTrusted trusted u = true → isTrusted trusted v = true
  length : us.length ≤ maxRedirects + 1

variable {writable : Url → Bool} {web : Web} {trusted : Option Url.Host}
variable {first asked target : Url} {visited us : List Url} {a : Answer} {left : Nat}

/-! ## One redirect -/

theorem Answer.redirect?_eq_some_iff :
    a.redirect? writable asked = some target ↔
      a.LeadsTo asked target ∧ writable target = true := by
  have hread : ∀ text, (asked.join text).toOption = some target ↔ asked.join text = .ok target := by
    intro text
    cases asked.join text with
    | error problem => exact ⟨nofun, nofun⟩
    | ok other => simp [Except.toOption]
  unfold redirect? LeadsTo
  by_cases hstatus : isRedirect a.status = true
  · simp [hstatus, Option.filter_eq_some_iff, Option.bind_eq_some_iff, hread]
  · simp [hstatus]

theorem Answer.redirect?_eq_none_iff :
    a.redirect? writable asked = none ↔ ∀ v, a.LeadsTo asked v → writable v = false := by
  rw [Option.eq_none_iff_forall_ne_some]
  refine forall_congr' fun v => ?_
  rw [Ne, redirect?_eq_some_iff, not_and, Bool.not_eq_true]

/-- A redirect is followed to the web if it is not too many, and does not leave the trusted host. -/
theorem redirectProblem?_eq_none_iff :
    redirectProblem? trusted visited target = none ↔ visited.length ≤ maxRedirects ∧
      (∀ u ∈ visited, isTrusted trusted u = true → isTrusted trusted target = true) ∧
      target.isWeb = true := by
  have hstays : (visited.any (isTrusted trusted) && !isTrusted trusted target) = true ↔
      ¬∀ u ∈ visited, isTrusted trusted u = true → isTrusted trusted target = true := by
    simp [← exists_and_right, and_assoc]
  unfold redirectProblem?
  split
  · next hmany => exact ⟨nofun, fun h => absurd h.1 (Nat.not_le_of_lt hmany)⟩
  · next hmany =>
    split
    · next hleaves => exact ⟨nofun, fun h => absurd h.2.1 (hstays.mp hleaves)⟩
    · next hleaves =>
      have hkept := not_not.mp (hstays.not.mp hleaves)
      cases hweb : target.isWeb with
      | false => exact ⟨nofun, fun h => absurd h.2.2 Bool.false_ne_true⟩
      | true => exact ⟨fun _ => ⟨Nat.not_lt.mp hmany, hkept, rfl⟩, fun _ => rfl⟩

theorem redirectProblem?_of_length (h : maxRedirects < visited.length) :
    redirectProblem? trusted visited target = some (.tooManyRedirects maxRedirects) :=
  if_pos h

theorem redirectProblem?_of_leaving (hlength : visited.length ≤ maxRedirects)
    (hvisited : ∃ u ∈ visited, isTrusted trusted u = true)
    (htarget : isTrusted trusted target = false) :
    redirectProblem? trusted visited target =
      some (.leavesTrusted ((target.host?.map Url.Host.text).getD "")) := by
  have hany : visited.any (isTrusted trusted) = true := List.any_eq_true.mpr hvisited
  rw [redirectProblem?, if_neg (Nat.not_lt.mpr hlength), hany, htarget]
  rfl

/-! ## One request -/

theorem followFrom_of_unreachable (h : web asked = .unreachable) :
    followFrom writable web trusted left visited asked = ⟨[], .error .unreachable⟩ := by
  unfold followFrom
  rw [h]

theorem followFrom_of_closed (h : web asked = .closed) :
    followFrom writable web trusted left visited asked = ⟨[asked], .error .closed⟩ := by
  unfold followFrom
  rw [h]

/-- An answer that leads nowhere is the last. -/
theorem followFrom_of_answered (ha : web asked = .answered a)
    (hredirect : a.redirect? writable asked = none) :
    followFrom writable web trusted left visited asked = ⟨[asked], .ok a⟩ := by
  unfold followFrom
  rw [ha]
  dsimp only
  rw [hredirect]

/-- A redirect that is not followed is the end. -/
theorem followFrom_of_problem {problem : FetchProblem} (ha : web asked = .answered a)
    (hredirect : a.redirect? writable asked = some target)
    (hproblem : redirectProblem? trusted (asked :: visited) target = some problem) :
    followFrom writable web trusted left visited asked = ⟨[asked], .error problem⟩ := by
  unfold followFrom
  rw [ha]
  dsimp only
  rw [hredirect]
  dsimp only
  rw [hproblem]

/-- A redirect that is followed leads to further requests. There is one left for it, since the
policy counts what was visited and would have refused it otherwise. -/
theorem followFrom_of_redirect (hleft : maxRedirects ≤ left + visited.length)
    (ha : web asked = .answered a) (hredirect : a.redirect? writable asked = some target)
    (hnone : redirectProblem? trusted (asked :: visited) target = none) :
    ∃ fewer, left = fewer + 1 ∧ followFrom writable web trusted left visited asked =
      ⟨asked :: (followFrom writable web trusted fewer (asked :: visited) target).requests,
        (followFrom writable web trusted fewer (asked :: visited) target).result⟩ := by
  have hcount : visited.length + 1 ≤ maxRedirects := (redirectProblem?_eq_none_iff.mp hnone).1
  obtain ⟨fewer, rfl⟩ : ∃ fewer, left = fewer + 1 := ⟨left - 1, by omega⟩
  refine ⟨fewer, rfl, ?_⟩
  rw [followFrom, ha]
  dsimp only
  rw [hredirect]
  dsimp only
  rw [hnone]

/-- What becomes of a request: it is not received, or it is the last, or it is sent elsewhere and
that is followed. -/
theorem followFrom_cases (writable : Url → Bool) (web : Web) (trusted : Option Url.Host)
    (visited : List Url) (asked : Url) :
    web asked = .unreachable ∨
      (web asked ≠ .unreachable ∧ ∃ result, ∀ left,
        followFrom writable web trusted left visited asked = ⟨[asked], result⟩) ∨
      ∃ a target, web asked = .answered a ∧ a.redirect? writable asked = some target ∧
        redirectProblem? trusted (asked :: visited) target = none := by
  cases hanswer : web asked with
  | unreachable => exact .inl rfl
  | closed => exact .inr (.inl ⟨nofun, _, fun _ => followFrom_of_closed hanswer⟩)
  | answered a =>
    right
    cases hredirect : a.redirect? writable asked with
    | none => exact .inl ⟨nofun, _, fun _ => followFrom_of_answered hanswer hredirect⟩
    | some target =>
      cases hproblem : redirectProblem? trusted (asked :: visited) target with
      | some problem =>
        exact .inl ⟨nofun, _, fun _ => followFrom_of_problem hanswer hredirect hproblem⟩
      | none => exact .inr ⟨a, target, rfl, hredirect, hproblem⟩

/-- **More requests would never be made** than are counted by the policy. -/
theorem followFrom_add (hleft : maxRedirects ≤ left + visited.length) (more : Nat) :
    followFrom writable web trusted (left + more) visited asked =
      followFrom writable web trusted left visited asked := by
  induction left using Nat.strongRecOn generalizing visited asked with
  | ind left ih =>
    rcases followFrom_cases writable web trusted visited asked with
      hlost | ⟨-, result, hlast⟩ | ⟨a, target, ha, hredirect, hnone⟩
    · rw [followFrom_of_unreachable hlost, followFrom_of_unreachable hlost]
    · rw [hlast, hlast]
    · -- either bound leaves one request at least, and what is left behind that differs by as much
      obtain ⟨fewer, rfl, hrun⟩ := followFrom_of_redirect hleft ha hredirect hnone
      obtain ⟨fewer', heq, hrun'⟩ := followFrom_of_redirect
        (Nat.le_trans hleft (Nat.add_le_add_right (Nat.le_add_right _ more) _)) ha hredirect hnone
      obtain rfl : fewer' = fewer + more := by omega
      have hnext : maxRedirects ≤ fewer + (asked :: visited).length := by
        rw [List.length_cons]
        omega
      rw [hrun, hrun', ih fewer (Nat.lt_succ_self _) hnext]

/-! ## Routes -/

theorem isRoute_singleton :
    IsRoute writable web trusted first [target] ↔ target = first ∧ writable first = true := by
  constructor
  · intro h
    obtain rfl : target = first := Option.some.inj h.head
    exact ⟨rfl, h.writable target List.mem_cons_self⟩
  · rintro ⟨rfl, hwritable⟩
    exact {
      head := rfl
      chain := .singleton _
      writable := List.forall_mem_singleton.mpr hwritable
      isWeb := nofun
      stays := List.pairwise_singleton _ _
      length := Nat.succ_le_succ (Nat.zero_le _) }

/-- **A route goes on with where its last answer leads, if that redirect is followed.** -/
theorem isRoute_concat : IsRoute writable web trusted first (us ++ [asked] ++ [target]) ↔
    IsRoute writable web trusted first (us ++ [asked]) ∧ Leads web asked target ∧
      writable target = true ∧ redirectProblem? trusted (asked :: us.reverse) target = none := by
  have hhead : (us ++ [asked] ++ [target]).head? = (us ++ [asked]).head? := by
    cases us <;> rfl
  have htail : (us ++ [asked] ++ [target]).tail = (us ++ [asked]).tail ++ [target] := by
    cases us <;> rfl
  -- each part of a route says something of the last address, and the rest of the front
  have hchain : (us ++ [asked] ++ [target]).IsChain (Leads web) ↔
      (us ++ [asked]).IsChain (Leads web) ∧ Leads web asked target := by
    rw [List.append_assoc]
    simp [List.isChain_append_cons_cons]
  have hstays : ((us ++ [asked] ++ [target]).Pairwise fun u v =>
      isTrusted trusted u = true → isTrusted trusted v = true) ↔
      ((us ++ [asked]).Pairwise fun u v =>
        isTrusted trusted u = true → isTrusted trusted v = true) ∧
      ∀ u ∈ asked :: us.reverse, isTrusted trusted u = true → isTrusted trusted target = true := by
    rw [List.pairwise_append]
    simp [or_comm]
  rw [redirectProblem?_eq_none_iff]
  constructor
  · rintro ⟨head, chain, hall, isWeb, stays, length⟩
    rw [htail, List.forall_mem_append, List.forall_mem_singleton] at isWeb
    rw [List.forall_mem_append, List.forall_mem_singleton] at hall
    rw [List.length_append, List.length_singleton] at length
    exact ⟨⟨hhead ▸ head, (hchain.mp chain).1, hall.1, isWeb.1, (hstays.mp stays).1, by omega⟩,
      (hchain.mp chain).2, hall.2, by simpa using length, (hstays.mp stays).2, isWeb.2⟩
  · rintro ⟨⟨head, chain, hall, isWeb, stays, length⟩, hleads, hwritable, hlength, hkept, hweb⟩
    refine ⟨hhead.trans head, hchain.mpr ⟨chain, hleads⟩, ?_, ?_, hstays.mpr ⟨stays, hkept⟩, ?_⟩
    · rw [List.forall_mem_append, List.forall_mem_singleton]
      exact ⟨hall, hwritable⟩
    · rw [htail, List.forall_mem_append, List.forall_mem_singleton]
      exact ⟨isWeb, hweb⟩
    · simpa using hlength

/-- Requests for the addresses of a route are made in turn. -/
theorem IsRoute.followFrom_eq (h : IsRoute writable web trusted first (us ++ [asked])) :
    followFrom writable web trusted maxRedirects [] first =
      ⟨us ++ (followFrom writable web trusted (maxRedirects - us.length) us.reverse asked).requests,
        (followFrom writable web trusted (maxRedirects - us.length) us.reverse asked).result⟩ := by
  induction us using List.reverseRecOn generalizing asked with
  | nil =>
    obtain ⟨rfl, -⟩ := isRoute_singleton.mp h
    rfl
  | append_singleton us u ih =>
    obtain ⟨hroute, ⟨a, ha, hleads⟩, hwritable, hnone⟩ := isRoute_concat.mp h
    have hleft : maxRedirects ≤ maxRedirects - us.length + us.reverse.length := by
      rw [List.length_reverse]
      omega
    obtain ⟨fewer, hfewer, hrun⟩ := followFrom_of_redirect hleft ha
      (Answer.redirect?_eq_some_iff.mpr ⟨hleads, hwritable⟩) hnone
    -- one request less is left, and one more address is behind
    obtain rfl : fewer = maxRedirects - (us ++ [u]).length := by
      rw [List.length_append, List.length_singleton]
      omega
    rw [ih hroute, hrun, List.reverse_concat, List.append_assoc]
    rfl

/-- **The requests that are made behind a route go on with it**, if its last address is reached. -/
theorem followFrom_requests (h : IsRoute writable web trusted first (us ++ [asked]))
    (hleft : maxRedirects ≤ left + us.length) :
    web asked = .unreachable ∨ IsRoute writable web trusted first
      (us ++ (followFrom writable web trusted left us.reverse asked).requests) := by
  induction left using Nat.strongRecOn generalizing us asked with
  | ind left ih =>
    rcases followFrom_cases writable web trusted us.reverse asked with
      hlost | ⟨-, result, hlast⟩ | ⟨a, target, ha, hredirect, hnone⟩
    · exact .inl hlost
    · rw [hlast]
      exact .inr h
    · right
      rw [← List.length_reverse] at hleft
      obtain ⟨fewer, rfl, hrun⟩ := followFrom_of_redirect hleft ha hredirect hnone
      obtain ⟨hleads, hwritable⟩ := Answer.redirect?_eq_some_iff.mp hredirect
      have hroute : IsRoute writable web trusted first (us ++ [asked] ++ [target]) :=
        isRoute_concat.mpr ⟨h, ⟨a, ha, hleads⟩, hwritable, hnone⟩
      have hnext := ih fewer (Nat.lt_succ_self _) hroute (by simp at hleft ⊢; omega)
      rw [List.reverse_concat, List.append_assoc] at hnext
      rw [hrun]
      rcases hnext with hlost | hnext
      · -- the target is not reached, so that the route ends before it
        rw [followFrom_of_unreachable hlost]
        exact h
      · exact hnext

/-- A run ends where a route ends, if the last request of it is the last. -/
theorem IsRoute.follow_eq_of_last (h : IsRoute writable web trusted first (us ++ [asked]))
    {result : Except FetchProblem Answer}
    (hlast : ∀ left, followFrom writable web trusted left us.reverse asked = ⟨[asked], result⟩) :
    follow writable web trusted first = ⟨us ++ [asked], result⟩ := by
  have hfirst : writable first = true := h.writable first (List.mem_of_mem_head? h.head)
  rw [follow, if_pos hfirst, h.followFrom_eq, hlast]

/-- A run ends where a route leads on to what is refused. -/
theorem IsRoute.follow_eq_of_refused (h : IsRoute writable web trusted first (us ++ [asked]))
    (hleads : Leads web asked target) (htarget : writable target = true) {problem : FetchProblem}
    (hproblem : redirectProblem? trusted (asked :: us.reverse) target = some problem) :
    follow writable web trusted first = ⟨us ++ [asked], .error problem⟩ := by
  obtain ⟨a, ha, hleads⟩ := hleads
  exact h.follow_eq_of_last fun _ =>
    followFrom_of_problem ha (Answer.redirect?_eq_some_iff.mpr ⟨hleads, htarget⟩) hproblem

/-- The requests that are made are a route, if the first can be written and is received. -/
theorem isRoute_requests_follow (hwritable : writable first = true)
    (hreached : web first ≠ .unreachable) :
    IsRoute writable web trusted first (follow writable web trusted first).requests := by
  have hstart : IsRoute writable web trusted first ([] ++ [first]) :=
    isRoute_singleton.mpr ⟨rfl, hwritable⟩
  rw [follow, if_pos hwritable]
  exact (followFrom_requests hstart (Nat.le_refl maxRedirects)).resolve_left hreached

/-- No request is made exactly if none can be written, or received. -/
theorem requests_follow_eq_nil_iff : (follow writable web trusted first).requests = [] ↔
    writable first = false ∨ web first = .unreachable := by
  cases hwritable : writable first with
  | false =>
    rw [follow, hwritable]
    exact ⟨fun _ => .inl rfl, fun _ => rfl⟩
  | true =>
    constructor
    · -- otherwise the requests were a route, which has a first address
      intro hnil
      by_contra hnot
      have hroute :
          IsRoute writable web trusted first (follow writable web trusted first).requests :=
        isRoute_requests_follow hwritable fun h => hnot (.inr h)
      have hhead := hroute.head
      rw [hnil] at hhead
      cases hhead
    · rintro (hnot | hlost)
      · cases hnot
      · rw [follow, if_pos hwritable, followFrom_of_unreachable hlost]

/-! ## Fetching -/

namespace Loader

variable {l : Loader} {web : Web} {current : Option Subject} {location : String} {url : Url}

/-- A fetch makes the requests that its address leads to, and takes the last answer. -/
theorem fetch_of_follow (hurl : l.authorize location (currentToken current) = .ok url)
    {requests : List Url} {result : Except FetchProblem Answer}
    (h : follow l.writable web l.trustedHost url = ⟨requests, result⟩) :
    l.fetch web current location =
      ⟨requests, (result >>= fun a => a.outcome l.maxRecipeSize).mapError (.fetch location)⟩ := by
  unfold fetch
  rw [download_of_authorize hurl, Directory.keep_eq]
  unfold received
  rw [h]
  cases result with
  | error problem => rfl
  | ok a =>
    show Traced.mk requests ((a.receive l.maxRecipeSize).text.mapError _) = _
    rw [a.receive_text]
    rfl

/-- What a run from an address on asks for, and what comes of it. There is a request, unless none
can be written, or received, and all requests together are a route. Every route is followed to its
end, where the answer decides if it leads nowhere that can be asked for. It is refused if it leads
on behind ten redirects, or off the trusted host. -/
structure FollowsRoutes (l : Loader) (web : Web) (location : String) (url : Url)
    (run : Traced (Except Failure String)) : Prop where
  requests_eq_nil_iff : run.requests = [] ↔ l.writable url = false ∨ web url = .unreachable
  isRoute : run.requests ≠ [] → IsRoute l.writable web l.trustedHost url run.requests
  eq_of_answered : ∀ us u a, IsRoute l.writable web l.trustedHost url (us ++ [u]) →
    web u = .answered a → (∀ v, a.LeadsTo u v → l.writable v = false) →
    run = ⟨us ++ [u], (a.outcome l.maxRecipeSize).mapError (.fetch location)⟩
  eq_of_closed : ∀ us u, IsRoute l.writable web l.trustedHost url (us ++ [u]) → web u = .closed →
    run = ⟨us ++ [u], .error (.fetch location .closed)⟩
  eq_of_many : ∀ us u v, IsRoute l.writable web l.trustedHost url (us ++ [u]) →
    Leads web u v → l.writable v = true → us.length = maxRedirects →
    run = ⟨us ++ [u], .error (.fetch location (.tooManyRedirects maxRedirects))⟩
  eq_of_leaving : ∀ us u v, IsRoute l.writable web l.trustedHost url (us ++ [u]) →
    Leads web u v → l.writable v = true → us.length < maxRedirects →
    (∃ w ∈ us ++ [u], isTrusted l.trustedHost w = true) → isTrusted l.trustedHost v = false →
    run = ⟨us ++ [u], .error (.fetch location
      (.leavesTrusted ((v.host?.map Url.Host.text).getD "")))⟩

/-- **A fetch asks for the addresses of a route, and follows every route to its end.** Only the
policy bounds the number of requests: more of them would never be made. -/
theorem fetch_along_route (l : Loader) (web : Web) (current : Option Subject) {location : String}
    {url : Url} (hurl : l.authorize location (currentToken current) = .ok url) :
    l.FollowsRoutes web location url (l.fetch web current location) ∧
      ∀ more, followFrom l.writable web l.trustedHost (maxRedirects + more) [] url =
        followFrom l.writable web l.trustedHost maxRedirects [] url := by
  have hrequests : (l.fetch web current location).requests =
      (follow l.writable web l.trustedHost url).requests :=
    congrArg Traced.requests (fetch_of_follow hurl rfl)
  refine ⟨⟨?_, ?_, ?_, ?_, ?_, ?_⟩, followFrom_add (Nat.le_refl maxRedirects)⟩
  · rw [hrequests]
    exact requests_follow_eq_nil_iff
  · intro hsome
    rw [hrequests] at hsome ⊢
    have hreached := requests_follow_eq_nil_iff.not.mp hsome
    rw [not_or, Bool.not_eq_false] at hreached
    exact isRoute_requests_follow hreached.1 hreached.2
  · intro us u a hroute ha hnowhere
    exact fetch_of_follow hurl (hroute.follow_eq_of_last fun _ =>
      followFrom_of_answered ha (Answer.redirect?_eq_none_iff.mpr hnowhere))
  · intro us u hroute hclosed
    exact fetch_of_follow hurl (hroute.follow_eq_of_last fun _ => followFrom_of_closed hclosed)
  · intro us u v hroute hleads hv hten
    refine fetch_of_follow hurl (hroute.follow_eq_of_refused hleads hv ?_)
    refine redirectProblem?_of_length ?_
    rw [List.length_cons, List.length_reverse, hten]
    exact Nat.lt_succ_self _
  · rintro us u v hroute hleads hv hfewer ⟨w, hw, htrusted⟩ hoff
    refine fetch_of_follow hurl (hroute.follow_eq_of_refused hleads hv ?_)
    refine redirectProblem?_of_leaving ?_ ⟨w, ?_, htrusted⟩ hoff
    · rw [List.length_cons, List.length_reverse]
      exact hfewer
    · simpa [or_comm] using hw

/-- A loader that trusts one host. -/
def cautiousLoader : Loader where
  trustedHost := some (.domain "a")
  maxRecipeSize := 5

/-- A web of pages that lead to each other, to themselves, to another host, or nowhere. -/
def pages : Web := fun u => .answered (match u.path with
  | .names ["old"] => { status := 301, location := some "new" }
  | .names ["loop"] => { status := 302, location := some "" }
  | .names ["out"] => { status := 307, location := some "http://b/new" }
  | _ => { chunks := [[104, 105]] })

/-- A page on the trusted host. -/
def page (name : String) : Url where
  scheme := "http"
  host := some (.domain "a")
  path := .names [name]

/-- A redirect is followed to its end, one in a circle up to the limit, and one off the trusted host
not at all. -/
theorem fetch_pages :
    cautiousLoader.fetch pages none "http://a/old" =
      ⟨[page "old", page "new"],
        (({ chunks := [[104, 105]] } : Answer).outcome 5).mapError (.fetch "http://a/old")⟩ ∧
    cautiousLoader.fetch pages none "http://a/loop" =
      ⟨List.replicate 11 (page "loop"), .error (.fetch "http://a/loop" (.tooManyRedirects 10))⟩ ∧
    cautiousLoader.fetch pages none "http://a/out" =
      ⟨[page "out"], .error (.fetch "http://a/out" (.leavesTrusted "b"))⟩ := by
  have hauthorize : ∀ name ∈ ["old", "loop", "out"],
      cautiousLoader.authorize ("http://a/" ++ name) none = .ok (page name) := by decide +kernel
  refine ⟨?_, ?_, ?_⟩
  · refine (fetch_along_route cautiousLoader pages none
      (hauthorize "old" (by decide))).1.eq_of_answered [page "old"] (page "new") _ ?_ rfl ?_
    · exact {
        head := rfl
        chain := List.isChain_pair.mpr ⟨_, rfl, rfl, _, rfl, by decide +kernel⟩
        writable := by decide +kernel
        isWeb := by decide +kernel
        stays := by decide +kernel
        length := by decide }
    · rintro v ⟨hstatus, -⟩
      cases hstatus
  · have hleads : Leads pages (page "loop") (page "loop") :=
      ⟨_, rfl, rfl, _, rfl, by decide +kernel⟩
    refine (fetch_along_route cautiousLoader pages none
      (hauthorize "loop" (by decide))).1.eq_of_many (List.replicate 10 (page "loop"))
      (page "loop") _ ?_ hleads (by decide +kernel) rfl
    exact {
      head := rfl
      chain := @List.isChain_replicate_of_rel _ (Leads pages) 11 _ hleads
      writable := by decide +kernel
      isWeb := by decide +kernel
      stays := by decide +kernel
      length := by decide }
  · exact (fetch_along_route cautiousLoader pages none
      (hauthorize "out" (by decide))).1.eq_of_leaving [] (page "out")
      { scheme := "http", host := some (.domain "b"), path := .names ["new"] }
      (isRoute_singleton.mpr ⟨rfl, by decide +kernel⟩) ⟨_, rfl, rfl, _, rfl, by decide +kernel⟩
      (by decide +kernel) (by decide) ⟨page "out", by decide, by decide⟩ (by decide)

/-- The loader with the default settings. -/
def plainLoader : Loader where
  maxRecipeSize := 1048576

/-- A location is accepted although no request can be written for its address, because of a sign in
its host: then no request is made, whatever the web. -/
theorem fetch_unwritable :
    (∃ url, plainLoader.authorize "http://a\x60b/" none = .ok url) ∧
      ∀ web : Web, plainLoader.fetch web none "http://a\x60b/" =
        ⟨[], .error (.fetch "http://a\x60b/" .notWritable)⟩ := by
  have hurl : plainLoader.authorize "http://a\x60b/" none =
      .ok { scheme := "http", host := some (.domain "a\x60b"), path := .names [""] } := by
    decide +kernel
  have hwritable : ¬plainLoader.writable
      { scheme := "http", host := some (.domain "a\x60b"), path := .names [""] } = true := by
    decide +kernel
  exact ⟨⟨_, hurl⟩, fun web => fetch_of_follow hurl (if_neg hwritable)⟩

end Loader

end StartOrder
