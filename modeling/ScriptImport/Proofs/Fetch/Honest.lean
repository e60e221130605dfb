/-
# An honest server is never misquoted

The texts on a server change between calls, but no two texts of a URL have the same tag.  An honest server
answers that nothing has changed only if the request carries the tag of its text (`Visit.Honest`).  Then an
entry with a tag has the text that the server had under that tag (`Tagged`): a success replaces text and tag
together, and a confirmation is about the text that the tag belongs to (`Visit.Honest.confirmed`).  So what a
revalidation brings is what the server has (`Visit.revalidated_is_current`).
-/

import ScriptImport.Proofs.Fetch.History

namespace ScriptImport

open Cache

/-- What a server has at a URL. -/
structure Resource where
  body : String
  etag : Option String
  deriving DecidableEq

/-- The response that brings a resource, with its tag. -/
def Resource.response (s : Resource) : Response :=
  { Response.plain 200 s.body with headers := (s.etag.map fun e => ("etag", e)).toList }

/-- Serves a resource: a request that carries its tag is told that nothing has changed. -/
def Resource.serve (s : Resource) : Transport := fun q =>
  if s.etag.isSome ∧ headerValue? q.headers "if-none-match" = s.etag then .ok (Response.plain 304 "")
  else .ok s.response

/-- A call, and what the server has at its URL by then. -/
structure Visit where
  call : Call
  resource : Resource

/-- No two texts of a URL have the same tag. -/
def TagsDiffer (visits : List Visit) : Prop :=
  ∀ v ∈ visits, ∀ v' ∈ visits, v.call.url.text = v'.call.url.text →
    ∀ e, v.resource.etag = some e → v'.resource.etag = some e → v.resource.body = v'.resource.body

theorem TagsDiffer.of_subset {visits visits' : List Visit} (h : TagsDiffer visits)
    (hsub : visits' ⊆ visits) : TagsDiffer visits' := fun v hv v' hv' => h v (hsub hv) v' (hsub hv')

namespace Visit

/-- The server answers with what it has, or, if the request carries the tag of that, that nothing has
changed.  The only tag that it sends is the one of what it has. -/
structure Honest (v : Visit) : Prop where
  success : ∀ q r, q.url = v.call.url → v.call.transport q = .ok r → r.isSuccess →
    r.body = v.resource.body
  unchanged : ∀ q r, q.url = v.call.url → v.call.transport q = .ok r → r.isUnchanged →
    ∃ e, v.resource.etag = some e ∧ headerValue? q.headers "if-none-match" = some e
  etag : ∀ q r, q.url = v.call.url → v.call.transport q = .ok r →
    ∀ x ∈ r.headers, lowerAscii x.1 = "etag" → v.resource.etag = some x.2

/-- Serving a resource is honest. -/
theorem honest_serve (revalidates : Bool) (url : Url) (s : Resource) (now : Nat) (verbose : Bool) :
    Honest ⟨⟨revalidates, url, s.serve, now, verbose⟩, s⟩ := by
  have hserve : ∀ q r, s.serve q = .ok r → r = s.response ∨
      r = Response.plain 304 "" ∧ ∃ e, s.etag = some e ∧ headerValue? q.headers "if-none-match" = some e := by
    intro q r hr
    unfold Resource.serve at hr
    split at hr
    · next h =>
      obtain ⟨e, he⟩ := Option.isSome_iff_exists.1 h.1
      exact .inr ⟨(Except.ok.inj hr).symm, e, he, he ▸ h.2⟩
    · exact .inl (Except.ok.inj hr).symm
  refine ⟨fun q r _ hr hs => ?_, fun q r _ hr hu => ?_, fun q r _ hr x hx _ => ?_⟩
  · rcases hserve q r hr with rfl | ⟨rfl, -⟩
    · rfl
    · exact absurd hs (by decide)
  · rcases hserve q r hr with rfl | ⟨-, h⟩
    · exact absurd hu (by simp [Response.isUnchanged, Resource.response, Response.plain])
    · exact h
  · rcases hserve q r hr with rfl | ⟨rfl, -⟩
    · obtain ⟨e, he, rfl⟩ := Option.map_eq_some_iff.1 (Option.mem_toList.1 hx)
      exact he
    · exact absurd hx (List.not_mem_nil)

end Visit

/-- An entry with a tag has the text that the server had under it. -/
def Tagged (visits : List Visit) (url : String) (entry : Option Cached) : Prop :=
  ∀ cached, entry = some cached → ∀ e, cached.metadata.etag? = some e →
    ∃ v ∈ visits, v.call.url.text = url ∧ v.resource = ⟨cached.body, some e⟩

namespace Visit

variable {visits : List Visit} {v : Visit} {entry : Option Cached} {r : Response}

/-- **A confirmed entry is current:** it has the text of the server, and its tag. -/
theorem Honest.confirmed (hv : v.Honest) (htags : TagsDiffer (visits ++ [v]))
    (h : Tagged visits v.call.url.text entry) (hr : v.call.answerFor entry = .ok r)
    (hu : r.isUnchanged) : ∃ cached e, entry = some cached ∧ cached.metadata.etag? = some e ∧
      v.resource = ⟨cached.body, some e⟩ := by
  obtain ⟨e, he, hsent⟩ := hv.unchanged _ r rfl hr hu
  rw [(carries_requestOf v.call.url entry).etag] at hsent
  obtain ⟨cached, hcached, hetag⟩ := Option.bind_eq_some_iff.1 hsent
  obtain ⟨v₀, hv₀, hurl, hresource⟩ := h cached hcached e hetag
  have hbody : cached.body = v.resource.body := by
    rw [← htags v₀ (by simp [hv₀]) v (by simp) hurl e (by rw [hresource]) he, hresource]
  refine ⟨cached, e, hcached, hetag, ?_⟩
  rw [hbody, ← he]

/-- **An honest answer keeps entries tagged.** -/
theorem Honest.tagged_next (hv : v.Honest) (htags : TagsDiffer (visits ++ [v]))
    (h : Tagged visits v.call.url.text entry) (c : Cache) (now : Nat) :
    Tagged (visits ++ [v]) v.call.url.text
      (c.next v.call.url.text now entry (v.call.answerFor entry)) := by
  have hold : Tagged (visits ++ [v]) v.call.url.text entry := fun cached hcached e he => by
    obtain ⟨v₀, hv₀, hurl⟩ := h cached hcached e he
    exact ⟨v₀, by simp [hv₀], hurl⟩
  cases hr : v.call.answerFor entry with
  | error reason => exact hold
  | ok r =>
    have hetag : ∀ e, Dict.get? (Metadata.validators r.headers) "etag" = some e →
        v.resource.etag = some e := fun e he => by
      obtain ⟨x, hx, hname, rfl⟩ := Metadata.mem_of_get?_validators he
      exact hv.etag _ r rfl hr x hx hname
    unfold Cache.next
    by_cases hs : r.isSuccess
    · simp only [if_pos hs]
      rintro cached ⟨⟩ e he
      refine ⟨v, by simp, rfl, ?_⟩
      rw [hv.success _ r rfl hr hs, ← hetag e he]
    by_cases hu : r.isUnchanged
    · simp only [if_neg hs, if_pos hu]
      obtain ⟨cached, e₀, rfl, he₀, hresource⟩ := hv.confirmed htags h hr hu
      rintro cached' ⟨⟩ e he
      refine ⟨v, by simp, rfl, ?_⟩
      rw [Metadata.etag?, Metadata.get?_refreshed] at he
      have htag : some e₀ = some e := by
        rcases Option.or_eq_some_iff.1 he with hnew | ⟨-, hkept⟩
        · rw [← hetag e hnew, hresource]
        · rw [← he₀, ← hkept, Metadata.etag?]
      rw [hresource, htag]
    · simp only [if_neg hs, if_neg hu]
      exact hold

/-- The files of the cache hold entries that are tagged. -/
structure Quotes (c : Cache) (urls : Set String) (w : Web) (visits : List Visit) : Prop where
  pending : w.pending = []
  entries : ∃ entries, c.Holds urls w.files entries ∧ ∀ url ∈ urls, Tagged visits url (entries url)

variable {c : Cache} {urls : Set String} {w : Web}

/-- **A visit to an honest server keeps the cache honest.** -/
theorem quotes_run (h : Quotes c urls w visits) (hdigest : Set.InjOn digest urls)
    (hk : v.call.Within urls) (hv : v.Honest) (htags : TagsDiffer (visits ++ [v])) :
    Quotes c urls (v.call.run c w).2 (visits ++ [v]) := by
  obtain ⟨entries, hholds, htagged⟩ := h.entries
  obtain ⟨g, events, hrun, -, hholds'⟩ := Call.run_of_holds hholds hdigest hk h.pending
  rw [hrun]
  refine ⟨h.pending, _, hholds', fun url hurl => ?_⟩
  by_cases hne : url = v.call.url.text
  · subst hne
    rw [Function.update_self]
    exact hv.tagged_next htags (htagged _ hurl) c v.call.now
  · rw [Function.update_of_ne hne]
    intro cached hcached e he
    obtain ⟨v₀, hv₀, hurl₀⟩ := htagged url hurl cached hcached e he
    exact ⟨v₀, by simp [hv₀], hurl₀⟩

/-- **A revalidation that succeeds brings what the server has.** -/
theorem current_of_quotes (h : Quotes c urls w visits) (hdigest : Set.InjOn digest urls)
    (hk : v.call.Within urls) (hv : v.Honest) (htags : TagsDiffer (visits ++ [v]))
    (hasks : v.call.revalidates) {fetched : Fetched} (hok : (v.call.run c w).1 = .ok fetched) :
    fetched.body = v.resource.body := by
  obtain ⟨entries, hholds, htagged⟩ := h.entries
  obtain ⟨g, events, hrun, -, -⟩ := Call.run_of_holds hholds hdigest hk h.pending
  rw [hrun] at hok
  unfold Call.expected at hok
  rw [hasks] at hok
  cases hr : v.call.answerFor (entries v.call.url.text) with
  | error reason =>
    rw [hr] at hok
    exact absurd hok (by simp [outcome])
  | ok r =>
    rw [hr] at hok
    unfold outcome at hok
    by_cases hs : r.isSuccess
    · simp only [if_pos hs] at hok
      obtain rfl := Except.ok.inj hok
      exact hv.success _ r rfl hr hs
    by_cases hu : r.isUnchanged
    · obtain ⟨cached, e, hentry, -, hresource⟩ := hv.confirmed htags (htagged _ hk.url) hr hu
      simp only [if_neg hs, if_pos hu, hentry] at hok
      obtain rfl := Except.ok.inj hok
      rw [hresource]
    · simp only [if_neg hs, if_neg hu] at hok
      exact absurd hok (by simp)

/-- Visits to honest servers keep the cache honest. -/
theorem quotes_after (past : List Visit) (hdigest : Set.InjOn digest urls)
    (hvisits : ∀ v ∈ visits, v.call.Within urls ∧ v.Honest) (htags : TagsDiffer (past ++ visits))
    (h : Quotes c urls w past) :
    Quotes c urls (Call.after c w (visits.map (·.call))) (past ++ visits) := by
  induction visits generalizing past w with
  | nil =>
    rw [List.append_nil]
    exact h
  | cons v visits ih =>
    rw [List.append_cons] at htags ⊢
    obtain ⟨hk, hv⟩ := hvisits v (by simp)
    exact ih _ (fun v' hv' => hvisits v' (by simp [hv'])) htags
      (quotes_run h hdigest hk hv (htags.of_subset (List.subset_append_left ..)))

/-- **Revalidation is safe with honest servers.**  After any visits from an empty cache, an entry with a tag
has the text that the server had under that tag, and every revalidation that succeeded on the way brought
what the server had at its URL by then. -/
theorem revalidated_is_current (hw : Fresh c urls w)
    (hvisits : ∀ v ∈ visits, v.call.Within urls ∧ v.Honest) (htags : TagsDiffer visits) :
    (∀ url ∈ urls, Tagged visits url
      (c.found? (Call.after c w (visits.map (·.call))).files url)) ∧
    ∀ before v later, visits = before ++ v :: later → v.call.revalidates →
      ∀ fetched, (v.call.run c (Call.after c w (before.map (·.call)))).1 = .ok fetched →
        fetched.body = v.resource.body := by
  have hstart : urls.Nonempty → Quotes c urls w [] := fun hurls =>
    ⟨hw.pending, _, holds_of_isEmpty hw.empty hurls hw.stores, fun _ _ cached h => absurd h (by simp)⟩
  refine ⟨fun url hurl => ?_, fun before v later hsplit hasks fetched hok => ?_⟩
  · obtain ⟨entries, hholds, htagged⟩ := (quotes_after [] hw.digests hvisits htags (hstart ⟨url, hurl⟩)).entries
    rw [hholds.found?_eq hurl]
    exact htagged url hurl
  · subst hsplit
    obtain ⟨hk, hv⟩ := hvisits v (by simp)
    rw [List.append_cons] at htags
    have htags' : TagsDiffer (before ++ [v]) := htags.of_subset (List.subset_append_left ..)
    have hquotes := quotes_after [] hw.digests (fun v' hv' => hvisits v' (List.mem_append_left _ hv'))
      (htags'.of_subset (List.subset_append_left ..)) (hstart ⟨_, hk.url⟩)
    exact current_of_quotes hquotes hw.digests hk hv htags' hasks hok

/-- A text is fetched, found unchanged, and changed in between before it is asked for again. -/
theorem revalidated_is_current_changed :
    let url : Url := ⟨"http", some ⟨"", none, "a", none⟩, .segments [""], none, none⟩
    let visit (revalidates : Bool) (s : Resource) : Visit := ⟨⟨revalidates, url, s.serve, 1, false⟩, s⟩
    let visits := [visit false ⟨"one", some "1"⟩, visit true ⟨"one", some "1"⟩, visit true ⟨"two", some "2"⟩]
    let urls : Set String := {"http://a/", "http://b/"}
    let w : Web := ⟨Files.empty, [], [], [], 0⟩
    (∀ v ∈ visits, v.call.Within urls ∧ v.Honest) ∧ TagsDiffer visits ∧
      (∀ url ∈ urls, Tagged visits url
        (Cache.found? ⟨"/cache"⟩ (Call.after ⟨"/cache"⟩ w (visits.map (·.call))).files url)) ∧
      ∀ before v later, visits = before ++ v :: later → v.call.revalidates →
        ∀ fetched, (v.call.run ⟨"/cache"⟩ (Call.after ⟨"/cache"⟩ w (before.map (·.call)))).1 = .ok fetched →
          fetched.body = v.resource.body := by
  intro url visit visits urls w
  have htext : url.text = "http://a/" := by decide +kernel
  have hvisits : ∀ v ∈ visits, v.call.Within urls ∧ v.Honest := by
    have hvisit : ∀ revalidates s, (visit revalidates s).call.Within urls ∧
        (visit revalidates s).Honest := fun revalidates s =>
      ⟨⟨.inl htext, .inl rfl, Nat.one_lt_two_pow (by decide)⟩, honest_serve ..⟩
    simp [visits, hvisit]
  have htags : TagsDiffer visits := by
    have hbody : ∀ v ∈ visits, ∀ e, v.resource.etag = some e →
        v.resource.body = if e = "1" then "one" else "two" := by
      simp [visits, visit]
    intro v hv v' hv' _ e he he'
    rw [hbody v hv e he, hbody v' hv' e he']
  exact ⟨hvisits, htags, revalidated_is_current fresh_empty hvisits htags⟩

end Visit
end ScriptImport
