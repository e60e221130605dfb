/-
# What a call does, apart from its log

A call is a `fetch` or a `revalidate`, together with the answers of the network while it runs; it is over
when the request that it left behind is done too.  Each call on an `http` or `https` URL sends one request
and takes in its answer: `answered` says what the answer comes to and which files are left, without the log,
and `Call.run_eq` says that this is what a call does, whatever is in the files.
-/

import ScriptImport.Fetch.Fetcher

namespace ScriptImport

/-- The request for a URL, with the validators that the cache has for it. -/
def Cache.request (c : Cache) (f : Files) (url : Url) : Request :=
  ⟨url, ((c.metadata? f url.text).1.map (·.conditions)).getD []⟩

/-- What an answer to the request for a URL comes to, and the files after it. -/
def Cache.answered (c : Cache) (f : Files) (now : Nat) (url : Url) :
    Except String Response → Except FetchError Fetched × Files
  | .error reason => (.error ⟨url, .transport reason⟩, f)
  | .ok r =>
    if r.isSuccess then
      (.ok ⟨url, .network, some r.status, r.body⟩, (c.store f url.text r.body r.headers now).2)
    else if r.isUnchanged then
      match c.touch f url.text r.headers now with
      | (.ok e, g, _) => (.ok ⟨url, .revalidated, some r.status, e.body⟩, g)
      | (.error _, g, _) => (.error ⟨url, .status r.status r.reason⟩, g)
    else (.error ⟨url, .status r.status r.reason⟩, f)

/-! ### Steps on the web

What the primitive steps do; `simp` runs programs with these. -/

namespace Web

variable {α β : Type} (w : Web)

@[simp]
theorem bind_apply (m : StateM Web α) (f : α → StateM Web β) : (m >>= f) w = f (m w).1 (m w).2 := rfl

@[simp]
theorem pure_apply (a : α) : (pure a : StateM Web α) w = (a, w) := rfl

@[simp]
theorem get_apply : (get : StateM Web Web) w = (w, w) := rfl

@[simp]
theorem set_apply (w' : Web) : (set w' : StateM Web PUnit) w = ((), w') := rfl

@[simp]
theorem modify_apply (f : Web → Web) : (modify f : StateM Web PUnit) w = ((), f w) := rfl

@[simp]
theorem logAll_apply (es : List Event) : logAll es w = ((), { w with events := w.events ++ es }) := rfl

end Web

namespace Fetcher

/-- Taking in a response does what `answered` says. -/
theorem receive_eq (x : Fetcher) (url : Url) (r : Response) (w : Web) : ∃ events,
    x.receive url r w = ((x.cache.answered w.files w.now url (.ok r)).1,
      { w with files := (x.cache.answered w.files w.now url (.ok r)).2, events }) := by
  unfold receive Cache.answered
  by_cases hs : r.isSuccess
  · cases hstore : x.cache.store w.files url.text r.body r.headers w.now with
    | mk stored files =>
      simp only [if_pos hs, Web.bind_apply, Web.get_apply, hstore]
      cases stored with
      | ok m => exact ⟨_, rfl⟩
      | error e => exact ⟨_, rfl⟩
  by_cases hu : r.isUnchanged
  · cases htouch : x.cache.touch w.files url.text r.headers w.now with
    | mk touched rest =>
      simp only [if_neg hs, if_pos hu, Web.bind_apply, Web.get_apply, Web.set_apply, htouch]
      cases touched with
      | ok e => exact ⟨_, rfl⟩
      | error e => exact ⟨_, rfl⟩
  · simp only [if_neg hs, if_neg hu]
    exact ⟨_, rfl⟩

/-- **Revalidating sends one request and takes in its answer.** -/
theorem revalidate_eq (x : Fetcher) (url : Url) (w : Web) : ∃ events,
    x.revalidate url w
      = ((x.cache.answered w.files w.now url (x.transport (x.cache.request w.files url))).1,
        { w with
          files := (x.cache.answered w.files w.now url (x.transport (x.cache.request w.files url))).2
          requests := w.requests ++ [x.cache.request w.files url]
          events }) := by
  cases ht : x.transport (x.cache.request w.files url) with
  | error reason =>
    rw [Cache.request] at ht ⊢
    simp only [revalidate, Web.bind_apply, Web.get_apply, ht]
    exact ⟨_, rfl⟩
  | ok r =>
    obtain ⟨events, h⟩ := x.receive_eq url r { w with
      requests := w.requests ++ [x.cache.request w.files url]
      events := w.events ++ (x.cache.metadata? w.files url.text).2 }
    refine ⟨events, ?_⟩
    rw [Cache.request] at ht h ⊢
    simp only [revalidate, Web.bind_apply, Web.get_apply, ht]
    exact h

/-- Going on with a request does what revalidating does; only the log tells them apart. -/
theorem refresh_eq (x : Fetcher) (url : Url) (w : Web) : ∃ events,
    x.refresh url w
      = ((x.cache.answered w.files w.now url (x.transport (x.cache.request w.files url))).1,
        { w with
          files := (x.cache.answered w.files w.now url (x.transport (x.cache.request w.files url))).2
          requests := w.requests ++ [x.cache.request w.files url]
          events }) := by
  obtain ⟨events, h⟩ := x.revalidate_eq url w
  unfold refresh
  rw [Web.bind_apply, h]
  cases (x.cache.answered w.files w.now url (x.transport (x.cache.request w.files url))).1 with
  | ok fetched => exact ⟨_, rfl⟩
  | error e => exact ⟨_, rfl⟩

/-- Nothing is left to do when no request is under way. -/
theorem settle_of_pending_nil (x : Fetcher) {w : Web} (h : w.pending = []) : x.settle w = ((), w) := by
  obtain ⟨files, pending, requests, events, now⟩ := w
  obtain rfl : pending = [] := h
  rfl

/-- The request that is under way is done afterwards. -/
theorem settle_of_pending_singleton (x : Fetcher) {url : Url} {w : Web} (h : w.pending = [url]) :
    ∃ events, x.settle w
      = ((), { w with
          files := (x.cache.answered w.files w.now url (x.transport (x.cache.request w.files url))).2
          pending := []
          requests := w.requests ++ [x.cache.request w.files url]
          events }) := by
  obtain ⟨events, hr⟩ := x.refresh_eq url { w with pending := [] }
  refine ⟨events, ?_⟩
  simp only [settle, Web.bind_apply, Web.get_apply, Web.modify_apply, h]
  exact congrArg (fun p => ((), p.2)) hr

/-- A text from the cache is the result at once, and the request is left under way. -/
theorem fetch_of_lookup_ok (x : Fetcher) {url : Url} {w : Web} {e : Cached}
    (hurl : url.scheme = "http" ∨ url.scheme = "https")
    (h : (x.cache.lookup w.files url.text).1 = .ok e) : ∃ events,
    x.fetch url w = (.ok ⟨url, .cache, none, e.body⟩,
      { w with pending := w.pending ++ [url], events }) := by
  have hfile : url.scheme ≠ "file" := by rcases hurl with h | h <;> rw [h] <;> decide
  simp only [fetch, obtain, if_neg hfile, if_pos hurl, lookup, Web.bind_apply, Web.get_apply,
    Web.pure_apply, h]
  exact ⟨_, rfl⟩

/-- Fetching obtains a text and logs it. -/
theorem fetch_eq (x : Fetcher) (url : Url) (w : Web) : ∃ events,
    x.fetch url w = ((x.obtain url w).1, { (x.obtain url w).2 with events }) := by
  unfold fetch
  rw [Web.bind_apply]
  generalize x.obtain url w = obtained
  obtain ⟨result | result, w'⟩ := obtained <;> exact ⟨_, rfl⟩

/-- Without a text from the cache, what is under way is done first and then the request decides. -/
theorem obtain_of_lookup_error (x : Fetcher) {url : Url} {w : Web} {e : CacheError}
    (hurl : url.scheme = "http" ∨ url.scheme = "https")
    (h : (x.cache.lookup w.files url.text).1 = .error e) : ∃ events,
    x.obtain url w = x.refresh url (x.settle { w with events }).2 := by
  have hfile : url.scheme ≠ "file" := by rcases hurl with h | h <;> rw [h] <;> decide
  refine ⟨w.events ++ (x.cache.lookup w.files url.text).2, ?_⟩
  simp only [obtain, if_neg hfile, if_pos hurl, lookup, Web.bind_apply, Web.get_apply,
    Web.logAll_apply, Web.pure_apply, h]

/-- Without a text from the cache and with nothing under way the answer to the request decides. -/
theorem fetch_of_lookup_error (x : Fetcher) {url : Url} {w : Web} {e : CacheError}
    (hurl : url.scheme = "http" ∨ url.scheme = "https")
    (h : (x.cache.lookup w.files url.text).1 = .error e) (hpending : w.pending = []) : ∃ events,
    x.fetch url w
      = ((x.cache.answered w.files w.now url (x.transport (x.cache.request w.files url))).1,
        { w with
          files := (x.cache.answered w.files w.now url (x.transport (x.cache.request w.files url))).2
          requests := w.requests ++ [x.cache.request w.files url]
          events }) := by
  obtain ⟨events, hfetch⟩ := x.fetch_eq url w
  obtain ⟨notes, hobtain⟩ := x.obtain_of_lookup_error hurl h
  obtain ⟨notes', hrefresh⟩ := x.refresh_eq url { w with events := notes }
  rw [x.settle_of_pending_nil (w := { w with events := notes }) hpending, hrefresh] at hobtain
  rw [hfetch, hobtain]
  exact ⟨events, rfl⟩

end Fetcher

/-- A call for what is at a URL. -/
structure Call where
  /-- Whether the server has to be asked. -/
  revalidates : Bool
  url : Url
  /-- The answers of the network while the call runs. -/
  transport : Transport
  now : Nat
  verbose : Bool

namespace Call

/-- Makes a call and goes on with the request that it leaves behind. -/
def run (c : Cache) (k : Call) : StateM Web (Except FetchError Fetched) := do
  let x : Fetcher := ⟨c, k.transport, k.verbose⟩
  modify fun w => { w with now := k.now }
  let result ← if k.revalidates then x.revalidate k.url else x.fetch k.url
  x.settle
  return result

/-- The answer that a call gets. -/
def answer (c : Cache) (f : Files) (k : Call) : Except String Response := k.transport (c.request f k.url)

/-- What a call comes to: what the cache has, or else what the answer comes to. -/
def result (c : Cache) (f : Files) (k : Call) : Except FetchError Fetched :=
  match k.revalidates, (c.lookup f k.url.text).1 with
  | false, .ok e => .ok ⟨k.url, .cache, none, e.body⟩
  | _, _ => (c.answered f k.now k.url (k.answer c f)).1

/-- **A call sends one request and takes in its answer**, also when its result comes from the cache. -/
theorem run_eq (c : Cache) {k : Call} (hurl : k.url.scheme = "http" ∨ k.url.scheme = "https") {w : Web}
    (hpending : w.pending = []) : ∃ events,
    k.run c w = (k.result c w.files,
      { w with
        files := (c.answered w.files k.now k.url (k.answer c w.files)).2
        requests := w.requests ++ [c.request w.files k.url]
        events, now := k.now }) := by
  obtain ⟨revalidates, url, transport, now, verbose⟩ := k
  let x : Fetcher := ⟨c, transport, verbose⟩
  let w₁ : Web := { w with now := now }
  cases revalidates with
  | true =>
    obtain ⟨events, hr⟩ := x.revalidate_eq url w₁
    have hsettle := x.settle_of_pending_nil (w := (x.revalidate url w₁).2) (by rw [hr]; exact hpending)
    have hrun : run c ⟨true, url, transport, now, verbose⟩ w
        = ((x.revalidate url w₁).1, (x.settle (x.revalidate url w₁).2).2) := by
      simp only [run, if_pos, Web.bind_apply, Web.modify_apply, Web.pure_apply, x, w₁]
    rw [hrun, hsettle, hr]
    exact ⟨_, rfl⟩
  | false =>
    have hrun : run c ⟨false, url, transport, now, verbose⟩ w
        = ((x.fetch url w₁).1, (x.settle (x.fetch url w₁).2).2) := by
      simp only [run, if_neg Bool.false_ne_true, Web.bind_apply, Web.modify_apply, Web.pure_apply, x, w₁]
    rw [hrun, result]
    cases hl : (c.lookup w.files url.text).1 with
    | ok e =>
      obtain ⟨events, hf⟩ := x.fetch_of_lookup_ok (w := w₁) hurl hl
      have hone : (x.fetch url w₁).2.pending = [url] := by rw [hf]; exact congrArg (· ++ [url]) hpending
      obtain ⟨events', hs⟩ := x.settle_of_pending_singleton hone
      rw [hs, hf, hpending]
      exact ⟨_, rfl⟩
    | error e =>
      obtain ⟨events, hf⟩ := x.fetch_of_lookup_error (w := w₁) hurl hl hpending
      have hsettle := x.settle_of_pending_nil (w := (x.fetch url w₁).2) (by rw [hf]; exact hpending)
      rw [hsettle, hf]
      exact ⟨_, rfl⟩

end Call
end ScriptImport
