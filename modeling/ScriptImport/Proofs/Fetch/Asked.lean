/-
# What the network is asked for

A fetch of an `http` or `https` URL asks the network once, whether the cache has an answer or not: either the request
is sent before the fetch ends, or it is left under way.  So the requests that were sent and those that are under way,
one after the other, are the URLs that the network was asked for (`Web.asked`); going on with requests moves them from
one side to the other (`Fetcher.asked_settle`), and nothing else but a fetch adds to them (`Fetcher.asked_fetch`).

Events are logged in between, which is of no consequence: fetching brings the same to webs that differ in their events
only (`Web.Unread.of_unlogged`).
-/

import ScriptImport.Proofs.Fetch.Record
import ScriptImport.Proofs.Module.Network

namespace ScriptImport

/-- Whether what is at a URL comes from the network. -/
def Url.isRemote (url : Url) : Bool := url.scheme = "http" || url.scheme = "https"

theorem Url.isRemote_iff {url : Url} : url.isRemote ↔ url.scheme = "http" ∨ url.scheme = "https" := by
  simp [isRemote]

/-! ### Events -/

namespace Web

/-- A web without the events that were logged. -/
def unlogged (w : Web) : Web := { w with events := [] }

variable {α : Type} {x : StateM Web α} {w w' : Web}

theorem behind_unlogged (w : Web) : behind ⟨.empty, [], [], w.events, 0⟩ w.unlogged = w := by
  simp [behind, unlogged]

theorem unlogged_behind (events : List Event) (w : Web) :
    (behind ⟨.empty, [], [], events, 0⟩ w).unlogged = w.unlogged := by
  simp [behind, unlogged]

/-- **What does not read the record** does the same to webs that differ in their events only. -/
theorem Unread.of_unlogged (hx : Unread x) (h : w.unlogged = w'.unlogged) :
    (x w).1 = (x w').1 ∧ (x w).2.unlogged = (x w').2.unlogged := by
  rw [← w.behind_unlogged, ← w'.behind_unlogged, hx, hx, h, unlogged_behind, unlogged_behind]
  exact ⟨rfl, rfl⟩

/-- The URLs that the network was asked for: those of the requests that were sent, and of those under way. -/
def asked (w : Web) : List Url := w.requests.map (·.url) ++ w.pending

end Web

/-! ### Fetching -/

namespace Fetcher

variable (x : Fetcher) (url : Url) (w : Web)

/-- Going on with a request sends it. -/
theorem requests_refresh :
    (x.refresh url w).2.requests.map (·.url) = w.requests.map (·.url) ++ [url] ∧
      (x.refresh url w).2.pending = w.pending := by
  obtain ⟨events, h⟩ := x.refresh_eq url w
  rw [h]
  exact ⟨by simp [Cache.request], rfl⟩

/-- **Going on with requests** sends those that are under way. -/
theorem requests_settle :
    (x.settle w).2.requests.map (·.url) = w.asked ∧ (x.settle w).2.pending = [] := by
  have hrun : ∀ (urls : List Url) (w : Web), w.pending = [] →
      let w' := (urls.forM (fun url => do let _ ← x.refresh url) w).2
      w'.requests.map (·.url) = w.requests.map (·.url) ++ urls ∧ w'.pending = [] := by
    intro urls
    induction urls with
    | nil => exact fun w hw => ⟨by simp [List.forM], hw⟩
    | cons url urls ih =>
      intro w hw
      obtain ⟨hsent, hpending⟩ := x.requests_refresh url w
      obtain ⟨hsent', hpending'⟩ := ih (x.refresh url w).2 (hpending.trans hw)
      simp only [List.forM, Web.bind_apply, Web.pure_apply] at hsent' hpending' ⊢
      refine ⟨?_, hpending'⟩
      rw [hsent', hsent, List.append_assoc, List.singleton_append]
  exact hrun w.pending { w with pending := [] } rfl

theorem asked_settle : (x.settle w).2.asked = w.asked := by
  obtain ⟨hsent, hpending⟩ := x.requests_settle w
  rw [Web.asked, hsent, hpending, List.append_nil]

/-- What is not on the network is read from the files once nothing is under way any more, or not at all. -/
theorem obtain_local (hurl : url.isRemote = false) :
    (x.obtain url w).2 = (x.settle w).2 ∨ (x.obtain url w).2 = w := by
  have hnone : ¬ (url.scheme = "http" ∨ url.scheme = "https") := by
    rw [← Url.isRemote_iff, hurl]
    exact Bool.false_ne_true
  unfold obtain
  by_cases hfile : url.scheme = "file"
  · rw [if_pos hfile]
    cases url.localPath? with
    | none => exact .inr rfl
    | some path =>
      simp only [Web.bind_apply, Web.get_apply]
      cases (x.settle w).2.files.readTextOfBytes path <;> exact .inl rfl
  · rw [if_neg hfile, if_neg hnone]
    exact .inr rfl

/-- **A fetch asks the network once** for a URL of the network, and otherwise not at all. -/
theorem asked_fetch : (x.fetch url w).2.asked = w.asked ++ [url].filter Url.isRemote := by
  obtain ⟨events, hfetch⟩ := x.fetch_eq url w
  have hasked : (x.fetch url w).2.asked = (x.obtain url w).2.asked := by rw [hfetch]; rfl
  cases hurl : url.isRemote with
  | false =>
    rw [hasked, List.filter_singleton, hurl, cond_false, List.append_nil]
    rcases x.obtain_local url w hurl with h | h
    · rw [h, x.asked_settle]
    · rw [h]
  | true =>
    rw [List.filter_singleton, hurl, cond_true]
    have hscheme := Url.isRemote_iff.1 hurl
    cases hlookup : (x.cache.lookup w.files url.text).1 with
    | ok cached =>
      obtain ⟨events, h⟩ := x.fetch_of_lookup_ok hscheme hlookup
      rw [h, Web.asked, Web.asked, List.append_assoc]
    | error e =>
      obtain ⟨events, h⟩ := x.obtain_of_lookup_error hscheme hlookup
      obtain ⟨hsent, hpending⟩ := x.requests_refresh url (x.settle { w with events }).2
      obtain ⟨hsettled, hnone⟩ := x.requests_settle { w with events }
      rw [hasked, h, Web.asked, hsent, hpending, hsettled, hnone, List.append_nil]
      rfl

/-- Once nothing is under way any more, fetching what is not on the network has changed nothing. -/
theorem settle_fetch_local (hurl : url.isRemote = false) :
    (x.settle (x.fetch url w).2).2.unlogged = (x.settle w).2.unlogged := by
  obtain ⟨events, hfetch⟩ := x.fetch_eq url w
  have hsame : (x.fetch url w).2.unlogged = (x.obtain url w).2.unlogged := by
    rw [hfetch]
    rfl
  rw [(x.unread_settle.of_unlogged hsame).2]
  rcases x.obtain_local url w hurl with h | h
  · rw [h, x.settle_of_pending_nil (x.requests_settle w).2]
  · rw [h]

/-! ### One fetch after the other -/

/-- The web after fetching some URLs, one after the other. -/
def after (x : Fetcher) (w : Web) (urls : List Url) : Web := urls.foldl (fun w url => (x.fetch url w).2) w

theorem after_append (urls urls' : List Url) : x.after w (urls ++ urls') = x.after (x.after w urls) urls' :=
  List.foldl_append

/-- Fetches do not read the record. -/
theorem after_behind (old w : Web) (urls : List Url) : x.after (old.behind w) urls = old.behind (x.after w urls) := by
  induction urls generalizing w with
  | nil => rfl
  | cons url urls ih =>
    rw [after, List.foldl_cons, ← after, x.unread_fetch, ih]
    rfl

/-- **Fetches ask the network** for those URLs that are on the network, in their order. -/
theorem asked_after (urls : List Url) : (x.after w urls).asked = w.asked ++ urls.filter Url.isRemote := by
  induction urls generalizing w with
  | nil => exact (List.append_nil _).symm
  | cons url urls ih =>
    rw [after, List.foldl_cons, ← after, ih, asked_fetch, List.append_assoc, ← List.filter_append]
    rfl

theorem settle_after_local {urls : List Url} (hurls : ∀ url ∈ urls, url.isRemote = false) :
    (x.settle (x.after w urls)).2.unlogged = (x.settle w).2.unlogged := by
  induction urls generalizing w with
  | nil => rfl
  | cons url urls ih =>
    rw [List.forall_mem_cons] at hurls
    exact (ih (x.fetch url w).2 hurls.2).trans (x.settle_fetch_local url w hurls.1)

/-- **Once nothing is under way any more,** the requests that were sent since are those that were under way before the
fetches and one for each of the URLs that are on the network. -/
theorem requests_after (urls : List Url) : ∃ sent,
    (x.settle (x.after w urls)).2.requests = w.requests ++ sent ∧
      sent.map (·.url) = w.pending ++ urls.filter Url.isRemote := by
  let fresh : Web := { w with requests := [], events := [] }
  have hbehind : w.behind fresh = w := by simp [fresh, Web.behind]
  refine ⟨(x.settle (x.after fresh urls)).2.requests, ?_, ?_⟩
  · nth_rewrite 1 [← hbehind]
    rw [x.after_behind, x.unread_settle]
    rfl
  · rw [(x.requests_settle _).1, x.asked_after]
    rfl

/-- A URL at which no texts are is not fetched. -/
theorem fetch_of_not_hasText (h : ¬ url.HasText) : (x.fetch url w).2 = w := by
  unfold Url.HasText at h
  have hfile : ¬ url.scheme = "file" := fun hscheme => h (.inr (.inr hscheme))
  have hnetwork : ¬ (url.scheme = "http" ∨ url.scheme = "https") := fun hscheme => h (hscheme.imp_right .inl)
  simp only [fetch, obtain, if_neg hfile, if_neg hnetwork, Web.bind_apply, Web.pure_apply]

end Fetcher
end ScriptImport
