/-
# What the cache has is what the servers said

The calls that were made leave a history: the requests that were sent and their answers (`exchanges`).  From
an empty cache, the history says what is in the cache (`Leaves`): a URL has an entry if one of its requests
succeeded; the body is the one of the last success; a validator is the last one that this success and the
answers after it that confirmed the entry have brought.  One answer keeps that true (`Leaves.append`), so
calls do (`Reflects.after`), and the next call is about such an entry (`Call.after_history`).
-/

import ScriptImport.Proofs.Fetch.Run

namespace ScriptImport

open Cache

/-- A request and its answer. -/
structure Exchange where
  request : Request
  answer : Except String Response

/-- The responses to the requests for a URL. -/
def responses (url : String) (history : List Exchange) : List Response :=
  history.filterMap fun x => if x.request.url.text = url then x.answer.toOption else none

/-- The requests that are sent during calls, with their answers. -/
def Call.exchanges (c : Cache) (w : Web) : List Call → List Exchange
  | [] => []
  | k :: ks =>
    let w' := (k.run c w).2
    (w'.requests.drop w.requests.length).map (fun r => ⟨r, k.transport r⟩) ++ exchanges c w' ks

/-- What the responses for a URL leave in the cache. -/
structure Leaves (responses : List Response) (entry : Option Cached) : Prop where
  isSome_iff : entry.isSome ↔ ∃ r ∈ responses, r.isSuccess
  /-- The last success and the confirmations after it make the entry. -/
  last : ∀ earlier r later, responses = earlier ++ r :: later → r.isSuccess →
    (∀ s ∈ later, ¬ s.isSuccess) → ∃ e, entry = some e ∧ e.body = r.body ∧
      ∀ name, Dict.get? e.metadata.headers name
        = (r :: later.filter (·.isUnchanged)).reverse.findSome? fun s =>
          Dict.get? (Metadata.validators s.headers) name

theorem leaves_nil : Leaves [] none where
  isSome_iff := by simp
  last := fun earlier r later h => absurd h (by simp)

/-- Where one more response stands in a history that is taken apart: at the end of what comes later, or it
is the response that was singled out. -/
theorem append_singleton_eq {rs earlier later : List Response} {r q : Response}
    (h : rs ++ [r] = earlier ++ q :: later) :
    (later = [] ∧ q = r) ∨ ∃ later', later = later' ++ [r] ∧ rs = earlier ++ q :: later' := by
  rcases List.eq_nil_or_concat' later with rfl | ⟨later', s, rfl⟩
  · exact .inl ⟨rfl, (List.append_singleton_inj.1 h).2.symm⟩
  · rw [← List.cons_append, ← List.append_assoc] at h
    obtain ⟨hrs, rfl⟩ := List.append_singleton_inj.1 h
    exact .inr ⟨later', rfl, hrs⟩

/-- **One more response** moves the entry. -/
theorem Leaves.append {rs : List Response} {entry : Option Cached} (h : Leaves rs entry) (c : Cache)
    (url : String) (now : Nat) (r : Response) : Leaves (rs ++ [r]) (c.next url now entry (.ok r)) := by
  unfold Cache.next
  by_cases hs : r.isSuccess
  · simp only [if_pos hs]
    refine ⟨⟨fun _ => ⟨r, by simp, hs⟩, fun _ => rfl⟩, fun earlier q later heq _ hlater => ?_⟩
    rcases append_singleton_eq heq with ⟨rfl, rfl⟩ | ⟨later', rfl, -⟩
    · refine ⟨_, rfl, rfl, fun name => ?_⟩
      cases hget : Dict.get? (Metadata.validators q.headers) name <;> simp [newMetadata, Metadata.new, hget]
    · exact absurd hs (hlater r (by simp))
  simp only [if_neg hs]
  have hmem : (∃ s ∈ rs ++ [r], s.isSuccess) ↔ ∃ s ∈ rs, s.isSuccess := by simp [hs]
  by_cases hu : r.isUnchanged
  · simp only [if_pos hu]
    refine ⟨by rw [Option.isSome_map, hmem]; exact h.isSome_iff, fun earlier q later heq hq hlater => ?_⟩
    rcases append_singleton_eq heq with ⟨-, rfl⟩ | ⟨later', rfl, hrs⟩
    · exact absurd hq hs
    obtain ⟨e, rfl, hbody, hheaders⟩ := h.last earlier q later' hrs hq fun s hs => hlater s (by simp [hs])
    refine ⟨_, rfl, hbody, fun name => ?_⟩
    rw [Metadata.get?_refreshed, hheaders, List.filter_append, List.filter_singleton, hu, cond_true,
      ← List.cons_append, List.reverse_append, List.reverse_singleton, List.singleton_append,
      List.findSome?_cons]
    cases Dict.get? (Metadata.validators r.headers) name <;> rfl
  · simp only [if_neg hu]
    refine ⟨by rw [hmem]; exact h.isSome_iff, fun earlier q later heq hq hlater => ?_⟩
    rcases append_singleton_eq heq with ⟨-, rfl⟩ | ⟨later', rfl, hrs⟩
    · exact absurd hq hs
    obtain ⟨e, he, hbody, hheaders⟩ := h.last earlier q later' hrs hq fun s hs => hlater s (by simp [hs])
    refine ⟨e, he, hbody, fun name => ?_⟩
    rw [hheaders, List.filter_append, List.filter_singleton, Bool.eq_false_iff.2 hu, cond_false,
      List.append_nil]

/-- The files of the cache hold what a history leaves. -/
structure Reflects (c : Cache) (urls : Set String) (w : Web) (history : List Exchange) : Prop where
  pending : w.pending = []
  entries : ∃ entries, c.Holds urls w.files entries ∧
    ∀ url ∈ urls, Leaves (responses url history) (entries url)

theorem responses_append (url : String) (history : List Exchange) (x : Exchange) :
    responses url (history ++ [x])
      = responses url history ++ if x.request.url.text = url then x.answer.toOption.toList else [] := by
  rw [responses, responses, List.filterMap_append]
  by_cases h : x.request.url.text = url
  · cases ha : x.answer <;> simp [h, ha, Except.toOption]
  · simp [h]

/-- One more answer moves the entry of its URL. -/
theorem Leaves.answered {url : Url} {history : List Exchange} {entries : String → Option Cached}
    {v : String} (h : Leaves (responses v history) (entries v)) (c : Cache) (now : Nat) (x : Exchange)
    (hx : x.request.url = url) : Leaves (responses v (history ++ [x]))
      (Function.update entries url.text (c.next url.text now (entries url.text) x.answer) v) := by
  rw [responses_append, hx]
  by_cases hv : url.text = v
  · subst hv
    rw [if_pos rfl, Function.update_self]
    cases x.answer with
    | error reason =>
      rw [Except.toOption, Option.toList_none, List.append_nil]
      exact h
    | ok r => exact h.append c url.text now r
  · rw [if_neg hv, List.append_nil, Function.update_of_ne (Ne.symm hv)]
    exact h

namespace Call

variable {c : Cache} {urls : Set String} {w : Web} {history : List Exchange}

/-- **A call adds its request and the answer to the history.** -/
theorem reflects_run (h : Reflects c urls w history) (hdigest : Set.InjOn digest urls) {k : Call}
    (hk : k.Within urls) : Reflects c urls (k.run c w).2 (history ++ exchanges c w [k]) := by
  obtain ⟨entries, hholds, hleaves⟩ := h.entries
  obtain ⟨g, events, hrun, -, hholds'⟩ := run_of_holds hholds hdigest hk h.pending
  have hexchanges : exchanges c w [k]
      = [⟨requestOf k.url (entries k.url.text), k.answerFor (entries k.url.text)⟩] := by
    rw [exchanges, exchanges, hrun, List.drop_left]
    rfl
  rw [hexchanges, hrun]
  exact ⟨h.pending, _, hholds', fun v hv => (hleaves v hv).answered c k.now
    ⟨requestOf k.url (entries k.url.text), k.answerFor (entries k.url.text)⟩ rfl⟩

theorem exchanges_cons (c : Cache) (w : Web) (k : Call) (ks : List Call) :
    exchanges c w (k :: ks) = exchanges c w [k] ++ exchanges c (k.run c w).2 ks := by
  rw [exchanges, exchanges, exchanges, List.append_nil]

/-- Calls add what they sent and what was answered to the history. -/
theorem reflects_after (hdigest : Set.InjOn digest urls) {ks : List Call}
    (hks : ∀ k ∈ ks, k.Within urls) (h : Reflects c urls w history) :
    Reflects c urls (after c w ks) (history ++ exchanges c w ks) := by
  induction ks generalizing w history with
  | nil =>
    rw [exchanges, List.append_nil]
    exact h
  | cons k ks ih =>
    rw [exchanges_cons, ← List.append_assoc]
    exact ih (fun k' hk' => hks k' (by simp [hk'])) (reflects_run h hdigest (hks k (by simp)))

end Call

/-- The validators of an entry are what a request carries, and there are no other headers. -/
structure Request.Carries (r : Request) (entry : Option Cached) : Prop where
  etag : headerValue? r.headers "if-none-match" = entry.bind (·.metadata.etag?)
  lastModified : headerValue? r.headers "if-modified-since" = entry.bind (·.metadata.lastModified?)
  names : (r.headers.map (·.1)).Sublist ["if-none-match", "if-modified-since"]

theorem carries_requestOf (url : Url) (entry : Option Cached) : (requestOf url entry).Carries entry := by
  have hne : lowerAscii "if-modified-since" ≠ lowerAscii "if-none-match" := by decide +kernel
  cases entry with
  | none => exact ⟨rfl, rfl, List.nil_sublist _⟩
  | some e =>
    have hheaders : (requestOf url (some e)).headers = e.metadata.conditions := rfl
    refine ⟨?_, ?_, ?_⟩ <;>
      simp only [hheaders, Metadata.conditions, Option.bind_some] <;>
      generalize e.metadata.etag? = etag, e.metadata.lastModified? = lastModified <;>
      cases etag <;> cases lastModified <;>
      simp [headerValue?, hne, hne.symm]

/-- An empty cache in which what is at some URLs can be stored, and no request under way.  The digests of
the URLs differ. -/
structure Fresh (c : Cache) (urls : Set String) (w : Web) : Prop where
  empty : c.IsEmpty w.files
  stores : ∀ url ∈ urls, ∃ body headers now, (c.store w.files url body headers now).1.isOk
  digests : Set.InjOn digest urls
  pending : w.pending = []

/-- A cache for two URLs before the first call. -/
theorem fresh_empty : Fresh ⟨"/cache"⟩ {"http://a/", "http://b/"} ⟨Files.empty, [], [], [], 0⟩ where
  empty := fun name => by
    rw [Files.entry?, if_neg (by simp)]
    rfl
  stores := by
    rintro url (rfl | rfl) <;> exact ⟨"", [], 0, by decide +kernel⟩
  digests := by
    have hne : digest "http://a/" ≠ digest "http://b/" := by decide +kernel
    rintro u (rfl | rfl) v (rfl | rfl) h
    · rfl
    · exact absurd h hne
    · exact absurd h.symm hne
    · rfl
  pending := rfl

theorem Fresh.reflects {c : Cache} {urls : Set String} {w : Web} (h : Fresh c urls w)
    (hurls : urls.Nonempty) : Reflects c urls w [] :=
  ⟨h.pending, _, holds_of_isEmpty h.empty hurls h.stores, fun _ _ => leaves_nil⟩

/-- What a call does: it sends one request with the validators of the entry of its URL, and the entry and
the answer decide the result.  An answer that neither brings a body nor confirms one changes no file. -/
def Call.Follows (k : Call) (c : Cache) (w : Web) : Prop :=
  ∃ r : Request, r.url = k.url ∧ r.Carries (c.found? w.files k.url.text) ∧
    (k.run c w).2.requests = w.requests ++ [r] ∧
    (k.run c w).1 = k.expected (c.found? w.files k.url.text) (k.transport r) ∧
    ((∀ s, k.transport r = .ok s → ¬ s.isSuccess ∧ ¬ s.isUnchanged) → (k.run c w).2.files = w.files)

namespace Call

variable {c : Cache} {urls : Set String} {w : Web} {history : List Exchange}

theorem follows_of_reflects (h : Reflects c urls w history) (hdigest : Set.InjOn digest urls) {k : Call}
    (hk : k.Within urls) : k.Follows c w := by
  obtain ⟨entries, hholds, -⟩ := h.entries
  obtain ⟨g, events, hrun, hg, -⟩ := run_of_holds hholds hdigest hk h.pending
  have hentry := hholds.found?_eq hk.url
  refine ⟨requestOf k.url (entries k.url.text), rfl, ?_, ?_, ?_, fun hidle => ?_⟩
  · rw [hentry]
    exact carries_requestOf k.url _
  · rw [hrun]
  · rw [hrun, hentry]
    rfl
  · rw [hrun, ← hg, answerFor]
    cases ha : k.transport (requestOf k.url (entries k.url.text)) with
    | error reason => rfl
    | ok s =>
      obtain ⟨hs, hu⟩ := hidle s ha
      rw [answered, if_neg hs, if_neg hu]

/-- **The history of the answers is what is in the cache.**  After any calls from an empty cache, a URL has an
entry if a request for it succeeded, the entry has the body of the last success and the validators that
came with it and with the confirmations after it, and the next call goes by that entry. -/
theorem after_history (hw : Fresh c urls w) {ks : List Call} (hks : ∀ k ∈ ks, k.Within urls) :
    (∀ url ∈ urls, Leaves (responses url (exchanges c w ks)) (c.found? (after c w ks).files url)) ∧
      ∀ k : Call, k.Within urls → k.Follows c (after c w ks) := by
  have hreflects : urls.Nonempty → Reflects c urls (after c w ks) (exchanges c w ks) := fun hurls =>
    reflects_after hw.digests hks (hw.reflects hurls)
  refine ⟨fun url hurl => ?_, fun k hk => follows_of_reflects (hreflects ⟨_, hk.url⟩) hw.digests hk⟩
  obtain ⟨entries, hholds, hleaves⟩ := (hreflects ⟨url, hurl⟩).entries
  rw [hholds.found?_eq hurl]
  exact hleaves url hurl

/-- A fetch that brings a text with a tag, and a request that finds it unchanged. -/
theorem after_history_unchanged :
    let url : Url := ⟨"http", some ⟨"", none, "a", none⟩, .segments [""], none, none⟩
    let ks : List Call :=
      [⟨false, url, fun _ => .ok ((Response.plain 200 "text").withHeader "ETag" "1"), 1, false⟩,
        ⟨true, url, fun _ => .ok (Response.plain 304 ""), 2, false⟩]
    let w : Web := ⟨Files.empty, [], [], [], 0⟩
    let urls : Set String := {"http://a/", "http://b/"}
    (∀ k ∈ ks, k.Within urls) ∧
      (∀ url ∈ urls, Leaves (responses url (exchanges ⟨"/cache"⟩ w ks))
        (Cache.found? ⟨"/cache"⟩ (after ⟨"/cache"⟩ w ks).files url)) ∧
      ∀ k : Call, k.Within urls → k.Follows ⟨"/cache"⟩ (after ⟨"/cache"⟩ w ks) := by
  intro url ks w urls
  have htext : url.text = "http://a/" := by decide +kernel
  have hks : ∀ k ∈ ks, k.Within urls := by
    intro k hk
    rcases List.mem_pair.1 hk with rfl | rfl <;> exact ⟨.inl htext, .inl rfl, by decide⟩
  exact ⟨hks, after_history fresh_empty hks⟩

end Call
end ScriptImport
