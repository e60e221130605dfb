/-
# Calls in terms of entries

When the files of the cache hold the entries of a map, a call is about the map alone: the validators of the
entry are what the request carries, and the entry and the answer decide the result and the next entry
(`Call.run_of_holds`).

| answer | result | next entry |
| --- | --- | --- |
| success | its body | its body, its validators |
| nothing has changed, and there is an entry | the body of the entry | its validators over those of the entry |
| anything else | an error | the entry as it is |
-/

import ScriptImport.Proofs.Fetch.Cache
import ScriptImport.Proofs.Fetch.Call

namespace ScriptImport

open Cache

/-- What is in the cache about a URL. -/
def Cache.found? (c : Cache) (f : Files) (url : String) : Option Cached := (c.lookup f url).1.toOption

/-- The request for a URL that has an entry, or none. -/
def requestOf (url : Url) (entry : Option Cached) : Request :=
  ⟨url, (entry.map (·.metadata.conditions)).getD []⟩

/-- What an answer comes to. -/
def outcome (url : Url) (entry : Option Cached) : Except String Response → Except FetchError Fetched
  | .error reason => .error ⟨url, .transport reason⟩
  | .ok r =>
    if r.isSuccess then .ok ⟨url, .network, some r.status, r.body⟩
    else if r.isUnchanged then
      match entry with
      | some e => .ok ⟨url, .revalidated, some r.status, e.body⟩
      | none => .error ⟨url, .status r.status r.reason⟩
    else .error ⟨url, .status r.status r.reason⟩

/-- The entry of a URL after an answer. -/
def Cache.next (c : Cache) (url : String) (now : Nat) (entry : Option Cached) :
    Except String Response → Option Cached
  | .error _ => entry
  | .ok r =>
    if r.isSuccess then some ⟨c.newMetadata url r.headers now, r.body⟩
    else if r.isUnchanged then entry.map fun e => ⟨e.metadata.refreshed r.headers now, e.body⟩
    else entry

namespace Cache

variable {c : Cache} {f : Files} {urls : Set String} {entries : String → Option Cached}

theorem Holds.found?_eq (h : c.Holds urls f entries) {url : String} (hurl : url ∈ urls) :
    c.found? f url = entries url := by
  rw [found?, h.lookup_eq hurl]
  cases entries url <;> rfl

theorem Holds.request_eq (h : c.Holds urls f entries) {url : Url} (hurl : url.text ∈ urls) :
    c.request f url = requestOf url (entries url.text) := by
  rw [request, requestOf, h.metadata?_eq hurl, Option.map_map]
  rfl

/-- **An answer moves the entry of its URL** and nothing else. -/
theorem Holds.answered (h : c.Holds urls f entries) (hdigest : Set.InjOn digest urls) {url : Url}
    (hurl : url.text ∈ urls) {now : Nat} (hnow : now ≤ Json.maxSignificand) (a : Except String Response) :
    ∃ g, c.answered f now url a = (outcome url (entries url.text) a, g) ∧
      c.Holds urls g (Function.update entries url.text (c.next url.text now (entries url.text) a)) := by
  cases a with
  | error reason => exact ⟨f, rfl, by rw [next, Function.update_eq_self]; exact h⟩
  | ok r =>
    by_cases hs : r.isSuccess
    · obtain ⟨g, hg, hholds⟩ := h.store hurl hdigest r.body r.headers hnow
      refine ⟨g, ?_, ?_⟩
      · unfold Cache.answered outcome
        simp only [if_pos hs, hg]
      · rw [next, if_pos hs]
        exact hholds
    by_cases hu : r.isUnchanged
    · cases he : entries url.text with
      | none =>
        have hnone : (c.metadata? f url.text).1 = none := by rw [h.metadata?_eq hurl, he]; rfl
        refine ⟨f, ?_, ?_⟩
        · rw [Cache.answered, outcome, if_neg hs, if_neg hs, if_pos hu, if_pos hu, touch_of_none hnone]
        · rw [next, if_neg hs, if_pos hu, Option.map_none, ← he, Function.update_eq_self]
          exact h
      | some e =>
        obtain ⟨g, hg, hholds⟩ := h.touch hurl hdigest he r.headers hnow
        refine ⟨g, ?_, ?_⟩
        · rw [Cache.answered, outcome, if_neg hs, if_neg hs, if_pos hu, if_pos hu, hg]
        · rw [next, if_neg hs, if_pos hu]
          exact hholds
    · refine ⟨f, ?_, ?_⟩
      · unfold Cache.answered outcome
        simp only [if_neg hs, if_neg hu]
      · rw [next, if_neg hs, if_neg hu, Function.update_eq_self]
        exact h

end Cache

namespace Call

/-- A call on one of some URLs, at a time that a word of 64 bits holds. -/
structure Within (urls : Set String) (k : Call) : Prop where
  url : k.url.text ∈ urls
  scheme : k.url.scheme = "http" ∨ k.url.scheme = "https"
  now : k.now < 2 ^ 64

/-- What a call comes to, given the entry of its URL and the answer to its request. -/
def expected (k : Call) (entry : Option Cached) (a : Except String Response) :
    Except FetchError Fetched :=
  match k.revalidates, entry with
  | false, some e => .ok ⟨k.url, .cache, none, e.body⟩
  | _, _ => outcome k.url entry a

/-- The answer to a call when its URL has an entry, or none. -/
def answerFor (k : Call) (entry : Option Cached) : Except String Response :=
  k.transport (requestOf k.url entry)

variable {c : Cache} {urls : Set String} {entries : String → Option Cached} {k : Call} {w : Web}

/-- **A call is about the entries.** -/
theorem run_of_holds (h : c.Holds urls w.files entries) (hdigest : Set.InjOn digest urls)
    (hk : k.Within urls) (hpending : w.pending = []) : ∃ g events,
    k.run c w = (k.expected (entries k.url.text) (k.answerFor (entries k.url.text)),
      { w with
        files := g
        requests := w.requests ++ [requestOf k.url (entries k.url.text)]
        events, now := k.now }) ∧
      (c.answered w.files k.now k.url (k.answerFor (entries k.url.text))).2 = g ∧
      c.Holds urls g (Function.update entries k.url.text
        (c.next k.url.text k.now (entries k.url.text) (k.answerFor (entries k.url.text)))) := by
  have hnow : k.now ≤ Json.maxSignificand := Nat.le_sub_one_of_lt hk.now
  have hanswer : k.answer c w.files = k.answerFor (entries k.url.text) := by
    rw [answer, answerFor, h.request_eq hk.url]
  obtain ⟨events, hrun⟩ := run_eq c hk.scheme hpending
  obtain ⟨g, hg, hholds⟩ := h.answered hdigest hk.url hnow (k.answerFor (entries k.url.text))
  refine ⟨g, events, ?_, by rw [hg], hholds⟩
  unfold result expected at *
  rw [hrun, hanswer, hg, h.request_eq hk.url, h.lookup_eq hk.url]
  cases k.revalidates <;> cases entries k.url.text <;> rfl

/-- The web after some calls. -/
def after (c : Cache) (w : Web) (ks : List Call) : Web := ks.foldl (fun w k => (k.run c w).2) w

end Call
end ScriptImport
