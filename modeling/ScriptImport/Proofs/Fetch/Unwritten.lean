/-
# What cannot be written

The cache is there to help: whether it can be written makes no difference to a response that has a body, to a failure,
and to an answer that confirms nothing.  But a server that confirms an entry sends no body, and the body of the entry
is only given out once the new validators are written (`Cache.touch`).  So if just that file cannot be written, what
the cache has and the server has confirmed comes to an error (`Fetcher.revalidate_eq_iff`).

Paths that cannot be written are locked.  Nothing that is read depends on them (`readText_lock`).
-/

import ScriptImport.Proofs.Fetch.LostBody

namespace ScriptImport

/-- The same directories and files, where these paths are locked. -/
def Files.lock (f : Files) (paths : List String) : Files := { f with locked := paths }

namespace Files

variable (f : Files) (paths : List String)

theorem walk_lock (place : Place) (parts : List String) : (f.lock paths).walk place parts = f.walk place parts := by
  induction parts generalizing place with
  | nil => rfl
  | cons part rest ih =>
    rw [walk_cons, walk_cons]
    exact congrArg (f.step place part >>= ·) (funext ih)

theorem readText_lock (path : String) : (f.lock paths).readText path = f.readText path := by
  have place : (f.lock paths).place path = f.place path := by
    unfold Files.place
    rw [walk_lock]
  unfold readText read
  rw [place]
  rfl

end Files

open Files

namespace Cache

variable (c : Cache) (f : Files) (paths : List String) (url : String)

theorem metadata?_lock : c.metadata? (f.lock paths) url = c.metadata? f url := by
  unfold metadata?
  rw [readText_lock]

theorem lookup_lock : c.lookup (f.lock paths) url = c.lookup f url := by
  unfold lookup
  rw [metadata?_lock]
  simp only [readText_lock]

theorem request_lock (url : Url) : c.request (f.lock paths) url = c.request f url := by
  rw [request, metadata?_lock, request]

/-- **Touching what a look-up finds** gives it out, unless the metadata are locked. -/
theorem touch_of_lookup {cached : Cached} (found : (c.lookup f url).1 = .ok cached) (headers : Dict String)
    (now : Nat) :
    (pathOf (c.metadataPlace url) ∈ f.locked → ∃ e, (c.touch f url headers now).1 = .error e) ∧
      (pathOf (c.metadataPlace url) ∉ f.locked →
        (c.touch f url headers now).1 = .ok ⟨cached.metadata.refreshed headers now, cached.body⟩) := by
  cases metadata : (c.metadata? f url).1 with
  | none =>
    rw [lookup_of_none metadata] at found
    exact absurd found (by simp)
  | some m =>
    obtain ⟨text, read⟩ := readText_of_metadata? metadata
    refine ⟨fun isLocked => (touch_error_iff metadata headers now).2 (.inr isLocked), fun free => ?_⟩
    have written := writeText_eq (writable_of_readText read ((descend_metadataPath c url).symm ▸ free))
      (cached.metadata.refreshed headers now).text
    unfold touch
    rw [eq_mk_of_fst found]
    dsimp only
    rw [written]

variable {c f paths} {url : Url} {now : Nat}

/-- Where an entry is not confirmed, what is locked makes no difference. -/
theorem answered_lock_eq {a : Except String Response}
    (unconfirmed : ∀ r cached, a = .ok r → r.isUnchanged → (c.lookup f url.text).1 ≠ .ok cached) :
    (c.answered (f.lock paths) now url a).1 = (c.answered f now url a).1 := by
  cases a with
  | error reason => rfl
  | ok r =>
    unfold answered
    dsimp only
    by_cases success : r.isSuccess
    · rw [if_pos success, if_pos success]
    by_cases unchanged : r.isUnchanged
    · rw [if_neg success, if_pos unchanged, if_neg success, if_pos unchanged]
      cases found : (c.lookup f url.text).1 with
      | ok cached => exact absurd found (unconfirmed r cached rfl unchanged)
      | error e =>
        unfold touch
        rw [lookup_lock, eq_mk_of_fst found]
    · rw [if_neg success, if_neg unchanged, if_neg success, if_neg unchanged]

end Cache

/-- The same, where these paths of the files are locked. -/
def Web.lock (w : Web) (paths : List String) : Web := { w with files := w.files.lock paths }

namespace Fetcher

/-- The server says that nothing has changed, and the cache has an entry. -/
structure Confirms (x : Fetcher) (f : Files) (url : Url) (r : Response) (cached : Cached) : Prop where
  answer : x.transport (x.cache.request f url) = .ok r
  unchanged : r.isUnchanged
  found : (x.cache.lookup f url.text).1 = .ok cached

variable {x : Fetcher} {w : Web} {url : Url} {r : Response} {cached : Cached} (paths : List String)

theorem revalidate_lock_fst : (x.revalidate url (w.lock paths)).1 =
    (x.cache.answered (w.files.lock paths) w.now url (x.transport (x.cache.request w.files url))).1 := by
  obtain ⟨events, run⟩ := x.revalidate_eq url (w.lock paths)
  rw [run, ← Cache.request_lock x.cache w.files paths url]
  rfl

/-- **A confirmed entry is given out** unless its metadata are locked. -/
theorem Confirms.revalidate (confirms : x.Confirms w.files url r cached) :
    (x.revalidate url (w.lock paths)).1 =
      if pathOf (x.cache.metadataPlace url.text) ∈ paths then .error ⟨url, .status r.status r.reason⟩
      else .ok ⟨url, .revalidated, some r.status, cached.body⟩ := by
  have found : (x.cache.lookup (w.files.lock paths) url.text).1 = .ok cached := by
    rw [Cache.lookup_lock]
    exact confirms.found
  obtain ⟨lost, kept⟩ := Cache.touch_of_lookup x.cache (w.files.lock paths) url.text found r.headers w.now
  rw [revalidate_lock_fst, confirms.answer]
  unfold Cache.answered
  dsimp only
  rw [if_neg (not_isSuccess_of_isUnchanged confirms.unchanged), if_pos confirms.unchanged]
  by_cases isLocked : pathOf (x.cache.metadataPlace url.text) ∈ paths
  · obtain ⟨e, failed⟩ := lost isLocked
    rw [if_pos isLocked, Cache.eq_mk_of_fst failed]
  · rw [if_neg isLocked, Cache.eq_mk_of_fst (kept isLocked)]

/-- **Only a confirmed entry is lost to what cannot be written:** whatever is locked, revalidating comes to the same as
if nothing were, except where a server confirms an entry whose metadata are locked. -/
theorem revalidate_eq_iff : (x.revalidate url (w.lock paths)).1 = (x.revalidate url (w.lock [])).1 ↔
    ¬ ((∃ r cached, x.Confirms w.files url r cached) ∧ pathOf (x.cache.metadataPlace url.text) ∈ paths) := by
  by_cases confirmed : ∃ r cached, x.Confirms w.files url r cached
  · obtain ⟨r, cached, confirms⟩ := confirmed
    rw [confirms.revalidate paths, confirms.revalidate [], if_neg List.not_mem_nil]
    by_cases isLocked : pathOf (x.cache.metadataPlace url.text) ∈ paths
    · rw [if_pos isLocked]
      exact iff_of_false (by simp) (not_not.2 ⟨⟨r, cached, confirms⟩, isLocked⟩)
    · rw [if_neg isLocked]
      exact iff_of_true rfl fun both => isLocked both.2
  · have unconfirmed : ∀ r cached, x.transport (x.cache.request w.files url) = .ok r → r.isUnchanged →
        (x.cache.lookup w.files url.text).1 ≠ .ok cached :=
      fun r cached answer unchanged found => confirmed ⟨r, cached, answer, unchanged, found⟩
    rw [revalidate_lock_fst, revalidate_lock_fst, Cache.answered_lock_eq unconfirmed,
      Cache.answered_lock_eq unconfirmed]
    exact iff_of_true rfl fun both => confirmed both.1

/-- A cache with an entry. -/
def bodied : Files :=
  ⟨[("/cache", .directory), ("/cache/FAVDLV5A3JVOJDXOCFVNMGJ7VBQ33CEVRJGDRKAEF5TRF3MUOT3Q.json",
    .file Call.tagged.text.toUTF8), ("/cache/body", .file "one".toUTF8)], []⟩

/-- **A confirmed text is lost** for want of a place for its validators, though the cache has it and can read it. -/
theorem confirmed_text_lost :
    let url : Url := ⟨"http", some ⟨"", none, "a", none⟩, .segments [""], none, none⟩
    let x : Fetcher := ⟨⟨"/cache"⟩, fun _ => .ok (Response.plain 304 ""), false⟩
    let w : Web := ⟨bodied, [], [], [], 0⟩
    (x.revalidate url (w.lock [])).1 = .ok ⟨url, .revalidated, some 304, "one"⟩ ∧
      (x.revalidate url (w.lock [pathOf (x.cache.metadataPlace url.text)])).1 =
        .error ⟨url, .status 304 "Not Modified"⟩ := by
  intro url x w
  have text : url.text = "http://a/" := by decide +kernel
  have metadata : (x.cache.metadata? bodied url.text).1 = some Call.tagged := by
    rw [text]
    decide +kernel
  have body : bodied.readText Call.tagged.file = .ok "one" := by decide +kernel
  have confirms : x.Confirms w.files url (Response.plain 304 "") ⟨Call.tagged, "one"⟩ :=
    ⟨rfl, rfl, Cache.lookup_of_readText metadata body⟩
  rw [confirms.revalidate [], confirms.revalidate [_], if_neg List.not_mem_nil, if_pos (List.mem_singleton_self _)]
  exact ⟨rfl, rfl⟩

end Fetcher
end ScriptImport
