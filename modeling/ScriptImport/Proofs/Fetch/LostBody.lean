/-
# Metadata whose body is lost

A request carries the validators of readable metadata, whether the body that they point to can be read or
not; a confirmation is of use only if it can.  So a URL whose body is lost while its metadata are not
(`Cache.LostBody`) is asked for with validators although looking it up misses, and a server that finds them
up to date confirms a text that is not there.  That failure changes no file, so it stays
(`Call.unfetchable_iff`), and nothing else makes a URL unfetchable (`Call.lost_body`).
-/

import ScriptImport.Proofs.Fetch.Run

namespace ScriptImport

open Files

namespace Cache

/-- The metadata of a URL can be read and the body that they point to cannot. -/
def LostBody (c : Cache) (f : Files) (url : String) (m : Metadata) : Prop :=
  (c.metadata? f url).1 = some m ∧ ∃ e, f.readText m.file = .error e

variable {c : Cache} {f : Files} {url : String} {m : Metadata}

/-- What a look-up finds, with the notes beside it. -/
theorem eq_mk_of_fst {α β : Type} {p : α × β} {a : α} (h : p.1 = a) : p = (a, p.2) := by rw [← h]

theorem lookup_of_readText {body : String} (hm : (c.metadata? f url).1 = some m)
    (hbody : f.readText m.file = .ok body) : (c.lookup f url).1 = .ok ⟨m, body⟩ := by
  unfold lookup
  rw [eq_mk_of_fst hm]
  dsimp only
  rw [hbody]

theorem LostBody.lookup (h : c.LostBody f url m) : (c.lookup f url).1 = .error (.miss url) := by
  obtain ⟨hm, e, hbody⟩ := h
  unfold Cache.lookup
  rw [eq_mk_of_fst hm]
  dsimp only
  rw [hbody]

/-- **Looking up misses** without metadata and with a lost body. -/
theorem lookup_error_iff : (∃ e, (c.lookup f url).1 = .error e) ↔
    (c.metadata? f url).1 = none ∨ ∃ m, c.LostBody f url m := by
  constructor
  · rintro ⟨e, he⟩
    cases hm : (c.metadata? f url).1 with
    | none => exact .inl rfl
    | some m =>
      cases hbody : f.readText m.file with
      | error e' => exact .inr ⟨m, hm, e', hbody⟩
      | ok body =>
        rw [lookup_of_readText hm hbody] at he
        exact absurd he (by simp)
  · rintro (hm | ⟨m, hm⟩)
    · exact ⟨_, congrArg Prod.fst (lookup_of_none hm)⟩
    · exact ⟨_, hm.lookup⟩

/-- **A request carries validators in vain** if the body that they belong to is lost. -/
theorem request_in_vain_iff {url : Url} :
    ((c.request f url).headers ≠ [] ∧ ∃ e, (c.lookup f url.text).1 = .error e) ↔
      ∃ m, c.LostBody f url.text m ∧ m.conditions ≠ [] := by
  rw [lookup_error_iff]
  cases hm : (c.metadata? f url.text).1 with
  | none =>
    have hheaders : (c.request f url).headers = [] := by rw [request, hm]; rfl
    refine iff_of_false (fun h => h.1 hheaders) ?_
    rintro ⟨m, hlost, -⟩
    exact absurd (hm.symm.trans hlost.1) (by simp)
  | some m =>
    have hheaders : (c.request f url).headers = m.conditions := by rw [request, hm]; rfl
    rw [hheaders]
    constructor
    · rintro ⟨hne, hnone | ⟨m', hlost⟩⟩
      · exact absurd hnone (by simp)
      · obtain rfl := Option.some.inj (hm.symm.trans hlost.1)
        exact ⟨m, hlost, hne⟩
    · rintro ⟨m', hlost, hne⟩
      obtain rfl := Option.some.inj (hm.symm.trans hlost.1)
      exact ⟨hne, .inr ⟨m, hlost⟩⟩

/-- Metadata that have been read are in a file. -/
theorem readText_of_metadata? (hm : (c.metadata? f url).1 = some m) :
    ∃ text, f.readText (c.metadataPath url) = .ok text := by
  unfold metadata? at hm
  cases hread : f.readText (c.metadataPath url) with
  | error e => rw [hread] at hm; cases e <;> exact absurd hm (by simp)
  | ok text => exact ⟨text, rfl⟩

/-- **An entry cannot be confirmed** if its body is lost or its metadata are locked. -/
theorem touch_error_iff (hm : (c.metadata? f url).1 = some m) (headers : Dict String) (now : Nat) :
    (∃ e, (c.touch f url headers now).1 = .error e) ↔
      (∃ e, f.readText m.file = .error e) ∨ pathOf (c.metadataPlace url) ∈ f.locked := by
  unfold Cache.touch
  cases hbody : f.readText m.file with
  | error e =>
    rw [eq_mk_of_fst (LostBody.lookup ⟨hm, e, hbody⟩)]
    simp
  | ok body =>
    rw [eq_mk_of_fst (lookup_of_readText hm hbody)]
    obtain ⟨text, htext⟩ := readText_of_metadata? hm
    by_cases hlocked : pathOf (c.metadataPlace url) ∈ f.locked
    · obtain ⟨e, he⟩ := writeText_of_locked ((descend_metadataPath c url).symm ▸ hlocked)
        (m.refreshed headers now).text
      simp [he, hlocked]
    · have hwrite := writeText_eq (writable_of_readText htext ((descend_metadataPath c url).symm ▸ hlocked))
        (m.refreshed headers now).text
      simp [hwrite, hlocked]

/-- An entry that is not confirmed stays as it is. -/
theorem touch_error_files {e : CacheError} {headers : Dict String} {now : Nat}
    (h : (c.touch f url headers now).1 = .error e) : (c.touch f url headers now).2.1 = f := by
  unfold Cache.touch at h ⊢
  split
  · rfl
  · next cached notes hlookup =>
    rw [hlookup] at h
    dsimp only at h ⊢
    split
    · next g hwrite => rw [hwrite] at h; exact absurd h (by simp)
    · rfl

/-- A confirmation fails if the entry cannot be confirmed. -/
theorem answered_unchanged_error_iff {url : Url} {now : Nat} {r : Response} (hs : ¬ r.isSuccess)
    (hu : r.isUnchanged) : (∃ e, (c.answered f now url (.ok r)).1 = .error e) ↔
      ∃ e, (c.touch f url.text r.headers now).1 = .error e := by
  unfold answered
  simp only [if_neg hs, if_pos hu]
  split <;> next h => rw [h]; simp

/-- **A failure changes no file.** -/
theorem answered_error_files {url : Url} {now : Nat} {a : Except String Response} {e : FetchError}
    (h : (c.answered f now url a).1 = .error e) : (c.answered f now url a).2 = f := by
  cases a with
  | error reason => rfl
  | ok r =>
    unfold answered at h ⊢
    by_cases hs : r.isSuccess
    · simp only [if_pos hs] at h
      exact absurd h (by simp)
    by_cases hu : r.isUnchanged
    · simp only [if_neg hs, if_pos hu] at h ⊢
      split
      · next htouch => rw [htouch] at h; exact absurd h (by simp)
      · next htouch =>
        have hfiles := touch_error_files (congrArg Prod.fst htouch)
        rw [htouch] at hfiles
        exact hfiles
    · simp only [if_neg hs, if_neg hu]

end Cache

/-- A server that has what a call asks for: it says that nothing has changed to a request whose headers
match, and brings it otherwise. -/
def Call.Served (matched : List (String × String) → Bool) (k : Call) : Prop :=
  ∀ headers, ∃ r, k.transport ⟨k.url, headers⟩ = .ok r ∧
    (matched headers → r.isUnchanged) ∧ (¬ matched headers → r.isSuccess)

/-- No call for a URL succeeds any more. -/
def Unfetchable (c : Cache) (matched : List (String × String) → Bool) (url : Url) (w : Web) : Prop :=
  ∀ ks : List Call, (∀ k ∈ ks, k.url = url ∧ k.Served matched) →
    ∀ k : Call, k.url = url → k.Served matched → ∃ e, (k.run c (Call.after c w ks)).1 = .error e

theorem not_isSuccess_of_isUnchanged {r : Response} (h : r.isUnchanged) : ¬ r.isSuccess := by
  rw [Response.isUnchanged, decide_eq_true_iff] at h
  simp [Response.isSuccess, h]

namespace Call

variable {c : Cache} {matched : List (String × String) → Bool} {k : Call} {w : Web}

/-- **The answer fails** if it confirms an entry that cannot be confirmed. -/
theorem answered_error_iff (hmatched : matched [] = false) (hk : k.Served matched) (f : Files) :
    (∃ e, (c.answered f k.now k.url (k.answer c f)).1 = .error e) ↔
      ∃ m, (c.metadata? f k.url.text).1 = some m ∧ matched m.conditions ∧
        ((∃ e, f.readText m.file = .error e) ∨ pathOf (c.metadataPlace k.url.text) ∈ f.locked) := by
  obtain ⟨r, hr, hunchanged, hsuccess⟩ := hk (c.request f k.url).headers
  have hrequest : (⟨k.url, (c.request f k.url).headers⟩ : Request) = c.request f k.url := by
    rw [Cache.request]
  have hanswer : k.answer c f = .ok r := by rw [answer, ← hrequest, hr]
  have hok : r.isSuccess → ¬ ∃ e, (c.answered f k.now k.url (.ok r)).1 = .error e := fun hs => by
    unfold Cache.answered
    simp [hs]
  rw [hanswer]
  cases hm : (c.metadata? f k.url.text).1 with
  | none =>
    have hheaders : (c.request f k.url).headers = [] := by rw [Cache.request, hm]; rfl
    rw [hheaders] at hsuccess
    exact iff_of_false (hok (hsuccess (by simp [hmatched]))) (by simp)
  | some m =>
    have hheaders : (c.request f k.url).headers = m.conditions := by rw [Cache.request, hm]; rfl
    rw [hheaders] at hunchanged hsuccess
    by_cases hmatch : matched m.conditions
    · have hu := hunchanged hmatch
      rw [Cache.answered_unchanged_error_iff (not_isSuccess_of_isUnchanged hu) hu,
        Cache.touch_error_iff hm]
      simp [hmatch]
    · exact iff_of_false (hok (hsuccess hmatch)) (by simp [hmatch])

/-- **A call fails** if it is left to the answer and the answer confirms an entry that cannot be
confirmed. -/
theorem run_error_iff (hmatched : matched [] = false) (hk : k.Served matched)
    (hurl : k.url.scheme = "http" ∨ k.url.scheme = "https") (hpending : w.pending = []) :
    (∃ e, (k.run c w).1 = .error e) ↔
      (k.revalidates ∨ ∃ e, (c.lookup w.files k.url.text).1 = .error e) ∧
        ∃ m, (c.metadata? w.files k.url.text).1 = some m ∧ matched m.conditions ∧
          ((∃ e, w.files.readText m.file = .error e) ∨
            pathOf (c.metadataPlace k.url.text) ∈ w.files.locked) := by
  obtain ⟨events, hrun⟩ := run_eq c hurl hpending
  rw [hrun, ← answered_error_iff hmatched hk]
  unfold result
  cases k.revalidates <;> cases (c.lookup w.files k.url.text).1 <;> simp

/-- A call that fails is as if it had not been made, but for the request. -/
theorem run_error_files (hurl : k.url.scheme = "http" ∨ k.url.scheme = "https")
    (hpending : w.pending = []) {e : FetchError} (h : (k.run c w).1 = .error e) :
    (k.run c w).2.files = w.files := by
  obtain ⟨events, hrun⟩ := run_eq c hurl hpending
  have hanswered : (c.answered w.files k.now k.url (k.answer c w.files)).1 = .error e := by
    rw [hrun] at h
    unfold result at h
    split at h
    · exact absurd h (by simp)
    · exact h
  rw [hrun]
  exact Cache.answered_error_files hanswered

/-- As long as the body is lost, calls change no file. -/
theorem after_of_lostBody (hmatched : matched [] = false) {url : Url}
    (hurl : url.scheme = "http" ∨ url.scheme = "https") {m : Metadata}
    (hm : c.LostBody w.files url.text m) (hmatch : matched m.conditions) {ks : List Call}
    (hks : ∀ k ∈ ks, k.url = url ∧ k.Served matched) (hpending : w.pending = []) :
    (after c w ks).files = w.files ∧ (after c w ks).pending = [] := by
  induction ks generalizing w with
  | nil => exact ⟨rfl, hpending⟩
  | cons k ks ih =>
    obtain ⟨rfl, hserved⟩ := hks k (by simp)
    obtain ⟨e, he⟩ := (run_error_iff (c := c) hmatched hserved hurl hpending).2
      ⟨.inr ⟨_, hm.lookup⟩, m, hm.1, hmatch, .inl hm.2⟩
    have hfiles := run_error_files hurl hpending he
    obtain ⟨events, hrun⟩ := run_eq c hurl hpending
    have hafter := ih (w := (k.run c w).2) (hfiles.symm ▸ hm) (fun k' hk' => hks k' (by simp [hk']))
      (by rw [hrun]; exact hpending)
    exact ⟨hafter.1.trans hfiles, hafter.2⟩

/-- **A URL is unfetchable** if its metadata match and its body is lost. -/
theorem unfetchable_iff (hmatched : matched [] = false) {url : Url}
    (hurl : url.scheme = "http" ∨ url.scheme = "https") (hpending : w.pending = []) :
    Unfetchable c matched url w ↔ ∃ m, c.LostBody w.files url.text m ∧ matched m.conditions := by
  constructor
  · intro h
    let k : Call := ⟨false, url,
      fun q => .ok (Response.plain (if matched q.headers then 304 else 200) ""), 0, false⟩
    have hk : k.Served matched := fun headers => by
      refine ⟨_, rfl, fun hm => ?_, fun hm => ?_⟩
      · rw [if_pos hm]
        rfl
      · rw [if_neg hm]
        rfl
    obtain ⟨hmiss, m, hm, hmatch, -⟩ :=
      (run_error_iff hmatched hk hurl hpending).1 (h [] (by simp) k rfl hk)
    rcases Cache.lookup_error_iff.1 (hmiss.resolve_left (by simp [k])) with hnone | ⟨m', hm'⟩
    · rw [hnone] at hm
      exact absurd hm (by simp)
    · obtain rfl := Option.some.inj (hm'.1.symm.trans hm)
      exact ⟨m', hm', hmatch⟩
  · rintro ⟨m, hm, hmatch⟩ ks hks k rfl hserved
    obtain ⟨hfiles, hpending'⟩ := after_of_lostBody hmatched hurl hm hmatch hks hpending
    refine (run_error_iff hmatched hserved hurl hpending').2 ?_
    rw [hfiles]
    exact ⟨.inr ⟨_, hm.lookup⟩, m, hm.1, hmatch, .inl hm.2⟩

/-- **Validators are sent in vain exactly when the body is lost.**  Whatever is in the files: a call sends
validators although looking up its URL misses if there are metadata with validators whose body is lost; it
fails, if the server has what it asks for, only for that reason or because the metadata are locked; and the
URL is unfetchable for good if what is lost is what the server has. -/
theorem lost_body (c : Cache) (hmatched : matched [] = false) {url : Url}
    (hurl : url.scheme = "http" ∨ url.scheme = "https") (hpending : w.pending = []) :
    (∀ k : Call, k.url = url → ∃ r : Request, (k.run c w).2.requests = w.requests ++ [r] ∧
      ((r.headers ≠ [] ∧ ∃ e, (c.lookup w.files url.text).1 = .error e) ↔
        ∃ m, c.LostBody w.files url.text m ∧ m.conditions ≠ [])) ∧
    (∀ k : Call, k.url = url → k.Served matched →
      ((∃ e, (k.run c w).1 = .error e) ↔
        (k.revalidates ∨ ∃ e, (c.lookup w.files url.text).1 = .error e) ∧
          ∃ m, (c.metadata? w.files url.text).1 = some m ∧ matched m.conditions ∧
            ((∃ e, w.files.readText m.file = .error e) ∨
              pathOf (c.metadataPlace url.text) ∈ w.files.locked))) ∧
    (Unfetchable c matched url w ↔ ∃ m, c.LostBody w.files url.text m ∧ matched m.conditions) := by
  refine ⟨?_, ?_, unfetchable_iff hmatched hurl hpending⟩
  · rintro k rfl
    obtain ⟨events, hrun⟩ := run_eq c hurl hpending
    exact ⟨c.request w.files k.url, by rw [hrun], Cache.request_in_vain_iff⟩
  · rintro k rfl hserved
    exact run_error_iff hmatched hserved hurl hpending

/-- Metadata with a tag, beside a body that is not there. -/
def tagged : Metadata := ⟨"http://a/", "/cache/body", [("etag", "1")], 0⟩

/-- A cache that has only those metadata. -/
def bodiless : Files :=
  ⟨[("/cache", .directory), ("/cache/FAVDLV5A3JVOJDXOCFVNMGJ7VBQ33CEVRJGDRKAEF5TRF3MUOT3Q.json",
    .file tagged.text.toUTF8)], []⟩

theorem lostBody_bodiless : Cache.LostBody ⟨"/cache"⟩ bodiless "http://a/" tagged := by
  refine ⟨by decide +kernel, ?_⟩
  cases h : bodiless.readText tagged.file with
  | error e => exact ⟨e, rfl⟩
  | ok text =>
    have hnone : (bodiless.readText tagged.file).isOk = false := by decide +kernel
    rw [h] at hnone
    exact absurd hnone (by simp [Except.isOk, Except.toBool])

/-- **Metadata alone make a URL unfetchable:** the tag is sent although looking up misses, and the server
that still has the text under that tag never sends it again. -/
theorem unfetchable_bodiless :
    let url : Url := ⟨"http", some ⟨"", none, "a", none⟩, .segments [""], none, none⟩
    (Cache.request ⟨"/cache"⟩ bodiless url).headers = [("if-none-match", "1")] ∧
      (Cache.lookup ⟨"/cache"⟩ bodiless url.text).1 = .error (.miss url.text) ∧
      Unfetchable ⟨"/cache"⟩ (fun headers => decide (headers = [("if-none-match", "1")])) url
        ⟨bodiless, [], [], [], 0⟩ := by
  intro url
  have htext : url.text = "http://a/" := by decide +kernel
  have hlost : Cache.LostBody ⟨"/cache"⟩ bodiless url.text tagged := htext ▸ lostBody_bodiless
  have hheaders : (Cache.request ⟨"/cache"⟩ bodiless url).headers = tagged.conditions := by
    rw [Cache.request, hlost.1]
    rfl
  exact ⟨hheaders, hlost.lookup, (unfetchable_iff (by decide) (.inl rfl) rfl).2 ⟨tagged, hlost, by decide⟩⟩

/-- A cache without the body, and a server that has not changed. -/
theorem lost_body_bodiless :
    let url : Url := ⟨"http", some ⟨"", none, "a", none⟩, .segments [""], none, none⟩
    let matched (headers : List (String × String)) : Bool := decide (headers = [("if-none-match", "1")])
    matched [] = false ∧
      (Unfetchable ⟨"/cache"⟩ matched url ⟨bodiless, [], [], [], 0⟩ ↔
        ∃ m, Cache.LostBody ⟨"/cache"⟩ bodiless url.text m ∧ matched m.conditions) := by
  intro url matched
  have hmatched : matched [] = false := by decide
  exact ⟨hmatched, (lost_body ⟨"/cache"⟩ hmatched (.inl rfl) rfl).2.2⟩

end Call
end ScriptImport
