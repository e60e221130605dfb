/-
# A network that always answers the same

If each URL always gets the same answer, and none that nothing has changed, then what fetching brings does not
depend on what the cache has and on which requests are under way: an entry is the answer, kept.  So with a
cache that can be written such a network is a world that does not change (`fixed_network`).
-/

import ScriptImport.Proofs.Fetch.Run
import ScriptImport.Proofs.Module.World

namespace ScriptImport

open Cache

/-- The text that an answer brings. -/
def textOf (answers : String → Except String Response) : Texts := fun url =>
  (outcome url none (answers url.text)).map (·.body)

/-- The cache has nothing but answers, and the requests under way are for some URLs. -/
structure Steady (c : Cache) (answers : String → Except String Response) (urls : Set Url) (w : Web) :
    Prop where
  entries : ∃ entries, c.Holds (Url.text '' urls) w.files entries ∧
    ∀ url ∈ urls, ∀ e, entries url.text = some e →
      ∃ r, answers url.text = .ok r ∧ r.isSuccess ∧ e.body = r.body
  pending : ∀ url ∈ w.pending, url ∈ urls
  now : w.now < 2 ^ 64

variable {x : Fetcher} {answers : String → Except String Response} {urls : Set Url} {w : Web}

/-- What is known of a network: it answers as given, and never that nothing has changed. -/
structure Answers (x : Fetcher) (answers : String → Except String Response) (urls : Set Url) : Prop where
  scheme : ∀ url ∈ urls, url.scheme ≠ "file"
  transport : ∀ url ∈ urls, ∀ headers, x.transport ⟨url, headers⟩ = answers url.text
  changed : ∀ url ∈ urls, ∀ r, answers url.text = .ok r → ¬ r.isUnchanged
  digests : Set.InjOn digest (Url.text '' urls)

/-- An answer that brings something does not need an entry. -/
theorem outcome_none {url : Url} {a : Except String Response} (h : ∀ r, a = .ok r → ¬ r.isUnchanged)
    (entry : Option Cached) : outcome url entry a = outcome url none a := by
  cases a with
  | error reason => rfl
  | ok r =>
    unfold outcome
    simp only [if_neg (h r rfl)]

/-- The entry after such an answer is the answer, if the one before was. -/
theorem next_body {c : Cache} {url : String} {now : Nat} {entry : Option Cached}
    {a : Except String Response} (h : ∀ r, a = .ok r → ¬ r.isUnchanged)
    (hentry : ∀ e, entry = some e → ∃ r, a = .ok r ∧ r.isSuccess ∧ e.body = r.body) {e : Cached}
    (he : c.next url now entry a = some e) : ∃ r, a = .ok r ∧ r.isSuccess ∧ e.body = r.body := by
  cases a with
  | error reason => exact hentry e he
  | ok r =>
    rw [Cache.next] at he
    by_cases hs : r.isSuccess
    · rw [if_pos hs] at he
      obtain rfl := Option.some.inj he
      exact ⟨r, rfl, hs, rfl⟩
    · rw [if_neg hs, if_neg (h r rfl)] at he
      exact hentry e he

theorem Steady.withEvents (h : Steady x.cache answers urls w) (events : List Event) :
    Steady x.cache answers urls { w with events } := ⟨h.entries, h.pending, h.now⟩

/-- **Going on with a request** brings the answer, and the cache goes on having nothing but answers. -/
theorem Steady.refresh (hx : Answers x answers urls) (h : Steady x.cache answers urls w) {url : Url}
    (hurl : url ∈ urls) : (x.refresh url w).1 = outcome url none (answers url.text) ∧
      Steady x.cache answers urls (x.refresh url w).2 := by
  obtain ⟨entries, hholds, hbodies⟩ := h.entries
  have htext : url.text ∈ Url.text '' urls := Set.mem_image_of_mem _ hurl
  have hanswer : x.transport (x.cache.request w.files url) = answers url.text := hx.transport url hurl _
  obtain ⟨events, hrefresh⟩ := x.refresh_eq url w
  obtain ⟨f, hf, hholds'⟩ :=
    hholds.answered hx.digests htext (Nat.le_sub_one_of_lt h.now) (answers url.text)
  rw [hrefresh, hanswer, hf]
  refine ⟨outcome_none (hx.changed url hurl) _, ⟨_, hholds', fun u hu e he => ?_⟩, h.pending, h.now⟩
  by_cases hne : u.text = url.text
  · rw [hne, Function.update_self] at he
    rw [hne]
    exact next_body (hx.changed url hurl) (hbodies url hurl) he
  · rw [Function.update_of_ne hne] at he
    exact hbodies u hu e he

/-- What each of some steps keeps, all of them keep. -/
theorem Web.forM_keeps {α : Type} {kept : Web → Prop} {step : α → StateM Web Unit} {as : List α}
    (hstep : ∀ a ∈ as, ∀ w, kept w → kept (step a w).2) (hw : kept w) : kept (as.forM step w).2 := by
  induction as generalizing w with
  | nil => exact hw
  | cons a as ih =>
    rw [List.forM, Web.bind_apply]
    exact ih (fun b hb => hstep b (List.mem_cons_of_mem a hb)) (hstep a List.mem_cons_self w hw)

/-- Going on with the requests that are under way keeps the cache as it should be. -/
theorem Steady.settle (hx : Answers x answers urls) (h : Steady x.cache answers urls w) :
    Steady x.cache answers urls (x.settle w).2 := by
  have hempty : Steady x.cache answers urls { w with pending := [] } := ⟨h.entries, by simp, h.now⟩
  simp only [Fetcher.settle, Web.bind_apply, Web.get_apply, Web.modify_apply]
  refine Web.forM_keeps (fun url hurl w' hw' => ?_) hempty
  rw [Web.bind_apply, Web.pure_apply]
  exact (hw'.refresh hx (h.pending url hurl)).2

/-- **A network that always answers the same is a world that does not change**, if the cache can be written
and the digests of the URLs differ. -/
theorem fixed_network (hx : Answers x answers urls) :
    Fixed x (textOf answers) urls {w | Steady x.cache answers urls w} := by
  have hfetch : ∀ w, Steady x.cache answers urls w → ∀ url ∈ urls, url.HasText →
      (x.fetch url w).1.map (·.body) = textOf answers url ∧
        Steady x.cache answers urls (x.fetch url w).2 := by
    intro w hw url hurl htext
    have hscheme : url.scheme = "http" ∨ url.scheme = "https" := by
      rcases htext with h | h | h
      · exact .inl h
      · exact .inr h
      · exact absurd h (hx.scheme url hurl)
    obtain ⟨entries, hholds, hbodies⟩ := hw.entries
    have hlookup := hholds.lookup_eq (Set.mem_image_of_mem Url.text hurl)
    cases he : entries url.text with
    | some e =>
      rw [he] at hlookup
      obtain ⟨r, hr, hs, hbody⟩ := hbodies url hurl e he
      obtain ⟨events, hrun⟩ := x.fetch_of_lookup_ok hscheme hlookup
      rw [hrun]
      refine ⟨?_, ⟨entries, hholds, hbodies⟩, fun u hu => ?_, hw.now⟩
      · rw [textOf, hr, outcome, if_pos hs]
        exact congrArg Except.ok hbody
      · rcases List.mem_append.1 hu with hu | hu
        · exact hw.pending u hu
        · exact List.mem_singleton.1 hu ▸ hurl
    | none =>
      rw [he] at hlookup
      obtain ⟨events, hrun⟩ := x.fetch_eq url w
      obtain ⟨notes, hobtain⟩ := x.obtain_of_lookup_error hscheme hlookup
      obtain ⟨houtcome, hsteady⟩ := ((hw.withEvents notes).settle hx).refresh hx hurl
      rw [hrun, hobtain]
      dsimp only
      rw [houtcome]
      exact ⟨rfl, hsteady.withEvents events⟩
  exact {
    result := fun w hw url hurl htext => (hfetch w hw url hurl htext).1
    fetch := fun w hw url hurl htext => (hfetch w hw url hurl htext).2
    log := fun w hw e => hw.withEvents _ }

end ScriptImport
