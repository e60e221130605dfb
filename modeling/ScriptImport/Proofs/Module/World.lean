/-
# A world that does not change

Texts are at their URLs for good if fetching always brings the same, in all webs that fetching and logging
lead to (`Fixed`).  Then what a URL is built into is a function of the URL (`Builder.made`), and building does
nothing else that counts (`Builder.build_run`).
-/

import Mathlib.Data.Set.Defs
import ScriptImport.Module.Build
import ScriptImport.Proofs.Fetch.Call
import ScriptImport.Proofs.Module.Load

namespace ScriptImport

/-! ### Texts that stay -/

/-- What is at each URL: a text, or why there is none. -/
abbrev Texts := Url → Except FetchError String

/-- Whether modules at a URL are made of texts. -/
def Url.HasText (url : Url) : Prop := url.scheme = "http" ∨ url.scheme = "https" ∨ url.scheme = "file"

/-- The texts are at some URLs for good: in all the webs, which fetching and logging lead only to one
another, fetching a URL brings its text. -/
structure Fixed (x : Fetcher) (texts : Texts) (urls : Set Url) (webs : Set Web) : Prop where
  result : ∀ w ∈ webs, ∀ url ∈ urls, url.HasText → (x.fetch url w).1.map (·.body) = texts url
  fetch : ∀ w ∈ webs, ∀ url ∈ urls, url.HasText → (x.fetch url w).2 ∈ webs
  log : ∀ w ∈ webs, ∀ e, (Web.log e w).2 ∈ webs

namespace Builder

variable {b : Builder} {texts : Texts} {urls : Set Url} {webs : Set Web}

/-- What the module at a URL runs, or why there is none. -/
def made (b : Builder) (texts : Texts) (scripts : Script.Store) (url : Url) : Except LoadError ModuleKind :=
  if url.scheme = "http" ∨ url.scheme = "https" ∨ url.scheme = "file" then
    match texts url with
    | .error e => .error (.fetch e)
    | .ok text =>
      match Syntax.parse text with
      | .error e => .error (.parse url e)
      | .ok p => .ok (.source p)
  else if url.scheme = Builtin.scheme then
    match b.builtins.get? (builtinName url) with
    | none => .error (.unknownBuiltin (builtinName url))
    | some builtin => .ok (.synthetic builtin (builtin.exportNames scripts))
  else .error (.resolve (.scheme url))

/-- Building fails because of what is at the URL, not because of what is below it. -/
theorem made_ne_error {scripts : Script.Store} {url : Url} {e : LoadError}
    (he : (∃ chain, e = .circular chain) ∨ ∃ u, e = .endless u) : b.made texts scripts url ≠ .error e := by
  intro h
  unfold made at h
  rcases he with ⟨chain, rfl⟩ | ⟨u, rfl⟩
  all_goals
    split at h
    · split at h
      · simp at h
      · split at h <;> simp at h
    · split at h
      · split at h <;> simp at h
      · simp at h

/-- The sessions in a world that does not change; no script runs in them. -/
structure InWorld (webs : Set Web) (scripts : Script.Store) (s : Session) : Prop where
  web : s.web ∈ webs
  scripts : s.scripts = scripts

theorem InWorld.log (hfixed : Fixed b.fetcher texts urls webs) {scripts : Script.Store} {s : Session}
    (hs : InWorld webs scripts s) (e : Event) : ∃ s', InWorld webs scripts s' ∧
      (Load.log e).run s = (.ok (), s') :=
  ⟨{ s with web := (Web.log e s.web).2 }, ⟨hfixed.log _ hs.web e, hs.scripts⟩, Load.run_log e s⟩

/-- **Building makes what is at a URL** and stays in the world. -/
theorem build_run (hfixed : Fixed b.fetcher texts urls webs) {scripts : Script.Store} {s : Session}
    (hs : InWorld webs scripts s) {url : Url} (hurl : url ∈ urls) (context : Script.ObjectId) :
    ∃ s', InWorld webs scripts s' ∧
      (b.build url context).run s = ((b.made texts scripts url).map (.new url · context), s') := by
  unfold build made
  by_cases htext : url.scheme = "http" ∨ url.scheme = "https" ∨ url.scheme = "file"
  · rw [if_pos htext, if_pos htext, ← hfixed.result _ hs.web url hurl htext]
    have hs₁ : InWorld webs scripts { s with web := (b.fetcher.fetch url s.web).2 } :=
      ⟨hfixed.fetch _ hs.web url hurl htext, hs.scripts⟩
    unfold buildSource
    rw [Load.run_bind_of_ok (Load.run_onWeb _ _)]
    cases (b.fetcher.fetch url s.web).1 with
    | error e => exact ⟨_, hs₁, rfl⟩
    | ok fetched =>
      simp only [Except.map]
      cases Syntax.parse fetched.body with
      | error e => exact ⟨_, hs₁, rfl⟩
      | ok p =>
        obtain ⟨s', hs', hlog⟩ := hs₁.log hfixed (.builtSource url p.body.length)
        exact ⟨s', hs', Load.run_bind_of_ok hlog _⟩
  · rw [if_neg htext, if_neg htext]
    by_cases hbuiltin : url.scheme = Builtin.scheme
    · rw [if_pos hbuiltin, if_pos hbuiltin]
      unfold buildBuiltin
      cases b.builtins.get? (builtinName url) with
      | none => exact ⟨s, hs, rfl⟩
      | some builtin =>
        let names := (Module.ofBuiltin url builtin s.scripts context).exportNames
        obtain ⟨s', hs', hlog⟩ := hs.log hfixed (.builtBuiltin url names)
        dsimp only
        rw [Load.run_bind_of_ok (Load.run_get s)]
        refine ⟨s', hs', (Load.run_bind_of_ok hlog _).trans ?_⟩
        rw [← hs.scripts]
        rfl
    · rw [if_neg hbuiltin, if_neg hbuiltin]
      exact ⟨s, hs, rfl⟩

end Builder
end ScriptImport
