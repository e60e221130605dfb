/-
# Imports are isolated from each other

An import finds a session that earlier imports, and calls of the functions that they returned, have left.  It does
what it would do in a fresh session with the same surroundings: the result is the same but for the names of what
is new, which come after those that were there, and what was there stays as it is (`Loader.load_eq_behind`).  So
after two histories that end in the same surroundings an import comes to the same (`isolated`).
-/

import ScriptImport.Loader
import ScriptImport.Proofs.Module.Apart

namespace ScriptImport

open Script

variable {d : Extent}

/-! ### Importing behind another session -/

namespace Loader

variable {old : Session} {l : Loader}

theorem apart_step {α : Type} {K : Kind α} {x y : StateM Session (Module × Except LoadError α)}
    (h : Parallel old (.outcome K) d x y) : Apart old (.pair .module K) d (step x) (step y) := by
  refine (Apart.modifyGet h).bind fun d₁ result hd₁ hresult => ?_
  obtain ⟨m, e | a⟩ := result
  · exact .throw (e := e) trivial
  · exact .pure (a := (m, a)) hresult

/-- **Importing** does the same behind another session. -/
theorem apart_load (hl : l.builtins.Anew) (specifier : String) :
    Apart old (.pair (.same Url) .exports) d (l.load specifier) (l.load specifier) := by
  refine Load.apart_bind_get fun s _ hd => ?_
  have hhost : (old.behind s).scripts.host = s.scripts.host := rfl
  rw [hhost]
  cases l.config.root s.scripts.host with
  | error e => exact .throw (e := LoadError.config e) trivial
  | ok root =>
    dsimp only
    cases (l.resolver root).resolve specifier none with
    | error e => exact .throw (e := LoadError.resolve e) trivial
    | ok url =>
      refine (Load.apart_log _).bind fun d₁ _ hd₁ _ => ?_
      refine (Load.apart_script Run.apart_newContext).bind fun d₂ context hd₂ hcontext => ?_
      refine (Builder.apart_build hl url hcontext).bind fun d₃ m hd₃ hm => ?_
      refine (apart_step (Linker.parallel_link hl hm)).bind fun d₄ linked hd₄ hlinked => ?_
      refine (apart_step (Module.parallel_evaluate linked.1 hlinked.1)).bind fun d₅ evaluated hd₅ hevaluated => ?_
      exact (Load.apart_log_length (.imported l.config.verbose url) evaluated.2).bind fun d₆ _ hd₆ _ =>
        .pure (a := (url, evaluated.2)) ⟨trivial, Kind.exports.mono hd₆ hevaluated.2⟩

end Loader

/-- A session with the same surroundings in which nothing has been recorded and no script has run. -/
def Session.fresh (s : Session) : Session :=
  ⟨⟨s.web.files, s.web.pending, [], [], s.web.now⟩, .empty s.scripts.host⟩

theorem Session.behind_fresh (s : Session) : s.behind s.fresh = s := by
  obtain ⟨web, scripts⟩ := s
  simp [behind, fresh, Web.behind, Store.behind, Store.empty]

/-- The result of an import behind what fills `k`. -/
def Loader.behind (k : Extent) : Except LoadError (Url × Namespace) → Except LoadError (Url × Namespace)
  | .ok (url, exports) => .ok (url, exports.behind k)
  | .error e => .error (e.behind k)

/-- **An import does what it does in a fresh session**, behind all that there is. -/
theorem Loader.load_eq_behind {l : Loader} (hl : l.builtins.Anew) (specifier : String) (s : Session) :
    (l.load specifier).run s = (behind s.scripts.extent ((l.load specifier).run s.fresh).1,
      s.behind ((l.load specifier).run s.fresh).2) := by
  have hapart : Apart s (.pair (.same Url) .exports) s.fresh.scripts.extent (l.load specifier) (l.load specifier) :=
    apart_load hl specifier
  -- the session is the fresh one behind itself
  have hrun := (hapart s.fresh (Store.closed_empty _) le_rfl).1
  change (l.load specifier).run (s.behind s.fresh) = _ at hrun
  rw [s.behind_fresh] at hrun
  rw [hrun]
  cases ((l.load specifier).run s.fresh).1 <;> rfl

/-- An error has the same message behind another store. -/
theorem LoadError.message_behind (old made : Store) (e : LoadError) :
    (e.behind old.extent).message (old.behind made) = e.message made := by
  cases e with
  | eval e => exact Store.message_behind old made e
  | _ => rfl

/-! ### Histories -/

namespace Loader

/-- A loader and the session that its imports share. -/
structure State where
  loader : Loader
  session : Session

/-- What happens from one import to the next. -/
inductive Step where
  /-- A module is imported, or that fails. -/
  | load (specifier : String)
  /-- A function is called, such as one that an import has returned. -/
  | call (callee : Value) (args : List Value)
  /-- The requests that are under way are finished. -/
  | settle
  | configure (config : Config)
  | serve (transport : Transport)
  /-- Others change files while time goes by. -/
  | change (files : Files) (now : Nat)

/-- What an import finds besides what scripts have done: the settings, what the servers answer, the files, the cache
among them, the clock and the machine.  Requests that are still under way belong to it, as they are going to change the
cache. -/
structure Surroundings where
  config : Config
  cache : Cache
  transport : Transport
  files : Files
  pending : List Url
  now : Nat
  host : Host

namespace State

variable (s : State)

/-- Imports a module: its exports, or why there are none, and the session then. -/
def load (specifier : String) : Except LoadError (Url × Namespace) × Session :=
  (s.loader.load specifier).run s.session

/-- Takes a step, whatever comes of it. -/
def next : Step → State
  | .load specifier => { s with session := (s.load specifier).2 }
  | .call callee args =>
    { s with session := ((Load.script (Run.callFromOutside callee args)).run s.session).2 }
  | .settle => { s with session := { s.session with web := (s.loader.fetcher.settle s.session.web).2 } }
  | .configure config => { s with loader := { s.loader with config } }
  | .serve transport => { s with loader := { s.loader with transport } }
  | .change files now => { s with session := { s.session with web := { s.session.web with files, now } } }

/-- What a history of steps leads to. -/
def after (history : List Step) : State := history.foldl next s

def surroundings : Surroundings where
  config := s.loader.config
  cache := s.loader.cache
  transport := s.loader.transport
  files := s.session.web.files
  pending := s.session.web.pending
  now := s.session.web.now
  host := s.session.scripts.host

theorem builtins_next (step : Step) : (s.next step).loader.builtins = s.loader.builtins := by
  cases step <;> rfl

/-- No step changes which builtin modules there are. -/
theorem builtins_after (history : List Step) : (s.after history).loader.builtins = s.loader.builtins := by
  induction history generalizing s with
  | nil => rfl
  | cons step history ih => exact (ih (s.next step)).trans (s.builtins_next step)

variable {s} {t : State}

theorem fresh_eq (h : s.surroundings = t.surroundings) : s.session.fresh = t.session.fresh := by
  injection h with _ _ _ hfiles hpending hnow hhost
  rw [Session.fresh, Session.fresh, hfiles, hpending, hnow, hhost]

theorem loader_eq (h : s.surroundings = t.surroundings) (hbuiltins : s.loader.builtins = t.loader.builtins) :
    s.loader = t.loader := by
  injection h with hconfig hcache htransport
  obtain ⟨⟨_, _, _, _⟩, _⟩ := s
  obtain ⟨⟨_, _, _, _⟩, _⟩ := t
  cases hconfig
  cases hcache
  cases htransport
  cases hbuiltins
  rfl

end State

/-- What can be told of an import: what its exports are, as texts, or the message of the error. -/
def report : Except LoadError (Url × Namespace) × Session → Except String (Url × String × List (String × String))
  | (.ok (url, exports), s) => .ok (url, exports.url, exports.entries.map fun e => (e.1, s.scripts.display e.2))
  | (.error e, s) => .error (e.message s.scripts)

theorem report_behind (old made : Session) (outcome : Except LoadError (Url × Namespace)) :
    report (behind old.scripts.extent outcome, old.behind made) = report (outcome, made) := by
  cases outcome with
  | ok result =>
    have htexts (n : Namespace) : (n.behind old.scripts.extent).entries.map
        (fun e => (e.1, (old.behind made).scripts.display e.2))
        = n.entries.map fun e => (e.1, made.scripts.display e.2) := by
      rw [Namespace.behind, Dict.mapValues, List.map_map]
      exact List.map_congr_left fun e _ => congrArg (e.1, ·) (Store.display_behind old.scripts made.scripts e.2)
    exact congrArg (fun texts => Except.ok (result.1, result.2.url, texts)) (htexts result.2)
  | error e => exact congrArg Except.error (e.message_behind old.scripts made.scripts)

/-- **Imports are isolated from each other.**  After any two histories of a loader with the usual builtin modules that
end in the same surroundings, an import comes to the same result and makes the same things.  They are only named
differently, as they come after different things that were there; of those nothing changes. -/
theorem isolated {first second : State} (hfirst : first.loader.builtins = .default)
    (hsecond : second.loader.builtins = .default) {history₁ history₂ : List Step}
    (hsame : (first.after history₁).surroundings = (second.after history₂).surroundings) (specifier : String) :
    ∃ outcome made,
      (first.after history₁).load specifier
        = (behind (first.after history₁).session.scripts.extent outcome,
          (first.after history₁).session.behind made) ∧
      (second.after history₂).load specifier
        = (behind (second.after history₂).session.scripts.extent outcome,
          (second.after history₂).session.behind made) ∧
      report ((first.after history₁).load specifier) = report ((second.after history₂).load specifier) := by
  have hbuiltins₁ := (first.builtins_after history₁).trans hfirst
  have hbuiltins₂ := (second.builtins_after history₂).trans hsecond
  generalize first.after history₁ = s at hsame hbuiltins₁ ⊢
  generalize second.after history₂ = t at hsame hbuiltins₂ ⊢
  have hload {s : State} (hbuiltins : s.loader.builtins = .default) : s.load specifier
      = (behind s.session.scripts.extent ((s.loader.load specifier).run s.session.fresh).1,
        s.session.behind ((s.loader.load specifier).run s.session.fresh).2) :=
    load_eq_behind (hbuiltins ▸ Registry.anew_default) specifier s.session
  have hs := hload hbuiltins₁
  have ht := hload hbuiltins₂
  rw [← State.fresh_eq hsame, ← State.loader_eq hsame (hbuiltins₁.trans hbuiltins₂.symm)] at ht
  refine ⟨_, _, hs, ht, ?_⟩
  rw [hs, ht, report_behind, report_behind]

/-- A module has put something else in place of a function that all scripts use, and a function that it exports has
been called and has changed a second thing.  A module that is imported after that finds both as they are at the start.
-/
theorem isolated_after_tampering :
    let tampering := "JSON.parse = 'gone'; export function f() \x7b Math.list = [JSON, f]; \x7d"
    let files : Files := ⟨[("/w", .directory), ("/w/a", .file tampering.toUTF8),
      ("/w/b", .file "export const v = [typeof JSON.parse, typeof Math.list];".toUTF8)], []⟩
    let s : State := ⟨⟨.default, ⟨"/cache"⟩, fun _ => .error "offline", .default⟩,
      ⟨⟨files, [], [], [], 0⟩, .empty ⟨none, "/tmp", some "/w", [], 1, "linux", "x64"⟩⟩⟩
    let f : Value := match (s.load "./a").1 with
      | .ok (_, exports) => (Dict.get? exports.entries "f").getD .undefined
      | .error _ => .undefined
    let history : List Step := [.load "./a", .call f [], .change files 0]
    ((report (s.load "./b")).toOption.map (·.2.2) = some [("v", "function,undefined")]) ∧
      ∃ outcome made,
        s.load "./b" = (behind s.session.scripts.extent outcome, s.session.behind made) ∧
        (s.after history).load "./b"
          = (behind (s.after history).session.scripts.extent outcome, (s.after history).session.behind made) ∧
        report (s.load "./b") = report ((s.after history).load "./b") := by
  intro tampering files s f history
  obtain ⟨hpending, hhost⟩ : (s.after history).session.web.pending = [] ∧
      (s.after history).session.scripts.host = s.session.scripts.host := by decide +kernel
  have hsame : (s.after []).surroundings = (s.after history).surroundings := by
    rw [State.surroundings, State.surroundings, hpending, hhost]
    rfl
  exact ⟨by decide +kernel, @isolated s s rfl rfl [] history hsame "./b"⟩

end Loader
end ScriptImport
