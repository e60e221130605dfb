/-
# The network footprint of an import

Linking walks the modules below a root, depth first and in the order of their requests, and stops at the first fault.
`Supply.below` is that walk without sessions: it only notes the URLs at which it starts to build modules (`Walk`).  What
a URL is built into may depend on which URLs were built before, as a server may answer otherwise the second time and
the cache changes in between (`Supply.made`).

Linking does to the web what fetching the noted URLs does, one after the other, and stops where the walk stops
(`Linker.follows_root`); evaluating does nothing to it.  So an import does to the web what these fetches do
(`Loader.web_load`), and the network is asked for those of the noted URLs that are on the network, once for each time
that they were noted (`Loader.footprint`).
-/

import ScriptImport.Loader
import ScriptImport.Proofs.Module.Link
import ScriptImport.Proofs.Module.Quiet
import ScriptImport.Proofs.Module.World
import ScriptImport.Proofs.Script.Plain

namespace ScriptImport

/-! ### Walks -/

/-- How far a walk has come: the URLs at which it started to build modules, in this order, and the fault that it has
stopped at. -/
structure Walk where
  started : List Url
  fault : Option LoadError

/-- Goes on with a walk that has not stopped. -/
def Walk.andThen (w : Walk) (next : List Url → Walk) : Walk :=
  match w.fault with
  | none => next w.started
  | some _ => w

/-- What a walk finds: where specifiers lead from a module, and which specifiers are requested by what a URL is built
into, if modules were built at some other URLs before. -/
structure Supply where
  resolve : Url → String → Except ResolveError Url
  made : (built : List Url) → Url → Except LoadError (List String)

namespace Supply

/-- Goes to where a specifier leads from the module at `url` below the URLs `above`: a specifier that leads nowhere, or
back to `url` or above it, ends the walk; otherwise it starts to build a module there and goes on below that. -/
def follow (g : Supply) (below : (url : Url) → (specifiers : List String) → List Url → Walk) (above : List Url)
    (url : Url) (specifier : String) (started : List Url) : Walk :=
  match g.resolve url specifier with
  | .error e => ⟨started, some (.resolve e)⟩
  | .ok v =>
    if v ∈ above then ⟨started, some (.circular (above ++ [v]))⟩
    else
      match g.made started v with
      | .error e => ⟨started ++ [v], some e⟩
      | .ok specifiers => below v specifiers (started ++ [v])

/-- Walks below the module at `url`, which requests some specifiers, when modules were started at some URLs. -/
def below (g : Supply) : (depth : Nat) → (above : List Url) → (url : Url) → (specifiers : List String) →
    (started : List Url) → Walk
  | 0, _, url, _, started => ⟨started, some (.endless url)⟩
  | depth + 1, above, url, specifiers, started =>
    specifiers.foldl
      (fun w specifier => w.andThen (g.follow (g.below depth (above ++ [url])) (above ++ [url]) url specifier))
      ⟨started, none⟩

/-- Starts at a root and walks below it. -/
def walk (g : Supply) (depth : Nat) (root : Url) : Walk :=
  match g.made [] root with
  | .error e => ⟨[root], some e⟩
  | .ok specifiers => g.below depth [] root specifiers [root]

end Supply

/-- What a builder builds when it starts from the web `w`: what is fetched from the web that is there after the URLs
before were fetched. -/
def Builder.supply (b : Builder) (w : Web) (scripts : Script.Store) (resolve : Url → String → Except ResolveError Url) :
    Supply where
  resolve
  made built url :=
    (b.made (fun url => (b.fetcher.fetch url (b.fetcher.after w built)).1.map (·.body)) scripts url).map (·.requests)

/-! ### Building -/

namespace Builder

variable (b : Builder) {texts texts' : Texts} {scripts scripts' : Script.Store} {url : Url}

/-- Only the text at the URL itself counts. -/
theorem made_congr (h : url.HasText → texts url = texts' url) :
    b.made texts scripts url = b.made texts' scripts url := by
  unfold made
  by_cases htext : url.scheme = "http" ∨ url.scheme = "https" ∨ url.scheme = "file"
  · rw [if_pos htext, if_pos htext, h htext]
  · rw [if_neg htext, if_neg htext]

/-- What a module requests does not depend on the scripts that have run. -/
theorem requests_made (texts : Texts) (scripts scripts' : Script.Store) (url : Url) :
    (b.made texts scripts url).map (·.requests) = (b.made texts scripts' url).map (·.requests) := by
  unfold made
  split
  · rfl
  · split
    · split <;> rfl
    · rfl

/-- **Building fetches what is at the URL** and logs what it has built; no script runs. -/
theorem build_eq (url : Url) (context : Script.ObjectId) (s : Session) : ∃ events,
    (b.build url context).run s =
      ((b.made (fun url => (b.fetcher.fetch url s.web).1.map (·.body)) s.scripts url).map (.new url · context),
        { s with web := { (b.fetcher.fetch url s.web).2 with events } }) := by
  unfold build made
  by_cases htext : url.scheme = "http" ∨ url.scheme = "https" ∨ url.scheme = "file"
  · rw [if_pos htext, if_pos htext]
    unfold buildSource
    rw [Load.run_bind_of_ok (Load.run_onWeb _ _)]
    dsimp only
    generalize b.fetcher.fetch url s.web = fetched
    obtain ⟨_ | fetched, web⟩ := fetched
    · exact ⟨_, rfl⟩
    · simp only [Except.map]
      cases Syntax.parse fetched.body with
      | error e => exact ⟨_, rfl⟩
      | ok p => exact ⟨_, Load.run_bind_of_ok (Load.run_log _ _) _⟩
  · rw [if_neg htext, if_neg htext, b.fetcher.fetch_of_not_hasText url s.web htext]
    by_cases hbuiltin : url.scheme = Builtin.scheme
    · rw [if_pos hbuiltin, if_pos hbuiltin]
      unfold buildBuiltin
      cases b.builtins.get? (builtinName url) with
      | none => exact ⟨_, rfl⟩
      | some builtin =>
        dsimp only
        rw [Load.run_bind_of_ok (Load.run_get s)]
        exact ⟨_, Load.run_bind_of_ok (Load.run_log _ _) _⟩
    · rw [if_neg hbuiltin, if_neg hbuiltin]
      exact ⟨_, rfl⟩

end Builder

/-! ### Steps that follow a walk -/

/-- Why a step has stopped. -/
def faultOf {α : Type} : Except LoadError α → Option LoadError
  | .ok _ => none
  | .error e => some e

/-- The session is one in which some URLs were fetched, from the web `w` on, and no script has run. -/
structure Session.Fetched (s : Session) (x : Fetcher) (w : Web) (scripts : Script.Store) (urls : List Url) : Prop where
  web : s.web.unlogged = (x.after w urls).unlogged
  scripts : s.scripts = scripts

namespace Load

variable {α β : Type} {x : Fetcher} {w : Web} {scripts : Script.Store}

/-- Begun when some URLs have been fetched, a step of loading comes as far as the walk does. -/
def Follows (x : Fetcher) (w : Web) (scripts : Script.Store) (act : Load α) (walk : List Url → Walk) : Prop :=
  ∀ s started, s.Fetched x w scripts started → faultOf (act.run s).1 = (walk started).fault ∧
    (act.run s).2.Fetched x w scripts (walk started).started

variable {act : Load α} {walk : List Url → Walk}

theorem follows_pure (a : α) : Follows x w scripts (pure a) fun started => ⟨started, none⟩ :=
  fun _ _ hs => ⟨rfl, hs⟩

theorem follows_throw (e : LoadError) : Follows x w scripts (throw e : Load α) fun started => ⟨started, some e⟩ :=
  fun _ _ hs => ⟨rfl, hs⟩

theorem Follows.map (h : Follows x w scripts act walk) (f : α → β) :
    Follows x w scripts (do return f (← act)) walk := by
  intro s started hs
  have hact := h s started hs
  cases hrun : act.run s with
  | mk result s' =>
    rw [hrun] at hact
    cases result with
    | ok a => rw [run_bind_of_ok hrun]; exact hact
    | error e => rw [run_bind_of_error hrun]; exact hact

/-- Logging something first makes no difference. -/
theorem Follows.afterLog (h : Follows x w scripts act walk) (e : Event) :
    Follows x w scripts (do Load.log e; act) walk := by
  intro s started hs
  rw [run_bind_of_ok (run_log e s)]
  exact h _ started ⟨hs.web, hs.scripts⟩

theorem andThen_foldl_of_fault {step : String → List Url → Walk} {walk : Walk} {e : LoadError}
    (h : walk.fault = some e) (specifiers : List String) :
    specifiers.foldl (fun walk specifier => walk.andThen (step specifier)) walk = walk := by
  induction specifiers with
  | nil => rfl
  | cons specifier specifiers ih =>
    have hstays : walk.andThen (step specifier) = walk := by rw [Walk.andThen, h]
    rw [List.foldl_cons, hstays, ih]

/-- **Steps for specifiers, one after the other,** come as far as the walk along them. -/
theorem follows_mapM {f : String → Load α} {step : String → List Url → Walk} {specifiers : List String}
    (h : ∀ specifier ∈ specifiers, Follows x w scripts (f specifier) (step specifier)) :
    Follows x w scripts (specifiers.mapM f) fun started =>
      specifiers.foldl (fun walk specifier => walk.andThen (step specifier)) ⟨started, none⟩ := by
  induction specifiers with
  | nil => exact follows_pure []
  | cons specifier specifiers ih =>
    rw [List.forall_mem_cons] at h
    intro s started hs
    obtain ⟨hfault, hfetched⟩ := h.1 s started hs
    have hfirst : Walk.andThen ⟨started, none⟩ (step specifier) = step specifier started := rfl
    dsimp only
    rw [List.mapM_cons, List.foldl_cons, hfirst]
    cases hrun : (f specifier).run s with
    | mk result s' =>
      rw [hrun] at hfault hfetched
      cases result with
      | error e =>
        rw [run_bind_of_error hrun, andThen_foldl_of_fault hfault.symm]
        exact ⟨hfault, hfetched⟩
      | ok a =>
        have hgoes : step specifier started = ⟨(step specifier started).started, none⟩ := by
          rw [show (none : Option LoadError) = (step specifier started).fault from hfault]
        rw [run_bind_of_ok hrun, hgoes]
        exact (ih h.2).map (a :: ·) s' _ hfetched

/-- Quiet steps that come after another one do nothing more to the web, and are not taken if that has stopped. -/
theorem run_bind_quiet {act : Load α} {f : α → Load β} (hf : ∀ a, Quiet (f a)) {s : Session} {web : Web}
    {fault : Option LoadError} (hweb : (act.run s).2.web.unlogged = web.unlogged)
    (hfault : faultOf (act.run s).1 = fault) :
    ((act >>= f).run s).2.web.unlogged = web.unlogged ∧ ∀ e, fault = some e → ((act >>= f).run s).1 = .error e := by
  subst hfault
  cases hrun : act.run s with
  | mk result s' =>
    rw [hrun] at hweb
    cases result with
    | ok a =>
      rw [run_bind_of_ok hrun]
      exact ⟨(hf a s').trans hweb, fun e h => absurd h (Option.some_ne_none e).symm⟩
    | error e =>
      rw [run_bind_of_error hrun]
      exact ⟨hweb, fun e' h => congrArg Except.error (Option.some.inj h)⟩

end Load

/-- **Building a module** fetches its URL; then it is time for what is done with the module. -/
theorem Builder.follows_build (b : Builder) {w : Web} {scripts : Script.Store} {g : Supply}
    {resolve : Url → String → Except ResolveError Url} (hg : g = b.supply w scripts resolve) (url : Url)
    (context : Script.ObjectId) {α : Type} {link : Module → Load α} {below : List String → List Url → Walk}
    (hlink : ∀ kind, Load.Follows b.fetcher w scripts (link (.new url kind context)) (below kind.requests)) :
    Load.Follows b.fetcher w scripts (b.build url context >>= link) fun started =>
      match g.made started url with
      | .error e => ⟨started ++ [url], some e⟩
      | .ok specifiers => below specifiers (started ++ [url]) := by
  intro s started hs
  obtain ⟨events, hbuild⟩ := b.build_eq url context s
  obtain ⟨htext, hweb⟩ := (b.fetcher.unread_fetch url).of_unlogged hs.web
  have hmade : g.made started url = (b.made (fun url => (b.fetcher.fetch url s.web).1.map (·.body)) s.scripts url).map
      (·.requests) := by
    rw [hg, supply, hs.scripts]
    refine congrArg (Except.map _) (b.made_congr fun _ => ?_)
    rw [htext]
  have hfetched : Session.Fetched { s with web := { (b.fetcher.fetch url s.web).2 with events } } b.fetcher w scripts
      (started ++ [url]) := by
    refine ⟨?_, hs.scripts⟩
    rw [Fetcher.after_append]
    exact hweb
  dsimp only
  rw [hmade]
  cases hkind : b.made (fun url => (b.fetcher.fetch url s.web).1.map (·.body)) s.scripts url with
  | error e =>
    rw [hkind] at hbuild
    rw [Load.run_bind_of_error hbuild]
    exact ⟨rfl, hfetched⟩
  | ok kind =>
    rw [hkind] at hbuild
    rw [Load.run_bind_of_ok hbuild]
    exact hlink kind _ _ hfetched

/-! ### Linking -/

namespace Loader

variable {α : Type} {act : StateM Session (Module × Except LoadError α)} {s s' : Session} {m : Module}

theorem run_step_of_ok {a : α} (h : act s = ((m, .ok a), s')) : (step act).run s = (.ok (m, a), s') := by
  have hact : (act : Load (Module × Except LoadError α)).run s = (.ok (act s).1, (act s).2) := rfl
  rw [h] at hact
  exact Load.run_bind_of_ok hact _

theorem run_step_of_error {e : LoadError} (h : act s = ((m, .error e), s')) : (step act).run s = (.error e, s') := by
  have hact : (act : Load (Module × Except LoadError α)).run s = (.ok (act s).1, (act s).2) := rfl
  rw [h] at hact
  exact Load.run_bind_of_ok hact _

end Loader

namespace Linker

/-- What linking walks, from the web `w` on. -/
def supply (l : Linker) (w : Web) (scripts : Script.Store) : Supply :=
  l.builder.supply w scripts fun url specifier => l.resolver.resolve specifier (some url)

/-- **Linking follows the walk.** -/
theorem follows_linkBelow (l : Linker) (w : Web) (scripts : Script.Store) (depth : Nat) (above : List Url) (url : Url)
    (kind : ModuleKind) (context : Script.ObjectId) :
    Load.Follows l.builder.fetcher w scripts (l.linkBelow depth above (.new url kind context))
      ((l.supply w scripts).below depth above url kind.requests) := by
  induction depth generalizing above url kind with
  | zero => exact Load.follows_throw _
  | succ depth ih =>
    have hfollow : ∀ specifier ∈ kind.requests, Load.Follows l.builder.fetcher w scripts (do
        return (specifier, ← l.dependency (l.linkBelow depth (above ++ [url]))
          (.node url context kind .linking none []) (above ++ [url]) specifier))
        ((l.supply w scripts).follow ((l.supply w scripts).below depth (above ++ [url])) (above ++ [url]) url
          specifier) := by
      intro specifier _
      refine Load.Follows.map ?_ (specifier, ·)
      unfold dependency Supply.follow
      have hresolve : (l.supply w scripts).resolve url specifier = l.resolver.resolve specifier (some url) := rfl
      have hurl : (Module.node url context kind .linking none []).url = url := rfl
      rw [hresolve, hurl]
      cases l.resolver.resolve specifier (some url) with
      | error e => exact Load.follows_throw _
      | ok v =>
        dsimp only
        by_cases hv : v ∈ above ++ [url]
        · rw [if_pos hv]
          simp only [if_pos hv]
          exact Load.follows_throw _
        · simp only [if_neg hv]
          exact (l.builder.follows_build rfl v context fun kind => ih (above ++ [url]) v kind).afterLog _
    intro s started hs
    have hlinking : (Load.ofState ((Module.new url kind context).transition .linking)).run s
        = (.ok (.node url context kind .linking none []), s) := rfl
    unfold linkBelow
    rw [Load.run_bind_of_ok hlinking]
    exact (Load.follows_mapM hfollow).map _ s started hs

theorem supply_scripts (l : Linker) (w : Web) (scripts scripts' : Script.Store) :
    l.supply w scripts = l.supply w scripts' := by
  unfold supply Builder.supply
  exact congrArg (Supply.mk _) (funext fun built => funext fun url => l.builder.requests_made _ _ _ url)

/-- **Linking a module** follows the walk below it. -/
theorem follows_link (l : Linker) (w : Web) (scripts : Script.Store) (url : Url) (kind : ModuleKind)
    (context : Script.ObjectId) :
    Load.Follows l.builder.fetcher w scripts (Loader.step (l.link (.new url kind context)))
      ((l.supply w scripts).below l.depth [] url kind.requests) := by
  intro s started hs
  have hbelow := l.follows_linkBelow w scripts l.depth [] url kind context s started hs
  cases hrun : (l.linkBelow l.depth [] (.new url kind context)).run s with
  | mk result s' =>
    rw [hrun] at hbelow
    have hlink := link_run rfl hrun
    cases result with
    | ok linked =>
      rw [Loader.run_step_of_ok hlink]
      exact hbelow
    | error e =>
      rw [Loader.run_step_of_error hlink]
      exact hbelow

/-- **Building a root and linking it** comes as far as the walk from there. -/
theorem follows_root (l : Linker) {s : Session} {w : Web} (hs : s.web.unlogged = w.unlogged) (root : Url)
    (context : Script.ObjectId) :
    let act := l.builder.build root context >>= fun m => Loader.step (l.link m)
    let walk := (l.supply w s.scripts).walk l.depth root
    faultOf (act.run s).1 = walk.fault ∧ (act.run s).2.Fetched l.builder.fetcher w s.scripts walk.started :=
  l.builder.follows_build rfl root context (fun kind => l.follows_link w s.scripts root kind context) s [] ⟨hs, rfl⟩

end Linker

/-! ### Importing -/

theorem Load.run_newContext (s : Session) : ∃ context scripts,
    (Load.script Script.Run.newContext).run s = (.ok context, { s with scripts }) := by
  have hnever := Script.Run.raises_newContext (P := fun _ => False) s.scripts
  unfold script
  rw [run_bind_of_ok (run_get s)]
  dsimp only [ExceptT.run, StateT.run] at hnever ⊢
  cases hrun : Script.Run.newContext s.scripts with
  | mk result scripts =>
    rw [hrun] at hnever
    cases result with
    | ok context => exact ⟨context, scripts, rfl⟩
    | error e => exact (hnever e rfl).elim

namespace Loader

/-- The linker of an import. -/
def linker (l : Loader) (root : Url) : Linker where
  resolver := l.resolver root
  builder := ⟨l.fetcher, l.builtins⟩

/-- The walk of an import.  It starts at what the specifier names; if it names nothing it starts nowhere. -/
def walk (l : Loader) (specifier : String) (s : Session) : Walk :=
  match l.config.root s.scripts.host with
  | .error e => ⟨[], some (.config e)⟩
  | .ok root =>
    match (l.resolver root).resolve specifier none with
    | .error e => ⟨[], some (.resolve e)⟩
    | .ok url => ((l.linker root).supply s.web s.scripts).walk (l.linker root).depth url

theorem quiet_step {act : StateM Session (Module × Except LoadError α)}
    (h : ∀ s, (act s).2.web.unlogged = s.web.unlogged) : Load.Quiet (step act) := by
  intro s
  have hweb := h s
  cases hrun : act s with
  | mk ended s' =>
    rw [hrun] at hweb
    obtain ⟨m, e | a⟩ := ended
    · rw [run_step_of_error hrun]
      exact hweb
    · rw [run_step_of_ok hrun]
      exact hweb

/-- **An import does to the web what fetching the URLs of its walk does,** and fails with the fault of the walk. -/
theorem web_load (l : Loader) (specifier : String) (s : Session) :
    ((l.load specifier).run s).2.web.unlogged = (l.fetcher.after s.web (l.walk specifier s).started).unlogged ∧
      ∀ e, (l.walk specifier s).fault = some e → ((l.load specifier).run s).1 = .error e := by
  unfold load walk
  rw [Load.run_bind_of_ok (Load.run_get s)]
  cases l.config.root s.scripts.host with
  | error e => exact ⟨rfl, fun e' h => Option.some.inj h ▸ rfl⟩
  | ok root =>
    dsimp only
    cases (l.resolver root).resolve specifier none with
    | error e => exact ⟨rfl, fun e' h => Option.some.inj h ▸ rfl⟩
    | ok url =>
      dsimp only
      rw [Load.run_bind_of_ok (Load.run_log _ s)]
      obtain ⟨context, scripts, hcontext⟩ :=
        Load.run_newContext { s with web := (Web.log (.importing specifier url) s.web).2 }
      rw [Load.run_bind_of_ok hcontext, (l.linker root).supply_scripts s.web s.scripts scripts]
      -- building and linking follow the walk, the rest is quiet
      have hlinked := (l.linker root).follows_root (w := s.web) (s := { s with
        web := (Web.log (.importing specifier url) s.web).2, scripts }) rfl url context
      rw [← bind_assoc]
      refine Load.run_bind_quiet (fun linked => ?_) hlinked.2.web hlinked.1
      exact (quiet_step linked.1.quiet_evaluate).bind fun _ => (Load.quiet_log _).bind fun _ => Load.quiet_pure _

/-- **The network footprint of an import.**  When all that an import has left under way is done, the network has been
asked for the URLs that are on the network among those at which linking started to build modules, once for each of
them.  If there are none, no file has changed but by the requests that were under way before.  So it is if the root
cannot be resolved; and a fault of linking is the error of the import. -/
theorem footprint (l : Loader) (specifier : String) (s : Session) :
    let walk := l.walk specifier s
    let ended := (l.load specifier).run s
    let web := (l.fetcher.settle ended.2.web).2
    (∃ sent, web.requests = s.web.requests ++ sent ∧
      sent.map (·.url) = s.web.pending ++ walk.started.filter Url.isRemote) ∧
    (∀ e, walk.fault = some e → ended.1 = .error e) ∧
    ((∀ url ∈ walk.started, url.isRemote = false) → web.files = (l.fetcher.settle s.web).2.files) ∧
    ∀ root e, l.config.root s.scripts.host = .ok root → (l.resolver root).resolve specifier none = .error e →
      walk = ⟨[], some (.resolve e)⟩ ∧ web.files = (l.fetcher.settle s.web).2.files := by
  intro walk ended web
  obtain ⟨hweb, herror⟩ := l.web_load specifier s
  have hsettled : web.unlogged = (l.fetcher.settle (l.fetcher.after s.web walk.started)).2.unlogged :=
    (l.fetcher.unread_settle.of_unlogged hweb).2
  have hlocal (h : ∀ url ∈ walk.started, url.isRemote = false) : web.files = (l.fetcher.settle s.web).2.files := by
    have hsame := hsettled.trans (l.fetcher.settle_after_local s.web h)
    exact (Web.mk.inj hsame).1
  obtain ⟨sent, hsent, hurls⟩ := l.fetcher.requests_after s.web walk.started
  have hrequests : web.requests = s.web.requests ++ sent := (Web.mk.inj hsettled).2.2.1.trans hsent
  refine ⟨⟨sent, hrequests, hurls⟩, herror, hlocal, fun root e hroot he => ?_⟩
  have hwalk : walk = ⟨[], some (.resolve e)⟩ := by
    simp only [walk, Loader.walk, hroot, he]
  exact ⟨hwalk, hlocal (by rw [hwalk]; exact fun _ h => absurd h List.not_mem_nil)⟩

/-- A module imports a second one, then one that cannot be resolved, and a third one: the network is asked for the first
two.  It is asked for nothing, and no file changes, where a builtin module is imported, or something that cannot be
resolved. -/
theorem footprint_unresolved :
    let text (url : Url) : String :=
      if url.text = "http://h/a" then "import './b'; import 'ftp://h/'; import './c';" else "export default 1;"
    let l : Loader := ⟨.default, ⟨"/cache"⟩, fun r => .ok (Response.plain 200 (text r.url)), .default⟩
    let s : Session := ⟨⟨.empty, [], [], [], 0⟩, .empty ⟨none, "/tmp", some "/w", [], 1, "linux", "x64"⟩⟩
    (l.fetcher.settle ((l.load "http://h/a").run s).2.web).2.requests.map (·.url.text) = ["http://h/a", "http://h/b"] ∧
      (∃ e, ((l.load "http://h/a").run s).1 = .error e ∧ e.isUnsupportedScheme) ∧
      (l.fetcher.settle ((l.load "path").run s).2.web).2.files = s.web.files ∧
      (l.fetcher.settle ((l.load "ftp://h/").run s).2.web).2.files = s.web.files := by
  intro text l s
  obtain ⟨⟨sent, hrequests, hsent⟩, herror, -, -⟩ := l.footprint "http://h/a" s
  obtain ⟨hurls, hfault⟩ : ((l.walk "http://h/a" s).started.filter Url.isRemote).map Url.text
      = ["http://h/a", "http://h/b"] ∧ (l.walk "http://h/a" s).fault.any (·.isUnsupportedScheme) := by
    decide +kernel
  obtain ⟨e, he, hscheme⟩ := (Option.any_eq_true _ _).1 hfault
  have hbuiltin : ∀ url ∈ (l.walk "path" s).started, url.isRemote = false := by decide +kernel
  have hroot : l.config.root s.scripts.host = .ok (Config.directoryUrl "/w") := rfl
  have hftp : (l.resolver (Config.directoryUrl "/w")).resolve "ftp://h/" none
      = .error (.scheme ⟨"ftp", some ⟨"", none, "h", none⟩, .segments [""], none, none⟩) := by decide +kernel
  have hnone : s.web.pending = [] := rfl
  have hsettled : (l.fetcher.settle s.web).2.files = s.web.files := by rw [l.fetcher.settle_of_pending_nil hnone]
  obtain ⟨-, -, hlocal, -⟩ := l.footprint "path" s
  obtain ⟨-, -, -, hunresolved⟩ := l.footprint "ftp://h/" s
  have htexts : sent.map (·.url.text) = ["http://h/a", "http://h/b"] := by
    have hmap : (sent.map (·.url)).map Url.text = sent.map (·.url.text) := List.map_map
    rw [← hmap, hsent, hnone, List.nil_append, hurls]
  have hempty : s.web.requests = [] := rfl
  rw [hempty, List.nil_append] at hrequests
  refine ⟨?_, ⟨e, herror e he, hscheme⟩, (hlocal hbuiltin).trans hsettled, ?_⟩
  · rw [hrequests]
    exact htexts
  · exact (hunresolved _ _ hroot hftp).2.trans hsettled

end Loader
end ScriptImport
