/-
# Stores that stop half-way

A store is three changes to the files: it makes the directory, writes the body and writes the metadata.  If it stops
before all of them are made (`Cache.stopped`), because one of them fails (`Cache.exists_store_eq_stopped`) or for any
other reason, what is left depends on how far it came: before the body is written nothing has changed, and behind the
body an entry that was there has its old metadata and the new body.

`Cache.Stands` is the invariant that survives all of this: like `Cache.Represents` it says which entries the files
hold, but it lets bodies without metadata lie about, which a first store that stops leaves behind.  So whatever was
done with a cache, to the end or not, the files hold known entries (`Cache.Stands.run`), and a store that stops tears
one apart exactly if it stops behind the body of another response (`Cache.stopped_store`).
-/

import ScriptImport.Proofs.Fetch.LostBody
import ScriptImport.Proofs.Fetch.Map

namespace ScriptImport

/-! ### Changes up to one that fails -/

/-- A change that fails leaves the files of the changes before it. -/
theorem Change.applyAll_take {f g : Files} {cs : List Change} {n : Nat} {e : Option FileError}
    (h : applyAll f cs = (g, n, e)) : applyAll f (cs.take n) = (g, n, none) ∧ (e = none ↔ cs.length ≤ n) := by
  induction cs generalizing f n with
  | nil =>
    cases h
    exact ⟨rfl, by simp⟩
  | cons c cs ih =>
    unfold applyAll at h
    cases happly : c.apply f with
    | error e' =>
      rw [happly] at h
      cases h
      exact ⟨rfl, by simp⟩
    | ok f' =>
      rw [happly] at h
      dsimp only at h
      obtain ⟨g', n', e', hrest⟩ : ∃ g' n' e', applyAll f' cs = (g', n', e') := ⟨_, _, _, rfl⟩
      rw [hrest] at h
      cases h
      obtain ⟨htake, hall⟩ := ih hrest
      refine ⟨?_, by simpa using hall⟩
      rw [List.take_succ_cons, applyAll, happly]
      dsimp only
      rw [htake]

namespace Cache

open Files

/-- The files after a store that has stopped behind the first `n` of its changes. -/
def stopped (c : Cache) (f : Files) (url body : String) (headers : Dict String) (now n : Nat) : Files :=
  (Change.applyAll f ((c.storeChanges url body (c.newMetadata url headers now)).take n)).1

/-- **A store that fails has stopped** behind some of its changes, and one that succeeds behind all of them. -/
theorem exists_store_eq_stopped (c : Cache) (f : Files) (url body : String) (headers : Dict String) (now : Nat) :
    ∃ n, (c.store f url body headers now).2 = c.stopped f url body headers now n ∧
      ((c.store f url body headers now).1.isOk ↔ 3 ≤ n) := by
  obtain ⟨g, n, e, h⟩ : ∃ g n e,
      Change.applyAll f (c.storeChanges url body (c.newMetadata url headers now)) = (g, n, e) := ⟨_, _, _, rfl⟩
  obtain ⟨htake, hall⟩ := Change.applyAll_take h
  refine ⟨n, ?_, ?_⟩
  · rw [stopped, htake, store]
    simp only [h]
    cases e <;> rfl
  · rw [show 3 ≤ n ↔ e = none from hall.symm, store]
    simp only [h]
    cases e <;> simp [Except.isOk, Except.toBool]

/-- A store that comes to its end. -/
theorem stopped_eq_store {c : Cache} {f : Files} {url body : String} {headers : Dict String} {now n : Nat}
    (hn : 3 ≤ n) : c.stopped f url body headers now n = (c.store f url body headers now).2 := by
  rw [stopped, List.take_of_length_le hn, store]
  split <;> next h => rw [h]

/-! ### Files that hold entries -/

variable {c : Cache} {urls : Set String} {f g s : Files} {entries : String → Option Cached} {contents : Contents}
  {url : String}

/-- The entries stay if their files do; `g` are the files once the directory of the cache has been made. -/
theorem Holds.of_same (h : c.Holds urls f entries) (hg : f.makeDirectories c.root = .ok g)
    (hdirectories : DirectoriesIn g s) (haccepts : ∀ v ∈ urls, c.Accepts s v)
    (hmetadata : ∀ v ∈ urls, s.entry? (c.metadataPlace v) = g.entry? (c.metadataPlace v))
    (hbody : ∀ v ∈ urls, (entries v).isSome → s.entry? (c.bodyPlace v) = g.entry? (c.bodyPlace v)) :
    c.Holds urls s entries := by
  obtain ⟨g', hg', haccepts'⟩ := h.accepts
  obtain rfl := Except.ok.inj (hg.symm.trans hg')
  have hmade := makeDirectories_again hg hdirectories
  refine ⟨⟨s, hmade, haccepts⟩, fun v hv hnone => ?_, fun v hv e he => ?_⟩
  · rw [hmetadata v hv, (haccepts' v hv).metadata_eq (grown_of_makeDirectories hg)]
    exact h.absent v hv hnone
  · have hp := h.present v hv e he
    obtain rfl := Except.ok.inj (hp.made.symm.trans hg)
    exact ⟨hmade, (hmetadata v hv).trans hp.metadata, (hbody v hv (Option.isSome_of_eq_some he)).trans hp.body,
      hp.storable, hp.file⟩

/-- **A body that is written alone** goes to the entry that is there; without one it is no entry. -/
theorem Holds.withBody (h : c.Holds urls f entries) (hurl : url ∈ urls) (hdigest : Set.InjOn digest urls)
    (hg : f.makeDirectories c.root = .ok g) (body : String) :
    c.Holds urls (g.withFile (c.bodyPlace url) body.toUTF8)
      (Function.update entries url ((entries url).map fun e => ⟨e.metadata, body⟩)) := by
  obtain ⟨g', hg', haccepts⟩ := h.accepts
  obtain rfl := Except.ok.inj (hg.symm.trans hg')
  have ha := haccepts url hurl
  have haccepts' : ∀ v ∈ urls, c.Accepts (g.withFile (c.bodyPlace url) body.toUTF8) v := fun v hv =>
    (haccepts v hv).withFile ha.body _
  have hdirectories := directoriesIn_withFile ha.body body.toUTF8
  have hother : ∀ p, pathOf p ≠ pathOf (c.bodyPlace url) →
      Files.entry? (g.withFile (c.bodyPlace url) body.toUTF8) p = g.entry? p := fun p hne => by
    rw [entry?_withFile, if_neg fun heq => hne heq.2]
  cases he : entries url with
  | none =>
    rw [Option.map_none, ← he, Function.update_eq_self]
    refine h.of_same hg hdirectories haccepts' (fun v _ => hother _ (pathOf_bodyPlace_ne_metadataPlace c url v).symm)
      fun v hv hsome => hother _ (pathOf_bodyPlace_ne c fun heq => ?_)
    rw [hdigest hv hurl heq, he] at hsome
    cases hsome
  | some e =>
    have hp := h.present url hurl e he
    refine h.update hurl hdigest hg haccepts' ⟨makeDirectories_again hg hdirectories, ?_, ?_, hp.storable, hp.file⟩
      fun p hbody _ => hother p hbody
    · obtain rfl := Except.ok.inj (hp.made.symm.trans hg)
      rw [hother _ (pathOf_bodyPlace_ne_metadataPlace c url url).symm, hp.metadata]
    · rw [entry?_withFile, if_pos ⟨ha.body.ne_nil, rfl⟩]

/-! ### Caches that are used, to the end or not -/

/-- What is kept about a URL after a store that has stopped behind the first `n` of its changes. -/
def Kept.stopped (old : Option Kept) (body : String) (headers : Dict String) (now : Nat) : Nat → Option Kept
  | 0 => old
  | 1 => old
  | 2 => old.map fun k => { k with body := body }
  | _ + 3 => some (.ofResponse body headers now)

/-- Something that is done with a cache, or a store that stops behind the first `n` of its changes. -/
inductive Attempt where
  | whole (o : Operation)
  | stopped (url body : String) (headers : Dict String) (now n : Nat)

namespace Attempt

/-- The files after it. -/
def files (c : Cache) (f : Files) : Attempt → Files
  | whole o => (o.perform c f).2
  | stopped url body headers now n => c.stopped f url body headers now n

/-- What is kept after it. -/
def next (contents : Contents) : Attempt → Contents
  | whole o => o.next contents
  | stopped url body headers now n =>
    Function.update contents url (Kept.stopped (contents url) body headers now n)

/-- On one of some URLs, at a time that 64 bits hold. -/
def Within (urls : Set String) : Attempt → Prop
  | whole o => o.Within urls
  | stopped url _ _ now _ => url ∈ urls ∧ now ≤ Json.maxSignificand

/-- The files after several of them. -/
def filesAfter (c : Cache) (f : Files) (as : List Attempt) : Files := as.foldl (files c) f

/-- What is kept after several of them. -/
def contentsAfter (contents : Contents) (as : List Attempt) : Contents := as.foldl next contents

end Attempt

/-- The files hold what is kept, and besides that at most bodies of some of the URLs. -/
structure Stands (c : Cache) (urls : Set String) (f : Files) (contents : Contents) : Prop where
  holds : c.Holds urls f fun url => (contents url).map (·.cached c url)
  directory : ∃ g, f.makeDirectories c.root = .ok g ∧ c.Listed g
  files : ∀ name bytes, f.entry? (name :: c.rootPlace) = some (.file bytes) →
    ∃ url ∈ urls, name = key url ∨ name = key url ++ ".json"
  /-- The directory has been made, or nothing is in it. -/
  started : f.makeDirectories c.root = .ok f ∨ c.IsEmpty f

theorem Usable.stands (h : c.Usable urls f) : c.Stands urls f fun _ => none :=
  ⟨h.represents.holds, h.represents.directory, fun name _ hfile => absurd hfile (by rw [h.empty name]; simp),
    .inr h.empty⟩

theorem Stands.congr (h : c.Stands urls f contents) {contents' : Contents}
    (hsame : ∀ url ∈ urls, contents' url = contents url) : c.Stands urls f contents' where
  holds := h.holds.congr fun url hurl => by rw [hsame url hurl]
  directory := h.directory
  files := h.files
  started := h.started

/-- Files in which, once the directory had been made, at most the two files of a URL were written. -/
theorem Stands.written (h : c.Stands urls f contents) (hurl : url ∈ urls) (hg : f.makeDirectories c.root = .ok g)
    (hdirectories : DirectoriesIn g s)
    (hsame : ∀ p, pathOf p ≠ pathOf (c.bodyPlace url) → pathOf p ≠ pathOf (c.metadataPlace url) →
      s.entry? p = g.entry? p) {k : Option Kept}
    (hholds : c.Holds urls s (Function.update (fun v => (contents v).map (·.cached c v)) url (k.map (·.cached c url)))) :
    c.Stands urls s (Function.update contents url k) := by
  have hmade := makeDirectories_again hg hdirectories
  obtain ⟨g', hg', hlisted⟩ := h.directory
  obtain rfl := Except.ok.inj (hg.symm.trans hg')
  refine ⟨by rw [map_update]; exact hholds, ⟨s, hmade, hlisted.mono hdirectories⟩, fun name bytes hfile => ?_, .inl hmade⟩
  by_cases hname : name = key url ∨ name = key url ++ ".json"
  · exact ⟨url, hurl, hname⟩
  · rw [not_or] at hname
    rw [hsame _ (fun heq => hname.1 (pathOf_cons_inj heq)) fun heq => hname.2 (pathOf_cons_inj heq)] at hfile
    rcases (grown_of_makeDirectories hg).entry (name :: c.rootPlace) with heq | ⟨-, hdirectory⟩
    · exact h.files name bytes (heq ▸ hfile)
    · exact absurd (hfile.symm.trans hdirectory) (by simp)

/-- **A store that stops** leaves what `Kept.stopped` says. -/
theorem Stands.stopped (h : c.Stands urls f contents) (hurl : url ∈ urls) (hdigest : Set.InjOn digest urls)
    (body : String) (headers : Dict String) {now : Nat} (hnow : now ≤ Json.maxSignificand) (n : Nat) :
    c.Stands urls (c.stopped f url body headers now n)
      (Function.update contents url (Kept.stopped (contents url) body headers now n)) := by
  obtain ⟨g, hg, haccepts⟩ := h.holds.accepts
  have ha := haccepts url hurl
  have hbody := writeText_eq ha.body body
  match n with
  | 0 =>
    rw [Kept.stopped, Function.update_eq_self]
    exact h
  | 1 =>
    have hfiles : c.stopped f url body headers now 1 = g := by
      simp [Cache.stopped, storeChanges, Change.applyAll, Change.apply, hg]
    rw [hfiles]
    refine h.written hurl hg (fun _ => id) (fun _ _ _ => rfl) ?_
    rw [Kept.stopped, Function.update_eq_self]
    exact h.holds.of_same hg (fun _ => id) haccepts (fun _ _ => rfl) fun _ _ _ => rfl
  | 2 =>
    have hfiles : c.stopped f url body headers now 2 = g.withFile (c.bodyPlace url) body.toUTF8 := by
      simp [Cache.stopped, storeChanges, Change.applyAll, Change.apply, hg, hbody]
    rw [hfiles]
    refine h.written hurl hg (directoriesIn_withFile ha.body _) (fun p hne _ => ?_) ?_
    · rw [entry?_withFile, if_neg fun heq => hne heq.2]
    · have hholds := h.holds.withBody hurl hdigest hg body
      rw [Option.map_map] at hholds
      rw [Kept.stopped, Option.map_map]
      exact hholds
  | n + 3 =>
    obtain ⟨s, hstore, hholds⟩ := h.holds.store hurl hdigest body headers hnow
    obtain rfl : _ = s := congrArg Prod.snd ((store_eq hg ha body headers now).symm.trans hstore)
    rw [stopped_eq_store (Nat.le_add_left 3 n), hstore]
    refine h.written hurl hg (directoriesIn_withEntry ha _) (fun p => entry?_withEntry_of_ne _) ?_
    rw [Kept.stopped, Option.map_some, cached_ofResponse]
    exact hholds

/-! ### Removing and clearing -/

/-- What is kept is there. -/
theorem Stands.present (h : c.Stands urls f contents) (hurl : url ∈ urls) {k : Kept} (hk : contents url = some k) :
    c.Present f url (k.cached c url) :=
  h.holds.present url hurl _ (Option.map_eq_some_iff.2 ⟨k, hk, rfl⟩)

/-- Where nothing is, nothing is kept. -/
theorem Stands.eq_none_of_isEmpty (h : c.Stands urls f contents) (hempty : c.IsEmpty f) (hurl : url ∈ urls) :
    contents url = none := by
  cases hk : contents url with
  | none => rfl
  | some k => exact absurd (h.present hurl hk).metadata (by rw [metadataPlace, hempty]; simp)

/-- **Files without some of the entries.** -/
theorem Stands.removed (h : c.Stands urls f contents) (hmade : f.makeDirectories c.root = .ok f)
    {paths : List String} (hremoved : Removed paths f g) {contents' : Contents}
    (hkept : ∀ v ∈ urls, ∀ k, contents' v = some k → contents v = some k ∧
      g.entry? (c.bodyPlace v) = f.entry? (c.bodyPlace v) ∧
      g.entry? (c.metadataPlace v) = f.entry? (c.metadataPlace v))
    (hgone : ∀ v ∈ urls, contents' v = none → g.entry? (c.metadataPlace v) = none) :
    c.Stands urls g contents' := by
  have hagain := makeDirectories_again hmade hremoved.directories
  obtain ⟨made, hmade', hlisted⟩ := h.directory
  obtain rfl := Except.ok.inj (hmade.symm.trans hmade')
  exact ⟨h.holds.removed hmade hremoved hkept hgone, ⟨g, hagain, hlisted.mono hremoved.directories⟩,
    fun name bytes hfile => h.files name bytes (hremoved.entry?_of_some hfile), .inl hagain⟩

theorem Stands.remove (h : c.Stands urls f contents) (hdigest : Set.InjOn digest urls) (hurl : url ∈ urls) :
    ∃ g, c.remove f url = (.ok (), g) ∧ c.Stands urls g (Function.update contents url none) := by
  rcases h.started with hmade | hempty
  · obtain ⟨g, hg, hremoved⟩ := h.holds.exists_removed hmade (paths_of_url c hurl)
    refine ⟨g, hg, h.removed hmade hremoved (fun v hv k hk => kept_of_removed hremoved hdigest hurl hv hk)
      fun v hv hnone => ?_⟩
    by_cases hne : v = url
    · rw [hne]
      exact hremoved.gone (by simp) (h.holds.accepts_of_made hmade url hurl).metadata
    · rw [Function.update_of_ne hne] at hnone
      exact hremoved.entry?_eq_none (h.holds.absent v hv (by rw [hnone]; rfl))
  · refine ⟨f, removeAll_of_not_contains ?_, h.congr fun v hv => ?_⟩
    · simp [contains_iff, descend_bodyPath, descend_metadataPath, bodyPlace, metadataPlace, hempty _]
    · by_cases hne : v = url
      · rw [hne, Function.update_self, h.eq_none_of_isEmpty hempty hurl]
      · rw [Function.update_of_ne hne]

theorem Stands.clear (h : c.Stands urls f contents) :
    ∃ g, c.clear f = (.ok (), g) ∧ c.Stands urls g fun _ => none := by
  obtain ⟨made, hmade', hlisted⟩ := h.directory
  unfold Cache.clear
  by_cases hcontains : f.contains c.root
  · have hlisted := hlisted.of_contains hmade' hcontains
    obtain ⟨names, hnames, hslash, hmem⟩ := names_eq_ok hlisted.place hlisted.directory
    rw [if_pos hcontains, hnames]
    rcases h.started with hmade | hempty
    · have hpaths : ∀ path ∈ c.filePaths f names, ∃ v ∈ urls, path = c.bodyPath v ∨ path = c.metadataPath v := by
        intro path hpath
        obtain ⟨name, bytes, rfl, hentry⟩ := hlisted.of_mem_filePaths hslash hpath
        obtain ⟨url, hurl, rfl | rfl⟩ := h.files name bytes hentry
        · exact ⟨url, hurl, .inl rfl⟩
        · exact ⟨url, hurl, .inr rfl⟩
      obtain ⟨g, hg, hremoved⟩ := h.holds.exists_removed hmade hpaths
      refine ⟨g, hg, h.removed hmade hremoved (fun _ _ _ hk => absurd hk (by simp)) fun v hv _ => ?_⟩
      cases hk : contents v with
      | none => exact hremoved.entry?_eq_none (h.holds.absent v hv (by rw [hk]; rfl))
      | some k =>
        have hp := h.present hv hk
        have ha := (h.holds.accepts_of_made hmade v hv).metadata
        have hname := hmem (key v ++ ".json") (by simp [slash_not_mem_key v]) (Option.isSome_of_eq_some hp.metadata)
        exact hremoved.gone (mem_filePaths hname ha.place hp.metadata) ha
    · have hnone : c.filePaths f names = [] := List.eq_nil_iff_forall_not_mem.2 fun path hpath => by
        obtain ⟨name, bytes, -, hentry⟩ := hlisted.of_mem_filePaths hslash hpath
        exact absurd hentry (by rw [hempty name]; simp)
      exact ⟨f, congrArg (removeAll f) hnone, h.congr fun v hv => (h.eq_none_of_isEmpty hempty hv).symm⟩
  · rw [if_neg hcontains]
    refine ⟨f, rfl, h.congr fun v hv => ?_⟩
    cases hk : contents v with
    | none => rfl
    | some k =>
      -- an entry is in a directory that is there
      obtain rfl := Except.ok.inj ((h.present hv hk).made.symm.trans hmade')
      exact absurd (contains_iff.2 ⟨hlisted.place, Option.isSome_of_eq_some hlisted.directory⟩) hcontains

/-! ### Any use -/

/-- **Confirming what is kept.** -/
theorem Stands.touch (h : c.Stands urls f contents) (hurl : url ∈ urls) (hdigest : Set.InjOn digest urls)
    (headers : Dict String) {now : Nat} (hnow : now ≤ Json.maxSignificand) :
    c.Stands urls (c.touch f url headers now).2.1
      (Function.update contents url ((contents url).map (·.confirmed headers now))) := by
  cases hk : contents url with
  | none =>
    rw [touch_of_none (metadata?_of_none (h.holds.absent url hurl (by rw [hk]; rfl)))]
    exact h.congr fun v _ => by rw [Option.map_none, ← hk, Function.update_eq_self]
  | some k =>
    have hp := h.present hurl hk
    have ha := h.holds.accepts_of_made hp.made url hurl
    have he : (contents url).map (·.cached c url) = some (k.cached c url) := by rw [hk]; rfl
    obtain ⟨g, htouch, hholds⟩ := h.holds.touch hurl hdigest he headers hnow
    obtain rfl : _ = g := congrArg (·.2.1) ((touch_eq ha hp headers now).symm.trans htouch)
    rw [htouch]
    refine h.written hurl hp.made (directoriesIn_withFile ha.metadata _) (fun p _ hmetadata => ?_) ?_
    · rw [entry?_withFile, if_neg fun heq => hmetadata heq.2]
    · rw [Option.map_some, Option.map_some, cached_confirmed]
      exact hholds

/-- **Whatever is done, to the end or not,** the files hold what is kept after it. -/
theorem Stands.attempt (h : c.Stands urls f contents) (hdigest : Set.InjOn digest urls) {a : Attempt}
    (ha : a.Within urls) : c.Stands urls (a.files c f) (a.next contents) := by
  cases a with
  | stopped url body headers now n => exact h.stopped ha.1 hdigest body headers ha.2 n
  | whole o =>
    cases o with
    | store url body headers now =>
      have hstored := h.stopped ha.1 hdigest body headers ha.2 3
      rwa [stopped_eq_store (Nat.le_refl 3)] at hstored
    | touch url headers now =>
      have htouched := h.touch ha.1 hdigest headers ha.2
      rw [Attempt.files, Operation.perform]
      generalize c.touch f url headers now = r at htouched ⊢
      exact htouched
    | remove url =>
      obtain ⟨g, hg, hstands⟩ := h.remove hdigest ha
      rw [Attempt.files, Operation.perform, hg]
      exact hstands
    | clear =>
      obtain ⟨g, hg, hstands⟩ := h.clear
      rw [Attempt.files, Operation.perform, hg]
      exact hstands
    | lookup url => exact h
    | contains url => exact h
    | metadata url => exact h

/-- **One thing after the other.** -/
theorem Stands.run (h : c.Stands urls f contents) (hdigest : Set.InjOn digest urls) {as : List Attempt}
    (has : ∀ a ∈ as, a.Within urls) :
    c.Stands urls (Attempt.filesAfter c f as) (Attempt.contentsAfter contents as) := by
  induction as generalizing f contents with
  | nil => exact h
  | cons a as ih =>
    rw [List.forall_mem_cons] at has
    exact ih (h.attempt hdigest has.1) has.2

/-- Looking up finds what is kept. -/
theorem Stands.lookup_eq (h : c.Stands urls f contents) (hurl : url ∈ urls) :
    (c.lookup f url).1 = Operation.hit c url (contents url) := by
  rw [h.holds.lookup_eq hurl]
  cases contents url <;> rfl

/-! ### Torn entries -/

/-- Looking up after a store finds neither what was there before nor what was stored, and something all the same. -/
def Torn (c : Cache) (before after : Files) (url : String) (new : Cached) : Prop :=
  (c.lookup after url).1 ≠ (c.lookup before url).1 ∧ (c.lookup after url).1 ≠ .ok new ∧
    (c.lookup after url).1 ≠ .error (.miss url)

/-- Looking up after a store that has stopped. -/
theorem Stands.lookup_stopped (h : c.Stands urls f contents) (hurl : url ∈ urls) (hdigest : Set.InjOn digest urls)
    (body : String) (headers : Dict String) {now : Nat} (hnow : now ≤ Json.maxSignificand) (n : Nat) :
    (c.lookup (c.stopped f url body headers now n) url).1 =
      if n ≤ 1 then (c.lookup f url).1
      else if n = 2 then (c.lookup f url).1.map fun old => ⟨old.metadata, body⟩
      else .ok ⟨c.newMetadata url headers now, body⟩ := by
  rw [(h.stopped hurl hdigest body headers hnow n).lookup_eq hurl, Function.update_self, h.lookup_eq hurl]
  match n with
  | 0 => rfl
  | 1 => rfl
  | 2 => cases contents url <;> rfl
  | n + 3 =>
    rw [if_neg (by omega), if_neg (by omega), ← cached_ofResponse]
    rfl

/-- **A store tears an entry** if it stops behind its body and the entry was another one. -/
theorem Stands.torn_iff (h : c.Stands urls f contents) (hurl : url ∈ urls) (hdigest : Set.InjOn digest urls)
    (body : String) (headers : Dict String) {now : Nat} (hnow : now ≤ Json.maxSignificand) (n : Nat) :
    c.Torn f (c.stopped f url body headers now n) url ⟨c.newMetadata url headers now, body⟩ ↔
      n = 2 ∧ ∃ old, (c.lookup f url).1 = .ok old ∧ old.body ≠ body ∧ old.metadata ≠ c.newMetadata url headers now := by
  rw [Torn, h.lookup_stopped hurl hdigest body headers hnow n]
  split_ifs with hfirst hsecond
  · exact iff_of_false (fun htorn => htorn.1 rfl) fun htorn => absurd hfirst (by omega)
  · cases hlookup : (c.lookup f url).1 with
    | error e =>
      have hmiss : e = .miss url := by
        rw [h.lookup_eq hurl] at hlookup
        cases hk : contents url with
        | none => rw [hk] at hlookup; exact (Except.error.inj hlookup).symm
        | some k => rw [hk] at hlookup; cases hlookup
      subst hmiss
      exact iff_of_false (fun htorn => htorn.2.2 rfl) fun ⟨_, old, hold, _⟩ => nomatch hold
    | ok old =>
      obtain ⟨metadata, oldBody⟩ := old
      simp [Except.map, hsecond, eq_comm]
  · exact iff_of_false (fun htorn => htorn.2.1 rfl) fun htorn => hsecond htorn.1

/-- **A confirmation takes what is there** for what was confirmed: the request carries the validators that are kept,
and the answer brings the body that is kept. -/
theorem Stands.confirmed (h : c.Stands urls f contents) (hdigest : Set.InjOn digest urls) {u : Url}
    (hurl : u.text ∈ urls) {cached : Cached} (hlookup : (c.lookup f u.text).1 = .ok cached) :
    (c.request f u).headers = cached.metadata.conditions ∧
      ∀ (r : Response) later, r.isUnchanged → later ≤ Json.maxSignificand →
        (c.answered f later u (.ok r)).1 = .ok ⟨u, .revalidated, some r.status, cached.body⟩ := by
  have he : (contents u.text).map (·.cached c u.text) = some cached := by
    rw [h.lookup_eq hurl] at hlookup
    cases hk : contents u.text with
    | none => rw [hk] at hlookup; cases hlookup
    | some k => rw [hk] at hlookup; exact congrArg some (Except.ok.inj hlookup)
  refine ⟨?_, fun r later hu hlater => ?_⟩
  · rw [request, h.holds.metadata?_eq hurl, he]
    rfl
  · obtain ⟨g, htouch, -⟩ := h.holds.touch hurl hdigest he r.headers hlater
    unfold answered
    simp only [if_neg (not_isSuccess_of_isUnchanged hu), if_pos hu]
    rw [htouch]

/-- **What is left of a store that stops.**  Whatever was done with a cache that can be used, to the end or not: until
the body is written a look-up finds what was there before, behind the body it finds the old metadata with the new
body, if there were metadata, and in the end it finds what was stored.  No other URL is concerned.  So the entry is
torn if the store stops behind the body and there was an entry with another body and other metadata; and then the
next request carries the validators of the old response, and a server that confirms them confirms the new body. -/
theorem stopped_store (h : c.Usable urls f) {as : List Attempt} (has : ∀ a ∈ as, a.Within urls) (hurl : url ∈ urls)
    (body : String) (headers : Dict String) {now : Nat} (hnow : now ≤ Json.maxSignificand) (n : Nat) :
    let g := Attempt.filesAfter c f as
    let s := c.stopped g url body headers now n
    let new : Cached := ⟨c.newMetadata url headers now, body⟩
    ((c.lookup s url).1 =
      if n ≤ 1 then (c.lookup g url).1
      else if n = 2 then (c.lookup g url).1.map fun old => ⟨old.metadata, body⟩
      else .ok new) ∧
    (∀ v ∈ urls, v ≠ url → (c.lookup s v).1 = (c.lookup g v).1) ∧
    (c.Torn g s url new ↔
      n = 2 ∧ ∃ old, (c.lookup g url).1 = .ok old ∧ old.body ≠ body ∧ old.metadata ≠ new.metadata) ∧
    (c.Torn g s url new → ∀ u : Url, u.text = url → ∃ old, (c.lookup g url).1 = .ok old ∧
      (c.request s u).headers = old.metadata.conditions ∧
      ∀ (r : Response) later, r.isUnchanged → later ≤ Json.maxSignificand →
        (c.answered s later u (.ok r)).1 = .ok ⟨u, .revalidated, some r.status, body⟩) := by
  intro g s new
  have hg := h.stands.run h.digests has
  have hs := hg.stopped hurl h.digests body headers hnow n
  have hlookup := hg.lookup_stopped hurl h.digests body headers hnow n
  have htorn := hg.torn_iff hurl h.digests body headers hnow n
  refine ⟨hlookup, fun v hv hne => ?_, htorn, fun htears u hu => ?_⟩
  · rw [hs.lookup_eq hv, hg.lookup_eq hv, Function.update_of_ne hne]
  · obtain ⟨rfl, old, hold, -⟩ := htorn.1 htears
    obtain rfl := hu
    have hfound : (c.lookup s u.text).1 = .ok ⟨old.metadata, body⟩ := by
      rw [hlookup, if_neg (by decide), if_pos rfl, hold]
      rfl
    exact ⟨old, hold, hs.confirmed h.digests hurl hfound⟩

/-- A second response that is half stored: the first one was stored, removed and stored again. -/
theorem stopped_store_second :
    let c : Cache := ⟨"/cache"⟩
    let urls : Set String := {"http://a/", "http://b/"}
    let first : Attempt := .whole (.store "http://a/" "one" [("etag", "1")] 1)
    let as : List Attempt := [first, .whole (.remove "http://a/"), .stopped "http://b/" "three" [] 1 2, first]
    let g := Attempt.filesAfter c Files.empty as
    let s := c.stopped g "http://a/" "two" [("etag", "2")] 2 2
    c.Usable urls Files.empty ∧ (∀ a ∈ as, a.Within urls) ∧ "http://a/" ∈ urls ∧ 2 ≤ Json.maxSignificand ∧
      (c.lookup s "http://a/").1 = (c.lookup g "http://a/").1.map fun old => ⟨old.metadata, "two"⟩ := by
  intro c urls first as g s
  have has : ∀ a ∈ as, a.Within urls := by simp [as, first, Attempt.Within, Operation.Within, urls, Json.maxSignificand]
  have hurl : "http://a/" ∈ urls := .inl rfl
  have hnow : 2 ≤ Json.maxSignificand := by decide
  have hstopped := stopped_store usable_empty has hurl "two" [("etag", "2")] hnow 2
  exact ⟨usable_empty, has, hurl, hnow, hstopped.1⟩

/-- **A torn entry.**  A response with the tag `1` is stored, and a second one with the tag `2` only up to its body.
Then a look-up finds neither of the two, and it does not miss: the next request carries the tag `1`, and a
server that confirms it confirms the text that it sent with the tag `2`. -/
theorem torn_second :
    let c : Cache := ⟨"/cache"⟩
    let u : Url := ⟨"http", some ⟨"", none, "a", none⟩, .segments [""], none, none⟩
    let g := (c.store Files.empty u.text "one" [("etag", "1")] 1).2
    let s := c.stopped g u.text "two" [("etag", "2")] 2 2
    let new : Cached := ⟨c.newMetadata u.text [("etag", "2")] 2, "two"⟩
    ¬ ((c.lookup s u.text).1 = (c.lookup g u.text).1 ∨ (c.lookup s u.text).1 = .ok new ∨
      (c.lookup s u.text).1 = .error (.miss u.text)) ∧
    (c.request s u).headers = [("if-none-match", "1")] ∧
    (c.answered s 3 u (.ok (Response.plain 304 ""))).1 = .ok ⟨u, .revalidated, some 304, "two"⟩ := by
  intro c u g s new
  have htext : u.text = "http://a/" := by decide +kernel
  have hurl : u.text ∈ ({"http://a/", "http://b/"} : Set String) := .inl htext
  have hnow : 1 ≤ Json.maxSignificand ∧ 2 ≤ Json.maxSignificand ∧ 3 ≤ Json.maxSignificand := by decide
  have hname : lowerAscii "etag" = "etag" := by decide +kernel
  have hg := usable_empty.stands.stopped hurl usable_empty.digests "one" [("etag", "1")] hnow.1 3
  rw [stopped_eq_store (Nat.le_refl 3)] at hg
  have hs := hg.stopped hurl usable_empty.digests "two" [("etag", "2")] hnow.2.1 2
  have hfirst : (c.lookup g u.text).1 = .ok ⟨⟨u.text, c.bodyPath u.text, [("etag", "1")], 1⟩, "one"⟩ := by
    rw [hg.lookup_eq hurl]
    simp [Operation.hit, Kept.stopped, Kept.cached, Kept.ofResponse, Kept.headers, Metadata.lastHeader?, hname, c]
  have hsecond : (c.lookup s u.text).1 = .ok ⟨⟨u.text, c.bodyPath u.text, [("etag", "1")], 1⟩, "two"⟩ := by
    rw [hs.lookup_eq hurl]
    simp [Operation.hit, Kept.stopped, Kept.cached, Kept.ofResponse, Kept.headers, Metadata.lastHeader?, hname, c]
  obtain ⟨hheaders, hanswered⟩ := hs.confirmed usable_empty.digests hurl hsecond
  refine ⟨?_, hheaders, hanswered (Response.plain 304 "") 3 rfl hnow.2.2⟩
  rw [hfirst, hsecond]
  simp [new, newMetadata, Metadata.new]

end Cache
end ScriptImport
