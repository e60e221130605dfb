/-
# The cache is a map from URLs to what is kept about them

Two files for each URL, named by digests, stand for a map: a URL may have a body and validators (`Kept`), and the
operations on the cache read and change that map (`Operation.next`, `Operation.expected`).  `Represents` says that
files are those of a map: each entry is in its two files (`Cache.Holds`), the directory of the cache can be made and
listed, and no file in it belongs to anything else.  One operation answers as the map says and leaves the files of the
next map (`Represents.perform`), so any row of operations does (`refines_map`).
-/

import ScriptImport.Proofs.Fetch.History

namespace ScriptImport
namespace Metadata

/-! ### What is kept of headers -/

/-- The value of the last header that has a name in small letters. -/
def lastHeader? (headers : Dict String) (name : String) : Option String :=
  (headers.reverse.find? fun h => lowerAscii h.1 = name).map (·.2)

theorem get?_validators (headers : Dict String) (name : String) :
    Dict.get? (validators headers) name = if name ∈ validatorNames then lastHeader? headers name else none := by
  have hnil : Dict.get? ([] : Dict String) name = none := rfl
  rw [validators, Dict.ofEntries, Dict.get?_insertAll, hnil, Option.or_none, ← List.filter_reverse,
    ← List.map_reverse, List.find?_filter, List.find?_map, Option.map_map]
  split_ifs with hname
  · rw [lastHeader?]
    congr 1
    refine congrArg (List.find? · headers.reverse) (funext fun h => ?_)
    by_cases heq : lowerAscii h.1 = name
    · simp [heq, hname]
    · simp [heq]
  · rw [Option.map_eq_none_iff, List.find?_eq_none]
    rintro h - hfound
    simp only [Function.comp_apply, decide_eq_true_eq] at hfound
    exact hname (hfound.2 ▸ hfound.1)

end Metadata

namespace Cache

open Files

/-! ### The map and the operations on it -/

/-- What is kept about a URL: the body of its response, the validators and when they were stored or confirmed. -/
structure Kept where
  body : String
  etag : Option String
  lastModified : Option String
  time : Nat

/-- What is kept about URLs. -/
abbrev Contents := String → Option Kept

/-- The validators as headers with names in small letters. -/
def Kept.headers (k : Kept) : Dict String :=
  (k.etag.map fun v => ("etag", v)).toList ++ (k.lastModified.map fun v => ("last-modified", v)).toList

/-- What is kept about a URL as the cache shows it: with the URL and the path of its own body. -/
def Kept.cached (c : Cache) (url : String) (k : Kept) : Cached :=
  ⟨⟨url, c.bodyPath url, k.headers, k.time⟩, k.body⟩

/-- What is kept about a response. -/
def Kept.ofResponse (body : String) (headers : Dict String) (now : Nat) : Kept :=
  ⟨body, Metadata.lastHeader? headers "etag", Metadata.lastHeader? headers "last-modified", now⟩

/-- What is kept after a confirmation: the body, and the given validators over those that were there. -/
def Kept.confirmed (k : Kept) (headers : Dict String) (now : Nat) : Kept :=
  { k with
    etag := (Metadata.lastHeader? headers "etag").or k.etag
    lastModified := (Metadata.lastHeader? headers "last-modified").or k.lastModified
    time := now }

/-- What can be done with a cache. -/
inductive Operation where
  | store (url body : String) (headers : Dict String) (now : Nat)
  | touch (url : String) (headers : Dict String) (now : Nat)
  | remove (url : String)
  | clear
  | lookup (url : String)
  | contains (url : String)
  | metadata (url : String)

/-- What an operation gives. -/
inductive Answer where
  | stored (result : Except CacheError Metadata)
  | cached (result : Except CacheError Cached)
  | done (result : Except CacheError Unit)
  | contains (result : Bool)
  | metadata (result : Option Metadata)

namespace Operation

/-- Does something with a cache: the answer, and the files after it. -/
def perform (c : Cache) (f : Files) : Operation → Answer × Files
  | store url body headers now =>
    let (result, g) := c.store f url body headers now
    (.stored result, g)
  | touch url headers now =>
    let (result, g, _) := c.touch f url headers now
    (.cached result, g)
  | remove url =>
    let (result, g) := c.remove f url
    (.done result, g)
  | clear =>
    let (result, g) := c.clear f
    (.done result, g)
  | lookup url => (.cached (c.lookup f url).1, f)
  | contains url => (.contains (Cache.contains c f url), f)
  | metadata url => (.metadata (c.metadata? f url).1, f)

/-- The map after an operation. -/
def next (contents : Contents) : Operation → Contents
  | store url body headers now => Function.update contents url (some (.ofResponse body headers now))
  | touch url headers now => Function.update contents url ((contents url).map (·.confirmed headers now))
  | remove url => Function.update contents url none
  | clear => fun _ => none
  | _ => contents

/-- What the map answers about a URL when it is looked up. -/
def hit (c : Cache) (url : String) : Option Kept → Except CacheError Cached
  | some k => .ok (k.cached c url)
  | none => .error (.miss url)

/-- What the map answers. -/
def expected (c : Cache) (contents : Contents) : Operation → Answer
  | store url body headers now => .stored (.ok ((Kept.ofResponse body headers now).cached c url).metadata)
  | touch url headers now => .cached (hit c url ((contents url).map (·.confirmed headers now)))
  | remove _ => .done (.ok ())
  | clear => .done (.ok ())
  | lookup url => .cached (hit c url (contents url))
  | contains url => .contains (contents url).isSome
  | metadata url => .metadata ((contents url).map fun k => (k.cached c url).metadata)

/-- An operation on one of some URLs, at a time that 64 bits hold. -/
def Within (urls : Set String) : Operation → Prop
  | store url _ _ now => url ∈ urls ∧ now ≤ Json.maxSignificand
  | touch url _ now => url ∈ urls ∧ now ≤ Json.maxSignificand
  | remove url => url ∈ urls
  | clear => True
  | lookup url => url ∈ urls
  | contains url => url ∈ urls
  | metadata url => url ∈ urls

/-- The files after operations. -/
def filesAfter (c : Cache) (f : Files) : List Operation → Files
  | [] => f
  | o :: os => filesAfter c (o.perform c f).2 os

/-- The answers that operations give, one after the other. -/
def answers (c : Cache) (f : Files) : List Operation → List Answer
  | [] => []
  | o :: os => (o.perform c f).1 :: answers c (o.perform c f).2 os

/-- The map after operations. -/
def contentsAfter (contents : Contents) : List Operation → Contents
  | [] => contents
  | o :: os => contentsAfter (o.next contents) os

/-- The answers that the map gives to operations. -/
def expectedAnswers (c : Cache) (contents : Contents) : List Operation → List Answer
  | [] => []
  | o :: os => o.expected c contents :: expectedAnswers c (o.next contents) os

end Operation

/-! ### Headers of the map -/

theorem Kept.ordered_headers (k : Kept) : Dict.Ordered k.headers := by
  have hlt : "etag" < "last-modified" := by decide
  unfold headers
  cases k.etag with
  | none => cases k.lastModified <;> simp [Dict.Ordered]
  | some etag =>
    cases k.lastModified with
    | none => simp [Dict.Ordered]
    | some lastModified => exact List.pairwise_pair.2 hlt

theorem Kept.get?_headers (k : Kept) (name : String) :
    Dict.get? k.headers name
      = if name = "etag" then k.etag else if name = "last-modified" then k.lastModified else none := by
  have hne : "last-modified" ≠ "etag" := by decide
  unfold headers Dict.get?
  cases k.etag <;> cases k.lastModified <;> grind

theorem headers_ofResponse (body : String) (headers : Dict String) (now : Nat) :
    (Kept.ofResponse body headers now).headers = Metadata.validators headers := by
  refine (Kept.ordered_headers _).ext (Metadata.ordered_validators headers) fun name => ?_
  rw [Kept.get?_headers, Metadata.get?_validators]
  simp only [Metadata.validatorNames, List.mem_cons, List.not_mem_nil, or_false]
  split_ifs <;> simp_all [Kept.ofResponse]

theorem headers_confirmed (k : Kept) (headers : Dict String) (now : Nat) :
    (k.confirmed headers now).headers = Dict.insertAll k.headers (Metadata.validators headers) := by
  refine (Kept.ordered_headers _).ext (k.ordered_headers.insertAll _) fun name => ?_
  rw [Dict.get?_insertAll_of_ordered _ (Metadata.ordered_validators headers), Kept.get?_headers,
    Kept.get?_headers, Metadata.get?_validators]
  simp only [Metadata.validatorNames, List.mem_cons, List.not_mem_nil, or_false]
  split_ifs <;> simp_all [Kept.confirmed]

theorem cached_ofResponse (c : Cache) (url body : String) (headers : Dict String) (now : Nat) :
    (Kept.ofResponse body headers now).cached c url = ⟨c.newMetadata url headers now, body⟩ := by
  rw [Kept.cached, headers_ofResponse]
  rfl

theorem cached_confirmed (c : Cache) (url : String) (k : Kept) (headers : Dict String) (now : Nat) :
    (k.confirmed headers now).cached c url
      = ⟨(k.cached c url).metadata.refreshed headers now, (k.cached c url).body⟩ := by
  rw [Kept.cached, headers_confirmed]
  rfl

/-! ### Files that stand for a map -/

/-- The directory of the cache can be made and listed, nothing is in it yet, and responses can be stored in it for
some URLs, whose digests differ. -/
structure Usable (c : Cache) (urls : Set String) (f : Files) : Prop where
  empty : c.IsEmpty f
  directory : ∃ g names, f.makeDirectories c.root = .ok g ∧ g.names c.root = .ok names
  stores : ∀ url ∈ urls, ∃ body headers now, (c.store f url body headers now).1.isOk
  digests : Set.InjOn digest urls

/-- The path of the directory of the cache leads to a directory. -/
structure Listed (c : Cache) (f : Files) : Prop where
  place : f.place c.root = .ok c.rootPlace
  directory : f.entry? c.rootPlace = some .directory

/-- The files are those of a map. -/
structure Represents (c : Cache) (urls : Set String) (f : Files) (contents : Contents) : Prop where
  holds : c.Holds urls f fun url => (contents url).map (·.cached c url)
  directory : ∃ g, f.makeDirectories c.root = .ok g ∧ c.Listed g
  /-- Every file in the directory belongs to an entry. -/
  files : ∀ name bytes, f.entry? (name :: c.rootPlace) = some (.file bytes) →
    ∃ url ∈ urls, (contents url).isSome ∧ (name = key url ∨ name = key url ++ ".json")

variable {c : Cache} {urls : Set String} {f : Files} {contents : Contents} {url : String}

theorem Listed.mono {g : Files} (h : c.Listed f) (hfg : DirectoriesIn f g) : c.Listed g :=
  ⟨place_mono hfg h.place, hfg _ h.directory⟩

theorem listed_of_names {names : List String} (h : f.names c.root = .ok names) : c.Listed f := by
  unfold Files.names at h
  cases hplace : f.place c.root with
  | error e => rw [hplace] at h; exact absurd h (by simp [bind, Except.bind])
  | ok q =>
    obtain rfl : q = c.rootPlace := place_eq_descend hplace
    rw [hplace] at h
    dsimp only [bind, Except.bind] at h
    split at h
    · cases h
    · cases h
    · next hdirectory => exact ⟨hplace, hdirectory⟩

/-- **An empty cache that can be used is the empty map.** -/
theorem Usable.represents (h : c.Usable urls f) : c.Represents urls f fun _ => none := by
  obtain ⟨g, names, hg, hnames⟩ := h.directory
  refine ⟨⟨⟨g, hg, fun url hurl => ?_⟩, fun _ _ _ => h.empty _, fun _ _ e he => absurd he (by simp)⟩,
    ⟨g, hg, listed_of_names hnames⟩, fun name bytes hfile => ?_⟩
  · obtain ⟨body, headers, now, hok⟩ := h.stores url hurl
    obtain ⟨g', hg', ha⟩ := accepts_of_store hok
    obtain rfl := Except.ok.inj (hg.symm.trans hg')
    exact ha
  · exact absurd hfile (by rw [h.empty name]; simp)

theorem map_update (c : Cache) (contents : Contents) (url : String) (k : Option Kept) :
    (fun v => (Function.update contents url k v).map (·.cached c v))
      = Function.update (fun v => (contents v).map (·.cached c v)) url (k.map (·.cached c url)) :=
  funext fun v => Function.apply_update (fun v (k : Option Kept) => k.map (·.cached c v)) contents url k v

/-- Files after both files of a URL have been written. -/
theorem Represents.update (h : c.Represents urls f contents) (hurl : url ∈ urls) {g : Files} {k : Kept}
    (hholds : c.Holds urls g (Function.update (fun v => (contents v).map (·.cached c v)) url
      (some (k.cached c url))))
    (hfiles : ∀ name, name ≠ key url → name ≠ key url ++ ".json" → ∀ bytes,
      g.entry? (name :: c.rootPlace) = some (.file bytes) → f.entry? (name :: c.rootPlace) = some (.file bytes))
    (hdirectory : ∃ g', g.makeDirectories c.root = .ok g' ∧ c.Listed g') :
    c.Represents urls g (Function.update contents url (some k)) := by
  refine ⟨by rw [map_update]; exact hholds, hdirectory, fun name bytes hfile => ?_⟩
  by_cases hname : name = key url ∨ name = key url ++ ".json"
  · exact ⟨url, hurl, by simp, hname⟩
  · rw [not_or] at hname
    obtain ⟨v, hv, hsome, hnamed⟩ := h.files name bytes (hfiles name hname.1 hname.2 bytes hfile)
    refine ⟨v, hv, ?_, hnamed⟩
    by_cases hne : v = url
    · rw [hne, Function.update_self]
      rfl
    · rwa [Function.update_of_ne hne]

/-- **Storing sets what is kept about the URL.** -/
theorem Represents.store (h : c.Represents urls f contents) (hurl : url ∈ urls) (hdigest : Set.InjOn digest urls)
    (body : String) (headers : Dict String) {now : Nat} (hnow : now ≤ Json.maxSignificand) :
    ∃ g, c.store f url body headers now = (.ok (c.newMetadata url headers now), g) ∧
      c.Represents urls g (Function.update contents url (some (.ofResponse body headers now))) := by
  obtain ⟨made, hmade, haccepts⟩ := h.holds.accepts
  have ha := haccepts url hurl
  obtain ⟨g, hstore, hholds⟩ := h.holds.store hurl hdigest body headers hnow
  obtain rfl : _ = g := congrArg Prod.snd ((store_eq hmade ha body headers now).symm.trans hstore)
  have hdirectories := directoriesIn_withEntry ha ⟨c.newMetadata url headers now, body⟩
  obtain ⟨made', hmade', hlisted⟩ := h.directory
  obtain rfl := Except.ok.inj (hmade.symm.trans hmade')
  refine ⟨_, hstore, h.update hurl (by rw [cached_ofResponse]; exact hholds) (fun name hbody hmetadata bytes hfile => ?_)
    ⟨_, makeDirectories_again hmade hdirectories, hlisted.mono hdirectories⟩⟩
  rw [entry?_withEntry_of_ne _ (fun heq => hbody (pathOf_cons_inj heq))
    (fun heq => hmetadata (pathOf_cons_inj heq))] at hfile
  rcases (grown_of_makeDirectories hmade).entry (name :: c.rootPlace) with heq | ⟨-, hdirectory⟩
  · rwa [heq] at hfile
  · exact absurd (hfile.symm.trans hdirectory) (by simp)

/-- **Confirming what is kept** keeps the body and puts the given validators over the old ones. -/
theorem Represents.touch (h : c.Represents urls f contents) (hurl : url ∈ urls) (hdigest : Set.InjOn digest urls)
    {k : Kept} (hk : contents url = some k) (headers : Dict String) {now : Nat}
    (hnow : now ≤ Json.maxSignificand) :
    ∃ g, c.touch f url headers now = (.ok ((k.confirmed headers now).cached c url), g, []) ∧
      c.Represents urls g (Function.update contents url (some (k.confirmed headers now))) := by
  have he : (contents url).map (·.cached c url) = some (k.cached c url) := by rw [hk]; rfl
  have hp := h.holds.present url hurl _ he
  have ha := h.holds.accepts_of_present hp url hurl
  obtain ⟨g, htouch, hholds⟩ := h.holds.touch hurl hdigest he headers hnow
  obtain rfl : _ = g := congrArg (·.2.1) ((touch_eq ha hp headers now).symm.trans htouch)
  rw [← cached_confirmed] at htouch hholds
  have hdirectories := directoriesIn_withFile ha.metadata
    ((k.cached c url).metadata.refreshed headers now).text.toUTF8
  obtain ⟨made, hmade, hlisted⟩ := h.directory
  obtain rfl := Except.ok.inj (hp.made.symm.trans hmade)
  refine ⟨_, htouch, h.update hurl hholds (fun name _ hmetadata bytes hfile => ?_)
    ⟨_, makeDirectories_again hp.made hdirectories, hlisted.mono hdirectories⟩⟩
  rwa [entry?_withFile, if_neg fun heq => hmetadata (pathOf_cons_inj heq.2)] at hfile

/-! ### Removing -/

/-- **Removing files that can be written** removes them and nothing else. -/
theorem removeAll_eq {paths : List String}
    (h : ∀ path ∈ paths, f.contains path → f.Writable path (descend [] (components path))) :
    ∃ g, removeAll f paths = (.ok (), g) ∧ Removed paths f g := by
  induction paths generalizing f with
  | nil => exact ⟨f, rfl, .nil f⟩
  | cons path paths ih =>
    rw [List.forall_mem_cons] at h
    obtain ⟨hfirst, hrest⟩ := h
    unfold removeAll
    by_cases hcontains : f.contains path
    · have hwritable := hfirst hcontains
      obtain ⟨-, hsome⟩ := contains_iff.1 hcontains
      obtain ⟨g, hg, hremoved⟩ := ih (f := f.without (descend [] (components path))) fun path' hpath' hcontains' =>
        (hrest path' hpath' (contains_of_without hcontains')).without hwritable.free
      rw [if_pos hcontains, remove_eq hwritable hsome]
      exact ⟨g, hg, hremoved.cons hcontains hwritable.free⟩
    · rw [if_neg hcontains]
      obtain ⟨g, hg, hremoved⟩ := ih hrest
      exact ⟨g, hg, hremoved.skip hcontains⟩

/-- Where nothing is, nothing is removed. -/
theorem removeAll_of_not_contains {paths : List String} (h : ∀ path ∈ paths, ¬ f.contains path) :
    removeAll f paths = (.ok (), f) := by
  induction paths with
  | nil => rfl
  | cons path paths ih =>
    rw [List.forall_mem_cons] at h
    rw [removeAll, if_neg h.1]
    exact ih h.2

/-- Nothing is at the places of a URL about which nothing is kept. -/
theorem Represents.absent (h : c.Represents urls f contents) (hdigest : Set.InjOn digest urls) (hurl : url ∈ urls)
    (hnone : contents url = none) :
    f.entry? (c.bodyPlace url) = none ∧ f.entry? (c.metadataPlace url) = none := by
  refine ⟨?_, h.holds.absent url hurl (by rw [hnone]; rfl)⟩
  cases hentry : f.entry? (c.bodyPlace url) with
  | none => rfl
  | some entry =>
    cases entry with
    | directory =>
      obtain ⟨g, hg, haccepts⟩ := h.holds.accepts
      exact absurd ((grown_of_makeDirectories hg).directoriesIn _ hentry) (haccepts url hurl).body.free
    | file bytes =>
      obtain ⟨v, hv, hsome, hname | hname⟩ := h.files _ bytes hentry
      · obtain rfl := hdigest hurl hv (digest_eq_of_key_eq hname)
        exact absurd hsome (by rw [hnone]; simp)
      · exact absurd hname (key_ne_key_append url v)

theorem Represents.congr (h : c.Represents urls f contents) {contents' : Contents}
    (hsame : ∀ url ∈ urls, contents' url = contents url) : c.Represents urls f contents' where
  holds := h.holds.congr fun url hurl => by rw [hsame url hurl]
  directory := h.directory
  files := fun name bytes hfile => by
    obtain ⟨url, hurl, hsome, hname⟩ := h.files name bytes hfile
    exact ⟨url, hurl, hsame url hurl ▸ hsome, hname⟩

/-- What is at the paths of bodies and metadata can be removed. -/
theorem Holds.exists_removed {entries : String → Option Cached} (h : c.Holds urls f entries)
    (hmade : f.makeDirectories c.root = .ok f) {paths : List String}
    (hpaths : ∀ path ∈ paths, ∃ v ∈ urls, path = c.bodyPath v ∨ path = c.metadataPath v) :
    ∃ g, removeAll f paths = (.ok (), g) ∧ Removed paths f g := by
  refine removeAll_eq fun path hpath _ => ?_
  obtain ⟨v, hv, rfl | rfl⟩ := hpaths path hpath
  · rw [descend_bodyPath]
    exact (h.accepts_of_made hmade v hv).body
  · rw [descend_metadataPath]
    exact (h.accepts_of_made hmade v hv).metadata

/-- Files from which some were removed hold the entries whose files are left. -/
theorem Holds.removed (h : c.Holds urls f fun url => (contents url).map (·.cached c url))
    (hmade : f.makeDirectories c.root = .ok f) {paths : List String} {g : Files} (hremoved : Removed paths f g)
    {contents' : Contents}
    (hkept : ∀ v ∈ urls, ∀ k, contents' v = some k → contents v = some k ∧
      g.entry? (c.bodyPlace v) = f.entry? (c.bodyPlace v) ∧
      g.entry? (c.metadataPlace v) = f.entry? (c.metadataPlace v))
    (hgone : ∀ v ∈ urls, contents' v = none → g.entry? (c.metadataPlace v) = none) :
    c.Holds urls g fun url => (contents' url).map (·.cached c url) := by
  have hagain := makeDirectories_again hmade hremoved.directories
  have haccepts := h.accepts_of_made hmade
  refine ⟨⟨g, hagain, fun v hv => ⟨hremoved.writable (haccepts v hv).body,
    hremoved.writable (haccepts v hv).metadata⟩⟩, fun v hv hnone => hgone v hv (Option.map_eq_none_iff.1 hnone),
    fun v hv e he => ?_⟩
  obtain ⟨k, hk, rfl⟩ := Option.map_eq_some_iff.1 he
  obtain ⟨hcontents, hbody, hmetadata⟩ := hkept v hv k hk
  have hp := h.present v hv _ (Option.map_eq_some_iff.2 ⟨k, hcontents, rfl⟩)
  exact ⟨hagain, hmetadata.trans hp.metadata, hbody.trans hp.body, hp.storable, hp.file⟩

/-- Removing the files of a URL leaves what is kept about other URLs, and their files. -/
theorem kept_of_removed {g : Files} (h : Removed [c.bodyPath url, c.metadataPath url] f g)
    (hdigest : Set.InjOn digest urls) (hurl : url ∈ urls) {v : String} (hv : v ∈ urls) {k : Kept}
    (hk : Function.update contents url none v = some k) :
    contents v = some k ∧ g.entry? (c.bodyPlace v) = f.entry? (c.bodyPlace v) ∧
      g.entry? (c.metadataPlace v) = f.entry? (c.metadataPlace v) := by
  have hother : ∀ p, pathOf p ≠ pathOf (c.bodyPlace url) → pathOf p ≠ pathOf (c.metadataPlace url) →
      g.entry? p = f.entry? p := fun p hbody hmetadata => by
    rw [h.entry, if_neg]
    rintro ⟨-, path, hpath, -, heq⟩
    rcases List.mem_pair.1 hpath with rfl | rfl
    · exact hbody (descend_bodyPath c url ▸ heq)
    · exact hmetadata (descend_metadataPath c url ▸ heq)
  have hne : v ≠ url := by
    rintro rfl
    rw [Function.update_self] at hk
    cases hk
  have hdiffer : digest v ≠ digest url := fun heq => hne (hdigest hv hurl heq)
  rw [Function.update_of_ne hne] at hk
  exact ⟨hk, hother _ (pathOf_bodyPlace_ne c hdiffer) (pathOf_bodyPlace_ne_metadataPlace c v url),
    hother _ (pathOf_bodyPlace_ne_metadataPlace c url v).symm (pathOf_metadataPlace_ne c hdiffer)⟩

/-- The paths of the two files of a URL. -/
theorem paths_of_url (c : Cache) (hurl : url ∈ urls) : ∀ path ∈ [c.bodyPath url, c.metadataPath url],
    ∃ v ∈ urls, path = c.bodyPath v ∨ path = c.metadataPath v := by
  simp only [List.mem_cons, List.not_mem_nil, or_false, forall_eq_or_imp, forall_eq]
  exact ⟨⟨url, hurl, .inl rfl⟩, url, hurl, .inr rfl⟩

/-- Files from which those of some entries were removed stand for the map without these entries. -/
theorem Represents.removed (h : c.Represents urls f contents) (hmade : f.makeDirectories c.root = .ok f)
    {paths : List String} {g : Files} (hremoved : Removed paths f g) {contents' : Contents}
    (hkept : ∀ v ∈ urls, ∀ k, contents' v = some k → contents v = some k ∧
      g.entry? (c.bodyPlace v) = f.entry? (c.bodyPlace v) ∧
      g.entry? (c.metadataPlace v) = f.entry? (c.metadataPlace v))
    (hgone : ∀ v ∈ urls, contents' v = none →
      g.entry? (c.bodyPlace v) = none ∧ g.entry? (c.metadataPlace v) = none) :
    c.Represents urls g contents' := by
  obtain ⟨made, hmade', hlisted⟩ := h.directory
  obtain rfl := Except.ok.inj (hmade.symm.trans hmade')
  refine ⟨h.holds.removed hmade hremoved hkept fun v hv hnone => (hgone v hv hnone).2,
    ⟨g, makeDirectories_again hmade hremoved.directories, hlisted.mono hremoved.directories⟩,
    fun name bytes hfile => ?_⟩
  obtain ⟨v, hv, -, hname⟩ := h.files name bytes (hremoved.entry?_of_some hfile)
  refine ⟨v, hv, ?_, hname⟩
  rw [Option.isSome_iff_ne_none]
  intro hnone
  obtain ⟨hbody, hmetadata⟩ := hgone v hv hnone
  rcases hname with rfl | rfl
  · exact absurd (hfile.symm.trans hbody) (by simp)
  · exact absurd (hfile.symm.trans hmetadata) (by simp)

/-- The files of an entry are there and can be removed. -/
theorem Represents.present (h : c.Represents urls f contents) (hurl : url ∈ urls) {k : Kept}
    (hk : contents url = some k) : c.Present f url (k.cached c url) ∧ c.Accepts f url := by
  have hp := h.holds.present url hurl _ (Option.map_eq_some_iff.2 ⟨k, hk, rfl⟩)
  exact ⟨hp, h.holds.accepts_of_present hp url hurl⟩

/-- **Removing what is kept about a URL** leaves everything else. -/
theorem Represents.remove (h : c.Represents urls f contents) (hdigest : Set.InjOn digest urls) (hurl : url ∈ urls) :
    ∃ g, c.remove f url = (.ok (), g) ∧ c.Represents urls g (Function.update contents url none) := by
  cases hk : contents url with
  | none =>
    obtain ⟨hbody, hmetadata⟩ := h.absent hdigest hurl hk
    refine ⟨f, removeAll_of_not_contains ?_, h.congr fun v _ => ?_⟩
    · simp [contains_iff, descend_bodyPath, descend_metadataPath, hbody, hmetadata]
    · rw [← hk, Function.update_eq_self]
  | some k =>
    obtain ⟨hp, ha⟩ := h.present hurl hk
    obtain ⟨g, hg, hremoved⟩ := h.holds.exists_removed hp.made (paths_of_url c hurl)
    refine ⟨g, hg, h.removed hp.made hremoved (fun v hv k hk => kept_of_removed hremoved hdigest hurl hv hk)
      fun v hv hnone => ?_⟩
    by_cases hne : v = url
    · rw [hne]
      exact ⟨hremoved.gone (by simp) ha.body, hremoved.gone (by simp) ha.metadata⟩
    · rw [Function.update_of_ne hne] at hnone
      obtain ⟨hbody, hmetadata⟩ := h.absent hdigest hv hnone
      exact ⟨hremoved.entry?_eq_none hbody, hremoved.entry?_eq_none hmetadata⟩

/-! ### Clearing -/

/-- A path of a file in the directory of the cache names a file in the directory. -/
theorem Listed.file_of_isFile (h : c.Listed f) {name : String} (hslash : '/' ∉ name.toList)
    (hfile : f.isFile (Path.resolve c.root name)) :
    ∃ bytes, f.entry? (name :: c.rootPlace) = some (.file bytes) := by
  have hplace : descend [] (components (Path.resolve c.root name)) = descend c.rootPlace [name] :=
    descend_resolve c.root hslash
  unfold isFile find? at hfile
  cases hwalk : f.place (Path.resolve c.root name) with
  | error e => rw [hwalk] at hfile; cases hfile
  | ok q =>
    rw [hwalk, place_eq_descend hwalk, hplace] at hfile
    simp only [descend] at hfile
    split_ifs at hfile
    · rw [h.directory] at hfile
      cases hfile
    · rw [entry?_tail_of_place h.place] at hfile
      cases hfile
    · cases hentry : f.entry? (name :: c.rootPlace) with
      | none => rw [hentry] at hfile; cases hfile
      | some entry =>
        cases entry with
        | directory => rw [hentry] at hfile; cases hfile
        | file bytes => exact ⟨bytes, rfl⟩

/-- The paths of the files in the directory of the cache. -/
def filePaths (c : Cache) (f : Files) (names : List String) : List String :=
  (names.map fun n => Path.resolve c.root n).filter fun p => f.isFile p

/-- They are the paths of files in the directory. -/
theorem Listed.of_mem_filePaths (h : c.Listed f) {names : List String} (hnames : ∀ name ∈ names, '/' ∉ name.toList)
    {path : String} (hpath : path ∈ c.filePaths f names) :
    ∃ name bytes, path = Path.resolve c.root name ∧ f.entry? (name :: c.rootPlace) = some (.file bytes) := by
  obtain ⟨hpath, hfile⟩ := List.mem_filter.1 hpath
  obtain ⟨name, hname, rfl⟩ := List.mem_map.1 hpath
  obtain ⟨bytes, hentry⟩ := h.file_of_isFile (hnames name hname) hfile
  exact ⟨name, bytes, rfl, hentry⟩

/-- They are the paths of entries. -/
theorem Represents.of_mem_filePaths (h : c.Represents urls f contents) (hlisted : c.Listed f) {names : List String}
    (hnames : ∀ name ∈ names, '/' ∉ name.toList) {path : String} (hpath : path ∈ c.filePaths f names) :
    ∃ url ∈ urls, (contents url).isSome ∧ (path = c.bodyPath url ∨ path = c.metadataPath url) := by
  obtain ⟨name, bytes, rfl, hentry⟩ := hlisted.of_mem_filePaths hnames hpath
  obtain ⟨url, hurl, hsome, rfl | rfl⟩ := h.files name bytes hentry
  · exact ⟨url, hurl, hsome, .inl rfl⟩
  · exact ⟨url, hurl, hsome, .inr rfl⟩

/-- The path of a file in the directory is among them. -/
theorem mem_filePaths {name : String} {bytes : ByteArray} {names : List String} (hname : name ∈ names)
    (hplace : f.place (Path.resolve c.root name) = .ok (name :: c.rootPlace))
    (hentry : f.entry? (name :: c.rootPlace) = some (.file bytes)) :
    Path.resolve c.root name ∈ c.filePaths f names := by
  refine List.mem_filter.2 ⟨List.mem_map_of_mem hname, ?_⟩
  unfold isFile find?
  rw [hplace]
  dsimp only
  rw [hentry]

/-- A directory that is there is one that can be listed, if it can be once it has been made. -/
theorem Listed.of_contains {made : Files} (h : c.Listed made) (hmade : f.makeDirectories c.root = .ok made)
    (hcontains : f.contains c.root) : c.Listed f := by
  obtain ⟨hplace, hsome⟩ := contains_iff.1 hcontains
  refine ⟨hplace, ?_⟩
  rcases (grown_of_makeDirectories hmade).entry c.rootPlace with heq | ⟨hnone, -⟩
  · rw [← heq, h.directory]
  · exact absurd hsome (by rw [← rootPlace, hnone]; simp)

/-- Removing the files in the directory of the cache removes all entries. -/
theorem Represents.removeAll_filePaths (h : c.Represents urls f contents) (hdigest : Set.InjOn digest urls)
    (hlisted : c.Listed f) {names : List String} (hslash : ∀ name ∈ names, '/' ∉ name.toList)
    (hmem : ∀ name, '/' ∉ name.toList → (f.entry? (name :: c.rootPlace)).isSome → name ∈ names) :
    ∃ g, removeAll f (c.filePaths f names) = (.ok (), g) ∧ c.Represents urls g fun _ => none := by
  have hpaths (path : String) (hpath : path ∈ c.filePaths f names) := h.of_mem_filePaths hlisted hslash hpath
  by_cases hstored : ∃ url ∈ urls, (contents url).isSome
  · obtain ⟨url, hurl, hsome⟩ := hstored
    obtain ⟨k, hk⟩ := Option.isSome_iff_exists.1 hsome
    obtain ⟨g, hg, hremoved⟩ := h.holds.exists_removed (h.present hurl hk).1.made fun path hpath => by
      obtain ⟨v, hv, -, hpath⟩ := hpaths path hpath
      exact ⟨v, hv, hpath⟩
    refine ⟨g, hg, h.removed (h.present hurl hk).1.made hremoved (fun _ _ _ hk => absurd hk (by simp))
      fun v hv _ => ?_⟩
    cases hk : contents v with
    | none =>
      obtain ⟨hbody, hmetadata⟩ := h.absent hdigest hv hk
      exact ⟨hremoved.entry?_eq_none hbody, hremoved.entry?_eq_none hmetadata⟩
    | some k =>
      obtain ⟨hp, ha⟩ := h.present hv hk
      have hslash' : '/' ∉ (key v ++ ".json").toList := by simp [slash_not_mem_key v]
      have hbody := hmem _ (slash_not_mem_key v) (Option.isSome_of_eq_some hp.body)
      have hmetadata := hmem _ hslash' (Option.isSome_of_eq_some hp.metadata)
      exact ⟨hremoved.gone (mem_filePaths hbody ha.body.place hp.body) ha.body,
        hremoved.gone (mem_filePaths hmetadata ha.metadata.place hp.metadata) ha.metadata⟩
  · have hnone : c.filePaths f names = [] := List.eq_nil_iff_forall_not_mem.2 fun path hpath => by
      obtain ⟨v, hv, hsome, -⟩ := hpaths path hpath
      exact hstored ⟨v, hv, hsome⟩
    refine ⟨f, by rw [hnone]; rfl, h.congr fun v hv => ?_⟩
    rw [Option.not_isSome_iff_eq_none.1 fun hsome => hstored ⟨v, hv, hsome⟩]

/-- **Clearing the cache** leaves nothing. -/
theorem Represents.clear (h : c.Represents urls f contents) (hdigest : Set.InjOn digest urls) :
    ∃ g, c.clear f = (.ok (), g) ∧ c.Represents urls g fun _ => none := by
  unfold Cache.clear
  by_cases hcontains : f.contains c.root
  · obtain ⟨made, hmade, hlisted⟩ := h.directory
    have hlisted := hlisted.of_contains hmade hcontains
    obtain ⟨names, hnames, hslash, hmem⟩ := names_eq_ok hlisted.place hlisted.directory
    rw [if_pos hcontains, hnames]
    exact h.removeAll_filePaths hdigest hlisted hslash hmem
  · rw [if_neg hcontains]
    refine ⟨f, rfl, h.congr fun url hurl => ?_⟩
    cases hk : contents url with
    | none => rfl
    | some k =>
      -- an entry is in a directory that is there
      obtain ⟨made, hmade, hlisted⟩ := h.directory
      obtain rfl := Except.ok.inj (hmade.symm.trans (h.present hurl hk).1.made)
      exact absurd (contains_iff.2 ⟨hlisted.place, Option.isSome_of_eq_some hlisted.directory⟩) hcontains

/-! ### Any operations -/

/-- **One operation** answers as the map says and leaves the files of the next map. -/
theorem Represents.perform (h : c.Represents urls f contents) (hdigest : Set.InjOn digest urls) {o : Operation}
    (ho : o.Within urls) :
    (o.perform c f).1 = o.expected c contents ∧ c.Represents urls (o.perform c f).2 (o.next contents) := by
  cases o with
  | store url body headers now =>
    obtain ⟨g, hg, hrepresents⟩ := h.store ho.1 hdigest body headers ho.2
    rw [Operation.perform, hg, Operation.expected, cached_ofResponse]
    exact ⟨rfl, hrepresents⟩
  | touch url headers now =>
    rw [Operation.perform, Operation.expected, Operation.next]
    cases hk : contents url with
    | none =>
      rw [touch_of_none (metadata?_of_none (h.absent hdigest ho.1 hk).2)]
      exact ⟨rfl, h.congr fun v _ => by rw [Option.map_none, ← hk, Function.update_eq_self]⟩
    | some k =>
      obtain ⟨g, hg, hrepresents⟩ := h.touch ho.1 hdigest hk headers ho.2
      rw [hg]
      exact ⟨rfl, hrepresents⟩
  | remove url =>
    obtain ⟨g, hg, hrepresents⟩ := h.remove hdigest ho
    rw [Operation.perform, hg]
    exact ⟨rfl, hrepresents⟩
  | clear =>
    obtain ⟨g, hg, hrepresents⟩ := h.clear hdigest
    rw [Operation.perform, hg]
    exact ⟨rfl, hrepresents⟩
  | lookup url =>
    refine ⟨?_, h⟩
    rw [Operation.perform, h.holds.lookup_eq ho, Operation.expected]
    cases contents url <;> rfl
  | contains url =>
    refine ⟨?_, h⟩
    rw [Operation.perform, Cache.contains, h.holds.lookup_eq ho, Operation.expected]
    cases contents url <;> rfl
  | metadata url =>
    refine ⟨?_, h⟩
    rw [Operation.perform, h.holds.metadata?_eq ho, Operation.expected, Option.map_map]
    rfl

/-- Operations answer as the map says, one after the other. -/
theorem Represents.run (h : c.Represents urls f contents) (hdigest : Set.InjOn digest urls) {os : List Operation}
    (hos : ∀ o ∈ os, o.Within urls) :
    Operation.answers c f os = Operation.expectedAnswers c contents os ∧
      c.Represents urls (Operation.filesAfter c f os) (Operation.contentsAfter contents os) := by
  induction os generalizing f contents with
  | nil => exact ⟨rfl, h⟩
  | cons o os ih =>
    rw [List.forall_mem_cons] at hos
    obtain ⟨hanswer, hnext⟩ := h.perform hdigest hos.1
    obtain ⟨hanswers, hafter⟩ := ih hnext hos.2
    exact ⟨List.cons_eq_cons.2 ⟨hanswer, hanswers⟩, hafter⟩

/-- The names of the files of some URLs are all different. -/
theorem paths_differ (hdigest : Set.InjOn digest urls) {u v : String} (hu : u ∈ urls) (hv : v ∈ urls) :
    c.bodyPath u ≠ c.metadataPath v ∧
      (u ≠ v → c.bodyPath u ≠ c.bodyPath v ∧ c.metadataPath u ≠ c.metadataPath v) := by
  have hplaces : ∀ {path path' : String}, path = path' →
      pathOf (descend [] (components path)) = pathOf (descend [] (components path')) := fun h => by rw [h]
  refine ⟨fun h => ?_, fun hne => ?_⟩
  · have hsame := hplaces h
    rw [descend_bodyPath, descend_metadataPath] at hsame
    exact pathOf_bodyPlace_ne_metadataPlace c u v hsame
  · have hdiffer : digest u ≠ digest v := fun heq => hne (hdigest hu hv heq)
    refine ⟨fun h => ?_, fun h => ?_⟩ <;> have hsame := hplaces h
    · rw [descend_bodyPath, descend_bodyPath] at hsame
      exact pathOf_bodyPlace_ne c hdiffer hsame
    · rw [descend_metadataPath, descend_metadataPath] at hsame
      exact pathOf_metadataPlace_ne c hdiffer hsame

/-- **The cache is a map.**  Whatever is done with an empty cache that can be used, one operation after the other,
each answer is the one that the map gives.  What is not there cannot be confirmed, and trying it changes no file.  No
body has the path of metadata, and no two URLs share a path. -/
theorem refines_map (h : c.Usable urls f) (os : List Operation) (hos : ∀ o ∈ os, o.Within urls) :
    Operation.answers c f os = Operation.expectedAnswers c (fun _ => none) os ∧
    (∀ url ∈ urls, Operation.contentsAfter (fun _ => none) os url = none → ∀ headers now,
      (Operation.touch url headers now).perform c (Operation.filesAfter c f os)
        = (.cached (.error (.miss url)), Operation.filesAfter c f os)) ∧
    ∀ u ∈ urls, ∀ v ∈ urls, c.bodyPath u ≠ c.metadataPath v ∧
      (u ≠ v → c.bodyPath u ≠ c.bodyPath v ∧ c.metadataPath u ≠ c.metadataPath v) := by
  obtain ⟨hanswers, hafter⟩ := h.represents.run h.digests hos
  refine ⟨hanswers, fun url hurl hnone headers now => ?_, fun u hu v hv => paths_differ h.digests hu hv⟩
  rw [Operation.perform, touch_of_none (metadata?_of_none (hafter.absent h.digests hurl hnone).2)]

/-- A cache in which nothing is yet. -/
theorem usable_empty : Cache.Usable ⟨"/cache"⟩ {"http://a/", "http://b/"} Files.empty := by
  have hlisted : ((Files.empty.makeDirectories "/cache").bind (·.names "/cache")).isOk := by decide +kernel
  refine ⟨fresh_empty.empty, ?_, fresh_empty.stores, fresh_empty.digests⟩
  cases hg : Files.empty.makeDirectories "/cache" with
  | error e => rw [hg] at hlisted; cases hlisted
  | ok g =>
    rw [hg] at hlisted
    cases hlist : g.names "/cache" with
    | error e => rw [Except.bind, hlist] at hlisted; cases hlisted
    | ok names => exact ⟨g, names, rfl, hlist⟩

/-- A response is stored and confirmed, another one stored and removed; then the first is still there with the tag that
confirmed it. -/
theorem refines_map_stored :
    let c : Cache := ⟨"/cache"⟩
    let os : List Operation :=
      [.store "http://a/" "text" [("ETag", "1")] 1, .touch "http://a/" [("age", "0"), ("etag", "2")] 2,
        .store "http://b/" "other" [] 3, .remove "http://b/", .contains "http://b/", .lookup "http://a/"]
    c.Usable {"http://a/", "http://b/"} Files.empty ∧
      (Operation.answers c Files.empty os).drop 4 = [.contains false,
        .cached (.ok ⟨⟨"http://a/", c.bodyPath "http://a/", [("etag", "2")], 2⟩, "text"⟩)] := by
  intro c os
  have husable : c.Usable {"http://a/", "http://b/"} Files.empty := usable_empty
  have hos : ∀ o ∈ os, o.Within {"http://a/", "http://b/"} := by
    simp [os, Operation.Within, Json.maxSignificand]
  have hnames : lowerAscii "ETag" = "etag" ∧ lowerAscii "etag" = "etag" ∧ lowerAscii "age" = "age" := by decide +kernel
  rw [(refines_map husable os hos).1]
  refine ⟨husable, ?_⟩
  simp [os, Operation.expectedAnswers, Operation.expected, Operation.next, Operation.hit, Kept.cached, Kept.confirmed,
    Kept.headers, Kept.ofResponse, Metadata.lastHeader?, hnames]

end Cache
end ScriptImport
