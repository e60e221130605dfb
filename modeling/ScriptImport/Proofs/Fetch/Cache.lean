/-
# The files of the cache and the entries that they hold

The two files of a URL are in the directory of the cache, under names that no other URL shares as long as
the digests differ (`pathOf_bodyPlace_ne`, `pathOf_metadataPlace_ne`).  `Cache.Holds` says that the files
hold the entries of a map from URLs to entries: each entry is in its two files, URLs without one have no
metadata, and further entries can be stored.  Looking up reads the map (`Holds.lookup_eq`),
storing sets the entry of its URL (`Holds.store`), and so does confirming an entry (`Holds.touch`).
-/

import Mathlib.Data.Set.Function
import Mathlib.Logic.Function.Basic
import ScriptImport.Fetch.Cache
import ScriptImport.Proofs.Digest
import ScriptImport.Proofs.Fetch.Metadata
import ScriptImport.Proofs.Path

namespace ScriptImport
namespace Cache

open Files

/-! ### Names and places -/

/-- The digest that names the files of a URL. -/
def digest (url : String) : List UInt8 := Digest.sha256 url.toUTF8.toList

theorem length_key (url : String) : (key url).toList.length = 52 := by
  rw [key, String.toList_ofList]
  exact Digest.length_base32_sha256 _

/-- The characters of a name are digits of base 32. -/
theorem mem_key {url : String} {c : Char} (h : c ∈ (key url).toList) :
    ∃ n < 32, c = Digest.base32Digit n := by
  rw [key, String.toList_ofList] at h
  exact Digest.mem_base32 h

theorem not_mem_key {url : String} {c : Char} (h : ∀ n < 32, Digest.base32Digit n ≠ c) :
    c ∉ (key url).toList := fun hc => by
  obtain ⟨n, hn, rfl⟩ := mem_key hc
  exact h n hn rfl

theorem slash_not_mem_key (url : String) : '/' ∉ (key url).toList := not_mem_key (by decide)

theorem point_not_mem_key (url : String) : '.' ∉ (key url).toList := not_mem_key (by decide)

/-- Different digests make different names. -/
theorem digest_eq_of_key_eq {u v : String} (h : key u = key v) : digest u = digest v := by
  refine Digest.base32_injective ?_ (String.ofList_injective h)
  rw [digest, digest, Digest.length_sha256, Digest.length_sha256]

theorem key_ne_key_append (u v : String) : key u ≠ key v ++ ".json" := fun h =>
  point_not_mem_key u (by rw [h]; simp)

-- names are opaque from here on: what matters of them is stated above
attribute [local irreducible] key

/-- The place of the directory of the cache. -/
def rootPlace (c : Cache) : Place := descend [] (components c.root)

/-- The place of the body of a URL. -/
def bodyPlace (c : Cache) (url : String) : Place := key url :: c.rootPlace

/-- The place of the metadata of a URL. -/
def metadataPlace (c : Cache) (url : String) : Place := (key url ++ ".json") :: c.rootPlace

theorem descend_bodyPath (c : Cache) (url : String) :
    descend [] (components (c.bodyPath url)) = c.bodyPlace url := by
  have hempty : key url ≠ "" := fun h => absurd (h ▸ length_key url) (by decide)
  have hpoint : ∀ name : String, '.' ∈ name.toList → key url ≠ name := fun name hname h =>
    point_not_mem_key url (h ▸ hname)
  rw [bodyPath, descend_resolve c.root (slash_not_mem_key url), descend, if_neg, if_neg]
  · rfl
  · exact hpoint ".." (by decide)
  · rw [not_or]
    exact ⟨hempty, hpoint "." (by decide)⟩

theorem descend_metadataPath (c : Cache) (url : String) :
    descend [] (components (c.metadataPath url)) = c.metadataPlace url := by
  have hslash : '/' ∉ (key url ++ ".json").toList := by
    rw [String.toList_append, List.mem_append, not_or]
    exact ⟨slash_not_mem_key url, by decide⟩
  have hletter : ∀ name : String, 'j' ∉ name.toList → key url ++ ".json" ≠ name := fun name hname h =>
    hname (by rw [← h]; simp)
  rw [metadataPath, descend_resolve c.root hslash, descend, if_neg, if_neg]
  · rfl
  · exact hletter ".." (by decide)
  · rw [not_or]
    exact ⟨hletter "" (by decide), hletter "." (by decide)⟩

theorem pathOf_bodyPlace_ne_metadataPlace (c : Cache) (u v : String) :
    pathOf (c.bodyPlace u) ≠ pathOf (c.metadataPlace v) := fun h =>
  key_ne_key_append u v (pathOf_cons_inj h)

theorem pathOf_bodyPlace_ne (c : Cache) {u v : String} (h : digest u ≠ digest v) :
    pathOf (c.bodyPlace u) ≠ pathOf (c.bodyPlace v) := fun heq =>
  h (digest_eq_of_key_eq (pathOf_cons_inj heq))

theorem pathOf_metadataPlace_ne (c : Cache) {u v : String} (h : digest u ≠ digest v) :
    pathOf (c.metadataPlace u) ≠ pathOf (c.metadataPlace v) := fun heq =>
  h (digest_eq_of_key_eq ((String.append_left_inj _).1 (pathOf_cons_inj heq)))

/-! ### The entries that files hold -/

/-- Both files of a URL can be written. -/
structure Accepts (c : Cache) (f : Files) (url : String) : Prop where
  body : f.Writable (c.bodyPath url) (c.bodyPlace url)
  metadata : f.Writable (c.metadataPath url) (c.metadataPlace url)

/-- The two files of a URL are an entry. -/
structure Present (c : Cache) (f : Files) (url : String) (e : Cached) : Prop where
  made : f.makeDirectories c.root = .ok f
  metadata : f.entry? (c.metadataPlace url) = some (.file e.metadata.text.toUTF8)
  body : f.entry? (c.bodyPlace url) = some (.file e.body.toUTF8)
  storable : e.metadata.Storable
  file : e.metadata.file = c.bodyPath url

/-- The files hold the entries of some URLs, and those can be stored. -/
structure Holds (c : Cache) (urls : Set String) (f : Files) (entries : String → Option Cached) : Prop where
  accepts : ∃ g, f.makeDirectories c.root = .ok g ∧ ∀ url ∈ urls, c.Accepts g url
  absent : ∀ url ∈ urls, entries url = none → f.entry? (c.metadataPlace url) = none
  present : ∀ url ∈ urls, ∀ e, entries url = some e → c.Present f url e

variable {c : Cache} {f : Files} {urls : Set String} {entries : String → Option Cached} {url : String}

theorem Accepts.withFile {path : String} {q : Place} (h : c.Accepts f url) (hq : f.Writable path q)
    (bytes : ByteArray) : c.Accepts (f.withFile q bytes) url :=
  ⟨h.body.withFile hq bytes, h.metadata.withFile hq bytes⟩

/-- Once the directory has been made, the files of the URLs can be written as they are. -/
theorem Holds.accepts_of_made (h : c.Holds urls f entries) (hmade : f.makeDirectories c.root = .ok f) :
    ∀ v ∈ urls, c.Accepts f v := by
  obtain ⟨g, hg, haccepts⟩ := h.accepts
  obtain rfl := Except.ok.inj (hmade.symm.trans hg)
  exact haccepts

theorem Holds.accepts_of_present (h : c.Holds urls f entries) {e : Cached} (hp : c.Present f url e) :
    ∀ v ∈ urls, c.Accepts f v := h.accepts_of_made hp.made

/-- Only what the entries of these URLs are counts. -/
theorem Holds.congr (h : c.Holds urls f entries) {entries' : String → Option Cached}
    (hsame : ∀ url ∈ urls, entries' url = entries url) : c.Holds urls f entries' where
  accepts := h.accepts
  absent url hurl hnone := h.absent url hurl (hsame url hurl ▸ hnone)
  present url hurl e he := h.present url hurl e (hsame url hurl ▸ he)

/-! ### Looking up -/

theorem metadata?_of_present {e : Cached} (ha : c.Accepts f url) (h : c.Present f url e) :
    c.metadata? f url = (some e.metadata, []) := by
  unfold metadata?
  rw [readText_eq ha.metadata.place h.metadata]
  dsimp only
  rw [Metadata.parse_text h.storable]

theorem metadata?_of_none (h : f.entry? (c.metadataPlace url) = none) : (c.metadata? f url).1 = none := by
  obtain ⟨e, he⟩ := readText_of_none ((descend_metadataPath c url).symm ▸ h)
  unfold metadata?
  rw [he]
  cases e <;> rfl

/-- **The metadata of a URL are those of its entry.** -/
theorem Holds.metadata?_eq (h : c.Holds urls f entries) (hurl : url ∈ urls) :
    (c.metadata? f url).1 = (entries url).map (·.metadata) := by
  cases he : entries url with
  | none => rw [metadata?_of_none (h.absent url hurl he)]; rfl
  | some e =>
    have hp := h.present url hurl e he
    rw [metadata?_of_present (h.accepts_of_present hp url hurl) hp]
    rfl

theorem lookup_of_present {e : Cached} (ha : c.Accepts f url) (h : c.Present f url e) :
    c.lookup f url = (.ok e, []) := by
  unfold lookup
  rw [metadata?_of_present ha h]
  dsimp only
  rw [h.file, readText_eq ha.body.place h.body]

theorem lookup_of_none (h : (c.metadata? f url).1 = none) :
    c.lookup f url = (.error (.miss url), (c.metadata? f url).2) := by
  unfold lookup
  split
  · next notes heq => rw [heq]
  · next m notes heq => rw [heq] at h; exact absurd h (by simp)

/-- **Looking up finds the entries.** -/
theorem Holds.lookup_eq (h : c.Holds urls f entries) (hurl : url ∈ urls) :
    (c.lookup f url).1 = match entries url with
      | some e => .ok e
      | none => .error (.miss url) := by
  cases he : entries url with
  | none => rw [lookup_of_none (metadata?_of_none (h.absent url hurl he))]
  | some e =>
    have hp := h.present url hurl e he
    rw [lookup_of_present (h.accepts_of_present hp url hurl) hp]

/-! ### Storing and confirming -/

/-- The files with both files of a URL written. -/
def withEntry (c : Cache) (f : Files) (url : String) (e : Cached) : Files :=
  (f.withFile (c.bodyPlace url) e.body.toUTF8).withFile (c.metadataPlace url) e.metadata.text.toUTF8

/-- Storing makes the directory and writes both files. -/
theorem store_eq {g : Files} (hg : f.makeDirectories c.root = .ok g) (ha : c.Accepts g url)
    (body : String) (headers : Dict String) (now : Nat) :
    c.store f url body headers now
      = (.ok (c.newMetadata url headers now), c.withEntry g url ⟨c.newMetadata url headers now, body⟩) := by
  have hbody := writeText_eq ha.body body
  have hmetadata := writeText_eq (ha.withFile ha.body body.toUTF8).metadata
    (c.newMetadata url headers now).text
  rw [store, storeChanges]
  simp only [Change.applyAll, Change.apply, hg, hbody, hmetadata]
  rfl

theorem Accepts.withEntry {v : String} (h : c.Accepts f v) (ha : c.Accepts f url) (e : Cached) :
    c.Accepts (c.withEntry f url e) v :=
  (h.withFile ha.body _).withFile (ha.withFile ha.body _).metadata _

theorem directoriesIn_withEntry (ha : c.Accepts f url) (e : Cached) :
    DirectoriesIn f (c.withEntry f url e) := fun p hp =>
  directoriesIn_withFile (ha.withFile ha.body e.body.toUTF8).metadata _ p
    (directoriesIn_withFile ha.body _ p hp)

theorem entry?_withEntry_of_ne (e : Cached) {p : Place} (hbody : pathOf p ≠ pathOf (c.bodyPlace url))
    (hmetadata : pathOf p ≠ pathOf (c.metadataPlace url)) :
    Files.entry? (c.withEntry f url e) p = f.entry? p := by
  rw [withEntry, entry?_withFile, if_neg (fun h => hmetadata h.2), entry?_withFile,
    if_neg (fun h => hbody h.2)]

/-- An entry that has been written is there. -/
theorem present_withEntry {g : Files} (hg : f.makeDirectories c.root = .ok g) (ha : c.Accepts g url)
    {e : Cached} (he : e.metadata.Storable) (hfile : e.metadata.file = c.bodyPath url) :
    c.Present (c.withEntry g url e) url e where
  made := makeDirectories_again hg (directoriesIn_withEntry ha e)
  metadata := by rw [withEntry, entry?_withFile, if_pos ⟨ha.metadata.ne_nil, rfl⟩]
  body := by
    rw [withEntry, entry?_withFile, if_neg (fun h => pathOf_bodyPlace_ne_metadataPlace c url url h.2),
      entry?_withFile, if_pos ⟨ha.body.ne_nil, rfl⟩]
  storable := he
  file := hfile

/-- Where files can be written, directories were made for them and nothing else has changed. -/
theorem Accepts.metadata_eq {g : Files} (hg : Grown f g) (ha : c.Accepts g url) :
    g.entry? (c.metadataPlace url) = f.entry? (c.metadataPlace url) := by
  rcases hg.entry (c.metadataPlace url) with heq | ⟨-, hdirectory⟩
  · exact heq
  · exact absurd hdirectory ha.metadata.free

/-- **What is done to the files of one URL sets its entry** and leaves the others as they are; `g` are the
files once the directory of the cache has been made. -/
theorem Holds.update (h : c.Holds urls f entries) (hurl : url ∈ urls) (hdigest : Set.InjOn digest urls)
    {g f' : Files} (hg : f.makeDirectories c.root = .ok g) (haccepts' : ∀ v ∈ urls, c.Accepts f' v)
    {e : Cached} (hp : c.Present f' url e)
    (hsame : ∀ p, pathOf p ≠ pathOf (c.bodyPlace url) → pathOf p ≠ pathOf (c.metadataPlace url) →
      f'.entry? p = g.entry? p) :
    c.Holds urls f' (Function.update entries url (some e)) := by
  obtain ⟨g', hg', haccepts⟩ := h.accepts
  obtain rfl := Except.ok.inj (hg.symm.trans hg')
  have hbody : ∀ v ∈ urls, v ≠ url → f'.entry? (c.bodyPlace v) = g.entry? (c.bodyPlace v) :=
    fun v hv hne => hsame _ (pathOf_bodyPlace_ne c fun heq => hne (hdigest hv hurl heq))
      (pathOf_bodyPlace_ne_metadataPlace c v url)
  have hmetadata : ∀ v ∈ urls, v ≠ url → f'.entry? (c.metadataPlace v) = g.entry? (c.metadataPlace v) :=
    fun v hv hne => hsame _ (pathOf_bodyPlace_ne_metadataPlace c url v).symm
      (pathOf_metadataPlace_ne c fun heq => hne (hdigest hv hurl heq))
  refine ⟨⟨_, hp.made, haccepts'⟩, fun v hv hnone => ?_, fun v hv e' he' => ?_⟩
  · by_cases hne : v = url
    · rw [hne, Function.update_self] at hnone
      exact absurd hnone (by simp)
    · rw [Function.update_of_ne hne] at hnone
      rw [hmetadata v hv hne, (haccepts v hv).metadata_eq (grown_of_makeDirectories hg)]
      exact h.absent v hv hnone
  · by_cases hne : v = url
    · subst hne
      rw [Function.update_self] at he'
      exact Option.some.inj he' ▸ hp
    · rw [Function.update_of_ne hne] at he'
      have hv' := h.present v hv e' he'
      obtain rfl := Except.ok.inj (hv'.made.symm.trans hg)
      exact ⟨hp.made, (hmetadata v hv hne).trans hv'.metadata, (hbody v hv hne).trans hv'.body,
        hv'.storable, hv'.file⟩

/-- **Storing sets the entry of its URL.** -/
theorem Holds.store (h : c.Holds urls f entries) (hurl : url ∈ urls) (hdigest : Set.InjOn digest urls)
    (body : String) (headers : Dict String) {now : Nat} (hnow : now ≤ Json.maxSignificand) :
    ∃ g, c.store f url body headers now = (.ok (c.newMetadata url headers now), g) ∧
      c.Holds urls g (Function.update entries url (some ⟨c.newMetadata url headers now, body⟩)) := by
  obtain ⟨g, hg, haccepts⟩ := h.accepts
  have ha := haccepts url hurl
  refine ⟨_, store_eq hg ha body headers now, h.update hurl hdigest hg
    (fun v hv => (haccepts v hv).withEntry ha _)
    (present_withEntry hg ha (Metadata.storable_new url _ headers hnow) rfl)
    fun p hbody hmetadata => entry?_withEntry_of_ne _ hbody hmetadata⟩

/-- Confirming an entry writes its metadata. -/
theorem touch_eq {e : Cached} (ha : c.Accepts f url) (hp : c.Present f url e) (headers : Dict String) (now : Nat) :
    c.touch f url headers now = (.ok ⟨e.metadata.refreshed headers now, e.body⟩,
      f.withFile (c.metadataPlace url) (e.metadata.refreshed headers now).text.toUTF8, []) := by
  have hwritten := writeText_eq ha.metadata (e.metadata.refreshed headers now).text
  unfold Cache.touch
  rw [lookup_of_present ha hp]
  dsimp only
  rw [hwritten]

/-- **Confirming an entry** puts the validators of the response over its own. -/
theorem Holds.touch (h : c.Holds urls f entries) (hurl : url ∈ urls) (hdigest : Set.InjOn digest urls)
    {e : Cached} (he : entries url = some e) (headers : Dict String) {now : Nat}
    (hnow : now ≤ Json.maxSignificand) :
    ∃ g, c.touch f url headers now = (.ok ⟨e.metadata.refreshed headers now, e.body⟩, g, []) ∧
      c.Holds urls g
        (Function.update entries url (some ⟨e.metadata.refreshed headers now, e.body⟩)) := by
  have hp := h.present url hurl e he
  have haccepts := h.accepts_of_present hp
  have ha := haccepts url hurl
  refine ⟨_, touch_eq ha hp headers now, ?_⟩
  refine h.update hurl hdigest hp.made (fun v hv => (haccepts v hv).withFile ha.metadata _) ?_
    fun p _ hmetadata => ?_
  · exact {
      made := makeDirectories_again hp.made (directoriesIn_withFile ha.metadata _)
      metadata := by rw [entry?_withFile, if_pos ⟨ha.metadata.ne_nil, rfl⟩]
      body := by
        rw [entry?_withFile, if_neg fun h => pathOf_bodyPlace_ne_metadataPlace c url url h.2, hp.body]
      storable := hp.storable.refreshed headers hnow
      file := hp.file }
  · rw [entry?_withFile, if_neg fun h => hmetadata h.2]

/-- What is not there cannot be confirmed. -/
theorem touch_of_none (h : (c.metadata? f url).1 = none) (headers : Dict String) (now : Nat) :
    c.touch f url headers now = (.error (.miss url), f, (c.metadata? f url).2) := by
  unfold touch
  rw [lookup_of_none h]

/-! ### The empty cache -/

/-- Nothing is in the directory of the cache. -/
def IsEmpty (c : Cache) (f : Files) : Prop := ∀ name, f.entry? (name :: c.rootPlace) = none

/-- Where a response can be stored, the files of its URL can be written once the directory has been
made. -/
theorem accepts_of_store {body : String} {headers : Dict String} {now : Nat}
    (h : (c.store f url body headers now).1.isOk) :
    ∃ g, f.makeDirectories c.root = .ok g ∧ c.Accepts g url := by
  unfold store storeChanges at h
  simp only [Change.applyAll, Change.apply] at h
  cases hg : f.makeDirectories c.root with
  | error e => rw [hg] at h; exact absurd h (by simp [Except.isOk, Except.toBool])
  | ok g =>
    rw [hg] at h
    dsimp only at h
    cases hbody : g.writeText (c.bodyPath url) body with
    | error e => rw [hbody] at h; exact absurd h (by simp [Except.isOk, Except.toBool])
    | ok g₁ =>
      rw [hbody] at h
      dsimp only at h
      cases hmetadata : g₁.writeText (c.metadataPath url) (c.newMetadata url headers now).text with
      | error e => rw [hmetadata] at h; exact absurd h (by simp [Except.isOk, Except.toBool])
      | ok g₂ =>
        obtain ⟨q, hq⟩ := writable_of_writeText hbody
        obtain ⟨q', hq'⟩ := writable_of_writeText hmetadata
        have hplace := descend_bodyPath c url ▸ place_eq_descend hq.place
        have hplace' := descend_metadataPath c url ▸ place_eq_descend hq'.place
        rw [writeText_eq hq] at hbody
        obtain rfl := Except.ok.inj hbody
        exact ⟨g, rfl, hplace ▸ hq, hplace' ▸ hq.of_withFile hq'⟩

/-- **An empty cache into which responses can be stored** holds no entries. -/
theorem holds_of_isEmpty (hempty : c.IsEmpty f) (hurls : urls.Nonempty)
    (hstore : ∀ url ∈ urls, ∃ body headers now, (c.store f url body headers now).1.isOk) :
    c.Holds urls f fun _ => none := by
  have haccepts : ∀ url ∈ urls, ∃ g, f.makeDirectories c.root = .ok g ∧ c.Accepts g url := by
    intro url hurl
    obtain ⟨body, headers, now, h⟩ := hstore url hurl
    exact accepts_of_store h
  obtain ⟨url, hurl⟩ := hurls
  obtain ⟨g, hg, -⟩ := haccepts url hurl
  refine ⟨⟨g, hg, fun v hv => ?_⟩, fun v _ _ => hempty _, fun v _ e he => absurd he (by simp)⟩
  obtain ⟨g', hg', ha⟩ := haccepts v hv
  obtain rfl := Except.ok.inj (hg.symm.trans hg')
  exact ha

end Cache
end ScriptImport
