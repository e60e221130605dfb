/-
# What changes to files leave alone

A path that can be walked names the place that its components spell (`place_eq_descend`), whatever the
files are, and it stays walkable as long as the directories stay (`place_mono`).  Making directories adds
directories where nothing was and changes nothing else (`grown_of_makeDirectories`), so making them again
changes nothing (`makeDirectories_again`).  A file can be written where the path can be walked, no
directory is there and the place is not locked (`Writable`, `writeText_eq`); the directories are then the
same as before, and so is everything with another path (`entry?_withFile`).
-/

import Mathlib.Tactic.Common
import ScriptImport.Files
import ScriptImport.Proofs.Dict

namespace ScriptImport
namespace Files

/-! ### Places -/

/-- The place that components spell, going down from a place. -/
def descend (place : Place) : List String → Place
  | [] => place
  | part :: rest =>
    if part = "" ∨ part = "." then descend place rest
    else if part = ".." then descend place.tail rest
    else descend (part :: place) rest

theorem descend_append (place : Place) (front back : List String) :
    descend place (front ++ back) = descend (descend place front) back := by
  induction front generalizing place with
  | nil => rfl
  | cons part front ih =>
    simp only [List.cons_append, descend]
    split_ifs <;> exact ih _

/-- The directories of some files are directories of others, too. -/
def DirectoriesIn (f g : Files) : Prop :=
  ∀ p, f.entry? p = some .directory → g.entry? p = some .directory

/-- A step goes where its component says, and needs the directory it starts from. -/
theorem step_eq_ok {f : Files} {place q : Place} {part : String} (h : f.step place part = .ok q) :
    f.entry? place = some .directory ∧ q = descend place [part] := by
  unfold step at h
  split at h
  · exact absurd h (by simp)
  · exact absurd h (by simp)
  · next hplace =>
    simp only [descend]
    split_ifs at h ⊢
    · exact ⟨hplace, (Except.ok.inj h).symm⟩
    · exact ⟨hplace, (Except.ok.inj h).symm⟩
    · exact ⟨hplace, (Except.ok.inj h).symm⟩

theorem step_mono {f g : Files} (hfg : DirectoriesIn f g) {place q : Place} {part : String}
    (h : f.step place part = .ok q) : g.step place part = .ok q := by
  obtain ⟨hplace, -⟩ := step_eq_ok h
  rw [step, hplace] at h
  rw [step, hfg _ hplace]
  exact h

theorem walk_cons (f : Files) (place : Place) (part : String) (rest : List String) :
    f.walk place (part :: rest) = f.step place part >>= fun q => f.walk q rest := rfl

theorem walk_eq_descend {f : Files} {place q : Place} {parts : List String}
    (h : f.walk place parts = .ok q) : q = descend place parts := by
  induction parts generalizing place with
  | nil => exact (Except.ok.inj h).symm
  | cons part rest ih =>
    rw [walk_cons] at h
    cases hstep : f.step place part with
    | error e => rw [hstep] at h; exact absurd h (by simp [bind, Except.bind])
    | ok r =>
      rw [hstep] at h
      rw [ih h, (step_eq_ok hstep).2, ← descend_append, List.singleton_append]

theorem walk_mono {f g : Files} (hfg : DirectoriesIn f g) {place q : Place} {parts : List String}
    (h : f.walk place parts = .ok q) : g.walk place parts = .ok q := by
  induction parts generalizing place with
  | nil => exact h
  | cons part rest ih =>
    rw [walk_cons] at h ⊢
    cases hstep : f.step place part with
    | error e => rw [hstep] at h; exact absurd h (by simp [bind, Except.bind])
    | ok r =>
      rw [hstep] at h
      rw [step_mono hfg hstep]
      exact ih h

/-- **A path names the place that its components spell.** -/
theorem place_eq_descend {f : Files} {path : String} {q : Place} (h : f.place path = .ok q) :
    q = descend [] (components path) := by
  unfold place at h
  split_ifs at h
  exact walk_eq_descend h

/-- **A path stays walkable** as long as the directories stay. -/
theorem place_mono {f g : Files} (hfg : DirectoriesIn f g) {path : String} {q : Place}
    (h : f.place path = .ok q) : g.place path = .ok q := by
  unfold place at h ⊢
  split_ifs at h ⊢
  exact walk_mono hfg h

theorem pathOf_cons (part : String) (place : Place) : pathOf (part :: place) = pathOf place ++ ("/" ++ part) := by
  simp [pathOf, String.join_append, String.join_cons, String.join_nil]

/-- Names in one directory have different paths. -/
theorem pathOf_cons_inj {part part' : String} {place : Place}
    (h : pathOf (part :: place) = pathOf (part' :: place)) : part = part' := by
  rw [pathOf_cons, pathOf_cons, String.append_right_inj, String.append_right_inj] at h
  exact h

/-! ### Reading and writing -/

/-- The files with a file at a place. -/
def withFile (f : Files) (place : Place) (bytes : ByteArray) : Files :=
  { f with entries := Dict.insert f.entries (pathOf place) (.file bytes) }

theorem entry?_withFile (f : Files) (place : Place) (bytes : ByteArray) (p : Place) :
    Files.entry? (f.withFile place bytes) p
      = if p ≠ [] ∧ pathOf p = pathOf place then some (.file bytes) else f.entry? p := by
  by_cases hp : p = []
  · simp [Files.entry?, hp]
  · simp [Files.entry?, hp, withFile, Dict.get?_insert]

/-- A file can be written at a path, which names the place `q`. -/
structure Writable (f : Files) (path : String) (q : Place) : Prop where
  place : f.place path = .ok q
  free : f.entry? q ≠ some .directory
  unlocked : pathOf q ∉ f.locked

theorem Writable.ne_nil {f : Files} {path : String} {q : Place} (h : f.Writable path q) : q ≠ [] := by
  rintro rfl
  exact h.free (by simp [Files.entry?])

/-- **Writing puts the text where it can be written.** -/
theorem writeText_eq {f : Files} {path : String} {q : Place} (h : f.Writable path q) (text : String) :
    f.writeText path text = .ok (f.withFile q text.toUTF8) := by
  unfold writeText write
  rw [h.place]
  dsimp only [bind, Except.bind]
  split
  · next hdirectory => exact absurd hdirectory h.free
  · rw [put, if_neg h.unlocked, withFile]

/-- Where writing succeeds, a file can be written. -/
theorem writable_of_writeText {f g : Files} {path text : String} (h : f.writeText path text = .ok g) :
    ∃ q, f.Writable path q := by
  unfold writeText write at h
  cases hplace : f.place path with
  | error e => rw [hplace] at h; exact absurd h (by simp [bind, Except.bind])
  | ok q =>
    rw [hplace] at h
    dsimp only [bind, Except.bind] at h
    split at h
    · exact absurd h (by simp)
    · next hfree =>
      unfold put at h
      split_ifs at h with hlocked
      exact ⟨q, hplace, hfree, hlocked⟩

theorem directoriesIn_withFile {f : Files} {path : String} {q : Place} (h : f.Writable path q)
    (bytes : ByteArray) : DirectoriesIn f (f.withFile q bytes) := by
  intro p hp
  rw [Files.entry?_withFile, if_neg]
  · exact hp
  · rintro ⟨hne, heq⟩
    exact h.free (by rw [← hp, entry?, entry?, if_neg hne, if_neg h.ne_nil, heq])

theorem directoriesIn_of_withFile (f : Files) (q : Place) (bytes : ByteArray) :
    DirectoriesIn (f.withFile q bytes) f := by
  intro p hp
  rw [Files.entry?_withFile] at hp
  split_ifs at hp with h
  · exact absurd hp (by simp)
  · exact hp

/-- A file that was written does not keep others from being written. -/
theorem Writable.withFile {f : Files} {path path' : String} {q q' : Place} (h : f.Writable path q)
    (h' : f.Writable path' q') (bytes : ByteArray) : (f.withFile q' bytes).Writable path q where
  place := place_mono (directoriesIn_withFile h' bytes) h.place
  free hq := h.free (directoriesIn_of_withFile f q' bytes _ hq)
  unlocked := h.unlocked

/-- Before a file was written, all could be written that can be afterwards. -/
theorem Writable.of_withFile {f : Files} {path path' : String} {q q' : Place} {bytes : ByteArray}
    (h' : f.Writable path' q') (h : (f.withFile q' bytes).Writable path q) : f.Writable path q where
  place := place_mono (directoriesIn_of_withFile f q' bytes) h.place
  free hq := h.free (directoriesIn_withFile h' bytes _ hq)
  unlocked := h.unlocked

theorem decode_toUTF8 (text : String) : decode text.toUTF8 = .ok text := by
  have h : String.fromUTF8? text.toUTF8 = some text := by
    unfold String.fromUTF8?
    exact dif_pos text.isValidUTF8
  rw [decode, h]

/-- **What was written is read.** -/
theorem readText_eq {f : Files} {path text : String} {q : Place} (hplace : f.place path = .ok q)
    (hfile : f.entry? q = some (.file text.toUTF8)) : f.readText path = .ok text := by
  have hread : f.read path = .ok text.toUTF8 := by
    unfold read readAt
    rw [hplace]
    dsimp only [bind, Except.bind]
    rw [hfile]
  unfold readText
  rw [hread]
  exact decode_toUTF8 text

/-- A file that was written is read as it was written. -/
theorem readText_of_writeText {f g : Files} {path text : String} (h : f.writeText path text = .ok g) :
    g.readText path = .ok text := by
  obtain ⟨q, hq⟩ := writable_of_writeText h
  rw [writeText_eq hq text] at h
  obtain rfl := Except.ok.inj h
  exact readText_eq (hq.withFile hq _).place (by rw [entry?_withFile, if_pos ⟨hq.ne_nil, rfl⟩])

/-- What was read is in a file. -/
theorem file_of_readText {f : Files} {path text : String} (h : f.readText path = .ok text) :
    ∃ bytes, f.place path = .ok (descend [] (components path)) ∧
      f.entry? (descend [] (components path)) = some (.file bytes) := by
  unfold readText read readAt at h
  cases hplace : f.place path with
  | error e => rw [hplace] at h; exact absurd h (by simp [bind, Except.bind])
  | ok q =>
    rw [hplace] at h
    obtain rfl := place_eq_descend hplace
    cases hentry : f.entry? (descend [] (components path)) with
    | none => simp [bind, Except.bind, hentry] at h
    | some entry =>
      cases entry with
      | directory => simp [bind, Except.bind, hentry] at h
      | file bytes => exact ⟨bytes, rfl, rfl⟩

/-- A file that can be read can be written unless its place is locked. -/
theorem writable_of_readText {f : Files} {path text : String} (h : f.readText path = .ok text)
    (hunlocked : pathOf (descend [] (components path)) ∉ f.locked) :
    f.Writable path (descend [] (components path)) := by
  obtain ⟨bytes, hplace, hentry⟩ := file_of_readText h
  exact ⟨hplace, by rw [hentry]; simp, hunlocked⟩

/-- Nothing is written at a place that is locked. -/
theorem writeText_of_locked {f : Files} {path : String}
    (hlocked : pathOf (descend [] (components path)) ∈ f.locked) (text : String) :
    ∃ e, f.writeText path text = .error e := by
  cases hwrite : f.writeText path text with
  | error e => exact ⟨e, rfl⟩
  | ok g =>
    obtain ⟨q, hq⟩ := writable_of_writeText hwrite
    exact absurd (place_eq_descend hq.place ▸ hlocked) hq.unlocked

/-- Where nothing is, nothing is read. -/
theorem readText_of_none {f : Files} {path : String}
    (h : f.entry? (descend [] (components path)) = none) : ∃ e, f.readText path = .error e := by
  unfold readText read readAt
  cases hplace : f.place path with
  | error e => exact ⟨e, rfl⟩
  | ok q =>
    refine ⟨.missing, ?_⟩
    dsimp only [bind, Except.bind]
    rw [place_eq_descend hplace, h]

/-! ### Making directories -/

/-- Some files, and besides them directories where nothing was. -/
structure Grown (f g : Files) : Prop where
  locked : g.locked = f.locked
  entry : ∀ p, g.entry? p = f.entry? p ∨ f.entry? p = none ∧ g.entry? p = some .directory

theorem Grown.refl (f : Files) : Grown f f := ⟨rfl, fun _ => Or.inl rfl⟩

theorem Grown.trans {f g h : Files} (hfg : Grown f g) (hgh : Grown g h) : Grown f h where
  locked := hgh.locked.trans hfg.locked
  entry p := by
    rcases hgh.entry p with heq | ⟨hnone, hdirectory⟩
    · rw [heq]
      exact hfg.entry p
    · rcases hfg.entry p with heq | ⟨-, hmade⟩
      · exact Or.inr ⟨heq ▸ hnone, hdirectory⟩
      · exact absurd (hmade.symm.trans hnone) (by simp)

theorem Grown.directoriesIn {f g : Files} (h : Grown f g) : DirectoriesIn f g := by
  intro p hp
  rcases h.entry p with heq | ⟨hnone, -⟩
  · rw [heq, hp]
  · exact absurd (hp.symm.trans hnone) (by simp)

theorem grown_put {f g : Files} {place : Place} (hplace : f.entry? place = none)
    (h : f.put place .directory = .ok g) : Grown f g ∧ g.entry? place = some .directory := by
  unfold put at h
  split_ifs at h with hlocked
  obtain rfl := Except.ok.inj h
  have hne : place ≠ [] := by
    rintro rfl
    exact absurd hplace (by simp [Files.entry?])
  refine ⟨⟨rfl, fun p => ?_⟩, by simp [Files.entry?, hne, Dict.get?_insert]⟩
  by_cases hp : p = []
  · simp [Files.entry?, hp]
  · by_cases hpath : pathOf p = pathOf place
    · have hnone : f.entry? p = none := by
        rw [← hplace, entry?, entry?, if_neg hp, if_neg hne, hpath]
      exact Or.inr ⟨hnone, by simp [Files.entry?, hp, hpath, Dict.get?_insert]⟩
    · exact Or.inl (by simp [Files.entry?, hp, hpath, Dict.get?_insert])

/-- **Making directories adds directories** and nothing else, and where these are, none are made any
more. -/
theorem grown_of_makeDown {f g : Files} {place : Place} {parts : List String}
    (h : f.makeDown place parts = .ok g) :
    Grown f g ∧ ∀ g', DirectoriesIn g g' → g'.makeDown place parts = .ok g' := by
  induction parts generalizing f place with
  | nil => exact ⟨Except.ok.inj h ▸ Grown.refl f, fun _ _ => rfl⟩
  | cons part rest ih =>
    unfold makeDown at h ⊢
    by_cases hsame : part = "" ∨ part = "."
    · simp only [if_pos hsame] at h ⊢
      exact ih h
    by_cases hup : part = ".."
    · simp only [if_neg hsame, if_pos hup] at h ⊢
      exact ih h
    by_cases hlong : maxName < part.utf8ByteSize
    · simp only [if_neg hsame, if_neg hup, if_pos hlong] at h
      exact absurd h (by simp)
    simp only [if_neg hsame, if_neg hup, if_neg hlong] at h ⊢
    cases hentry : f.entry? (part :: place) with
    | some entry =>
      cases entry with
      | directory =>
        rw [hentry] at h
        obtain ⟨hgrown, hagain⟩ := ih h
        refine ⟨hgrown, fun g' hg' => ?_⟩
        rw [hg' _ (hgrown.directoriesIn _ hentry)]
        exact hagain g' hg'
      | file bytes => rw [hentry] at h; exact absurd h (by simp)
    | none =>
      rw [hentry] at h
      cases hput : f.put (part :: place) .directory with
      | error e => rw [hput] at h; exact absurd h (by simp [bind, Except.bind])
      | ok f' =>
        rw [hput] at h
        obtain ⟨hgrown, hagain⟩ := ih (f := f') h
        obtain ⟨hgrown', hmade⟩ := grown_put hentry hput
        refine ⟨hgrown'.trans hgrown, fun g' hg' => ?_⟩
        rw [hg' _ (hgrown.directoriesIn _ hmade)]
        exact hagain g' hg'

theorem grown_of_makeDirectories {f g : Files} {path : String} (h : f.makeDirectories path = .ok g) :
    Grown f g := (grown_of_makeDown h).1

/-- **Directories that are there are not made again.** -/
theorem makeDirectories_again {f g g' : Files} {path : String} (h : f.makeDirectories path = .ok g)
    (hg : DirectoriesIn g g') : g'.makeDirectories path = .ok g' := (grown_of_makeDown h).2 g' hg

/-! ### Removing files -/

/-- The files without what is at a place. -/
def without (f : Files) (place : Place) : Files :=
  { f with entries := Dict.erase f.entries (pathOf place) }

theorem entry?_without (f : Files) (place p : Place) :
    Files.entry? (f.without place) p = if p ≠ [] ∧ pathOf p = pathOf place then none else f.entry? p := by
  by_cases hp : p = []
  · simp [Files.entry?, hp]
  · simp [Files.entry?, hp, without, Dict.get?_erase]

theorem directoriesIn_without {f : Files} {q : Place} (hfree : f.entry? q ≠ some .directory) :
    DirectoriesIn f (f.without q) := by
  intro p hp
  rw [Files.entry?_without, if_neg]
  · exact hp
  · rintro ⟨hne, heq⟩
    have hq : q ≠ [] := fun hq => hfree (by simp [Files.entry?, hq])
    exact hfree (by rw [← hp, entry?, entry?, if_neg hne, if_neg hq, heq])

theorem directoriesIn_of_without (f : Files) (q : Place) : DirectoriesIn (f.without q) f := by
  intro p hp
  rw [Files.entry?_without] at hp
  split_ifs at hp
  exact hp

/-- A file that was removed does not keep others from being written. -/
theorem Writable.without {f : Files} {path : String} {q q' : Place} (h : f.Writable path q)
    (hfree : f.entry? q' ≠ some .directory) : (f.without q').Writable path q where
  place := place_mono (directoriesIn_without hfree) h.place
  free hq := h.free (directoriesIn_of_without f q' _ hq)
  unlocked := h.unlocked

/-- Something is at a path if the path can be walked and something is at the place it spells. -/
theorem contains_iff {f : Files} {path : String} :
    f.contains path ↔ f.place path = .ok (descend [] (components path)) ∧
      (f.entry? (descend [] (components path))).isSome := by
  unfold contains find?
  cases hplace : f.place path with
  | error e => simp
  | ok q => rw [place_eq_descend hplace]; simp

/-- **A file that can be written can be removed.** -/
theorem remove_eq {f : Files} {path : String} {q : Place} (h : f.Writable path q) (hsome : (f.entry? q).isSome) :
    f.remove path = .ok (f.without q) := by
  unfold remove
  rw [h.place]
  dsimp only [bind, Except.bind]
  split
  · next hnone => exact absurd hsome (by rw [hnone]; simp)
  · next hdirectory => exact absurd hdirectory h.free
  · rw [if_neg h.unlocked]
    rfl

theorem contains_of_without {f : Files} {path : String} {q : Place} (h : (f.without q).contains path) :
    f.contains path := by
  obtain ⟨hplace, hsome⟩ := contains_iff.1 h
  refine contains_iff.2 ⟨place_mono (directoriesIn_of_without f q) hplace, ?_⟩
  rw [entry?_without] at hsome
  split_ifs at hsome
  · cases hsome
  · exact hsome

/-- Removing a file takes away that path only. -/
theorem contains_without {f : Files} {path : String} {q : Place} (hfree : f.entry? q ≠ some .directory)
    (hne : pathOf (descend [] (components path)) ≠ pathOf q) :
    (f.without q).contains path ↔ f.contains path := by
  rw [contains_iff, contains_iff, entry?_without, if_neg fun heq => hne heq.2]
  exact and_congr_left fun _ => ⟨place_mono (directoriesIn_of_without f q), place_mono (directoriesIn_without hfree)⟩

/-- The files `g` are the files `f` without what is at some paths. -/
structure Removed (paths : List String) (f g : Files) : Prop where
  locked : g.locked = f.locked
  directories : DirectoriesIn f g
  entry : ∀ p, g.entry? p = if p ≠ [] ∧ ∃ path ∈ paths, f.contains path ∧
    pathOf p = pathOf (descend [] (components path)) then none else f.entry? p

theorem Removed.entry?_eq_none {f g : Files} {paths : List String} (h : Removed paths f g) {p : Place}
    (hp : f.entry? p = none) : g.entry? p = none := by
  rw [h.entry, hp, ite_self]

theorem Removed.entry?_of_some {f g : Files} {paths : List String} (h : Removed paths f g) {p : Place} {e : Entry}
    (hp : g.entry? p = some e) : f.entry? p = some e := by
  rw [h.entry] at hp
  split_ifs at hp
  exact hp

/-- What was at a path is gone. -/
theorem Removed.gone {f g : Files} {path : String} {paths : List String} {q : Place} (h : Removed paths f g)
    (hpath : path ∈ paths) (hq : f.Writable path q) : g.entry? q = none := by
  cases hentry : f.entry? q with
  | none => exact h.entry?_eq_none hentry
  | some e =>
    obtain rfl := place_eq_descend hq.place
    rw [h.entry, if_pos ⟨hq.ne_nil, path, hpath, contains_iff.2 ⟨hq.place, by rw [hentry]; rfl⟩, rfl⟩]

theorem Removed.writable {f g : Files} {path : String} {paths : List String} {q : Place} (h : Removed paths f g)
    (hq : f.Writable path q) : g.Writable path q :=
  ⟨place_mono h.directories hq.place, fun hdirectory => hq.free (h.entry?_of_some hdirectory),
    h.locked ▸ hq.unlocked⟩

theorem Removed.nil (f : Files) : Removed [] f f := ⟨rfl, fun _ => id, fun p => by simp⟩

theorem Removed.skip {f g : Files} {path : String} {paths : List String} (hpath : ¬ f.contains path)
    (h : Removed paths f g) : Removed (path :: paths) f g := by
  refine ⟨h.locked, h.directories, fun p => ?_⟩
  rw [h.entry]
  simp only [List.mem_cons, exists_eq_or_imp, hpath, false_and, false_or, Bool.false_eq_true]

theorem Removed.cons {f g : Files} {path : String} {paths : List String} (hpath : f.contains path)
    (hfree : f.entry? (descend [] (components path)) ≠ some .directory)
    (h : Removed paths (f.without (descend [] (components path))) g) : Removed (path :: paths) f g := by
  refine ⟨h.locked, fun p hp => h.directories p (directoriesIn_without hfree p hp), fun p => ?_⟩
  rw [h.entry]
  by_cases hp : p = []
  · simp [hp, Files.entry?]
  by_cases hfirst : pathOf p = pathOf (descend [] (components path))
  · have hgone : Files.entry? (f.without (descend [] (components path))) p = none := by
      rw [entry?_without, if_pos ⟨hp, hfirst⟩]
    rw [hgone, ite_self, if_pos ⟨hp, path, List.mem_cons_self .., hpath, hfirst⟩]
  · have hsame : Files.entry? (f.without (descend [] (components path))) p = f.entry? p := by
      rw [entry?_without, if_neg fun heq => hfirst heq.2]
    rw [hsame]
    refine if_congr (and_congr_right fun _ => ⟨?_, ?_⟩) rfl rfl
    · rintro ⟨path', hpath', hcontains, heq⟩
      exact ⟨path', List.mem_cons_of_mem _ hpath', contains_of_without hcontains, heq⟩
    · rintro ⟨path', hpath', hcontains, heq⟩
      rcases List.mem_cons.1 hpath' with rfl | hpath'
      · exact absurd heq hfirst
      · exact ⟨path', hpath', (contains_without hfree (heq ▸ hfirst)).2 hcontains, heq⟩

/-! ### Names in a directory -/

/-- A walk goes down through directories only. -/
theorem entry?_drop_of_walk {f : Files} {place q : Place} {parts : List String} (h : f.walk place parts = .ok q)
    (hplace : ∀ n, f.entry? (place.drop (n + 1)) = some .directory) (n : Nat) :
    f.entry? (q.drop (n + 1)) = some .directory := by
  induction parts generalizing place with
  | nil => exact Except.ok.inj h ▸ hplace n
  | cons part rest ih =>
    rw [walk_cons] at h
    cases hstep : f.step place part with
    | error e => rw [hstep] at h; exact absurd h (by simp [bind, Except.bind])
    | ok r =>
      rw [hstep] at h
      obtain ⟨hdirectory, rfl⟩ := step_eq_ok hstep
      refine ih h fun k => ?_
      simp only [descend]
      split_ifs
      · exact hplace k
      · rw [← List.drop_one, List.drop_drop, Nat.add_comm 1]
        exact hplace (k + 1)
      · rw [List.drop_succ_cons]
        cases k with
        | zero => exact hdirectory
        | succ k => exact hplace k

/-- The directory above a place that a path names. -/
theorem entry?_tail_of_place {f : Files} {path : String} {q : Place} (h : f.place path = .ok q) :
    f.entry? q.tail = some .directory := by
  unfold place at h
  split_ifs at h
  rw [← List.drop_one]
  exact entry?_drop_of_walk h (fun n => by simp [Files.entry?]) 0

/-- **The names in a directory** have no slashes, and what is in the directory under a name without slashes is among
them. -/
theorem names_eq_ok {f : Files} {path : String} {q : Place} (hplace : f.place path = .ok q)
    (hdirectory : f.entry? q = some .directory) :
    ∃ names, f.names path = .ok names ∧ (∀ name ∈ names, '/' ∉ name.toList) ∧
      ∀ name, '/' ∉ name.toList → (f.entry? (name :: q)).isSome → name ∈ names := by
  unfold names
  rw [hplace]
  dsimp only [bind, Except.bind]
  rw [hdirectory]
  refine ⟨_, rfl, fun name hname => ?_, fun name hslash hsome => ?_⟩
  · obtain ⟨⟨key, e⟩, -, hkey⟩ := List.mem_filterMap.1 hname
    obtain ⟨rest, -, hrest⟩ := Option.bind_eq_some_iff.1 hkey
    split_ifs at hrest with hslash
    obtain rfl := Option.some.inj hrest
    rwa [String.toList_ofList]
  · obtain ⟨e, he⟩ := Option.isSome_iff_exists.1 hsome
    rw [Files.entry?, if_neg (List.cons_ne_nil _ _), Dict.get?] at he
    obtain ⟨before, after, hentries, -⟩ := List.lookup_eq_some_iff.1 he
    refine List.mem_filterMap.2 ⟨(pathOf (name :: q), e), by rw [hentries]; simp, ?_⟩
    refine Option.bind_eq_some_iff.2 ⟨name.toList, ?_, ?_⟩
    · rw [List.isPrefixOf?_eq_some_iff_append_eq, pathOf_cons]
      simp
    · rw [if_neg hslash, String.ofList_toList]

end Files
end ScriptImport
