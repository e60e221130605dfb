/-
# Builtin modules under their names

A builtin module is asked for by its name, alone or behind `std:`, and the name goes into a URL and comes out of it
again.  It comes out as it went in if and only if it is written as the path of a URL is (`Builtin.isPlainName`): what is
behind a question mark or a hash is lost, characters that a URL does not have get escapes, points are carried out, and
two slashes start a server.  Then the name alone and the name behind `std:` lead to one URL, from everywhere, and the
module that is built there is the one with the name.  Under another name a module cannot be had, and what is built is a
module with another name, if there is one (`Resolver.import_builtin`).
-/

import ScriptImport.Module.Build
import ScriptImport.Proofs.Module.Load
import ScriptImport.Proofs.Resolve.Steps
import ScriptImport.Proofs.Url.Server

namespace ScriptImport
namespace Url

variable {cs : List Char} {c : Char} {p : Parts} {u : Url} {scheme : String}

/-! ### Paths behind a scheme that is not special -/

/-- A path that does not start with a slash is a text, and what needs no escape in it is as it was read. -/
theorem front_of_path (hkind : SchemeKind.of scheme = .other) (h : absoluteUrl none scheme p = .ok u)
    (hpath : u.path.toString.toList = c :: cs) (hc : c ≠ '/') (hsub : p.front ⊆ c :: cs) :
    p.front = c :: cs ∧ ∀ d ∈ c :: cs, escapedAlways d = false := by
  rw [absoluteUrl_other hkind] at h
  split at h
  · obtain ⟨s, followed, -, rfl⟩ := withServer_eq_ok h
    rw [hkind] at hpath
    exact absurd (head_rootPath (congrArg List.head? hpath)) hc
  · cases h
    exact absurd (head_pathText (congrArg List.head? ((toList_segments _).symm.trans hpath))) hc
  · cases h
    have hescape : escape escapedAlways p.front = c :: cs := (String.toList_ofList ..).symm.trans hpath
    have halways : ∀ d ∈ c :: cs, escapedAlways d = false := fun d hd =>
      escaped_eq_false (by decide) (by decide) (hescape ▸ hd)
    exact ⟨(escape_eq_self fun d hd => halways d (hsub hd)).symm.trans hescape, halways⟩

/-- A path that is read as it is written has no server in front of it, and no part of points. -/
theorem path_of_slash {front : List Char} (hkind : SchemeKind.of scheme = .other)
    (h : absoluteUrl none scheme p = .ok u) (hpath : u.path.toString.toList = '/' :: cs) (hp : p.front = '/' :: front)
    (hfront : (∀ d ∈ cs, isWritten d = true) → front = cs) :
    cs.head? ≠ some '/' ∧ (∀ d ∈ cs, isWritten d = true) ∧ ∀ part ∈ Path.splitAt '/' cs, isPoints part = false := by
  rw [absoluteUrl_other hkind, hp] at h
  split at h
  · next rest hrest =>
    -- the path behind a server would be shorter
    have hwritten : ∀ d ∈ cs, isWritten d = true := by
      obtain ⟨s, followed, -, rfl⟩ := withServer_eq_ok h
      rw [hkind] at hpath
      exact fun d hd => rootPath_written _ d (hpath ▸ List.mem_cons_of_mem _ hd)
    obtain rfl := hfront hwritten
    obtain rfl := (List.cons.inj hrest).2
    have hlength := length_withServer_le hkind (fun d hd => hwritten d (List.mem_cons_of_mem _ hd)) h
    rw [hpath] at hlength
    simp only [List.length_cons] at hlength
    omega
  · next rest hslash hrest =>
    obtain rfl := (List.cons.inj hrest).2
    cases h
    have hfollow : pathText (follow .other [] front) = '/' :: cs := (toList_segments _).symm.trans hpath
    obtain rfl := hfront fun d hd => follow_other_written front d (hfollow ▸ List.mem_cons_of_mem _ hd)
    refine ⟨fun hhead => ?_, pathText_follow_other_iff.1 hfollow⟩
    obtain ⟨rest, rfl⟩ := List.head?_eq_some_iff.1 hhead
    exact hslash rest rfl
  · next hslash => exact absurd rfl (hslash front)

theorem exists_path_iff_of_slash (hkind : SchemeKind.of scheme = .other) (cs : List Char) :
    (∃ u, absoluteUrl none scheme (.of (('/' :: cs).rdropWhile isEnd)) = .ok u ∧
        u.path.toString.toList = '/' :: cs) ↔
      cs.head? ≠ some '/' ∧ (∀ c ∈ cs, isWritten c = true) ∧ ∀ part ∈ Path.splitAt '/' cs, isPoints part = false := by
  have hself (hwritten : ∀ c ∈ cs, isWritten c = true) :
      (Parts.of (('/' :: cs).rdropWhile isEnd)).front = '/' :: cs := by
    have hall : ∀ c ∈ '/' :: cs, isWritten c = true := List.forall_mem_cons.2 ⟨by decide, hwritten⟩
    refine Parts.front_eq_self (fun c hc => isBreak_of_isWritten (hall c hc))
      (fun c hc => isFront_of_isWritten (hall c hc)) ((Option.any_eq_false ..).2 fun c hc => ?_)
    exact isEnd_of_isWritten (hall c (List.mem_of_getLast? hc))
  constructor
  · rintro ⟨u, hu, hpath⟩
    have hfirst : ('/' :: cs).rdropWhile isEnd = '/' :: cs.rdropWhile isEnd := rdropWhile_append_cons (by decide) [] cs
    have hfront : (Parts.of (('/' :: cs).rdropWhile isEnd)).front =
        '/' :: plain ((cs.rdropWhile isEnd).takeWhile isFront) := by
      rw [Parts.front_of, hfirst, List.takeWhile_cons_of_pos (by decide)]
      rfl
    exact path_of_slash hkind hu hpath hfront fun hwritten => (List.cons.inj (hfront.symm.trans (hself hwritten))).2
  · rintro ⟨hslash, hwritten, hpoints⟩
    rw [absoluteUrl_other hkind, hself hwritten]
    split
    · next rest hrest => exact absurd (congrArg List.head? (List.cons.inj hrest).2) hslash
    · next rest _ hrest =>
      obtain rfl := (List.cons.inj hrest).2
      exact ⟨_, rfl, (toList_segments _).trans (pathText_follow_other_iff.2 ⟨hwritten, hpoints⟩)⟩
    · next hne => exact absurd rfl (hne cs)

theorem exists_path_iff_of_text (hkind : SchemeKind.of scheme = .other) (hc : c ≠ '/') (cs : List Char) :
    (∃ u, absoluteUrl none scheme (.of ((c :: cs).rdropWhile isEnd)) = .ok u ∧ u.path.toString.toList = c :: cs) ↔
      (∀ d ∈ c :: cs, escapedAlways d = false ∧ isFront d = true) ∧ (c :: cs).getLast?.any isEnd = false := by
  constructor
  · rintro ⟨u, hu, hpath⟩
    have hsub := (Parts.front_of_sublist (c :: cs)).subset
    obtain ⟨hself, halways⟩ := front_of_path hkind hu hpath hc hsub
    obtain ⟨hfront, hlast⟩ := Parts.of_front_eq_self hself
    exact ⟨fun d hd => ⟨halways d hd, hfront d hd⟩, hlast⟩
  · rintro ⟨hall, hlast⟩
    have hself : (Parts.of ((c :: cs).rdropWhile isEnd)).front = c :: cs :=
      Parts.front_eq_self (fun d hd => isBreak_of_not_escaped (hall d hd).1) (fun d hd => (hall d hd).2) hlast
    rw [absoluteUrl_other hkind, hself]
    split
    · next rest hrest => exact absurd (List.cons.inj hrest).1 hc
    · next rest _ hrest => exact absurd (List.cons.inj hrest).1 hc
    · refine ⟨_, rfl, ?_⟩
      rw [Parts.url, Path.toString, String.toList_ofList]
      exact escape_eq_self fun d hd => (hall d hd).1

end Url

namespace Builtin

open Url

/-- Whether a name comes out of a URL as it went in.  Behind a slash it is a path of segments, else it is a text. -/
def isPlainName (name : String) : Bool :=
  match name.toList with
  | '/' :: cs => cs.head? ≠ some '/' && cs.all isWritten && (Path.splitAt '/' cs).all (! isPoints ·)
  | cs => cs.all (fun c => ! escapedAlways c && isFront c) && ! cs.getLast?.any isEnd

theorem parse_eq (name : String) : Url.parse (scheme ++ ":" ++ name) =
    absoluteUrl none scheme (.of (name.toList.rdropWhile isEnd)) := by
  have hfirst : ∀ c ∈ scheme.toList.head?, isEnd c = false := by
    rintro c ⟨⟩
    decide
  have hscheme : IsScheme scheme.toList := Resolver.isScheme_of_mem (by decide)
  have hbehind : Behind (scheme ++ ":" ++ name).toList scheme.toList name.toList :=
    ⟨[], scheme.toList, by simp, nofun, hfirst, by decide, hscheme⟩
  exact hbehind.readFrom_eq

/-- **A name comes out of its URL as it went in if and only if it is plain.** -/
theorem exists_url_iff {name : String} (hname : name ≠ "") :
    (∃ url, Url.parse (scheme ++ ":" ++ name) = .ok url ∧ url.path.toString = name) ↔ isPlainName name = true := by
  have hkind : SchemeKind.of scheme = .other := by decide
  have hcs : name.toList ≠ [] := fun h => hname (String.toList_eq_nil_iff.1 h)
  have hpath (url : Url) : url.path.toString = name ↔ url.path.toString.toList = name.toList := String.toList_inj.symm
  simp only [parse_eq, hpath, isPlainName]
  obtain ⟨c, cs, hcons⟩ := List.exists_cons_of_ne_nil hcs
  rw [hcons]
  by_cases hc : c = '/'
  · subst hc
    rw [exists_path_iff_of_slash hkind]
    simp [and_assoc]
  · rw [exists_path_iff_of_text hkind hc]
    split
    · next hslash => exact absurd (List.cons.inj hslash).1 hc
    · simp [and_assoc]

end Builtin

theorem Registry.get?_register (r : Registry) (m : Builtin) (name : String) :
    (r.register m).get? name = if name = m.name then some m else r.get? name := Dict.get?_insert ..

namespace Builder

/-- At a URL a module is built from a builtin module; nothing but the log changes. -/
def Builds (b : Builder) (url : Url) (m : Builtin) : Prop :=
  ∀ (context : Script.ObjectId) (s : Session), ∃ events,
    (b.build url context).run s = (.ok (.ofBuiltin url m s.scripts context), { s with web := { s.web with events } })

theorem builds_of_get? {b : Builder} {url : Url} {m : Builtin} (hscheme : url.scheme = Builtin.scheme)
    (hm : b.builtins.get? (builtinName url) = some m) : b.Builds url m := by
  intro context s
  have htext : ¬ (url.scheme = "http" ∨ url.scheme = "https" ∨ url.scheme = "file") := by
    rw [hscheme]
    decide
  rw [build, if_neg htext, if_pos hscheme, buildBuiltin, hm]
  dsimp only
  rw [Load.run_bind_of_ok (Load.run_get s)]
  exact ⟨_, Load.run_bind_of_ok (Load.run_log _ _) _⟩

end Builder

namespace Resolver

open Url

variable {r : Resolver} {name specifier : String} {referrer : Option Url} {url : Url}

/-- The specifier of a builtin module leads to the URL of its name, whatever imports it. -/
theorem resolve_of_builtin (h : r.builtinName? specifier = some name) (hspecifier : specifier ≠ "") :
    r.resolve specifier referrer = .ok url ↔ Url.parse (Builtin.scheme ++ ":" ++ name) = .ok url := by
  rw [resolve_eq_ok_iff, target_of_builtin h, parse_eq_ok_iff]
  refine ⟨fun h => h.2.1, fun hurl => ⟨hspecifier, hurl, ?_⟩⟩
  rw [Builtin.parse_eq] at hurl
  rw [absoluteUrl_scheme hurl]
  decide

theorem builtinName?_append (r : Resolver) (name : String) :
    r.builtinName? (Builtin.scheme ++ ":" ++ name) = some name := by
  rw [builtinName?, Registry.moduleName?_eq_some_iff.2 rfl]

/-- The name of a registered module names it, unless it reads as another name behind `std:`. -/
theorem builtinName?_of_get? {m : Builtin} (hm : r.builtins.get? name = some m)
    (hbare : Registry.moduleName? name = none) : r.builtinName? name = some name := by
  have hcontains : r.builtins.contains name = true := congrArg Option.isSome hm
  rw [builtinName?, hbare]
  exact if_pos hcontains

theorem append_ne_empty (name : String) : Builtin.scheme ++ ":" ++ name ≠ "" := by
  simp [← String.toList_inj, Builtin.scheme]

/-- A name that has `std:` in front is too long to come out of the URL of what is behind. -/
theorem path_ne_of_behind (h : Url.parse (Builtin.scheme ++ ":" ++ name) = .ok url) :
    url.path.toString ≠ Builtin.scheme ++ ":" ++ name := by
  intro hpath
  rw [Builtin.parse_eq] at h
  have hlist : url.path.toString.toList = 's' :: ("td:".toList ++ name.toList) := by
    rw [hpath]
    simp [Builtin.scheme]
  have hsublist := Parts.front_of_sublist name.toList
  obtain ⟨hfront, -⟩ := front_of_path (by decide) h hlist (by decide) fun d hd =>
    List.mem_cons_of_mem _ (List.mem_append_right _ (hsublist.subset hd))
  have hlength := hsublist.length_le
  rw [hfront] at hlength
  simp at hlength
  omega

/-- **Builtin modules can be had under plain names only.**  If the name of a module comes out of a URL as it went in,
then the name behind `std:` leads to one URL, from any module and with any import map, and so does the name alone unless
it starts with `std:` itself, and at that URL the module is built.  For any other name, neither the name nor the name
behind `std:` leads to a URL of that name. -/
theorem import_builtin (r : Resolver) {name : String} {m : Builtin} (hname : name ≠ "")
    (hm : r.builtins.get? name = some m) :
    (Builtin.isPlainName name = true →
      ∃ url, (∀ referrer, r.resolve (Builtin.scheme ++ ":" ++ name) referrer = .ok url) ∧
        (Registry.moduleName? name = none → ∀ referrer, r.resolve name referrer = .ok url) ∧
        ∀ b : Builder, b.builtins = r.builtins → b.Builds url m) ∧
      (∀ referrer url, r.resolve (Builtin.scheme ++ ":" ++ name) referrer = .ok url → Builder.builtinName url = name →
        Builtin.isPlainName name = true) ∧
      ∀ referrer url, r.resolve name referrer = .ok url → Builder.builtinName url = name →
        Builtin.isPlainName name = true ∧ Registry.moduleName? name = none := by
  have hbehind (referrer : Option Url) (url : Url) : r.resolve (Builtin.scheme ++ ":" ++ name) referrer = .ok url ↔
      Url.parse (Builtin.scheme ++ ":" ++ name) = .ok url :=
    resolve_of_builtin (r.builtinName?_append name) (append_ne_empty name)
  refine ⟨fun hplain => ?_, fun referrer url hurl hpath => ?_, fun referrer url hurl hpath => ?_⟩
  · obtain ⟨url, hurl, hpath⟩ := (Builtin.exists_url_iff hname).2 hplain
    refine ⟨url, fun referrer => (hbehind referrer url).2 hurl, fun hbare referrer => ?_, fun b hb => ?_⟩
    · exact (resolve_of_builtin (builtinName?_of_get? hm hbare) hname).2 hurl
    · have hscheme : url.scheme = Builtin.scheme := absoluteUrl_scheme (Builtin.parse_eq name ▸ hurl)
      exact Builder.builds_of_get? hscheme (by rwa [hb, Builder.builtinName, hpath])
  · exact (Builtin.exists_url_iff hname).1 ⟨url, (hbehind referrer url).1 hurl, hpath⟩
  · cases hbare : Registry.moduleName? name with
    | none =>
      have hurl := (resolve_of_builtin (builtinName?_of_get? hm hbare) hname).1 hurl
      exact ⟨(Builtin.exists_url_iff hname).1 ⟨url, hurl, hpath⟩, rfl⟩
    | some behind =>
      obtain rfl := Registry.moduleName?_eq_some_iff.1 hbare
      have hurl := (resolve_of_builtin (r.builtinName?_append behind) hname).1 hurl
      exact absurd hpath (path_ne_of_behind hurl)

/-- Resolves names of builtin modules in front of a base. -/
def withBuiltins (builtins : Registry) : Resolver :=
  ⟨"https://cdn.example/", [], builtins, ⟨"file", some .none, .segments ["work", ""], none, none⟩⟩

/-- A name with a colon in it is plain. -/
theorem import_builtin_colon :
    let m := Builtin.ofExports "node:fs" []
    let r := withBuiltins (Registry.default.register m)
    "node:fs" ≠ "" ∧ r.builtins.get? "node:fs" = some m ∧
      ∃ url, (∀ referrer, r.resolve "std:node:fs" referrer = .ok url) ∧
        (∀ referrer, r.resolve "node:fs" referrer = .ok url) ∧
        ∀ b : Builder, b.builtins = r.builtins → b.Builds url m := by
  intro m r
  have hname : "node:fs" ≠ "" := by decide
  have hm : r.builtins.get? "node:fs" = some m := (Registry.get?_register ..).trans (if_pos rfl)
  obtain ⟨url, hbehind, halone, hbuilds⟩ := (import_builtin r hname hm).1 (by decide)
  exact ⟨hname, hm, url, hbehind, halone (by decide), hbuilds⟩

/-- A name with a question mark in it leads to the module whose name is in front of the question mark. -/
theorem other_builtin :
    let asked := Builtin.ofExports "a?b" []
    let other := Builtin.ofExports "a" []
    let r := withBuiltins ((Registry.empty.register other).register asked)
    r.builtins.get? "a?b" = some asked ∧ ∀ referrer, ∃ url, r.resolve "a?b" referrer = .ok url ∧
      ∀ b : Builder, b.builtins = r.builtins → b.Builds url other ∧ ¬ b.Builds url asked := by
  intro asked other r
  have hasked : r.builtins.get? "a?b" = some asked := (Registry.get?_register ..).trans (if_pos rfl)
  have hother : r.builtins.get? "a" = some other :=
    (Registry.get?_register ..).trans <| (if_neg (by decide)).trans <|
      (Registry.get?_register ..).trans (if_pos rfl)
  let url : Url := ⟨"std", none, .text "a", some "b", none⟩
  have hurl : Url.parse "std:a?b" = .ok url := by decide
  refine ⟨hasked, fun referrer => ⟨url, ?_, fun b hb => ?_⟩⟩
  · exact (resolve_of_builtin (builtinName?_of_get? hasked (by decide)) (by decide)).2 hurl
  · have hbuilds : b.Builds url other := Builder.builds_of_get? rfl (by rw [hb]; exact hother)
    refine ⟨hbuilds, fun hwrong => ?_⟩
    let s : Session := ⟨⟨.empty, [], [], [], 0⟩, .empty ⟨none, "/tmp", none, [], 1, "linux", "x64"⟩⟩
    obtain ⟨_, hrun⟩ := hbuilds 0 s
    obtain ⟨_, hrun'⟩ := hwrong 0 s
    have hmodule : Module.ofBuiltin url other s.scripts 0 = .ofBuiltin url asked s.scripts 0 :=
      Except.ok.inj (congrArg Prod.fst (hrun.symm.trans hrun'))
    injection hmodule with _ _ hkind
    injection hkind with hsame
    exact absurd (congrArg Builtin.name hsame) (by decide)

end Resolver
end ScriptImport
