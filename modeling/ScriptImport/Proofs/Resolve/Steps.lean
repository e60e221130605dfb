/-
# The ways in which a specifier is resolved

A specifier that is resolved leads to a URL with a scheme that modules are loaded from (`Resolver.resolve_eq_ok_iff`),
and which way leads there depends on the specifier: `target_of_builtin` for the names of builtin modules, and
`target_of_name` for names that are put behind the base.
-/

import Mathlib.Data.String.Basic
import ScriptImport.Proofs.Url.Read
import ScriptImport.Resolve

namespace ScriptImport

/-- A specifier names a builtin module behind the scheme. -/
theorem Registry.moduleName?_eq_some_iff {specifier name : String} : moduleName? specifier = some name ↔
    specifier = Builtin.scheme ++ ":" ++ name := by
  have htext : (Builtin.scheme ++ ":" ++ name).toList = (Builtin.scheme ++ ":").toList ++ name.toList :=
    String.toList_append
  have hsame : specifier = Builtin.scheme ++ ":" ++ name ↔ specifier.toList = (Builtin.scheme ++ ":" ++ name).toList :=
    String.toList_inj.symm
  rw [moduleName?, Option.map_eq_some_iff, hsame, htext]
  constructor
  · rintro ⟨cs, hcs, rfl⟩
    rw [String.toList_ofList, List.isPrefixOf?_eq_some_iff_append_eq.1 hcs]
  · intro h
    exact ⟨name.toList, List.isPrefixOf?_eq_some_iff_append_eq.2 h.symm, String.ofList_toList⟩

namespace Resolver

variable {r : Resolver} {specifier name : String} {referrer : Option Url} {url : Url}

/-- The schemes that modules are loaded from are schemes that a URL can have. -/
theorem isScheme_of_mem {scheme : String} (h : scheme ∈ schemes) : Url.IsScheme scheme.toList := by
  have hfirst : ∀ s ∈ schemes, s.toList.head?.any Char.isAlpha = true := by decide
  have hchars : ∀ s ∈ schemes, s.toList.all Url.isSchemeChar = true := by decide
  obtain ⟨c, hhead, hc⟩ := (Option.any_eq_true ..).1 (hfirst scheme h)
  obtain ⟨cs, hcs⟩ := List.head?_eq_some_iff.1 hhead
  exact ⟨⟨c, cs, hcs, hc⟩, List.all_eq_true.1 (hchars scheme h)⟩

theorem resolve_eq_ok_iff : r.resolve specifier referrer = .ok url ↔
    specifier ≠ "" ∧ r.target specifier referrer = .ok url ∧ url.scheme ∈ schemes := by
  rw [resolve]
  by_cases hempty : specifier = ""
  · rw [if_pos hempty]
    exact ⟨nofun, fun h => absurd hempty h.1⟩
  rw [if_neg hempty]
  cases r.target specifier referrer with
  | error e => exact ⟨nofun, fun h => nomatch h.2.1⟩
  | ok u =>
    change (if u.scheme ∈ schemes then Except.ok u else Except.error (ResolveError.scheme u)) = Except.ok url ↔ _
    split
    · next hscheme => exact ⟨fun h => ⟨hempty, h, Except.ok.inj h ▸ hscheme⟩, fun h => h.2.1⟩
    · next hscheme => exact ⟨nofun, fun h => absurd (Except.ok.inj h.2.1 ▸ h.2.2) hscheme⟩

theorem parse_eq_ok_iff {text : String} : parse specifier text = .ok url ↔ Url.parse text = .ok url := by
  rw [parse]
  cases Url.parse text with
  | error fault => exact ⟨nofun, nofun⟩
  | ok u => exact ⟨fun h => congrArg Except.ok (Except.ok.inj h), fun h => congrArg Except.ok (Except.ok.inj h)⟩

theorem target_of_builtin (h : r.builtinName? specifier = some name) :
    r.target specifier referrer = parse specifier (Builtin.scheme ++ ":" ++ name) := by
  unfold target
  rw [h]

/-- A name that no map changes is put behind the base at top level. -/
theorem target_of_unmapped (hbuiltin : r.builtinName? specifier = none) (hlocation : isLocation specifier = false)
    (hmapped : Dict.get? r.imports specifier = none) :
    r.target specifier none = parse specifier (r.base ++ specifier) := by
  unfold target
  rw [hbuiltin]
  dsimp only
  rw [if_neg (by simp [hlocation]), hmapped]

/-- A name with a version is put behind the base, wherever it is used. -/
theorem target_of_version {version : String} (hbuiltin : r.builtinName? specifier = none)
    (hlocation : isLocation specifier = false) (hmapped : Dict.get? r.imports specifier = some version)
    (hversion : isLocation version = false) :
    r.target specifier referrer = parse specifier (r.base ++ specifier ++ "@" ++ version) := by
  unfold target
  rw [hbuiltin]
  dsimp only
  rw [if_neg (by simp [hlocation]), hmapped]
  exact if_neg (by simp [hversion])

end Resolver
end ScriptImport
