/-
# Resolved URLs are canonical

Whatever way a specifier is resolved in, the URL that comes out has a scheme that modules are loaded from, and its text
starts with this scheme.  Such a text is either the name of a builtin module behind `std:` or a location with a scheme of
its own, and both are read as they stand (`target_of_hasScheme`): the importing module, the base and the import map have
no say in it.  It is not the name of a builtin module alone, because no module of the default registry has a colon in its
name.  So a resolved URL is resolved to itself from everywhere if its text is read as this URL (`resolve_text`).
-/

import ScriptImport.Proofs.Dict
import ScriptImport.Proofs.Resolve.Steps

namespace ScriptImport

/-- No module that is always there has a colon in its name. -/
theorem Registry.contains_default {name : String} (h : ':' ∈ name.toList) : default.contains name = false := by
  have hnames : default.names = ["crypto", "os", "path", "process"] := by decide +kernel
  have hcolon : ∀ n ∈ default.names, ':' ∉ n.toList := by
    rw [hnames]
    decide
  rw [contains, Dict.contains, ← Bool.not_eq_true, ← Dict.mem_keys]
  exact fun hmem => hcolon name hmem h

namespace Url

/-- The text of a URL starts with its scheme. -/
theorem exists_text_eq (u : Url) : ∃ rest, u.text.toList = u.scheme.toList ++ ':' :: rest :=
  ⟨_, by simp only [text, String.toList_append, List.append_assoc]; rfl⟩

end Url

namespace Resolver

variable {r r' : Resolver} {specifier : String} {referrer : Option Url} {url : Url}

/-- The text of a URL with a scheme that modules are loaded from is recognized by its scheme. -/
theorem hasScheme_text (h : url.scheme ∈ schemes) : hasScheme url.text = true := by
  obtain ⟨rest, htext⟩ := url.exists_text_eq
  rw [hasScheme, htext, (isScheme_of_mem h).cut]
  rfl

/-- What starts with a scheme is read as it stands. -/
theorem target_of_hasScheme (hbuiltin : r.builtins.contains specifier = false) (h : hasScheme specifier = true)
    (referrer : Option Url) : r.target specifier referrer = parse specifier specifier := by
  cases hname : Registry.moduleName? specifier with
  | some name =>
    have hbehind : r.builtinName? specifier = some name := by rw [builtinName?, hname]
    rw [target_of_builtin hbehind, ← Registry.moduleName?_eq_some_iff.1 hname]
  | none =>
    have hnone : r.builtinName? specifier = none := by
      rw [builtinName?, hname]
      exact if_neg (by simp [hbuiltin])
    have hlocation : isLocation specifier = true := by rw [isLocation, h, Bool.or_true]
    unfold target
    rw [hnone]
    dsimp only
    rw [if_pos hlocation, locate, if_pos h]

/-- **Resolved URLs are canonical.**  What a specifier resolves to can be loaded, and with the default registry its text
resolves to it again, wherever it is imported from and whatever the base, the import map and the root are, if and only
if the text is read as this URL. -/
theorem resolve_text (hbuiltins : r'.builtins = .default) (h : r.resolve specifier referrer = .ok url) :
    url.scheme ∈ ["http", "https", "file", "std"] ∧
      ∀ referrer', r'.resolve url.text referrer' = .ok url ↔ Url.parse url.text = .ok url := by
  obtain ⟨-, -, hscheme⟩ := resolve_eq_ok_iff.1 h
  refine ⟨hscheme, fun referrer' => ?_⟩
  obtain ⟨rest, htext⟩ := url.exists_text_eq
  have hcolon : ':' ∈ url.text.toList := by
    rw [htext]
    exact List.mem_append_right _ (List.mem_cons_self ..)
  have hne : url.text ≠ "" := fun hempty => by
    rw [hempty] at hcolon
    exact absurd hcolon List.not_mem_nil
  have hbuiltin : r'.builtins.contains url.text = false := by
    rw [hbuiltins]
    exact Registry.contains_default hcolon
  rw [resolve_eq_ok_iff, target_of_hasScheme hbuiltin (hasScheme_text hscheme), parse_eq_ok_iff]
  exact ⟨fun hagain => hagain.2.1, fun hparse => ⟨hne, hparse, hscheme⟩⟩

/-- A resolver of the directory `work` with the default registry. -/
def withImports (base : String) (imports : ImportMap) : Resolver :=
  ⟨base, imports, .default, ⟨"file", some .none, .segments ["work", ""], none, none⟩⟩

/-- A name with a version resolves to a URL that another base and another version of the name do not change. -/
theorem resolve_text_version :
    let r := withImports "https://cdn.skypack.dev/" [("react", "18.2.0")]
    let r' := withImports "https://cdn.example/lib?" [("react", "./react.js")]
    let url : Url := ⟨"https", some ⟨"", none, "cdn.skypack.dev", none⟩, .segments ["react@18.2.0"], none, none⟩
    r'.builtins = .default ∧ r.resolve "react" none = .ok url ∧ Url.parse url.text = .ok url ∧
      url.scheme ∈ ["http", "https", "file", "std"] ∧ ∀ referrer', r'.resolve url.text referrer' = .ok url := by
  intro r r' url
  have hbuiltins : r'.builtins = .default := rfl
  have hurl : r.resolve "react" none = .ok url := by decide +kernel
  have hparse : Url.parse url.text = .ok url := by decide +kernel
  obtain ⟨hscheme, htext⟩ := resolve_text hbuiltins hurl
  exact ⟨hbuiltins, hurl, hparse, hscheme, fun referrer' => (htext referrer').2 hparse⟩

/-- The text of a URL can be read as another URL: the empty segment in front of a drive letter is not written, and what
has a drive letter in front has no host. -/
example :
    let url : Url := ⟨"file", some ⟨"", none, "h", none⟩, .segments ["C|"], none, none⟩
    Url.parse "file://h//C|" = .ok url ∧ url.text = "file://h/C|" ∧
      Url.parse url.text = .ok ⟨"file", some .none, .segments ["C:"], none, none⟩ := by
  decide +kernel

end Resolver
end ScriptImport
