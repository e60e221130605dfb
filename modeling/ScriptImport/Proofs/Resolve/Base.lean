/-
# Names behind the base

A name that is no builtin module, no location and is not mapped to one is put behind the base (`Resolver.IsBare`), and
the base and the name are read as one text.  The scheme is the one of the base, whatever the name is.  The server is
the one of the base if the base goes on behind it (`Url.goesOn`), as a base with a slash behind its host does
(`Loader.resolve_bare`).  To a base that ends with its host a name can give another one (`Url.server_fixed_iff`).
-/

import ScriptImport.Loader
import ScriptImport.Proofs.Resolve.Steps
import ScriptImport.Proofs.Url.Appended

namespace ScriptImport

/-- Settings are valid if the base and what imports at top level are relative to are URLs. -/
theorem Config.validate_eq_ok_iff {c : Config} {host : Host} : c.validate host = .ok () ↔
    (∃ base, Url.parse c.baseUrl = .ok base) ∧ ∃ root, c.root host = .ok root := by
  rw [validate]
  cases Url.parse c.baseUrl with
  | error fault => exact ⟨nofun, fun ⟨⟨_, h⟩, _⟩ => nomatch h⟩
  | ok base =>
    cases c.root host with
    | error e => exact ⟨nofun, fun ⟨_, _, h⟩ => nomatch h⟩
    | ok root => exact ⟨fun _ => ⟨⟨base, rfl⟩, root, rfl⟩, fun _ => rfl⟩

theorem Config.root_of_url {c : Config} {host : Host} {text : String} {u : Url} (htext : c.rootUrl = some text)
    (h : Url.parse text = .ok u) : c.root host = .ok u := by
  rw [root, htext]
  dsimp only
  rw [h]
  rfl

/-- Specifiers that are put behind the base: names of packages at top level, and with a version everywhere. -/
structure Resolver.IsBare (r : Resolver) (specifier : String) (referrer : Option Url) : Prop where
  builtin : r.builtinName? specifier = none
  location : isLocation specifier = false
  mapped : referrer = none ∧ Dict.get? r.imports specifier = none ∨
    ∃ version, Dict.get? r.imports specifier = some version ∧ isLocation version = false

theorem Resolver.IsBare.exists_target {r : Resolver} {specifier : String} {referrer : Option Url}
    (h : r.IsBare specifier referrer) : ∃ name, r.target specifier referrer = parse specifier (r.base ++ name) := by
  rcases h.mapped with ⟨rfl, hmapped⟩ | ⟨version, hmapped, hversion⟩
  · exact ⟨specifier, target_of_unmapped h.builtin h.location hmapped⟩
  · refine ⟨specifier ++ "@" ++ version, ?_⟩
    rw [target_of_version h.builtin h.location hmapped hversion]
    simp only [String.append_assoc]

namespace Loader

variable {l : Loader} {host : Host} {root url : Url} {specifier : String} {referrer : Option Url}

/-- **Names stay on the base.**  With settings that are valid, a name that is put behind the base leads to a URL with
the scheme of the base.  If the base goes on behind its server, the URL has the server of the base too: the host, the
port, the user and the password. -/
theorem resolve_bare (hvalid : l.config.validate host = .ok ()) (hbare : (l.resolver root).IsBare specifier referrer)
    (h : (l.resolver root).resolve specifier referrer = .ok url) :
    ∃ base, Url.parse l.config.baseUrl = .ok base ∧ url.scheme = base.scheme ∧
      (Url.goesOn l.config.baseUrl = true → url.server = base.server) := by
  obtain ⟨⟨base, hbase⟩, -⟩ := Config.validate_eq_ok_iff.1 hvalid
  obtain ⟨name, htarget⟩ := hbare.exists_target
  obtain ⟨-, hurl, -⟩ := Resolver.resolve_eq_ok_iff.1 h
  rw [htarget, Resolver.parse_eq_ok_iff] at hurl
  exact ⟨base, hbase, Url.parse_append hbase hurl⟩

/-- A loader of a machine that nothing else can be reached from. -/
def offline (baseUrl : String) (imports : ImportMap) : Loader where
  config := { Config.default with baseUrl, imports, rootUrl := some "file:///work/" }
  cache := ⟨"/cache"⟩
  transport := fun _ => .error "offline"
  builtins := .default

/-- The machine of the loader. -/
def machine : Host := ⟨none, "/tmp", some "/work", [], 1, "linux", "x64"⟩

/-- The directory that the loader starts from. -/
def work : Url := ⟨"file", some .none, .segments ["work", ""], none, none⟩

theorem valid_offline {baseUrl : String} {base : Url} (h : Url.parse baseUrl = .ok base) (imports : ImportMap) :
    (offline baseUrl imports).config.validate machine = .ok () := by
  have hwork : Url.parse "file:///work/" = .ok work := by decide +kernel
  exact Config.validate_eq_ok_iff.2 ⟨⟨base, h⟩, work, Config.root_of_url rfl hwork⟩

/-- A version behind a base that ends with a slash. -/
theorem resolve_bare_version :
    let l := offline "https://cdn.skypack.dev/" [("lodash", "4.17.21")]
    let url : Url := ⟨"https", some ⟨"", none, "cdn.skypack.dev", none⟩, .segments ["lodash@4.17.21"], none, none⟩
    l.config.validate machine = .ok () ∧ (l.resolver work).IsBare "lodash" none ∧
      (l.resolver work).resolve "lodash" none = .ok url ∧ Url.goesOn l.config.baseUrl = true ∧
      ∃ base, Url.parse l.config.baseUrl = .ok base ∧ url.scheme = base.scheme ∧ url.server = base.server := by
  intro l url
  have hbase : Url.parse "https://cdn.skypack.dev/" =
      .ok ⟨"https", some ⟨"", none, "cdn.skypack.dev", none⟩, .segments [""], none, none⟩ := by decide +kernel
  have hvalid : l.config.validate machine = .ok () := valid_offline hbase _
  have hbare : (l.resolver work).IsBare "lodash" none :=
    ⟨by decide +kernel, by decide +kernel, .inr ⟨"4.17.21", by decide +kernel, by decide +kernel⟩⟩
  have hurl : (l.resolver work).resolve "lodash" none = .ok url := by decide +kernel
  have hgoes : Url.goesOn l.config.baseUrl = true := by decide +kernel
  obtain ⟨base, hbase, hscheme, hserver⟩ := resolve_bare hvalid hbare hurl
  exact ⟨hvalid, hbare, hurl, hgoes, base, hbase, hscheme, hserver hgoes⟩

/-- A base that ends with its host does not keep the server: behind an `@` the name is a host, and the host of the base
is who asks. -/
theorem resolve_bare_host :
    let l := offline "https://cdn.example" []
    let base : Url := ⟨"https", some ⟨"", none, "cdn.example", none⟩, .segments [""], none, none⟩
    let url : Url := ⟨"https", some ⟨"cdn.example", none, "other.example", none⟩, .segments ["x"], none, none⟩
    l.config.validate machine = .ok () ∧ Url.parse l.config.baseUrl = .ok base ∧
      (l.resolver work).IsBare "@other.example/x" none ∧
      (l.resolver work).resolve "@other.example/x" none = .ok url ∧ url.server ≠ base.server := by
  intro l base url
  have hbase : Url.parse "https://cdn.example" = .ok base := by decide +kernel
  have hbare : (l.resolver work).IsBare "@other.example/x" none :=
    ⟨by decide +kernel, by decide +kernel, .inl ⟨rfl, by decide +kernel⟩⟩
  exact ⟨valid_offline hbase _, hbase, hbare, by decide +kernel, by decide +kernel⟩

end Loader
end ScriptImport
