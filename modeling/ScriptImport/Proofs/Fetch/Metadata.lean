/-
# Metadata are read back

The validators of a response are a dictionary in order, whatever its headers (`ordered_validators`), and
so are validators that others go over.  Metadata with headers in order and a time that a word of 64 bits
holds are read back from their JSON form as they were (`parse_text`), and so are metadata that were written to
a file (`read_saved`).
-/

import ScriptImport.Fetch.Cache
import ScriptImport.Proofs.Dict
import ScriptImport.Proofs.Files
import ScriptImport.Proofs.Json.Members

namespace ScriptImport
namespace Metadata

open Json Json.Reader

/-- Metadata that can be kept: the headers are in order, and the time fits into 64 bits. -/
structure Storable (m : Metadata) : Prop where
  headers : Dict.Ordered m.headers
  cachedAt : m.cachedAt ≤ maxSignificand

theorem ordered_validators (headers : Dict String) : Dict.Ordered (validators headers) :=
  Dict.ordered_ofEntries _

/-- A validator is the value of a header with its name. -/
theorem mem_of_get?_validators {headers : Dict String} {name value : String}
    (h : Dict.get? (validators headers) name = some value) :
    ∃ x ∈ headers, lowerAscii x.1 = name ∧ x.2 = value := by
  have hnil : Dict.get? ([] : Dict String) name = none := rfl
  rw [validators, Dict.ofEntries, Dict.get?_insertAll, hnil, Option.or_none, Option.map_eq_some_iff] at h
  obtain ⟨x, hx, rfl⟩ := h
  have hname : x.1 = name := by simpa using List.find?_some hx
  obtain ⟨y, hy, rfl⟩ := List.mem_map.1 (List.mem_filter.1 (List.mem_reverse.1 (List.mem_of_find?_eq_some hx))).1
  exact ⟨y, hy, hname, rfl⟩

theorem storable_new (url file : String) (headers : Dict String) {now : Nat} (h : now ≤ maxSignificand) :
    (new url file headers now).Storable := ⟨ordered_validators headers, h⟩

theorem Storable.refreshed {m : Metadata} (hm : m.Storable) (headers : Dict String) {now : Nat}
    (h : now ≤ maxSignificand) : (m.refreshed headers now).Storable :=
  ⟨hm.headers.insertAll _, h⟩

/-- The validators that confirm metadata go over the old ones. -/
theorem get?_refreshed (m : Metadata) (headers : Dict String) (now : Nat) (name : String) :
    Dict.get? (m.refreshed headers now).headers name
      = (Dict.get? (validators headers) name).or (Dict.get? m.headers name) :=
  Dict.get?_insertAll_of_ordered _ (ordered_validators headers) name

/-- The headers are read back. -/
theorem reads_texts {d : Dict String} (h : Dict.Ordered d) (rest : List Char) :
    Reads texts (Json.object (Dict.mapValues Json.string d)).compact d rest := by
  let print (s : String) : List Char := quoted s.toList
  have hcompact : (Json.object (Dict.mapValues Json.string d)).compact
      = '\x7b' :: (membersText print true d ++ ['\x7d']) := by
    rw [compact, compactMembers_eq, membersText_mapValues]
    simp only [compact, List.cons_append, print]
  have hbudget : d.length < (membersText print true d ++ ['\x7d'] ++ rest).length := by
    have := length_le_length_membersText print true d
    simp only [List.length_append, List.length_cons]
    omega
  have hmembers : Reads (members (Json.Reader.text "a string") true _) (membersText print true d) d ('\x7d' :: rest) :=
    reads_members print (fun m _ rest _ => reads_text "a string" m.2 rest) rest true hbudget
  rw [hcompact]
  refine Reads.look (reads_peekPast (by decide)) ?_
  rw [if_pos rfl]
  refine (reads_skip '\x7b' _).take (Reads.look (reads_budget _) (hmembers.bind ?_))
  refine (reads_skip '\x7d' _).take ?_
  rw [h.ofEntries_eq]
  exact reads_pure d rest

/-- The fields as a record prints them. -/
def fieldsText (m : Metadata) : List Char :=
  lead true ++ (quoted "url".toList ++ ':' :: (quoted m.url.toList
    ++ (lead false ++ (quoted "file".toList ++ ':' :: (quoted m.file.toList
      ++ (lead false ++ (quoted "headers".toList ++ ':' ::
          ((Json.object (Dict.mapValues Json.string m.headers)).compact
        ++ (lead false ++ (quoted "cached_at".toList ++ ':' ::
          (Nat.toDigits 10 m.cachedAt ++ ['\x7d'])))))))))))

theorem text_eq (m : Metadata) : m.text = String.ofList ('\x7b' :: m.fieldsText) := by
  have hnumber : (Json.integer m.cachedAt).compact = Nat.toDigits 10 m.cachedAt := by
    simp [compact, Int.repr_eq_if, Nat.repr_eq_ofList_toDigits]
  simp only [text, fieldsText, lead, hnumber, List.append_assoc, List.cons_append, List.nil_append,
    if_pos, Bool.false_eq_true, if_false]

/-- The fields are read back one after the other. -/
theorem reads_fields {m : Metadata} (h : m.Storable) (budget : Nat) :
    Reads (Record.members fields true (budget + 5) ⟨none, none, none, none⟩) m.fieldsText
      ⟨some m.url, some m.file, some m.headers, some m.cachedAt⟩ [] := by
  have hend : EndsNumber ['\x7d'] := by simp [EndsNumber]
  refine Record.reads_field fields[0] rfl rfl ((reads_text "a string" m.url _).map _) ?_
  refine Record.reads_field fields[1] rfl rfl ((reads_text "path string" m.file _).map _) ?_
  refine Record.reads_field fields[2] rfl rfl ((reads_texts h.headers _).map _) ?_
  refine Record.reads_field fields[3] rfl rfl ((reads_natural h.cachedAt hend).map _) ?_
  exact Record.reads_end [] rfl

/-- **Metadata are read back.** -/
theorem parse_text {m : Metadata} (h : m.Storable) : parse m.text = .ok m := by
  have hbudget : 5 ≤ m.fieldsText.length := by
    have hname : 5 ≤ (quoted "headers".toList).length := by decide
    simp only [fieldsText, List.length_append, List.length_cons]
    omega
  have hread : Reads (Record.read "CacheMetadata" fields ⟨none, none, none, none⟩) ('\x7b' :: m.fieldsText)
      ⟨some m.url, some m.file, some m.headers, some m.cachedAt⟩ [] := by
    obtain ⟨n, hn⟩ := Nat.exists_eq_add_of_le' hbudget
    refine Reads.look (reads_peekPast (by decide)) ?_
    refine (reads_skip '\x7b' _).take (Reads.look (reads_budget _) ?_)
    rw [List.append_nil, hn]
    exact reads_fields h n
  rw [parse, text_eq, whole_eq hread]
  rfl

/-- **Metadata that are written to a file are read from it as they were,** whatever is written in the texts of the URL,
the path and the headers, and at any time that a word of 64 bits holds; so the cache finds them. -/
theorem read_saved (url file : String) (headers : List (String × String)) (cachedAt : UInt64) {f g : Files}
    {path : String} :
    let m : Metadata := ⟨url, file, .ofEntries headers, cachedAt.toNat⟩
    f.writeText path m.text = .ok g →
      (∃ saved, g.readText path = .ok saved ∧ parse saved = .ok m) ∧
        ∀ (c : Cache) (key : String), c.metadataPath key = path → c.metadata? g key = (some m, []) := by
  intro m hsave
  have hstorable : m.Storable := ⟨Dict.ordered_ofEntries headers, Nat.le_pred_of_lt cachedAt.toNat_lt⟩
  have hread : g.readText path = .ok m.text := Files.readText_of_writeText hsave
  refine ⟨⟨m.text, hread, parse_text hstorable⟩, fun c key hpath => ?_⟩
  rw [Cache.metadata?, hpath, hread]
  dsimp only
  rw [parse_text hstorable]

/-- Quotes, backslashes, control characters and characters beyond ASCII come back, and so does the last second. -/
theorem read_saved_escaped :
    let m : Metadata := ⟨"https://cdn.example/\"é\"", "/tmp/a\\b\n", .ofEntries [("\t", "😀"), ("etag", "W/\"\\\"")],
      UInt64.toNat 0xffffffffffffffff⟩
    let g := Files.empty.withFile ["m.json"] m.text.toUTF8
    Files.empty.writeText "/m.json" m.text = .ok g ∧ ∃ saved, g.readText "/m.json" = .ok saved ∧ parse saved = .ok m := by
  intro m g
  have hwritable : Files.empty.Writable "/m.json" ["m.json"] :=
    ⟨by decide +kernel, by simp [Files.entry?, Files.empty, Dict.get?], List.not_mem_nil⟩
  have hsave : Files.empty.writeText "/m.json" m.text = .ok g := Files.writeText_eq hwritable _
  exact ⟨hsave, (read_saved _ _ _ _ hsave).1⟩

end Metadata
end ScriptImport
