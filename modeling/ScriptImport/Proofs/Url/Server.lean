/-
# The server of a URL

The server is behind two slashes and in front of the next one, but for special schemes, where the slashes in front may
be more or fewer.  Hence references that agree up to that slash have the same server (`withServer_server_eq`,
`cutServer_append`), and a query or fragment never changes it (`absoluteUrl_server_eq`).  A file is the exception: the
path behind its server may start with a drive letter, and then the server is left out.  Only a file without a host
cannot lose it (`server_fileUrl`).
-/

import ScriptImport.Proofs.Url.Segments

namespace ScriptImport
namespace Url

variable {cs : List Char} {kind : SchemeKind} {scheme : String} {p p' : Parts} {u u' : Url}

/-- What is in front of the first slash. -/
def serverText (kind : SchemeKind) (cs : List Char) : List Char := cs.takeWhile (! isSlash kind.isSpecial ·)

theorem cutServer_eq (kind : SchemeKind) (cs : List Char) : cutServer kind cs =
    match (cutPort false (cutUser (serverText kind cs)).2).2 with
    | some port =>
      ((serverText kind cs).take ((serverText kind cs).length - (port.dropWhile (· ≠ '\\')).length),
        port.dropWhile (· ≠ '\\') ++ cs.dropWhile (! isSlash kind.isSpecial ·))
    | none => (serverText kind cs, cs.dropWhile (! isSlash kind.isSpecial ·)) := by
  unfold cutServer serverText
  dsimp only
  rcases hport : cutPort false (cutUser (cs.takeWhile (! isSlash kind.isSpecial ·))).2 with ⟨host, port | port⟩ <;> rfl

theorem suffix_of_cutPort {inBrackets : Bool} {port : List Char} (h : (cutPort inBrackets cs).2 = some port) :
    port <:+ cs := by
  induction cs generalizing inBrackets with
  | nil => cases h
  | cons c cs ih =>
    rw [cutPort] at h
    split at h
    · exact Option.some.inj h ▸ List.suffix_cons c cs
    · exact (ih h).trans (List.suffix_cons c cs)

theorem cutUser_suffix (cs : List Char) : (cutUser cs).2 <:+ cs := by
  unfold cutUser
  dsimp only
  split
  · exact List.suffix_refl cs
  · exact List.reverse_prefix.1 (by simpa using List.takeWhile_prefix _)

/-- The path is at the end of what is read. -/
theorem cutServer_suffix (kind : SchemeKind) (cs : List Char) : (cutServer kind cs).2 <:+ cs := by
  have hcs : serverText kind cs ++ cs.dropWhile (! isSlash kind.isSpecial ·) = cs := List.takeWhile_append_dropWhile
  rw [cutServer_eq]
  split
  · next port hport =>
    obtain ⟨front, hfront⟩ := (List.dropWhile_suffix (· ≠ '\\')).trans
      ((suffix_of_cutPort hport).trans (cutUser_suffix (serverText kind cs)))
    exact ⟨front, by rw [← List.append_assoc, hfront, hcs]⟩
  · exact List.dropWhile_suffix _

theorem withServer_eq_ok (h : withServer scheme p cs = .ok u) :
    ∃ s followed, readServer (.of scheme) (cutServer (.of scheme) cs).1 followed = .ok s ∧
      u = p.url scheme (some s) (rootPath (.of scheme) (cutServer (.of scheme) cs).2) := by
  rcases hcut : cutServer (.of scheme) cs with ⟨server, path⟩
  rw [withServer, hcut] at h
  dsimp only at h
  cases hread : readServer (.of scheme) server (path ≠ [] ∨ p.query.isSome ∨ p.fragment.isSome) with
  | error fault =>
    rw [hread] at h
    cases h
  | ok s =>
    rw [hread] at h
    cases h
    exact ⟨s, _, hread, rfl⟩

theorem head_rootPath {c : Char} (h : (rootPath kind cs).toString.toList.head? = some c) : c = '/' := by
  cases cs <;> exact head_pathText (toList_segments _ ▸ h)

theorem rootPath_written (cs : List Char) : ∀ c ∈ (rootPath .other cs).toString.toList, isWritten c = true := by
  cases cs with
  | nil => exact nofun
  | cons c cs =>
    rw [rootPath, toList_segments]
    exact follow_other_written _

theorem length_rootPath_le (hwritten : ∀ c ∈ cs, isWritten c = true) :
    (rootPath .other cs).toString.toList.length ≤ cs.length + 1 := by
  cases cs with
  | nil => simp [rootPath, SchemeKind.isSpecial, toList_segments, pathText]
  | cons c cs =>
    rw [rootPath, toList_segments]
    split
    · have := length_follow_other_le fun d hd => hwritten d (List.mem_cons_of_mem c hd)
      rw [List.length_cons]
      omega
    · exact (Nat.le_add_right ..).trans (length_follow_other_le hwritten)

/-- The path behind a server is hardly longer than what is read. -/
theorem length_withServer_le (hkind : SchemeKind.of scheme = .other)
    (hwritten : ∀ c ∈ cs, isWritten c = true) (h : withServer scheme p cs = .ok u) :
    u.path.toString.toList.length ≤ cs.length + 1 := by
  obtain ⟨s, followed, -, rfl⟩ := withServer_eq_ok h
  have hsuffix := cutServer_suffix (.of scheme) cs
  rw [hkind] at hsuffix
  have hlength := length_rootPath_le fun c hc => hwritten c (hsuffix.subset hc)
  have := hsuffix.length_le
  rw [Parts.url, hkind]
  dsimp only
  omega

/-! ### The server of a text that goes on -/

theorem readServer_followed {followed followed' : Bool} {s s' : Server} (h : readServer kind cs followed = .ok s)
    (h' : readServer kind cs followed' = .ok s') : s = s' := by
  have hfalse {followed : Bool} {s : Server} (h : readServer kind cs followed = .ok s) :
      readServer kind cs false = .ok s := by
    unfold readServer at h ⊢
    rcases hcut : cutUser cs with ⟨asking, rest⟩
    rw [hcut] at h
    dsimp only at h ⊢
    by_cases hthrow : asking = some [] ∧ rest = [] ∧ followed = true
    · rw [if_pos hthrow] at h
      cases h
    · rw [if_neg hthrow] at h
      rw [if_neg (by simp)]
      exact h
  exact Except.ok.inj ((hfalse h).symm.trans (hfalse h'))

/-- A server ends at the first slash. -/
theorem cutServer_append (kind : SchemeKind) {c : Char} {server : List Char}
    (hserver : ∀ d ∈ server, isSlash kind.isSpecial d = false) (hc : isSlash kind.isSpecial c = true)
    (rest : List Char) : (cutServer kind (server ++ c :: rest)).1 = (cutServer kind server).1 := by
  have htext (rest : List Char) (hrest : ∀ c ∈ rest.head?, isSlash kind.isSpecial c = true) :
      serverText kind (server ++ rest) = server := by
    rw [serverText, List.takeWhile_append_of_pos (by simpa using hserver)]
    cases rest with
    | nil => simp
    | cons c rest => simp [hrest c rfl]
  have hself := htext [] nofun
  have hcons := htext (c :: rest) (by simp [hc])
  rw [List.append_nil] at hself
  rw [cutServer_eq, cutServer_eq, hself, hcons]
  split <;> rfl

/-- References with one text in front of the path have one server. -/
theorem withServer_server_eq {cs' : List Char} (h : withServer scheme p cs = .ok u)
    (h' : withServer scheme p' cs' = .ok u') (hcut : (cutServer (.of scheme) cs).1 = (cutServer (.of scheme) cs').1) :
    u.server = u'.server := by
  obtain ⟨s, followed, hread, rfl⟩ := withServer_eq_ok h
  obtain ⟨s', followed', hread', rfl⟩ := withServer_eq_ok h'
  rw [← hcut] at hread'
  exact congrArg some (readServer_followed hread hread')

/-! ### Files -/

/-- Hosts of files that are not there: no text, a drive letter, or the machine itself. -/
def isNoHost (host : List Char) : Bool :=
  host.isEmpty || (driveForm? host).isSome || (readHost true host).toOption = some "localhost"

/-- A file has no host if none is named behind two slashes. -/
theorem server_fileUrl (h : fileUrl none p = .ok u)
    (hhost : ∀ c d rest, p.front = c :: d :: rest → isSlash true c = true → isSlash true d = true →
      isNoHost (rest.takeWhile (! isSlash true ·)) = true) : u.server = some .none := by
  unfold fileUrl at h
  dsimp only at h
  split at h
  · next h' => cases h'
  · cases h
    rfl
  · next c rest hfront =>
    split at h
    · next hc =>
      cases rest with
      | nil =>
        cases h
        rfl
      | cons d rest =>
        cases hd : isSlash true d with
        | false =>
          rw [List.head?_cons, Option.filter_some_neg (by simp [hd])] at h
          cases h
          rfl
        | true =>
          rw [List.head?_cons, Option.filter_some_pos hd] at h
          have hnone := hhost c d rest hfront hc hd
          have hdrop : (d :: rest).drop 1 = rest := rfl
          rw [hdrop] at h
          dsimp only at h
          split at h
          · cases h
            rfl
          · next hnamed =>
            cases hread : readHost true (rest.takeWhile (! isSlash true ·)) with
            | error fault =>
              rw [hread] at h
              cases h
            | ok name =>
              have hname : name = "localhost" := by
                obtain ⟨hempty, hdrive⟩ := not_or.1 hnamed
                rw [isNoHost, hread, List.isEmpty_eq_false_iff.2 hempty, Bool.eq_false_iff.2 hdrive] at hnone
                simpa [Except.toOption] using hnone
              rw [hread, hname] at h
              cases h
              rfl
    · cases h
      rfl

/-- Without its query and fragment, a reference to a file names a file of the same server. -/
theorem fileUrl_raw (p : Parts) : fileUrl none p =
    (fileUrl none ⟨p.raw, none, none⟩).map fun u => p.url "file" u.server u.path := by
  unfold fileUrl
  dsimp only [Parts.front]
  split
  · next h => cases h
  · rfl
  · next c rest _ =>
    cases isSlash true c with
    | false => rfl
    | true =>
      cases rest.head?.filter (isSlash true) with
      | none => rfl
      | some d =>
        dsimp only
        by_cases hnone : (rest.drop 1).takeWhile (! isSlash true ·) = [] ∨
            (driveForm? ((rest.drop 1).takeWhile (! isSlash true ·))).isSome = true
        · rw [if_pos hnone, if_pos hnone]
          rfl
        · rw [if_neg hnone, if_neg hnone]
          cases readHost true ((rest.drop 1).takeWhile (! isSlash true ·)) with
          | error fault => rfl
          | ok name =>
            by_cases hname : name = "localhost"
            · subst hname
              rfl
            · simp only [if_true, bind, Except.bind, if_neg hname]
              rfl

theorem fileUrl_eq_ok (h : fileUrl none p = .ok u) :
    ∃ file, fileUrl none ⟨p.raw, none, none⟩ = .ok file ∧ u = p.url "file" file.server file.path := by
  rw [fileUrl_raw] at h
  cases hfile : fileUrl none ⟨p.raw, none, none⟩ with
  | error fault =>
    rw [hfile] at h
    cases h
  | ok file =>
    rw [hfile] at h
    cases h
    exact ⟨file, rfl, rfl⟩

/-! ### References with a scheme -/

theorem SchemeKind.eq_of_file (h : SchemeKind.of scheme = .file) : scheme = "file" := by
  unfold SchemeKind.of at h
  split_ifs at h with hfile
  exact hfile

theorem absoluteUrl_file (hkind : SchemeKind.of scheme = .file) (p : Parts) :
    absoluteUrl none scheme p = fileUrl none p := by
  rw [absoluteUrl, hkind]
  rfl

theorem absoluteUrl_special {port : Nat} (hkind : SchemeKind.of scheme = .special port) (p : Parts) :
    absoluteUrl none scheme p = withServer scheme p (p.front.dropWhile (isSlash true)) := by
  have hdrop : p.front.drop (p.front.takeWhile (isSlash true)).length = p.front.dropWhile (isSlash true) := by
    have hfront := List.takeWhile_append_dropWhile (p := isSlash true) (l := p.front)
    exact (congrArg (List.drop _) hfront.symm).trans List.drop_left
  rw [absoluteUrl, hkind]
  exact congrArg (withServer scheme p) hdrop

theorem absoluteUrl_other (hkind : SchemeKind.of scheme = .other) (p : Parts) :
    absoluteUrl none scheme p = match p.front with
      | '/' :: '/' :: rest => withServer scheme p rest
      | '/' :: rest => .ok (p.url scheme none (.segments (follow .other [] rest)))
      | front => .ok (p.url scheme none (.text (String.ofList (escape escapedAlways front)))) := by
  unfold absoluteUrl
  generalize SchemeKind.of scheme = kind at hkind ⊢
  subst hkind
  rfl

theorem server_of_other (hkind : SchemeKind.of scheme = .other) (h : absoluteUrl none scheme p = .ok u)
    (hslash : ∀ rest, p.front ≠ '/' :: '/' :: rest) : u.server = none := by
  rw [absoluteUrl_other hkind] at h
  split at h
  · next rest hrest => exact absurd hrest (hslash rest)
  · cases h
    rfl
  · cases h
    rfl

/-- The scheme of a reference is the scheme of its URL. -/
theorem absoluteUrl_scheme (h : absoluteUrl none scheme p = .ok u) : u.scheme = scheme := by
  cases hkind : SchemeKind.of scheme with
  | file =>
    rw [absoluteUrl_file hkind] at h
    obtain ⟨file, -, rfl⟩ := fileUrl_eq_ok h
    exact (SchemeKind.eq_of_file hkind).symm
  | special port =>
    rw [absoluteUrl_special hkind] at h
    obtain ⟨s, followed, -, rfl⟩ := withServer_eq_ok h
    rfl
  | other =>
    rw [absoluteUrl_other hkind] at h
    split at h
    · obtain ⟨s, followed, -, rfl⟩ := withServer_eq_ok h
      rfl
    · cases h
      rfl
    · cases h
      rfl

/-- **A query or fragment does not change the server.** -/
theorem absoluteUrl_server_eq (hraw : p.raw = p'.raw) (h : absoluteUrl none scheme p = .ok u)
    (h' : absoluteUrl none scheme p' = .ok u') : u.server = u'.server := by
  have hfront : p.front = p'.front := congrArg plain hraw
  cases hkind : SchemeKind.of scheme with
  | file =>
    rw [absoluteUrl_file hkind] at h h'
    obtain ⟨file, hfile, rfl⟩ := fileUrl_eq_ok h
    obtain ⟨file', hfile', rfl⟩ := fileUrl_eq_ok h'
    rw [hraw] at hfile
    obtain rfl := Except.ok.inj (hfile.symm.trans hfile')
    rfl
  | special port =>
    rw [absoluteUrl_special hkind] at h h'
    exact withServer_server_eq h h' (by rw [hfront])
  | other =>
    by_cases hslash : ∃ rest, p.front = '/' :: '/' :: rest
    · obtain ⟨rest, hrest⟩ := hslash
      rw [absoluteUrl_other hkind, hrest] at h
      rw [absoluteUrl_other hkind, ← hfront, hrest] at h'
      exact withServer_server_eq h h' rfl
    · rw [not_exists] at hslash
      exact (server_of_other hkind h hslash).trans (server_of_other hkind h' (hfront ▸ hslash)).symm

end Url
end ScriptImport
