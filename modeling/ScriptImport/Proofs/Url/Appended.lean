/-
# URLs with something added

What is added to the end of a URL can become part of its server: `https://cdn.example` and `@other.example` together
are `https://cdn.example@other.example`, whose host is `other.example`.  It cannot if the URL goes on behind its server
already (`goesOn`).  Then the URL with the addition, if it is one, has the same server, and it has the same scheme in
any case (`parse_append`).  Where there is always a host, as in web addresses, no other URLs keep their server
(`server_fixed_iff`): behind an `@` a letter is another host.
-/

import ScriptImport.Proofs.Url.Server

namespace ScriptImport
namespace Url

variable {rest cs : List Char} {c : Char} {kind : SchemeKind} {scheme : String}

/-! ### The front of a text with something added -/

/-- A character with a property, and none in front of it has it. -/
theorem exists_first {p : Char → Bool} (h : cs.any p = true) :
    ∃ as c bs, cs = as ++ c :: bs ∧ (∀ d ∈ as, p d = false) ∧ p c = true := by
  obtain ⟨c, hc⟩ := Option.isSome_iff_exists.1 (List.find?_isSome.2 (List.any_eq_true.1 h))
  obtain ⟨hp, as, bs, rfl, has⟩ := List.find?_eq_some_iff_append.1 hc
  exact ⟨as, c, bs, rfl, fun d hd => by simpa using has d hd, hp⟩

theorem takeWhile_not_append {p : Char → Bool} {as : List Char} (has : ∀ d ∈ as, p d = false) (hc : p c = true)
    (bs : List Char) : (as ++ c :: bs).takeWhile (! p ·) = as :=
  takeWhile_append_cons (by simpa using has) (by simp [hc]) bs

theorem isFront_of_isBreak (h : isBreak c = true) : isFront c = true := by
  simp only [isBreak, Bool.or_eq_true, decide_eq_true_eq] at h
  rcases h with (rfl | rfl) | rfl <;> decide

theorem isFront_of_plain (h : ∀ d ∈ plain rest, isFront d = true) : ∀ d ∈ rest, isFront d = true := by
  intro d hd
  cases hbreak : isBreak d with
  | true => exact isFront_of_isBreak hbreak
  | false => exact h d (List.mem_filter.2 ⟨hd, by simp [hbreak]⟩)

theorem isEnd_of_not_isFront (h : isFront c = false) : isEnd c = false := by
  simp only [isFront, ne_eq, decide_not, Bool.and_eq_false_iff, Bool.not_eq_false', decide_eq_true_eq] at h
  rcases h with rfl | rfl <;> decide

theorem isEnd_of_isSlash {special : Bool} (h : isSlash special c = true) : isEnd c = false := by
  simp only [isSlash, Bool.or_eq_true, Bool.and_eq_true, decide_eq_true_eq] at h
  rcases h with rfl | ⟨-, rfl⟩ <;> decide

/-- Behind a question mark or a hash, nothing is added to the front. -/
theorem Parts.raw_append (h : rest.any (! isFront ·) = true) (more : List Char) :
    (Parts.of ((rest ++ more).rdropWhile isEnd)).raw = rest.takeWhile isFront := by
  obtain ⟨front, c, after, rfl, hfront, hc⟩ := exists_first h
  rw [Bool.not_eq_true'] at hc
  have htake (after : List Char) : (front ++ c :: after).takeWhile isFront = front :=
    takeWhile_append_cons (by simpa using hfront) hc after
  rw [Parts.raw_of, List.append_assoc, List.cons_append, rdropWhile_append_cons (isEnd_of_not_isFront hc), htake, htake]

/-- What is in front of a character stays in front of it. -/
theorem Parts.front_append {as bs : List Char} (hrest : plain rest = as ++ c :: bs)
    (hfront : ∀ d ∈ plain rest, isFront d = true) (hc : isEnd c = false) (more : List Char) :
    ∃ bs', (Parts.of ((rest ++ more).rdropWhile isEnd)).front = as ++ c :: bs' := by
  have hall := isFront_of_plain hfront
  have hplain : isBreak c = false := by
    by_contra hbreak
    rw [isEnd_of_isBreak (Bool.of_not_eq_false hbreak)] at hc
    cases hc
  obtain ⟨front, after, rfl, rfl, -⟩ := exists_of_plain_eq hrest
  refine ⟨plain (((after ++ more).rdropWhile isEnd).takeWhile isFront), ?_⟩
  rw [List.append_assoc, List.cons_append, rdropWhile_append_cons hc, Parts.front_of,
    List.takeWhile_append_of_pos fun d hd => hall d (List.mem_append_left _ hd),
    List.takeWhile_cons_of_pos (hall c (List.mem_append_right _ (List.mem_cons_self ..))), plain_append]
  simp [plain, hplain]

/-! ### Texts that go on behind their server -/

/-- Whether what is behind the colon of a scheme goes on behind the server, so that what is added does not belong to
the server.  It does behind a query or a fragment and behind the slash at the end of a server.  Without two slashes in
front there is no server, but if there is one slash only, the other one can be added.  A file has to have no host, since
it can lose one. -/
def endsServer (kind : SchemeKind) (cs : List Char) : Bool :=
  cs.any (! isFront ·) ||
    match kind with
    | .special _ => (cs.dropWhile (isSlash true)).any (isSlash true)
    | kind =>
      match cs with
      | [] => false
      | [c] => ! isSlash kind.isSpecial c
      | c :: d :: rest =>
        ! (isSlash kind.isSpecial c && isSlash kind.isSpecial d)
          || (rest.any (isSlash kind.isSpecial)
            && (kind = .other || isNoHost (rest.takeWhile (! isSlash kind.isSpecial ·))))

/-- Whether a URL goes on behind its server. -/
def goesOn (base : String) : Bool :=
  let cs := plain (base.toList.dropWhile isEnd)
  (cutScheme cs).any fun scheme =>
    endsServer (.of (String.ofList (scheme.map Char.toLower))) (cs.drop (scheme.length + 1))

/-- The front of a text with something added. -/
def frontWith (rest more : List Char) : List Char := (Parts.of ((rest ++ more).rdropWhile isEnd)).front

/-- Whether two slashes start a text. -/
def startsServer (special : Bool) : List Char → Bool
  | c :: d :: _ => isSlash special c && isSlash special d
  | _ => false

theorem startsServer_of_front {special : Bool} {front : List Char} (hmore : front <+: cs)
    (h : startsServer special cs = false) : startsServer special front = false := by
  obtain ⟨more, rfl⟩ := hmore
  match front, h with
  | [], _ => rfl
  | [c], _ => rfl
  | c :: d :: _, h => exact h

theorem frontWith_of_plain (rest more : List Char) : frontWith rest more <+: plain rest ++ plain more := by
  rw [← plain_append]
  exact Parts.front_of_plain (rest ++ more)

/-- Where a slash is behind the host of a special scheme, what is in front of it stays the server. -/
theorem front_special (hfront : ∀ c ∈ plain rest, isFront c = true)
    (hends : ((plain rest).dropWhile (isSlash true)).any (isSlash true) = true) :
    ∃ server c, (∀ d ∈ server, isSlash true d = false) ∧ isSlash true c = true ∧ ∀ more, ∃ after,
      (frontWith rest more).dropWhile (isSlash true) = server ++ c :: after := by
  obtain ⟨server, c, bs, hdrop, hserver, hc⟩ := exists_first hends
  have hrest := List.takeWhile_append_dropWhile (p := isSlash true) (l := plain rest)
  rw [hdrop, ← List.append_assoc] at hrest
  refine ⟨server, c, hserver, hc, fun more => ?_⟩
  obtain ⟨after, hafter⟩ := Parts.front_append hrest.symm hfront (isEnd_of_isSlash hc) more
  refine ⟨after, ?_⟩
  rw [frontWith, hafter, List.append_assoc, List.dropWhile_append_of_pos fun d hd => List.mem_takeWhile_imp hd]
  cases server with
  | nil =>
    have hhead := List.head?_dropWhile_not (isSlash true) (plain rest)
    rw [hdrop] at hhead
    simp [hc] at hhead
  | cons d server => exact List.dropWhile_cons_of_neg (by simp [hserver d (List.mem_cons_self ..)])

/-- In the other schemes there is no server, whatever is added, or a slash is behind it. -/
theorem front_cases (kind : SchemeKind) (hkind : ∀ port, kind ≠ .special port)
    (hfront : ∀ c ∈ plain rest, isFront c = true) (hends : endsServer kind (plain rest) = true) :
    (∀ more, startsServer kind.isSpecial (frontWith rest more) = false) ∨
      ∃ c d server e, isSlash kind.isSpecial c = true ∧ isSlash kind.isSpecial d = true ∧
        (∀ x ∈ server, isSlash kind.isSpecial x = false) ∧ isSlash kind.isSpecial e = true ∧
        (kind = .other ∨ isNoHost server = true) ∧
        ∀ more, ∃ after, frontWith rest more = c :: d :: (server ++ e :: after) := by
  have hall : (plain rest).any (! isFront ·) = false := by simpa using hfront
  unfold endsServer at hends
  rw [hall, Bool.false_or] at hends
  split at hends
  · next port => exact absurd rfl (hkind port)
  split at hends
  · cases hends
  · next c hc =>
    refine .inl fun more => startsServer_of_front (frontWith_of_plain rest more) ?_
    rw [Bool.not_eq_true'] at hends
    rw [hc]
    cases plain more with
    | nil => rfl
    | cons d more => simp [startsServer, hends]
  · next c d cs hcs =>
    cases hslashes : isSlash kind.isSpecial c && isSlash kind.isSpecial d with
    | false =>
      refine .inl fun more => startsServer_of_front (frontWith_of_plain rest more) ?_
      rw [hcs]
      exact hslashes
    | true =>
      rw [hslashes, Bool.not_true, Bool.false_or, Bool.and_eq_true, Bool.or_eq_true, decide_eq_true_eq] at hends
      obtain ⟨server, e, after, rfl, hserver, he⟩ := exists_first hends.1
      rw [takeWhile_not_append hserver he] at hends
      rw [Bool.and_eq_true] at hslashes
      have hrest : plain rest = (c :: d :: server) ++ e :: after := hcs
      exact .inr ⟨c, d, server, e, hslashes.1, hslashes.2, hserver, he, hends.2, fun more =>
        Parts.front_append hrest hfront (isEnd_of_isSlash he) more⟩

variable {u u' : Url} {more more' : List Char}

theorem server_append_special {port : Nat} (hkind : SchemeKind.of scheme = .special port)
    (hfront : ∀ c ∈ plain rest, isFront c = true) (hends : endsServer (.special port) (plain rest) = true)
    (h : absoluteUrl none scheme (.of ((rest ++ more).rdropWhile isEnd)) = .ok u)
    (h' : absoluteUrl none scheme (.of ((rest ++ more').rdropWhile isEnd)) = .ok u') : u.server = u'.server := by
  have hall : (plain rest).any (! isFront ·) = false := by simpa using hfront
  rw [endsServer, hall, Bool.false_or] at hends
  obtain ⟨server, c, hserver, hc, hdrop⟩ := front_special hfront hends
  have hcut (more : List Char) : (cutServer (.special port) ((frontWith rest more).dropWhile (isSlash true))).1 =
      (cutServer (.special port) server).1 := by
    obtain ⟨after, hafter⟩ := hdrop more
    rw [hafter]
    exact cutServer_append (.special port) hserver hc after
  rw [absoluteUrl_special hkind] at h h'
  refine withServer_server_eq h h' ?_
  rw [hkind]
  exact (hcut more).trans (hcut more').symm

/-- A file without a host has none, whatever is added. -/
theorem server_append_file (hkind : SchemeKind.of scheme = .file)
    (hfront : ∀ c ∈ plain rest, isFront c = true) (hends : endsServer .file (plain rest) = true)
    (h : absoluteUrl none scheme (.of ((rest ++ more).rdropWhile isEnd)) = .ok u) : u.server = some .none := by
  rw [absoluteUrl_file hkind] at h
  refine server_fileUrl h fun x y behind hxy hx hy => ?_
  rcases front_cases .file nofun hfront hends with hno | ⟨c, d, server, e, -, -, hserver, he, hhost, hslashes⟩
  · have hstart := hno more
    rw [frontWith, hxy, startsServer, SchemeKind.isSpecial, decide_eq_true (by decide), hx, hy] at hstart
    cases hstart
  · obtain ⟨after, hafter⟩ := hslashes more
    rw [frontWith, hxy] at hafter
    obtain ⟨-, hafter⟩ := List.cons.inj hafter
    obtain ⟨-, rfl⟩ := List.cons.inj hafter
    exact (congrArg isNoHost (takeWhile_not_append hserver he after)).trans (hhost.resolve_left (by decide))

theorem server_append_other (hkind : SchemeKind.of scheme = .other)
    (hfront : ∀ c ∈ plain rest, isFront c = true) (hends : endsServer .other (plain rest) = true)
    (h : absoluteUrl none scheme (.of ((rest ++ more).rdropWhile isEnd)) = .ok u)
    (h' : absoluteUrl none scheme (.of ((rest ++ more').rdropWhile isEnd)) = .ok u') : u.server = u'.server := by
  rcases front_cases .other nofun hfront hends with hno | ⟨c, d, server, e, hc, hd, hserver, he, -, hslashes⟩
  · have hnone {more : List Char} {u : Url}
        (h : absoluteUrl none scheme (.of ((rest ++ more).rdropWhile isEnd)) = .ok u) : u.server = none := by
      refine server_of_other hkind h fun behind hbehind => ?_
      have hstart := hno more
      rw [frontWith, hbehind] at hstart
      cases hstart
    exact (hnone h).trans (hnone h').symm
  · have hslash {c : Char} (hc : isSlash SchemeKind.other.isSpecial c = true) : c = '/' := by
      simpa [isSlash, SchemeKind.isSpecial] using hc
    obtain ⟨after, hafter⟩ := hslashes more
    obtain ⟨after', hafter'⟩ := hslashes more'
    rw [frontWith, hslash hc, hslash hd] at hafter hafter'
    rw [absoluteUrl_other hkind, hafter] at h
    rw [absoluteUrl_other hkind, hafter'] at h'
    refine withServer_server_eq h h' ?_
    rw [hkind]
    exact (cutServer_append .other hserver he after).trans (cutServer_append .other hserver he after').symm

/-- **What is added behind the server leaves the server as it is.** -/
theorem server_append (hends : endsServer (.of scheme) (plain rest) = true)
    (h : absoluteUrl none scheme (.of ((rest ++ more).rdropWhile isEnd)) = .ok u)
    (h' : absoluteUrl none scheme (.of ((rest ++ more').rdropWhile isEnd)) = .ok u') : u.server = u'.server := by
  by_cases hquery : rest.any (! isFront ·) = true
  · exact absoluteUrl_server_eq ((Parts.raw_append hquery more).trans (Parts.raw_append hquery more').symm) h h'
  · have hfront : ∀ c ∈ plain rest, isFront c = true := by
      have hall : ∀ c ∈ rest, isFront c = true := by simpa using hquery
      exact fun c hc => hall c (List.mem_filter.1 hc).1
    cases hkind : SchemeKind.of scheme with
    | special port =>
      rw [hkind] at hends
      exact server_append_special hkind hfront hends h h'
    | file =>
      rw [hkind] at hends
      exact (server_append_file hkind hfront hends h).trans (server_append_file hkind hfront hends h').symm
    | other =>
      rw [hkind] at hends
      exact server_append_other hkind hfront hends h h'

theorem Behind.goesOn_eq {base : String} {scheme : List Char} (h : Behind base.toList scheme rest) :
    goesOn base = endsServer (.of (String.ofList (scheme.map Char.toLower))) (plain rest) := by
  obtain ⟨front, hbase, rfl, hscheme⟩ := h.dropWhile_eq
  have hplain : plain (front ++ ':' :: rest) = plain front ++ ':' :: plain rest := plain_append ..
  have hdrop : (plain front ++ ':' :: plain rest).drop ((plain front).length + 1) = plain rest := by
    rw [← List.drop_drop, List.drop_left]
    rfl
  rw [goesOn, hbase, hplain, hscheme.cut, Option.any_some, hdrop]

/-- **The scheme of a URL stays, whatever is added, and the server stays if the URL goes on behind it.** -/
theorem parse_append {base more : String} (h : parse base = .ok u) (h' : parse (base ++ more) = .ok u') :
    u'.scheme = u.scheme ∧ (goesOn base = true → u'.server = u.server) := by
  obtain ⟨scheme, rest, hbehind⟩ := exists_behind h
  have hread := hbehind.append more.toList
  rw [parse, hbehind.readFrom_eq] at h
  rw [parse, String.toList_append, hread.readFrom_eq] at h'
  refine ⟨(absoluteUrl_scheme h').trans (absoluteUrl_scheme h).symm, fun hgoes => ?_⟩
  rw [hbehind.goesOn_eq] at hgoes
  rw [← List.append_nil rest] at h
  exact server_append hgoes h' h

/-! ### Texts that end with their server -/

theorem cutUser_append (asking : List Char) {host : List Char} (h : '@' ∉ host) :
    cutUser (asking ++ '@' :: host) = (some asking, host) := by
  have hreverse : (asking ++ '@' :: host).reverse = host.reverse ++ '@' :: asking.reverse := by simp
  have hhost : (asking ++ '@' :: host).reverse.takeWhile (· ≠ '@') = host.reverse := by
    have hne : ∀ c ∈ host.reverse, c ≠ '@' := fun c hc heq => h (heq ▸ List.mem_reverse.1 hc)
    rw [hreverse]
    exact takeWhile_append_cons (by simpa using hne) (by decide) asking.reverse
  have hlength : (asking ++ '@' :: host).length = asking.length + (host.length + 1) := List.length_append
  unfold cutUser
  dsimp only
  rw [hhost, List.reverse_reverse, if_neg (by omega), hlength, Nat.add_sub_assoc (by omega), Nat.add_sub_cancel_left,
    Nat.add_sub_cancel, List.take_left]

theorem cutUser_letter (asking : List Char) (hc : c = 'a' ∨ c = 'b') :
    cutUser (asking ++ ['@', c]) = (some asking, [c]) :=
  cutUser_append asking (by rcases hc with rfl | rfl <;> decide)

theorem cutPort_letter (hc : c = 'a' ∨ c = 'b') : cutPort false [c] = ([c], none) := by
  rcases hc with rfl | rfl <;> rfl

/-- Behind an `@` a letter is the host. -/
theorem exists_server_of_letter (port : Nat) (asking : List Char) (hc : c = 'a' ∨ c = 'b') :
    ∃ user password, ∀ followed,
      readServer (.special port) (asking ++ ['@', c]) followed = .ok ⟨user, password, String.singleton c, none⟩ := by
  have hletter : readHost true [c] = .ok (String.singleton c) := by rcases hc with rfl | rfl <;> decide +kernel
  have hread : readHost (SchemeKind.special port).isSpecial [c] = .ok (String.singleton c) := hletter
  refine ⟨?user, ?password, ?read⟩
  case read =>
    intro followed
    unfold readServer
    rw [cutUser_letter asking hc]
    dsimp only
    rw [if_neg (by simp), cutPort_letter hc]
    dsimp only
    rw [if_neg (by simp), if_neg (by simp), hread]
    rfl

theorem cutServer_of_letter (port : Nat) {asking : List Char} (hasking : ∀ d ∈ asking, isSlash true d = false)
    (hc : c = 'a' ∨ c = 'b') : cutServer (.special port) (asking ++ ['@', c]) = (asking ++ ['@', c], []) := by
  have hletter : isSlash true c = false := by rcases hc with rfl | rfl <;> decide
  have hserver : ∀ d ∈ asking ++ ['@', c], (! isSlash true d) = true := by
    refine List.forall_mem_append.2 ⟨by simpa using hasking, List.forall_mem_cons.2 ⟨by decide, ?_⟩⟩
    exact List.forall_mem_singleton.2 (by rw [hletter]; rfl)
  have htext : serverText (.special port) (asking ++ ['@', c]) = asking ++ ['@', c] :=
    List.takeWhile_eq_self_iff.2 hserver
  have hbehind : (asking ++ ['@', c]).dropWhile (! isSlash (SchemeKind.special port).isSpecial ·) = [] :=
    List.dropWhile_eq_nil_iff.2 hserver
  rw [cutServer_eq, htext, cutUser_letter asking hc, hbehind]
  dsimp only
  rw [cutPort_letter hc]

theorem frontWith_letter (hfront : ∀ d ∈ plain rest, isFront d = true) (hc : c = 'a' ∨ c = 'b') :
    frontWith rest ['@', c] = plain rest ++ ['@', c] := by
  have hend : (rest ++ ['@', c]).rdropWhile isEnd = rest ++ ['@', c] := by
    rw [rdropWhile_append_cons (by decide)]
    rcases hc with rfl | rfl <;> rfl
  have hletter : isFront c = true := by rcases hc with rfl | rfl <;> decide
  have hall : ∀ d ∈ rest ++ ['@', c], isFront d = true := List.forall_mem_append.2
    ⟨isFront_of_plain hfront, List.forall_mem_cons.2 ⟨by decide, List.forall_mem_singleton.2 hletter⟩⟩
  rw [frontWith, Parts.front_of, hend, List.takeWhile_eq_self_iff.2 hall, plain_append]
  rcases hc with rfl | rfl <;> rfl

/-- A letter behind an `@` is the host of a special scheme where no slash is behind the server. -/
theorem exists_url_of_letter {port : Nat} (hkind : SchemeKind.of scheme = .special port)
    (hends : endsServer (.special port) (plain rest) = false) (hc : c = 'a' ∨ c = 'b') :
    ∃ u, absoluteUrl none scheme (.of ((rest ++ ['@', c]).rdropWhile isEnd)) = .ok u ∧
      u.server.map (·.host) = some (String.singleton c) := by
  obtain ⟨hfront, hslash⟩ := Bool.or_eq_false_iff.1 hends
  have hfront : ∀ d ∈ plain rest, isFront d = true := by simpa using hfront
  have hserver : ∀ d ∈ (plain rest).dropWhile (isSlash true), isSlash true d = false := by
    simpa using (List.any_eq_false).1 hslash
  have hdrop : (frontWith rest ['@', c]).dropWhile (isSlash true) =
      (plain rest).dropWhile (isSlash true) ++ ['@', c] := by
    rw [frontWith_letter hfront hc, List.dropWhile_append]
    split
    · next hempty =>
      rw [List.isEmpty_iff.1 hempty]
      exact List.dropWhile_cons_of_neg (by decide)
    · rfl
  obtain ⟨user, password, hread⟩ := exists_server_of_letter port ((plain rest).dropWhile (isSlash true)) hc
  rw [frontWith] at hdrop
  rw [absoluteUrl_special hkind, hdrop, withServer, hkind, cutServer_of_letter port hserver hc]
  dsimp only
  rw [hread]
  exact ⟨_, rfl, rfl⟩

/-- **What is added to a web address can change its server unless the address goes on behind it.** -/
theorem server_fixed_iff {base : String} {port : Nat} (h : parse base = .ok u)
    (hkind : SchemeKind.of u.scheme = .special port) :
    (∀ more u', parse (base ++ more) = .ok u' → u'.server = u.server) ↔ goesOn base = true := by
  refine ⟨fun hfixed => ?_, fun hgoes more u' h' => (parse_append h h').2 hgoes⟩
  obtain ⟨scheme, rest, hbehind⟩ := exists_behind h
  rw [parse, hbehind.readFrom_eq] at h
  rw [absoluteUrl_scheme h] at hkind
  by_contra hgoes
  rw [hbehind.goesOn_eq, hkind, Bool.not_eq_true] at hgoes
  have hhost {c : Char} (hc : c = 'a' ∨ c = 'b') : u.server.map (·.host) = some (String.singleton c) := by
    obtain ⟨u', hu', hhost⟩ := exists_url_of_letter hkind hgoes hc
    rw [← hfixed (String.ofList ['@', c]) u', hhost]
    rw [parse, String.toList_append, String.toList_ofList, (hbehind.append ['@', c]).readFrom_eq]
    exact hu'
  exact absurd ((hhost (.inl rfl)).symm.trans (hhost (.inr rfl))) (by decide)

end Url
end ScriptImport
