/-
# Segments of a path

A path is read part by part: a part is written with escapes where it needs them, and a part of one or two points is
carried out.  Hence the written segments have no character that needs an escape (`walk_written`).  Where the parts
have none either, they are written as they are if none of them is points (`walk_eq`), and else the path gets shorter
(`room_walk_le`).  So a path without a server comes out as it is if and only if it is written so
(`pathText_follow_other_iff`).
-/

import Mathlib.Algebra.Ring.Nat
import ScriptImport.Proofs.Path
import ScriptImport.Proofs.Url.Read

namespace ScriptImport
namespace Url

variable {cs : List Char} {c : Char} {file isLast : Bool} {done : List String} {part : List Char}
  {parts : List (List Char)}

/-! ### Escapes -/

theorem escape_eq_self {escaped : Char → Bool} (h : ∀ c ∈ cs, escaped c = false) : escape escaped cs = cs := by
  have hself : cs.flatMap (fun c => [c]) = cs := List.flatMap_singleton' cs
  conv_rhs => rw [← hself]
  exact List.flatMap_congr fun c hc => if_neg (by simp [h c hc])

/-- What is escaped has no character left that needs it, if those that escapes are made of do not. -/
theorem escaped_eq_false {escaped : Char → Bool} (hpercent : escaped '%' = false)
    (hdigits : ∀ n < 16, escaped (Text.upperHexDigit n) = false) (hc : c ∈ escape escaped cs) : escaped c = false := by
  obtain ⟨d, -, hd⟩ := List.mem_flatMap.1 hc
  split at hd
  · obtain ⟨b, -, hb⟩ := List.mem_flatMap.1 hd
    have hbyte : b.toNat < 256 := b.toNat_lt
    simp only [escapeByte, List.mem_cons, List.not_mem_nil, or_false] at hb
    rcases hb with rfl | rfl | rfl
    · exact hpercent
    · exact hdigits _ (by omega)
    · exact hdigits _ (by omega)
  · next hd' =>
    obtain rfl := List.mem_singleton.1 hd
    simpa using hd'

/-- Characters that stand in a path as they are. -/
def isWritten (c : Char) : Bool := ! escapedInPath c

theorem isWritten_of_mem_escape (hc : c ∈ escape escapedInPath cs) : isWritten c = true := by
  rw [isWritten, escaped_eq_false (by decide) (by decide) hc]
  rfl

theorem isWritten_of_isAlpha (h : c.isAlpha = true) : isWritten c = true := by
  have hall : ∀ n < 128, (Char.ofNat n).isAlpha = true → isWritten (Char.ofNat n) = true := by decide
  have hc : c.toNat < 128 := by
    have hcases : (c.isUpper || c.isLower) = true := h
    rcases Bool.or_eq_true_iff.1 hcases with hupper | hlower
    · have hle : 'A'.val ≤ c.val ∧ c.val ≤ 'Z'.val := of_decide_eq_true hupper
      exact (UInt32.le_iff_toNat_le.1 hle.2).trans_lt (by decide)
    · have hle : (decide ('a'.val ≤ c.val) && decide (c.val ≤ 'z'.val)) = true := hlower
      exact (UInt32.le_iff_toNat_le.1 (of_decide_eq_true (Bool.and_eq_true_iff.1 hle).2)).trans_lt (by decide)
  have := hall c.toNat hc
  rw [Char.ofNat_toNat] at this
  exact this h

theorem isEnd_of_isWritten (h : isWritten c = true) : isEnd c = false := by
  rw [isEnd, decide_eq_false_iff_not]
  intro hle
  rcases hle.lt_or_eq with hlt | rfl
  · simp [isWritten, escapedInPath, escapedInFragment, escapedAlways, hlt] at h
  · exact absurd h (by decide)

theorem isBreak_of_isWritten (h : isWritten c = true) : isBreak c = false := by
  by_contra hbreak
  have hend := isEnd_of_isBreak (Bool.of_not_eq_false hbreak)
  rw [isEnd_of_isWritten h] at hend
  exact absurd hend (by decide)

theorem isBreak_of_not_escaped (h : escapedAlways c = false) : isBreak c = false := by
  by_contra hbreak
  simp only [Bool.not_eq_false, isBreak, Bool.or_eq_true, decide_eq_true_eq] at hbreak
  rcases hbreak with (rfl | rfl) | rfl <;> exact absurd h (by decide)

theorem isFront_of_isWritten (h : isWritten c = true) : isFront c = true := by
  have hne (d : Char) (hd : isWritten d = false) : c ≠ d := fun heq => by simp [← heq, h] at hd
  simp [isFront, hne '?' (by decide), hne '#' (by decide)]

/-! ### Segments -/

/-- The text of segments. -/
def pathText (segments : List String) : List Char := segments.flatMap fun s => '/' :: s.toList

theorem toList_segments (segments : List String) : (Path.segments segments).toString.toList = pathText segments := by
  rw [Path.toString, String.toList_join, List.flatMap_map]
  exact List.flatMap_congr fun s _ => String.toList_append

theorem head_pathText {segments : List String} (h : (pathText segments).head? = some c) : c = '/' := by
  cases segments with
  | nil => cases h
  | cons s segments => exact (Option.some.inj h).symm

/-- How much room segments take. -/
def room (segments : List String) : Nat := (segments.map fun s => s.toList.length + 1).sum

theorem length_pathText (segments : List String) : (pathText segments).length = room segments := by
  simp [pathText, room, List.length_flatMap]

theorem room_cons (s : String) (segments : List String) : room (s :: segments) = s.toList.length + 1 + room segments :=
  rfl

theorem room_reverse (segments : List String) : room segments.reverse = room segments := by
  rw [room, List.map_reverse, List.sum_reverse, room]

/-- Cutting a path at its slashes loses nothing. -/
theorem pathText_splitAt (cs : List Char) : pathText ((Path.splitAt '/' cs).map String.ofList) = '/' :: cs := by
  induction cs with
  | nil => rfl
  | cons c cs ih =>
    rw [Path.splitAt]
    split_ifs with hc
    · rw [List.map_cons, pathText, List.flatMap_cons, ← pathText, ih, hc]
      rfl
    · obtain ⟨part, parts, hsplit⟩ := List.exists_cons_of_ne_nil (Path.splitAt_ne_nil '/' cs)
      rw [hsplit] at ih ⊢
      simp only [List.map_cons, pathText, List.flatMap_cons, String.toList_ofList, List.cons_append,
        List.cons.injEq, true_and] at ih ⊢
      rw [ih]

theorem splitPath_other (cs : List Char) : splitPath .other cs = Path.splitAt '/' cs := by
  have hself : cs.map (fun c => if isSlash SchemeKind.other.isSpecial c then '/' else c) = cs := by
    refine (List.map_congr_left fun c _ => ?_).trans (List.map_id cs)
    split
    · next hslash =>
      have hc : c = '/' := by simpa [isSlash, SchemeKind.isSpecial] using hslash
      exact hc.symm
    · rfl
  rw [splitPath, hself]

/-- Parts of one or two points. -/
def isPoints (part : List Char) : Bool := plainPoints part = ['.'] || plainPoints part = ['.', '.']

theorem ne_nil_of_isPoints (h : isPoints part = true) : part ≠ [] := by
  rintro rfl
  exact absurd h (by decide)

theorem plain_of_written (h : ∀ c ∈ part, isWritten c = true) : plain part = part :=
  plain_eq_self fun c hc => isBreak_of_isWritten (h c hc)

/-- A part that is not of points is one more segment. -/
theorem enter_eq (hwritten : ∀ c ∈ part, isWritten c = true) (hpoints : isPoints part = false) :
    enter false isLast done part = String.ofList part :: done := by
  simp only [isPoints, Bool.or_eq_false_iff, decide_eq_false_iff_not] at hpoints
  have hsegment : segment false done part = String.ofList part := by
    unfold segment
    split
    · rfl
    · rw [escape_eq_self fun c hc => by simpa [isWritten] using hwritten c hc]
  rw [enter, if_neg (by simp)]
  dsimp only
  rw [plain_of_written hwritten, if_neg hpoints.2, if_neg hpoints.1, hsegment]

theorem room_stepUp_le (done : List String) : room (stepUp done) ≤ room done := by
  cases done with
  | nil => rfl
  | cons last before =>
    rw [stepUp]
    split
    · rfl
    · rw [room_cons]
      omega

/-- A part of points takes no room, but for the slash behind it. -/
theorem room_enter_le (hpoints : isPoints (plain part) = true) :
    room (enter false isLast done part) ≤ room done + if isLast then 1 else 0 := by
  have hends (before : List String) (hbefore : room before ≤ room done) :
      room (if isLast then "" :: before else before) ≤ room done + if isLast then 1 else 0 := by
    split
    · rw [room_cons, String.toList_empty, List.length_nil]
      omega
    · omega
  simp only [isPoints, Bool.or_eq_true, decide_eq_true_eq] at hpoints
  rw [enter, if_neg (by simp)]
  dsimp only
  by_cases hup : plainPoints (plain part) = ['.', '.']
  · rw [if_pos hup]
    exact hends _ (room_stepUp_le done)
  · rw [if_neg hup, if_pos (hpoints.resolve_right hup)]
    exact hends _ le_rfl

/-- Parts without points are written as they are. -/
theorem walk_eq (hwritten : ∀ p ∈ parts, ∀ c ∈ p, isWritten c = true) (hpoints : ∀ p ∈ parts, isPoints p = false) :
    walk false done parts = done.reverse ++ parts.map String.ofList := by
  induction parts generalizing done with
  | nil => simp [walk]
  | cons part parts ih =>
    obtain ⟨hpart, hparts⟩ := List.forall_mem_cons.1 hwritten
    obtain ⟨hpoint, hpoints⟩ := List.forall_mem_cons.1 hpoints
    cases parts with
    | nil => simp [walk, enter_eq hpart hpoint]
    | cons next parts =>
      rw [walk, enter_eq hpart hpoint, ih hparts hpoints]
      · simp
      · simp

/-- Parts of points take less room than they had. -/
theorem room_walk_le (done : List String) (hwritten : ∀ p ∈ parts, ∀ c ∈ p, isWritten c = true) :
    room (walk false done parts) + (if parts.any isPoints then 1 else 0) ≤
      room done + room (parts.map String.ofList) := by
  induction parts generalizing done with
  | nil => simp [walk, room_reverse]
  | cons part parts ih =>
    obtain ⟨hpart, hparts⟩ := List.forall_mem_cons.1 hwritten
    rw [List.map_cons, room_cons, String.toList_ofList, List.any_cons]
    cases hpoint : isPoints part with
    | true =>
      have henter (isLast : Bool) : room (enter false isLast done part) ≤ room done + if isLast then 1 else 0 :=
        room_enter_le (by rwa [plain_of_written hpart])
      have hlength : 0 < part.length := List.length_pos_iff.2 (ne_nil_of_isPoints hpoint)
      rw [Bool.true_or, if_pos rfl]
      cases parts with
      | nil =>
        have hlast := henter true
        rw [if_pos rfl] at hlast
        rw [walk, room_reverse]
        omega
      | cons next parts =>
        have hmiddle := henter false
        have hrest := ih (enter false false done part) hparts
        rw [if_neg (by decide)] at hmiddle
        rw [walk]
        · omega
        · simp
    | false =>
      rw [Bool.false_or]
      cases parts with
      | nil =>
        rw [walk, enter_eq hpart hpoint, room_reverse, room_cons, String.toList_ofList]
        simp only [List.any_nil, Bool.false_eq_true, if_false]
        omega
      | cons next parts =>
        have hrest := ih (String.ofList part :: done) hparts
        rw [room_cons, String.toList_ofList] at hrest
        rw [walk, enter_eq hpart hpoint]
        · omega
        · simp

theorem mem_stepUp {s : String} (hs : s ∈ stepUp done) : s ∈ done := by
  cases done with
  | nil => exact hs
  | cons last before =>
    rw [stepUp] at hs
    split at hs
    · exact hs
    · exact List.mem_cons_of_mem last hs

theorem isWritten_of_driveForm {drive : List Char} (h : driveForm? part = some drive) :
    (∀ c ∈ part, isWritten c = true) ∧ ∀ c ∈ drive, isWritten c = true := by
  unfold driveForm? at h
  split at h
  · next c d =>
    split at h
    · next hcd =>
      obtain rfl := Option.some.inj h
      simp only [Bool.and_eq_true, Bool.or_eq_true, decide_eq_true_eq] at hcd
      have hc := isWritten_of_isAlpha hcd.1
      have hd : isWritten d = true := by rcases hcd.2 with rfl | rfl <;> decide
      have hcolon : isWritten ':' = true := by decide
      exact ⟨List.forall_mem_cons.2 ⟨hc, List.forall_mem_singleton.2 hd⟩,
        List.forall_mem_cons.2 ⟨hc, List.forall_mem_singleton.2 hcolon⟩⟩
    · cases h
  · cases h

theorem segment_written (file : Bool) (done : List String) (part : List Char) :
    ∀ c ∈ (segment file done part).toList, isWritten c = true := by
  unfold segment
  split
  · next drive hdrive =>
    obtain ⟨hpart, hdrive⟩ := isWritten_of_driveForm hdrive
    rw [String.toList_ofList]
    split
    · exact hdrive
    · exact hpart
  · rw [String.toList_ofList]
    exact fun c hc => isWritten_of_mem_escape hc

theorem brokenDrive_written {drive rest : List Char} (h : brokenDrive? part = some (drive, rest)) :
    ∀ c ∈ drive, isWritten c = true := by
  unfold brokenDrive? at h
  split at h
  · next c d rest' =>
    split at h
    · next hc =>
      obtain ⟨rfl, -⟩ := Prod.mk.inj (Option.some.inj h)
      rw [Bool.and_eq_true] at hc
      have hcolon : isWritten ':' = true := by decide
      exact List.forall_mem_cons.2 ⟨isWritten_of_isAlpha hc.1, List.forall_mem_singleton.2 hcolon⟩
    · cases h
  · cases h

theorem enter_written (hdone : ∀ s ∈ done, ∀ c ∈ s.toList, isWritten c = true) :
    ∀ s ∈ enter file isLast done part, ∀ c ∈ s.toList, isWritten c = true := by
  have hends (before : List String) (hbefore : ∀ s ∈ before, s ∈ done) :
      ∀ s ∈ (if isLast then "" :: before else before), ∀ c ∈ s.toList, isWritten c = true := by
    have hbefore : ∀ s ∈ before, ∀ c ∈ s.toList, isWritten c = true := fun s hs => hdone s (hbefore s hs)
    split
    · exact List.forall_mem_cons.2 ⟨by simp, hbefore⟩
    · exact hbefore
  unfold enter
  split
  · next drive rest hdrive =>
    split at hdrive
    · refine List.forall_mem_cons.2 ⟨?_, List.forall_mem_singleton.2 ?_⟩
      · rw [String.toList_ofList]
        exact fun c hc => isWritten_of_mem_escape hc
      · rw [String.toList_ofList]
        exact brokenDrive_written hdrive
    · cases hdrive
  · dsimp only
    split
    · exact hends _ fun s hs => mem_stepUp hs
    · split
      · exact hends _ fun s hs => hs
      · exact List.forall_mem_cons.2 ⟨segment_written file done _, hdone⟩

/-- **What is written needs no escape.** -/
theorem walk_written (hdone : ∀ s ∈ done, ∀ c ∈ s.toList, isWritten c = true) :
    ∀ s ∈ walk file done parts, ∀ c ∈ s.toList, isWritten c = true := by
  fun_induction walk file done parts with
  | case1 done => exact fun s hs => hdone s (List.mem_reverse.1 hs)
  | case2 done last => exact fun s hs => enter_written hdone s (List.mem_reverse.1 hs)
  | case3 done part parts hparts ih => exact ih (enter_written hdone)

theorem pathText_written {segments : List String} (h : ∀ s ∈ segments, ∀ c ∈ s.toList, isWritten c = true) :
    ∀ c ∈ pathText segments, isWritten c = true := by
  intro c hc
  obtain ⟨s, hs, hc⟩ := List.mem_flatMap.1 hc
  rcases List.mem_cons.1 hc with rfl | hc
  · decide
  · exact h s hs c hc

/-! ### Paths without a server -/

theorem follow_other (cs : List Char) : follow .other [] cs = walk false [] (Path.splitAt '/' cs) := by
  rw [follow, splitPath_other]
  rfl

theorem follow_other_written (cs : List Char) : ∀ c ∈ pathText (follow .other [] cs), isWritten c = true := by
  rw [follow_other]
  exact pathText_written (walk_written nofun)

/-- A path gets no longer, and shorter if it has a part of points. -/
theorem length_follow_other_le (hwritten : ∀ c ∈ cs, isWritten c = true) :
    (pathText (follow .other [] cs)).length + (if (Path.splitAt '/' cs).any isPoints then 1 else 0) ≤
      cs.length + 1 := by
  have hparts : ∀ p ∈ Path.splitAt '/' cs, ∀ c ∈ p, isWritten c = true :=
    fun p hp c hc => hwritten c (Path.mem_of_mem_splitAt hp hc)
  have hroom := room_walk_le [] hparts
  rw [← length_pathText (List.map _ _), pathText_splitAt, List.length_cons] at hroom
  rw [follow_other, length_pathText]
  exact hroom.trans (Nat.zero_add _).le

/-- **A path comes out as it is if and only if it is written so:** none of its characters needs an escape, and none of
its parts is points. -/
theorem pathText_follow_other_iff : pathText (follow .other [] cs) = '/' :: cs ↔
    (∀ c ∈ cs, isWritten c = true) ∧ ∀ p ∈ Path.splitAt '/' cs, isPoints p = false := by
  constructor
  · intro h
    have hwritten : ∀ c ∈ cs, isWritten c = true := fun c hc =>
      follow_other_written cs c (h ▸ List.mem_cons_of_mem _ hc)
    refine ⟨hwritten, ?_⟩
    have hlength := length_follow_other_le hwritten
    rw [h, List.length_cons] at hlength
    by_contra hpoints
    have hany : (Path.splitAt '/' cs).any isPoints = true := by simpa using hpoints
    rw [if_pos hany] at hlength
    omega
  · rintro ⟨hwritten, hpoints⟩
    have hparts : ∀ p ∈ Path.splitAt '/' cs, ∀ c ∈ p, isWritten c = true :=
      fun p hp c hc => hwritten c (Path.mem_of_mem_splitAt hp hc)
    rw [follow_other, walk_eq hparts hpoints, List.reverse_nil, List.nil_append, pathText_splitAt]

end Url
end ScriptImport
