/-
# Objects are read back

The members of an object are printed with commas between them, and `moreMembers` passes over the comma in
front of every member but the first.  `membersText` prints them one by one, with the comma that goes in
front; that is the compact text (`compactMembers_eq`), and it is read back member by member
(`reads_members`).  A record is an object whose members are its fields: `Record.reads_field` reads one of
them, and the fields after it.
-/

import ScriptImport.Proofs.Json.Reads

namespace ScriptImport
namespace Json

variable {α β σ : Type}

/-- What stands in front of a member. -/
def lead (first : Bool) : List Char := if first then [] else [',']

/-- The members of an object, each with what stands in front of it. -/
def membersText (print : α → List Char) (first : Bool) : List (String × α) → List Char
  | [] => []
  | (k, v) :: ms => lead first ++ (quoted k.toList ++ ':' :: (print v ++ membersText print false ms))

/-- **The compact text of members** prints them one by one. -/
theorem compactMembers_eq : ∀ ms : List (String × Json), compactMembers ms = membersText compact true ms
  | [] => rfl
  | [(k, v)] => by simp [compactMembers, membersText, lead]
  | (k, v) :: m :: ms => by
    rw [compactMembers, compactMembers_eq (m :: ms), membersText]
    · simp [membersText, lead]
    · simp

theorem membersText_mapValues (print : β → List Char) (f : α → β) (first : Bool) (d : Dict α) :
    membersText print first (Dict.mapValues f d) = membersText (fun v => print (f v)) first d := by
  induction d generalizing first with
  | nil => rfl
  | cons e d ih => simp only [Dict.mapValues, List.map_cons, membersText] at ih ⊢; rw [ih]

theorem length_le_length_membersText (print : α → List Char) (first : Bool) (ms : List (String × α)) :
    ms.length ≤ (membersText print first ms).length := by
  induction ms generalizing first with
  | nil => simp
  | cons m ms ih =>
    have := ih false
    simp only [membersText, List.length_append, List.length_cons]
    omega

namespace Reader

theorem reads_lead {first : Bool} (rest : List Char) :
    Reads (moreMembers first) (lead first) true ('"' :: rest) := by
  cases first with
  | true =>
    refine Reads.look (reads_peekPast (by decide)) ?_
    exact reads_pure true _
  | false =>
    refine Reads.look (reads_peekPast (by decide)) ?_
    dsimp only
    rw [if_neg (by decide), if_neg (by decide), if_pos rfl]
    refine (reads_skip ',' _).take (Reads.look (reads_peekPast (by decide)) ?_)
    exact reads_pure true _

theorem reads_moreMembers_end (first : Bool) (rest : List Char) :
    Reads (moreMembers first) [] false ('\x7d' :: rest) :=
  Reads.look (reads_peekPast (by decide)) (reads_pure false _)

theorem reads_key (k : String) (rest : List Char) : Reads key (quoted k.toList) k rest :=
  (reads_skip '"' _).take (reads_string k rest)

theorem reads_colon (rest : List Char) : Reads colon [':'] () rest :=
  Reads.look (reads_peekPast (by decide)) (reads_skip ':' rest)

theorem reads_text (expected s : String) (rest : List Char) :
    Reads (text expected) (quoted s.toList) s rest :=
  Reads.look (reads_peekPast (by decide)) ((reads_skip '"' _).take (reads_string s rest))

/-- **Members are read back** if their values are, up to the brace that closes the object. -/
theorem reads_members {value : Reader α} (print : α → List Char) {ms : List (String × α)}
    (hvalue : ∀ m ∈ ms, ∀ rest, EndsNumber rest → Reads value (print m.2) m.2 rest)
    (rest : List Char) (first : Bool) {budget : Nat} (hbudget : ms.length < budget) :
    Reads (members value first budget) (membersText print first ms) ms ('\x7d' :: rest) := by
  induction ms generalizing first budget with
  | nil =>
    cases budget with
    | zero => exact absurd hbudget (by simp)
    | succ budget => exact Reads.look (reads_moreMembers_end first rest) (reads_pure [] _)
  | cons m ms ih =>
    cases budget with
    | zero => exact absurd hbudget (by simp)
    | succ budget =>
      obtain ⟨k, v⟩ := m
      have hms := ih (fun m hm => hvalue m (List.mem_cons_of_mem _ hm)) false
        (Nat.lt_of_succ_lt_succ hbudget)
      have hend : EndsNumber (membersText print false ms ++ '\x7d' :: rest) := by
        cases ms <;> simp [EndsNumber, membersText, lead]
      have hv := hvalue (k, v) (List.mem_cons_self ..) _ hend
      refine (reads_lead _).bind ?_
      refine (reads_key k _).bind ?_
      exact (reads_colon _).take (hv.bind (hms.map ((k, v) :: ·)))

end Reader

namespace Record

open Reader

/-- **A field is read back,** and the fields after it. -/
theorem reads_field {fields : List (Field σ)} (field : Field σ) {r r' r'' : σ} {first : Bool}
    {budget : Nat} {value cs rest : List Char}
    (hfind : fields.find? (·.name = field.name) = some field) (hset : field.isSet r = false)
    (hvalue : Reads (field.read r) value r' (cs ++ rest))
    (hrest : Reads (members fields false budget r') cs r'' rest) :
    Reads (members fields first (budget + 1) r)
      (lead first ++ (quoted field.name.toList ++ ':' :: (value ++ cs))) r'' rest := by
  refine (reads_lead _).bind ?_
  refine (reads_key field.name _).bind ?_
  dsimp only
  rw [hfind]
  dsimp only
  rw [hset]
  exact (reads_colon _).take (hvalue.bind hrest)

/-- A record ends once all its required fields have been read. -/
theorem reads_end {fields : List (Field σ)} {r : σ} {first : Bool} {budget : Nat} (rest : List Char)
    (h : fields.find? (fun field => field.required && ! field.isSet r) = none) :
    Reads (members fields first (budget + 1) r) ['\x7d'] r rest := by
  refine Reads.look (reads_moreMembers_end first rest) ?_
  rw [if_neg (by decide), h]
  exact (reads_skip '\x7d' rest).take (reads_pure r rest)

end Record
end Json
end ScriptImport
