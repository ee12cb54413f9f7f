/-!
# Members of an object

An object is a list of entries whose keys ascend strictly in the order of their
code points, which is also the order of their UTF-8 bytes. Writing a key that is
present replaces its value.
-/

namespace PillarLookup

abbrev Members (α : Type) := List (String × α)

namespace Members

variable {α : Type}

def insert (key : String) (value : α) : Members α → Members α
  | [] => [(key, value)]
  | entry :: rest =>
      if key = entry.1 then (key, value) :: rest
      else if key < entry.1 then (key, value) :: entry :: rest
      else entry :: insert key value rest

def get? (key : String) : Members α → Option α
  | [] => none
  | entry :: rest => if key = entry.1 then some entry.2 else get? key rest

def contains (members : Members α) (key : String) : Bool :=
  (members.get? key).isSome

def keys (members : Members α) : List String :=
  members.map (·.1)

/-- The entries with later ones of the same key in force. -/
def ofList (entries : List (String × α)) : Members α :=
  entries.foldl (fun members entry => members.insert entry.1 entry.2) []

def Ascending (members : Members α) : Prop :=
  members.Pairwise fun first second => first.1 < second.1

theorem contains_eq_true_iff {members : Members α} {key : String} :
    members.contains key = true ↔ key ∈ members.keys := by
  unfold contains keys
  induction members with
  | nil => simp [get?]
  | cons entry rest ih =>
      rw [get?, List.map_cons, List.mem_cons, ← ih]
      split
      · rename_i same
        exact iff_of_true rfl (.inl same)
      · rename_i differ
        exact ⟨.inr, fun found => found.resolve_left differ⟩

theorem get?_insert (key other : String) (value : α) (members : Members α) :
    (members.insert key value).get? other =
      if other = key then some value else members.get? other := by
  induction members with
  | nil => simp [insert, get?]
  | cons entry rest ih =>
      unfold insert
      split
      · rename_i same
        subst same
        by_cases hit : other = entry.1 <;> simp [get?, hit]
      · split
        · by_cases hit : other = key <;> simp [get?, hit]
        · rename_i differ _
          by_cases hit : other = key
          · subst hit
            simp [get?, differ, ih]
          · by_cases first : other = entry.1
            · simp [get?, first, Ne.symm differ]
            · simp [get?, hit, first, ih]

theorem mem_insert {key : String} {value : α} {members : Members α} {entry : String × α}
    (member : entry ∈ members.insert key value) : entry = (key, value) ∨ entry ∈ members := by
  induction members with
  | nil => simpa [insert] using member
  | cons head rest ih =>
      unfold insert at member
      split at member
      · rcases List.mem_cons.mp member with same | later
        · exact .inl same
        · exact .inr (List.mem_cons_of_mem _ later)
      · split at member
        · rcases List.mem_cons.mp member with same | later
          · exact .inl same
          · exact .inr later
        · rcases List.mem_cons.mp member with same | later
          · exact .inr (same ▸ List.mem_cons_self)
          · rcases ih later with found | found
            · exact .inl found
            · exact .inr (List.mem_cons_of_mem _ found)

theorem ascending_insert (key : String) (value : α) {members : Members α}
    (ascending : members.Ascending) : (members.insert key value).Ascending := by
  induction members with
  | nil => simp [insert, Ascending]
  | cons entry rest ih =>
      have parts := List.pairwise_cons.mp ascending
      unfold insert
      split
      · rename_i same
        subst same
        exact List.pairwise_cons.mpr ⟨parts.1, parts.2⟩
      · split
        · rename_i less
          refine List.pairwise_cons.mpr ⟨?_, ascending⟩
          intro other member
          rcases List.mem_cons.mp member with same | later
          · exact same ▸ less
          · exact String.lt_trans less (parts.1 other later)
        · rename_i differ notLess
          refine List.pairwise_cons.mpr ⟨?_, ih parts.2⟩
          intro other member
          rcases mem_insert member with same | later
          · subst same
            have notGreater := String.not_lt.mp notLess
            by_cases less : entry.1 < key
            · exact less
            · exact absurd (String.le_antisymm (String.not_lt.mp less) notGreater) differ
          · exact parts.1 other later

/-- A key beyond all others goes to the end. -/
theorem insert_of_forall_lt {key : String} (value : α) {members : Members α}
    (beyond : ∀ entry ∈ members, entry.1 < key) :
    members.insert key value = members ++ [(key, value)] := by
  induction members with
  | nil => rfl
  | cons entry rest ih =>
      have less := beyond entry List.mem_cons_self
      have differ : key ≠ entry.1 := by
        rintro rfl
        exact String.lt_irrefl _ less
      have later := ih fun other member => beyond other (List.mem_cons_of_mem _ member)
      simp [insert, differ, String.lt_asymm less, later]

end Members

end PillarLookup
