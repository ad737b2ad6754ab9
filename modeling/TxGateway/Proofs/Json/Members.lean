import Mathlib.Data.String.Basic
import TxGateway.Json.Basic
/-!
# Members of objects

What `Json.insert` and `Json.find?` do to whole lists of members. An object that is built by putting
members in one after the other has its names in order (`pairwise_foldl_insert`), has the names that
were put in and no others (`mem_foldl_insert`), and holds under each name what was put in under it
(`find?_foldl_insert`).
-/

namespace TxGateway.Json

variable {name : String} {value : Json} {members : List (String × Json)}

/-- The order of the members in an object: by name, and no name twice. -/
def Precedes (first second : String × Json) : Prop := first.1 < second.1

/-! ## Finding -/

/-- Nothing is found under a name that no member has. -/
theorem find?_eq_none_of_not_mem (h : name ∉ members.map Prod.fst) : find? name members = none := by
  rw [find?, Option.map_eq_none_iff, List.find?_eq_none]
  intro member hmember hname
  refine h (List.mem_map.mpr ⟨member, hmember, ?_⟩)
  simpa using hname

/-- Members are found in the first of two lists that has the name. -/
theorem find?_append (name : String) (first second : List (String × Json)) :
    find? name (first ++ second) = (find? name first).or (find? name second) := by
  induction first with
  | nil => rfl
  | cons member first ih =>
    rw [List.cons_append, find?_cons, find?_cons, ih]
    split
    · rfl
    · rfl

/-- A member that may be left out is found under its own name, if it is there. -/
theorem find?_member? (name other : String) (value : Option Json) :
    find? name (member? other value) = if other = name then value else none := by
  cases value with
  | none => simp
  | some value => rw [member?_some, find?_cons, find?_nil]

/-! ## Putting in -/

/-- The members after one is put in: the new one, and old ones. -/
theorem mem_insert {member : String × Json} (h : member ∈ insert name value members) :
    member = (name, value) ∨ member ∈ members := by
  induction members with
  | nil => exact Or.inl (List.mem_singleton.mp h)
  | cons head members ih =>
    rw [insert] at h
    split at h
    · rcases List.mem_cons.mp h with h | h
      · exact Or.inl h
      · exact Or.inr (List.mem_cons_of_mem _ h)
    · split at h
      · exact List.mem_cons.mp h
      · rcases List.mem_cons.mp h with h | h
        · exact Or.inr (h ▸ List.mem_cons_self)
        · rcases ih h with h | h
          · exact Or.inl h
          · exact Or.inr (List.mem_cons_of_mem _ h)

/-- A member that is put in keeps the members in order. -/
theorem pairwise_insert (h : members.Pairwise Precedes) :
    (insert name value members).Pairwise Precedes := by
  induction members with
  | nil => exact List.pairwise_singleton _ _
  | cons head members ih =>
    obtain ⟨hhead, hmembers⟩ := List.pairwise_cons.mp h
    rw [insert]
    split
    · next heq =>
      -- The new member takes the place of the one that had its name.
      refine List.pairwise_cons.mpr ⟨fun member hmember => ?_, hmembers⟩
      show name < member.1
      rw [heq]
      exact hhead member hmember
    · next hne =>
      split
      · next hlt =>
        refine List.pairwise_cons.mpr ⟨fun member hmember => ?_, h⟩
        rcases List.mem_cons.mp hmember with rfl | hmember
        · exact hlt
        · exact lt_trans hlt (hhead member hmember)
      · next hnot =>
        have hgt : head.1 < name := lt_of_le_of_ne (not_lt.mp hnot) (Ne.symm hne)
        refine List.pairwise_cons.mpr ⟨fun member hmember => ?_, ih hmembers⟩
        rcases mem_insert hmember with rfl | hmember
        · exact hgt
        · exact hhead member hmember

/-- A member whose name comes last is put in at the end. -/
theorem insert_eq_append (h : ∀ member ∈ members, member.1 < name) :
    insert name value members = members ++ [(name, value)] := by
  induction members with
  | nil => rfl
  | cons head members ih =>
    have hhead : head.1 < name := h head List.mem_cons_self
    rw [insert, if_neg (ne_of_gt hhead), if_neg (lt_asymm hhead),
      ih fun member hmember => h member (List.mem_cons_of_mem _ hmember)]
    rfl

/-! ## Putting in many -/

/-- Members that are put in one after the other are in order. -/
theorem pairwise_foldl_insert (members : List (String × Json)) {sorted : List (String × Json)}
    (h : sorted.Pairwise Precedes) :
    (members.foldl (fun sorted member => insert member.1 member.2 sorted) sorted).Pairwise
      Precedes := by
  induction members generalizing sorted with
  | nil => exact h
  | cons member members ih => exact ih (pairwise_insert h)

/-- The members after some are put in: new ones, and old ones. -/
theorem mem_foldl_insert {member : String × Json} {sorted : List (String × Json)}
    (h : member ∈ members.foldl (fun sorted member => insert member.1 member.2 sorted) sorted) :
    member ∈ members ∨ member ∈ sorted := by
  induction members generalizing sorted with
  | nil => exact Or.inr h
  | cons head members ih =>
    rcases ih h with h | h
    · exact Or.inl (List.mem_cons_of_mem _ h)
    · rcases mem_insert h with rfl | h
      · exact Or.inl List.mem_cons_self
      · exact Or.inr h

/-- Members of different names are found as they were put in. -/
theorem find?_foldl_insert (name : String) {sorted : List (String × Json)}
    (h : (members.map Prod.fst).Nodup) :
    find? name (members.foldl (fun sorted member => insert member.1 member.2 sorted) sorted) =
      (find? name members).or (find? name sorted) := by
  induction members generalizing sorted with
  | nil => rfl
  | cons head members ih =>
    obtain ⟨hhead, hmembers⟩ := List.nodup_cons.mp h
    rw [List.foldl_cons, ih hmembers]
    obtain ⟨other, value⟩ := head
    rw [find?_cons]
    by_cases hname : other = name
    · subst hname
      rw [if_pos rfl, find?_eq_none_of_not_mem hhead, find?_insert_self]
      rfl
    · rw [if_neg hname, find?_insert_of_ne hname]

end TxGateway.Json
