import Mathlib
import Signpost.Proofs.JsonText

/-!
# Documents that stay as they are

A document that was written and read once has no halves left to join and no
name twice, so it comes back as it is from then on. That it is exact, not too
high and without numbers that are not finite is not lost on the way. This is
what makes a cache of documents faithful: what is put there was read before.
-/

namespace Signpost

namespace Json

theorem settledItems_eq (items : List Json) :
    settledItems items = items.map settled := by
  induction items with
  | nil => rfl
  | cons j rest ih => rw [settledItems, ih]; rfl

/-- A member as it is after it was written and read. -/
def settledMember (m : String × Json) : String × Json :=
  (String.ofList (Text.joinHalves m.1.toList), m.2.settled)

theorem settledMembers_eq (members : List (String × Json)) :
    settledMembers members = members.map settledMember := by
  induction members with
  | nil => rfl
  | cons m rest ih => rw [settledMembers, ih]; rfl

/-- A short integer is exact. -/
theorem isExact_int_of_lt {n : Int} (h : n.natAbs < 10 ^ 19) :
    (Json.int n).IsExact := by
  have hdigits := (Nat.length_toDigits_le_iff (by omega : 1 < 10)
    (by omega : 0 < 19)).mpr h
  exact hdigits.trans (by decide)

theorem heightOfItems_le_iff {items : List Json} {n : Nat} :
    heightOfItems items ≤ n ↔ ∀ j ∈ items, j.height ≤ n := by
  induction items with
  | nil => simp [heightOfItems]
  | cons j rest ih => rw [heightOfItems, Nat.max_le, ih, List.forall_mem_cons]

theorem heightOfMembers_le_iff {members : List (String × Json)} {n : Nat} :
    heightOfMembers members ≤ n ↔ ∀ m ∈ members, m.2.height ≤ n := by
  induction members with
  | nil => simp [heightOfMembers]
  | cons m rest ih =>
      rw [heightOfMembers, Nat.max_le, ih, List.forall_mem_cons]

/-! ## Names that occur once -/

theorem mem_put {name : String} {value : Json} {m : String × Json}
    {members : List (String × Json)} (h : m ∈ put name value members) :
    m = (name, value) ∨ m ∈ members := by
  induction members with
  | nil => exact .inl (List.mem_singleton.mp h)
  | cons x rest ih =>
      obtain ⟨n, v⟩ := x
      rw [put] at h
      split at h
      · next heq =>
          rcases List.mem_cons.mp h with rfl | h
          · exact .inl (by rw [heq])
          · exact .inr (by simp [h])
      · rcases List.mem_cons.mp h with rfl | h
        · exact .inr (by simp)
        · exact (ih h).imp_right (by simp +contextual)

theorem put_names {name : String} {value : Json}
    (members : List (String × Json)) :
    (put name value members).map (·.1) =
      if name ∈ members.map (·.1) then members.map (·.1)
      else members.map (·.1) ++ [name] := by
  induction members with
  | nil => rfl
  | cons x rest ih =>
      obtain ⟨n, v⟩ := x
      rw [put]
      split
      · next heq => simp [heq]
      · next hne =>
          rw [List.map_cons, ih]
          have hne' : ¬ name = n := fun h => hne h.symm
          by_cases hmem : name ∈ rest.map (·.1) <;> simp_all

theorem foldl_put_spec (members : List (String × Json)) :
    ∀ {kept : List (String × Json)}, (kept.map (·.1)).Nodup →
      ((members.foldl (fun kept m => put m.1 m.2 kept) kept).map
        (·.1)).Nodup ∧
      ∀ m ∈ members.foldl (fun kept m => put m.1 m.2 kept) kept,
        m ∈ kept ∨ m ∈ members := by
  induction members with
  | nil =>
      intro kept hkept
      exact ⟨hkept, fun m hm => .inl hm⟩
  | cons x rest ih =>
      intro kept hkept
      have hput : ((put x.1 x.2 kept).map (·.1)).Nodup := by
        rw [put_names]
        split
        · exact hkept
        · next hnew =>
            rw [← List.concat_eq_append]
            exact hkept.concat hnew
      obtain ⟨hnodup, hmem⟩ := ih hput
      refine ⟨hnodup, fun m hm => ?_⟩
      rcases hmem m hm with hm | hm
      · rcases mem_put hm with rfl | hm
        · exact .inr (by simp)
        · exact .inl hm
      · exact .inr (by simp [hm])

theorem ofMembers_nodup (members : List (String × Json)) :
    ((ofMembers members).map (·.1)).Nodup := by
  have hnil : (([] : List (String × Json)).map (·.1)).Nodup := List.nodup_nil
  exact (foldl_put_spec members hnil).1

theorem mem_of_mem_ofMembers {members : List (String × Json)}
    {m : String × Json} (h : m ∈ ofMembers members) : m ∈ members := by
  have hnil : (([] : List (String × Json)).map (·.1)).Nodup := List.nodup_nil
  rcases (foldl_put_spec members hnil).2 m h with h | h
  · cases h
  · exact h

theorem put_of_new {name : String} {value : Json}
    {members : List (String × Json)} (h : name ∉ members.map (·.1)) :
    put name value members = members ++ [(name, value)] := by
  induction members with
  | nil => rfl
  | cons x rest ih =>
      obtain ⟨n, v⟩ := x
      rw [List.map_cons, List.mem_cons, not_or] at h
      rw [put, if_neg fun heq => h.1 heq.symm, ih h.2]
      rfl

/-- Members with a name each are members as they are. -/
theorem ofMembers_of_nodup {members : List (String × Json)}
    (h : (members.map (·.1)).Nodup) : ofMembers members = members := by
  have hfold : ∀ rest kept : List (String × Json),
      ((kept ++ rest).map (·.1)).Nodup →
      rest.foldl (fun kept m => put m.1 m.2 kept) kept = kept ++ rest := by
    intro rest
    induction rest with
    | nil => intro kept _; simp
    | cons x rest ih =>
        intro kept hnodup
        have hnew : x.1 ∉ kept.map (·.1) := by
          intro hmem
          rw [List.map_append, List.map_cons] at hnodup
          exact (List.nodup_append.mp hnodup).2.2 _ hmem _ (by simp) rfl
        rw [List.foldl_cons, put_of_new hnew, ih]
        · simp
        · simpa using hnodup
  exact hfold members [] h

/-! ## Settled documents -/

theorem settled_str (s : String) : (Json.str s).settled =
    .str (String.ofList (Text.joinHalves s.toList)) := rfl

theorem settled_arr (items : List Json) :
    (Json.arr items).settled = .arr (items.map settled) := by
  rw [settled, settledItems_eq]

theorem settled_obj (members : List (String × Json)) :
    (Json.obj members).settled =
      .obj (ofMembers (members.map settledMember)) := by
  rw [settled, settledMembers_eq]

/-- What was written and read once stays as it is. -/
theorem settled_settled (j : Json) : j.settled.settled = j.settled := by
  induction j using parts with
  | str s =>
      rw [settled_str, settled_str, String.toList_ofList,
        Text.joinHalves_joinHalves]
  | arr items ih =>
      rw [settled_arr, settled_arr, List.map_map]
      exact congrArg _ (List.map_congr_left ih)
  | obj members ih =>
      have hstays : ∀ m ∈ ofMembers (members.map settledMember),
          settledMember m = m := by
        intro m hm
        obtain ⟨x, hx, rfl⟩ := List.mem_map.mp (mem_of_mem_ofMembers hm)
        rw [settledMember, settledMember, String.toList_ofList,
          Text.joinHalves_joinHalves, ih x hx]
      rw [settled_obj, settled_obj, List.map_congr_left hstays, List.map_id',
        ofMembers_of_nodup (ofMembers_nodup _)]
  | null => rfl
  | bool b => rfl
  | int i => rfl
  | float x => rfl
  | octets bytes => rfl

theorem settledMember_settledMember (m : String × Json) :
    settledMember (settledMember m) = settledMember m := by
  rw [settledMember, settledMember, String.toList_ofList,
    Text.joinHalves_joinHalves, settled_settled]

theorem IsExact.settled {j : Json} (h : j.IsExact) : j.settled.IsExact := by
  induction j using parts with
  | arr items ih =>
      rw [settled_arr]
      refine itemsExact_iff.mpr fun j hj => ?_
      obtain ⟨x, hx, rfl⟩ := List.mem_map.mp hj
      exact ih x hx (itemsExact_iff.mp h x hx)
  | obj members ih =>
      rw [settled_obj]
      refine membersExact_iff.mpr fun m hm => ?_
      obtain ⟨x, hx, rfl⟩ := List.mem_map.mp (mem_of_mem_ofMembers hm)
      exact ih x hx (membersExact_iff.mp h x hx)
  | str s => trivial
  | null => trivial
  | bool b => trivial
  | int i => exact h
  | float x => exact h
  | octets bytes => exact h

theorem height_settled (j : Json) : j.settled.height ≤ j.height := by
  induction j using parts with
  | arr items ih =>
      rw [settled_arr, height, height]
      refine Nat.succ_le_succ (heightOfItems_le_iff.mpr fun j hj => ?_)
      obtain ⟨x, hx, rfl⟩ := List.mem_map.mp hj
      exact (ih x hx).trans (heightOfItems_le_iff.mp (Nat.le_refl _) x hx)
  | obj members ih =>
      rw [settled_obj, height, height]
      refine Nat.succ_le_succ (heightOfMembers_le_iff.mpr fun m hm => ?_)
      obtain ⟨x, hx, rfl⟩ := List.mem_map.mp (mem_of_mem_ofMembers hm)
      exact (ih x hx).trans (heightOfMembers_le_iff.mp (Nat.le_refl _) x hx)
  | str s => exact Nat.le_refl _
  | null => exact Nat.le_refl _
  | bool b => exact Nat.le_refl _
  | int i => exact Nat.le_refl _
  | float x => exact Nat.le_refl _
  | octets bytes => exact Nat.le_refl _

/-- A settled object has every name once, and settled names and values. -/
theorem settledMember_of_settled {members : List (String × Json)}
    (h : (Json.obj members).settled = .obj members) :
    (members.map (·.1)).Nodup ∧ ∀ m ∈ members, settledMember m = m := by
  rw [settled_obj, obj.injEq] at h
  refine ⟨h ▸ ofMembers_nodup _, fun m hm => ?_⟩
  rw [← h] at hm
  obtain ⟨x, -, rfl⟩ := List.mem_map.mp (mem_of_mem_ofMembers hm)
  exact settledMember_settledMember x

/-! ## Numbers that are not finite -/

theorem finitizedList_eq (items : List Json) :
    finitizedList items = items.map finitized := by
  induction items with
  | nil => rfl
  | cons j rest ih => rw [finitizedList, ih]; rfl

/-- A member with null for each number that is not finite. -/
def finitizedMember (m : String × Json) : String × Json :=
  (m.1, m.2.finitized)

theorem finitizedMembers_eq (members : List (String × Json)) :
    finitizedMembers members = members.map finitizedMember := by
  induction members with
  | nil => rfl
  | cons m rest ih => rw [finitizedMembers, ih]; rfl

theorem finitized_arr (items : List Json) :
    (Json.arr items).finitized = .arr (items.map finitized) := by
  rw [finitized, finitizedList_eq]

theorem finitized_obj (members : List (String × Json)) :
    (Json.obj members).finitized = .obj (members.map finitizedMember) := by
  rw [finitized, finitizedMembers_eq]

/-- An exact document has no number that is not finite. -/
theorem finitized_of_isExact {j : Json} (h : j.IsExact) : j.finitized = j := by
  induction j using parts with
  | arr items ih =>
      have hstays : items.map finitized = items.map id :=
        List.map_congr_left fun j hj => ih j hj (itemsExact_iff.mp h j hj)
      rw [finitized_arr, hstays, List.map_id]
  | obj members ih =>
      have hstays : members.map finitizedMember = members.map id := by
        refine List.map_congr_left fun m hm => ?_
        rw [finitizedMember, ih m hm (membersExact_iff.mp h m hm)]
        rfl
      rw [finitized_obj, hstays, List.map_id]
  | float x => exact h.elim
  | str s => rfl
  | null => rfl
  | bool b => rfl
  | int i => rfl
  | octets bytes => rfl

theorem IsLegible.finitized {j : Json} (h : j.IsLegible) :
    j.finitized.IsLegible := by
  induction j using parts with
  | arr items ih =>
      rw [finitized_arr]
      refine itemsLegible_iff.mpr fun j hj => ?_
      obtain ⟨x, hx, rfl⟩ := List.mem_map.mp hj
      exact ih x hx (itemsLegible_iff.mp h x hx)
  | obj members ih =>
      rw [finitized_obj]
      refine membersLegible_iff.mpr fun m hm => ?_
      obtain ⟨x, hx, rfl⟩ := List.mem_map.mp hm
      exact ih x hx (membersLegible_iff.mp h x hx)
  | float x =>
      rw [Json.finitized]
      split <;> trivial
  | str s => trivial
  | null => trivial
  | bool b => trivial
  | int i => exact h
  | octets bytes => exact h

theorem height_finitized (j : Json) : j.finitized.height ≤ j.height := by
  induction j using parts with
  | arr items ih =>
      rw [finitized_arr, height, height]
      refine Nat.succ_le_succ (heightOfItems_le_iff.mpr fun j hj => ?_)
      obtain ⟨x, hx, rfl⟩ := List.mem_map.mp hj
      exact (ih x hx).trans (heightOfItems_le_iff.mp (Nat.le_refl _) x hx)
  | obj members ih =>
      rw [finitized_obj, height, height]
      refine Nat.succ_le_succ (heightOfMembers_le_iff.mpr fun m hm => ?_)
      obtain ⟨x, hx, rfl⟩ := List.mem_map.mp hm
      exact (ih x hx).trans (heightOfMembers_le_iff.mp (Nat.le_refl _) x hx)
  | float x =>
      rw [finitized]
      split <;> exact Nat.le_refl _
  | str s => exact Nat.le_refl _
  | null => exact Nat.le_refl _
  | bool b => exact Nat.le_refl _
  | int i => exact Nat.le_refl _
  | octets bytes => exact Nat.le_refl _

/-- What is settled stays so without its numbers that are not finite. -/
theorem settled_finitized {j : Json} (h : j.settled = j) :
    j.finitized.settled = j.finitized := by
  induction j using parts with
  | arr items ih =>
      rw [settled_arr, arr.injEq] at h
      have hitems : ∀ x ∈ items, x.settled = x :=
        List.map_inj_left.mp (h.trans (List.map_id items).symm)
      rw [finitized_arr, settled_arr, List.map_map]
      exact congrArg _ (List.map_congr_left fun x hx => ih x hx (hitems x hx))
  | obj members ih =>
      obtain ⟨hnames, hstays⟩ := settledMember_of_settled h
      have hmembers : (members.map finitizedMember).map settledMember =
          members.map finitizedMember := by
        rw [List.map_map]
        refine List.map_congr_left fun m hm => ?_
        obtain ⟨hname, hvalue⟩ := Prod.mk.inj (hstays m hm)
        show (String.ofList (Text.joinHalves m.1.toList),
          m.2.finitized.settled) = (m.1, m.2.finitized)
        rw [hname, ih m hm hvalue]
      rw [finitized_obj, settled_obj, hmembers, ofMembers_of_nodup]
      rw [List.map_map]
      exact hnames
  | float x =>
      rw [finitized]
      split <;> rfl
  | str s => exact h
  | null => rfl
  | bool b => rfl
  | int i => rfl
  | octets bytes => rfl

end Json

end Signpost
