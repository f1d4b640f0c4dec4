import Mathlib
import Signpost.Proofs.MatchCounts
import Signpost.Proofs.RowCounts

/-!
# One entry for each rule

A tally has one entry for each rule at the most: counting replaces the entry
of a rule or adds the first one, and putting a batch back is counting what is
in it. So what is owed to a rule is what is pending for it, and a batch that
is written touches each row once: it adds to the row's count what the batch
has for it, as far as counts of that size have a place in a row.
-/

namespace Signpost

namespace Tally

variable {counts batch : List (Int × Int)} {t : Tally} {rule amount : Int}

/-- No rule has two entries. -/
def IsKeyed (counts : List (Int × Int)) : Prop :=
  (counts.map (·.1)).Nodup

/-! ## Looking up and changing entries -/

section Entries

variable {α : Type} {rule : Int}

theorem value?_cons (x : Int × α) (rest : List (Int × α)) (rule : Int) :
    value? (x :: rest) rule =
      if x.1 = rule then some x.2 else value? rest rule := by
  by_cases h : x.1 = rule <;> simp [value?, h]

theorem value?_cons_self {a : α} (rest : List (Int × α)) :
    value? ((rule, a) :: rest) rule = some a := by
  rw [value?_cons, if_pos rfl]

theorem value?_cons_of_ne {a : α} {id : Int} (h : id ≠ rule)
    (rest : List (Int × α)) :
    value? ((id, a) :: rest) rule = value? rest rule := by
  rw [value?_cons, if_neg h]

theorem value?_eq_none {entries : List (Int × α)}
    (h : rule ∉ entries.map (·.1)) : value? entries rule = none := by
  rw [value?, Option.map_eq_none_iff, List.find?_eq_none]
  intro x hx hid
  rw [beq_iff_eq] at hid
  exact h (List.mem_map.mpr ⟨x, hx, hid⟩)

theorem value?_assign (id : Int) (a : α) (entries : List (Int × α))
    (rule : Int) : value? (assign id a entries) rule =
      if id = rule then some a else value? entries rule := by
  induction entries with
  | nil => exact value?_cons (id, a) [] rule
  | cons x rest ih =>
      rw [assign, value?_cons x]
      by_cases hx : x.1 = id
      · rw [if_pos hx, value?_cons, hx]
        split <;> rfl
      · rw [if_neg hx, value?_cons, ih]
        split
        · next h => rw [if_neg (h ▸ Ne.symm hx)]
        · rfl

theorem value?_release (id : Int) (entries : List (Int × α)) (rule : Int) :
    value? (release id entries) rule =
      if id = rule then none else value? entries rule := by
  induction entries with
  | nil => exact (ite_self _).symm
  | cons x rest ih =>
      rw [release, List.filter_cons, value?_cons x]
      by_cases hx : x.1 = id
      · rw [if_neg (by simpa using hx), hx, ← release, ih]
        split <;> rfl
      · rw [if_pos (by simpa using hx), value?_cons, ← release, ih]
        split
        · next h => rw [if_neg (h ▸ Ne.symm hx)]
        · rfl

end Entries

/-! ## What is owed under one entry each -/

theorem owed_eq_zero (h : rule ∉ counts.map (·.1)) : owed rule counts = 0 := by
  induction counts with
  | nil => rfl
  | cons x rest ih =>
      rw [List.map_cons, List.mem_cons, not_or] at h
      rw [owed, if_neg (Ne.symm h.1), ih h.2, Int.add_zero]

/-- What is owed to a rule is the amount of its one entry. -/
theorem IsKeyed.owed_eq (h : IsKeyed counts) (rule : Int) :
    owed rule counts = (value? counts rule).getD 0 := by
  induction counts with
  | nil => rfl
  | cons x rest ih =>
      obtain ⟨hx, hrest⟩ := List.nodup_cons.mp h
      rw [owed]
      by_cases hid : x.1 = rule
      · rw [if_pos hid, owed_eq_zero (hid ▸ hx), ← hid, value?_cons_self]
        exact Int.add_zero x.2
      · rw [if_neg hid, value?_cons_of_ne hid, ih hrest, Int.zero_add]

theorem keys_assign (rule amount : Int) (counts : List (Int × Int)) :
    (assign rule amount counts).map (·.1) =
      if rule ∈ counts.map (·.1) then counts.map (·.1)
      else counts.map (·.1) ++ [rule] := by
  induction counts with
  | nil => rfl
  | cons x rest ih =>
      rw [assign]
      by_cases hid : x.1 = rule
      · simp [hid]
      · rw [if_neg hid, List.map_cons, ih]
        by_cases hmem : rule ∈ rest.map (·.1)
        · rw [if_pos hmem, List.map_cons, if_pos (List.mem_cons_of_mem _ hmem)]
        · rw [if_neg hmem, List.map_cons, if_neg, List.cons_append]
          exact fun h => (List.mem_cons.mp h).elim (fun h => hid h.symm) hmem

theorem IsKeyed.count (h : IsKeyed t.counts) (rule amount : Int) :
    IsKeyed (t.count rule amount).counts := by
  rw [IsKeyed, Tally.count, keys_assign]
  split
  · exact h
  · next hnew =>
      refine List.nodup_append.mpr ⟨h, List.nodup_singleton rule, ?_⟩
      intro a ha b hb hab
      rw [hab, List.mem_singleton.mp hb] at ha
      exact hnew ha

theorem IsKeyed.requeue (h : IsKeyed t.counts) (batch : List (Int × Int)) :
    IsKeyed (t.requeue batch).counts := by
  induction batch generalizing t with
  | nil => exact h
  | cons x rest ih =>
      have hone : IsKeyed (t.requeueOne x.1 x.2).counts := by
        rw [requeueOne]
        split
        · exact h
        · exact h.count x.1 x.2
      exact ih hone

end Tally

/-! ## Writing a batch -/

namespace Rule

/-- The rule with what a batch has for it added to its count. -/
def credit (batch : List (Int × Int)) (r : Rule) : Rule :=
  { r with
    matchCount :=
      match Tally.value? batch r.id with
      | some amount => sumCounts r.matchCount amount
      | none => r.matchCount }

variable {r : Rule}

theorem credit_eq {batch : List (Int × Int)} (h : Tally.IsKeyed batch)
    (hcount : hasPlace r.matchCount = true)
    (hsum : hasPlace (r.matchCount + Tally.owed r.id batch) = true) :
    r.credit batch =
      { r with matchCount := r.matchCount + Tally.owed r.id batch } := by
  rw [h.owed_eq] at hsum ⊢
  rw [credit]
  cases hvalue : Tally.value? batch r.id with
  | none => rw [Option.getD_none, Int.add_zero]
  | some amount =>
      rw [hvalue, Option.getD_some] at hsum
      dsimp only
      rw [Option.getD_some, sumCounts_of_hasPlace hcount hsum]

/-- Whatever batches were credited so far, the count has a place in the row. -/
def HasRoom (batches : List (List (Int × Int))) (r : Rule) : Prop :=
  ∀ past, past <+: batches →
    hasPlace (r.matchCount + (past.map (Tally.owed r.id)).sum) = true

instance (batches : List (List (Int × Int))) (r : Rule) :
    Decidable (r.HasRoom batches) :=
  decidable_of_iff (∀ past ∈ batches.inits,
      hasPlace (r.matchCount + (past.map (Tally.owed r.id)).sum) = true)
    (forall_congr' fun past => by rw [List.mem_inits])

/-- Batches that are credited one after the other add up in the count. -/
theorem HasRoom.foldl_credit {batches : List (List (Int × Int))}
    (h : r.HasRoom batches) (hkeyed : ∀ batch ∈ batches, Tally.IsKeyed batch) :
    batches.foldl (fun r batch => r.credit batch) r =
      { r with matchCount :=
          r.matchCount + (batches.map (Tally.owed r.id)).sum } := by
  induction batches generalizing r with
  | nil =>
      rw [List.map_nil, List.sum_nil, Int.add_zero]
      rfl
  | cons batch rest ih =>
      obtain ⟨hbatch, hrest⟩ := List.forall_mem_cons.mp hkeyed
      have hcount := h [] List.nil_prefix
      have hsum := h [batch] (List.prefix_append [batch] rest)
      rw [List.map_nil, List.sum_nil, Int.add_zero] at hcount
      rw [List.map_singleton, List.sum_singleton] at hsum
      have hroom : HasRoom rest
          { r with matchCount := r.matchCount + Tally.owed r.id batch } := by
        intro past hpast
        have hlonger := h (batch :: past)
          ((List.prefix_cons_inj batch).mpr hpast)
        rwa [List.map_cons, List.sum_cons, ← Int.add_assoc] at hlonger
      rw [List.foldl_cons, credit_eq hbatch hcount hsum, ih hroom hrest,
        List.map_cons, List.sum_cons, ← Int.add_assoc]

end Rule

/-- Writing a batch adds to the count of each rule once what the batch has for
it, and changes nothing else. -/
theorem Database.addMatches_eq {batch : List (Int × Int)}
    (h : Tally.IsKeyed batch) (d : Database) :
    d.addMatches batch = { d with
      rules := d.rules.map (·.credit batch) } := by
  induction batch generalizing d with
  | nil =>
      have hnone : Rule.credit [] = id := rfl
      rw [hnone, List.map_id]
      rfl
  | cons x rest ih =>
      obtain ⟨hx, hrest⟩ := List.nodup_cons.mp h
      have hstep : d.addMatches (x :: rest) =
          (d.modifyRule x.1 (·.addMatches x.2)).addMatches rest := rfl
      have hcredit : ∀ r : Rule,
          (if r.id == x.1 then r.addMatches x.2 else r).credit rest =
            r.credit (x :: rest) := by
        intro r
        by_cases hid : r.id = x.1
        · have hnone : Tally.value? rest r.id = none :=
            Tally.value?_eq_none (hid ▸ hx)
          have hsome : Tally.value? (x :: rest) r.id = some x.2 := by
            rw [hid, Tally.value?_cons_self]
          have hsame : (r.addMatches x.2).id = r.id := rfl
          rw [if_pos (beq_iff_eq.mpr hid), Rule.credit, Rule.credit, hsame,
            hnone, hsome]
          rfl
        · rw [if_neg (by simpa using hid), Rule.credit, Rule.credit,
            Tally.value?_cons_of_ne (Ne.symm hid)]
      rw [hstep, ih hrest, modifyRule]
      simp only [List.map_map, Function.comp_def, hcredit]

end Signpost
