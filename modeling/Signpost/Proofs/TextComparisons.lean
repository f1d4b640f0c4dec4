import Mathlib
import Signpost.Proofs.CaseAndBlanks
import Signpost.Proofs.FailClosed

/-!
# Comparing texts

How conditions on an attribute come out. An attribute that is absent decides
before the operand is looked at, and a text is compared with the operand's once
both are trimmed and in lower case.

Membership in a list is nothing of its own: it is comparison with each text of
the list, joined by or for `isIn` and by and for `notIn`.

A visitor's text should satisfy a condition that names the very same text. It
does for all attributes but the country, which is in upper case before it is
trimmed and in lower case, while the text of the condition is not: a country
satisfies a condition on itself only if upper case leaves no trace in lower
case. `Visitor.matchesItself_iff` is the whole rule.
-/

namespace Signpost

/-- Whether a visitor satisfies a condition on an attribute. -/
def Visitor.satisfies (v : Visitor) (a : Attribute) (op : Operator)
    (expected : OneOrMany String) : Bool :=
  (StoredCondition.checked (.onAttribute a op expected)).holds v

/-- A comparison with each of some texts, joined. -/
def StoredConditions.each (connective : Connective) (a : Attribute) (op : Operator)
    (texts : List String) : StoredConditions where
  connective := .str connective.name
  items := texts.map fun x => .checked (.onAttribute a op (.one x))

namespace Evaluation

variable {actual : List Char} {texts : List String}

theorem compareText_isIn_texts (h : texts ≠ []) :
    compareText actual .isIn (.arr (texts.map .str)) =
      .ok (texts.any fun x => actual == foldText x.toList) := by
  have hsome : ¬ (candidates (.arr (texts.map .str))).isEmpty = true := by
    simpa [candidates] using h
  rw [compareText, if_neg hsome, candidates, isAmong_texts]
  rfl

theorem compareText_notIn_texts (h : texts ≠ []) :
    compareText actual .notIn (.arr (texts.map .str)) =
      .ok (texts.all fun x => actual != foldText x.toList) := by
  have hsome : ¬ (candidates (.arr (texts.map .str))).isEmpty = true := by
    simpa [candidates] using h
  rw [compareText, if_neg hsome, candidates, isAmong_texts]
  exact congrArg Except.ok List.not_any_eq_all_not

end Evaluation

open Evaluation

namespace Visitor

variable {v : Visitor} {a : Attribute} {op : Operator} {expected : OneOrMany String}
  {s : String} {texts : List String}

/-! ## What an attribute decides -/

theorem satisfies_eq : v.satisfies a op expected =
    match evaluateAttribute v a op (expected.toJson .str) with
    | .ok b => b
    | .error _ => false :=
  rfl

theorem satisfies_of_absent (h : v.signal a = .absent) :
    v.satisfies a op expected = op.isNegated := by
  rw [satisfies_eq, evaluateAttribute, h]

theorem satisfies_of_unreadable (h : v.signal a = .unreadable) :
    v.satisfies a op expected = false := by
  rw [satisfies_eq, evaluateAttribute, h]

theorem satisfies_of_text (h : v.signal a = .text s) {b : Bool}
    (hb : compareText (foldText (prepare a s.toList)) op (expected.toJson .str) = .ok b) :
    v.satisfies a op expected = b := by
  rw [satisfies_eq, evaluateAttribute, h]
  simp only [hb]

/-! ## Lists -/

theorem satisfies_isIn_many (h : texts ≠ []) :
    v.satisfies a .isIn (.many texts) =
      texts.any fun x => v.satisfies a .equals (.one x) := by
  cases ha : v.signal a with
  | absent =>
      simp only [satisfies_of_absent ha]
      exact (List.any_eq_false.mpr fun _ _ => Bool.false_ne_true).symm
  | unreadable =>
      simp only [satisfies_of_unreadable ha]
      exact (List.any_eq_false.mpr fun _ _ => Bool.false_ne_true).symm
  | text s =>
      rw [satisfies_of_text ha (compareText_isIn_texts h)]
      exact congrArg (List.any texts) (funext fun x => (satisfies_of_text ha rfl).symm)

theorem satisfies_notIn_many (h : texts ≠ []) :
    v.satisfies a .notIn (.many texts) =
      texts.all fun x => v.satisfies a .notEquals (.one x) := by
  cases ha : v.signal a with
  | absent =>
      simp only [satisfies_of_absent ha]
      exact (List.all_eq_true.mpr fun _ _ => rfl).symm
  | unreadable =>
      -- No comparison holds either, and there is one.
      obtain ⟨x, hx⟩ := List.exists_mem_of_ne_nil texts h
      simp only [satisfies_of_unreadable ha]
      exact (List.all_eq_false.mpr ⟨x, hx, Bool.false_ne_true⟩).symm
  | text s =>
      rw [satisfies_of_text ha (compareText_notIn_texts h)]
      exact congrArg (List.all texts) (funext fun x => (satisfies_of_text ha rfl).symm)

theorem satisfies_one (h : op = .isIn ∨ op = .notIn) (x : String) :
    v.satisfies a op (.one x) = v.satisfies a op (.many [x]) := by
  rcases h with rfl | rfl
  · rfl
  · rfl

/-- Neither order nor repetition matters in a list. -/
theorem satisfies_many_congr (h : op = .isIn ∨ op = .notIn) (hne : texts ≠ [])
    {others : List String} (hsame : ∀ x, x ∈ others ↔ x ∈ texts) :
    v.satisfies a op (.many others) = v.satisfies a op (.many texts) := by
  have hothers : others ≠ [] := by
    obtain ⟨x, hx⟩ := List.exists_mem_of_ne_nil texts hne
    exact List.ne_nil_of_mem ((hsame x).mpr hx)
  rw [Bool.eq_iff_iff]
  rcases h with rfl | rfl
  · rw [satisfies_isIn_many hne, satisfies_isIn_many hothers, List.any_eq_true, List.any_eq_true]
    exact exists_congr fun x => and_congr_left' (hsame x)
  · rw [satisfies_notIn_many hne, satisfies_notIn_many hothers, List.all_eq_true,
      List.all_eq_true]
    exact forall_congr' fun x => imp_congr_left (hsame x)

theorem satisfies_notIn_eq_not (h : v.signal a = .text s) (hne : texts ≠ []) :
    v.satisfies a .notIn (.many texts) = !v.satisfies a .isIn (.many texts) := by
  rw [satisfies_of_text h (compareText_notIn_texts hne),
    satisfies_of_text h (compareText_isIn_texts hne), List.not_any_eq_all_not]
  rfl

theorem holds_each (h : texts ≠ []) (connective : Connective) :
    (StoredConditions.each connective a op texts).holds v =
      match connective with
      | .any => texts.any fun x => v.satisfies a op (.one x)
      | .all => texts.all fun x => v.satisfies a op (.one x) := by
  have hsome : ((StoredConditions.each connective a op texts).items.map
      (·.holds v)).isEmpty = false := by
    simpa [StoredConditions.each] using h
  have hresults : (StoredConditions.each connective a op texts).items.map (·.holds v) =
      texts.map fun x => v.satisfies a op (.one x) :=
    List.map_map
  rw [StoredConditions.holds, hsome, hresults]
  cases connective with
  | any => exact List.any_map
  | all => exact List.all_map

/-- Membership in a list is comparison with each text of the list, joined by or,
and its negation is comparison joined by and. -/
theorem satisfies_membership (v : Visitor) (a : Attribute) {texts : List String}
    (h : texts ≠ []) :
    (v.satisfies a .isIn (.many texts) =
        (texts.any fun x => v.satisfies a .equals (.one x)) ∧
      v.satisfies a .isIn (.many texts) =
        (StoredConditions.each .any a .equals texts).holds v) ∧
    (v.satisfies a .notIn (.many texts) =
        (texts.all fun x => v.satisfies a .notEquals (.one x)) ∧
      v.satisfies a .notIn (.many texts) =
        (StoredConditions.each .all a .notEquals texts).holds v) ∧
    (∀ op, op = .isIn ∨ op = .notIn →
      (∀ x, v.satisfies a op (.one x) = v.satisfies a op (.many [x])) ∧
      ∀ others : List String, (∀ x, x ∈ others ↔ x ∈ texts) →
        v.satisfies a op (.many others) = v.satisfies a op (.many texts)) ∧
    ∀ s, v.signal a = .text s →
      v.satisfies a .notIn (.many texts) = !v.satisfies a .isIn (.many texts) := by
  refine ⟨⟨satisfies_isIn_many h, ?_⟩, ⟨satisfies_notIn_many h, ?_⟩, ?_, ?_⟩
  · rw [satisfies_isIn_many h, holds_each h]
  · rw [satisfies_notIn_many h, holds_each h]
  · exact fun op hop =>
      ⟨satisfies_one hop, fun others hsame => satisfies_many_congr hop h hsame⟩
  · exact fun s hs => satisfies_notIn_eq_not hs h

/-- A list with a repetition, for a visitor from one of its countries. -/
theorem satisfies_listed_country :
    let v : Visitor := ⟨fun _ => .text " ca", none, .absent, .recorded⟩
    ["US", "CA", "US"] ≠ [] ∧ v.satisfies .country .isIn (.many ["US", "CA", "US"]) = true := by
  intro v
  have hne : ["US", "CA", "US"] ≠ [] := by decide
  refine ⟨hne, ?_⟩
  rw [(satisfies_membership v .country hne).1.1]
  decide +kernel

/-! ## A text and itself -/

/-- A visitor satisfies the conditions on an attribute that name a text, and
does not satisfy those that exclude it. -/
structure MatchesItself (v : Visitor) (a : Attribute) (s : String) : Prop where
  equals : v.satisfies a .equals (.one s) = true
  isIn : v.satisfies a .isIn (.many [s]) = true
  contains : v.satisfies a .contains (.one s) = true
  startsWith : v.satisfies a .startsWith (.one s) = true
  endsWith : v.satisfies a .endsWith (.one s) = true
  notEquals : v.satisfies a .notEquals (.one s) = false
  notIn : v.satisfies a .notIn (.many [s]) = false
  notContains : v.satisfies a .notContains (.one s) = false

theorem occursIn_self (s : List Char) : Text.occursIn s s = true := by
  cases s with
  | nil => rfl
  | cons c rest =>
      rw [Text.occursIn, List.isPrefixOf_iff_prefix.mpr List.prefix_rfl, Bool.true_or]

/-- A text matches itself if the visitor's and the condition's are the same
once they can be compared. -/
theorem matchesItself_iff_foldText (h : v.signal a = .text s) :
    v.MatchesItself a s ↔ foldText (prepare a s.toList) = foldText s.toList := by
  constructor
  · intro hself
    have hequals := hself.equals
    rw [satisfies_of_text h rfl] at hequals
    exact beq_iff_eq.mp hequals
  · intro hsame
    have hcompare : ∀ {op : Operator} {expected : OneOrMany String} {b : Bool},
        compareText (foldText s.toList) op (expected.toJson .str) = .ok b →
        v.satisfies a op expected = b :=
      fun hb => satisfies_of_text h (hsame ▸ hb)
    have hone : [s] ≠ [] := List.cons_ne_nil s []
    refine ⟨hcompare ?_, hcompare ?_, hcompare ?_, hcompare ?_, hcompare ?_, hcompare ?_,
      hcompare ?_, hcompare ?_⟩
    · exact congrArg Except.ok (beq_self_eq_true _)
    · refine (compareText_isIn_texts hone).trans ?_
      simp
    · exact congrArg Except.ok (occursIn_self _)
    · exact congrArg Except.ok (List.isPrefixOf_iff_prefix.mpr List.prefix_rfl)
    · exact congrArg Except.ok (List.isSuffixOf_iff_suffix.mpr List.suffix_rfl)
    · exact congrArg Except.ok (bne_self_eq_false _)
    · refine (compareText_notIn_texts hone).trans ?_
      simp
    · exact congrArg (Except.ok ∘ not) (occursIn_self _)

theorem foldText_prepare_iff (a : Attribute) (s : List Char) :
    foldText (prepare a s) = foldText s ↔
      (a = .country → Text.lower (Text.upper (Text.trim s)) = Text.lower (Text.trim s)) := by
  cases a with
  | country =>
      show Text.lower (Text.trim (Text.upper s)) = Text.lower (Text.trim s) ↔ _
      rw [Text.trim_upper]
      exact ⟨fun h _ => h, fun h => h rfl⟩
  | device =>
      show Text.lower (Text.trim (Text.lower s)) = Text.lower (Text.trim s) ↔ _
      rw [Text.trim_lower, Text.lower_lower]
      exact iff_of_true rfl fun h => nomatch h
  | _ => exact iff_of_true rfl fun h => nomatch h

/-- Texts of ASCII match themselves. -/
theorem matchesItself_of_ascii (h : v.signal a = .text s)
    (hs : ∀ c ∈ s.toList, c.toNat < 0x80) : v.MatchesItself a s := by
  refine (matchesItself_iff_foldText h).mpr ((foldText_prepare_iff a s.toList).mpr fun _ => ?_)
  exact Text.lower_upper_of_ascii fun c hc => hs c (Text.mem_of_mem_trimWhere hc)

/-- The text of every attribute but the country matches itself; that of the
country does if upper case leaves no trace in lower case. -/
theorem matchesItself_iff (h : v.signal a = .text s) :
    v.MatchesItself a s ↔ (a = .country →
      Text.lower (Text.upper (Text.trim s.toList)) = Text.lower (Text.trim s.toList)) :=
  (matchesItself_iff_foldText h).trans (foldText_prepare_iff a s.toList)

theorem matchesItself_country :
    let v : Visitor := ⟨fun _ => .text " \u00c5land", none, .absent, .recorded⟩
    v.signal .country = .text " \u00c5land" ∧ v.MatchesItself .country " \u00c5land" := by
  intro v
  have hsignal : v.signal .country = .text " \u00c5land" := rfl
  exact ⟨hsignal, (matchesItself_iff hsignal).mpr fun _ => by decide +kernel⟩

/-- A sharp s is not the country that it is, but it is its own city. -/
theorem not_matchesItself_sharp_s :
    let v : Visitor := ⟨fun _ => .text "\u00df", none, .absent, .recorded⟩
    ¬ v.MatchesItself .country "\u00df" ∧ v.MatchesItself .city "\u00df" := by
  intro v
  refine ⟨fun hself => ?_, (matchesItself_iff_foldText rfl).mpr rfl⟩
  have hother : v.satisfies .country .equals (.one "\u00df") = false := by decide +kernel
  rw [hself.equals] at hother
  cases hother

end Visitor

end Signpost
