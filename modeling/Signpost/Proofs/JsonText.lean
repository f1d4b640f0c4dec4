import Mathlib
import Signpost.Proofs.JsonNumbers
import Signpost.Proofs.JsonStrings

/-!
# Documents that are written and read

A document is written without anything to choose, and the reader takes what
was written apart again, part by part. The induction is over the document; it
says of each part that the reader finds it at the head of any text that goes
on as the rest of a document would, and leaves that rest.

The reader runs on fuel, and two turns for each character are enough. Left out
are octets, which are written in the form of something else, integers too long
to be taken, and documents nested deeper than the reader goes.
-/

namespace Signpost

namespace Json

/-! ## Documents -/

/-- What holds of a document when it holds of its parts holds of all. -/
@[elab_as_elim]
theorem parts {motive : Json → Prop} (null : motive .null)
    (bool : ∀ b, motive (.bool b)) (int : ∀ i, motive (.int i))
    (float : ∀ x, motive (.float x)) (str : ∀ s, motive (.str s))
    (octets : ∀ bytes, motive (.octets bytes))
    (arr : ∀ items, (∀ j ∈ items, motive j) → motive (.arr items))
    (obj : ∀ members, (∀ m ∈ members, motive m.2) → motive (.obj members))
    (j : Json) : motive j :=
  @Json.rec motive (fun items => ∀ j ∈ items, motive j)
    (fun members => ∀ m ∈ members, motive m.2) (fun m => motive m.2)
    null bool int float str octets arr obj
    (fun _ h => by cases h)
    (fun _ _ hj hrest => List.forall_mem_cons.mpr ⟨hj, hrest⟩)
    (fun _ h => by cases h)
    (fun _ _ hm hrest => List.forall_mem_cons.mpr ⟨hm, hrest⟩)
    (fun _ _ h => h) j

mutual

/-- A document without numbers in double precision, octets, and integers too
long to be taken. -/
def IsExact : Json → Prop
  | .int i => (Nat.toDigits 10 i.natAbs).length ≤ Text.maxDigits
  | .float _ => False
  | .octets _ => False
  | .arr items => ItemsExact items
  | .obj members => MembersExact members
  | _ => True

/-- `IsExact` of each document of a list. -/
def ItemsExact : List Json → Prop
  | [] => True
  | j :: rest => j.IsExact ∧ ItemsExact rest

/-- `IsExact` of each value of members. -/
def MembersExact : List (String × Json) → Prop
  | [] => True
  | (_, j) :: rest => j.IsExact ∧ MembersExact rest

end

mutual

/-- A document that is written so that it can be read again: without octets,
and without integers too long to be taken. -/
def IsLegible : Json → Prop
  | .int i => (Nat.toDigits 10 i.natAbs).length ≤ Text.maxDigits
  | .octets _ => False
  | .arr items => ItemsLegible items
  | .obj members => MembersLegible members
  | _ => True

/-- `IsLegible` of each document of a list. -/
def ItemsLegible : List Json → Prop
  | [] => True
  | j :: rest => j.IsLegible ∧ ItemsLegible rest

/-- `IsLegible` of each value of members. -/
def MembersLegible : List (String × Json) → Prop
  | [] => True
  | (_, j) :: rest => j.IsLegible ∧ MembersLegible rest

end

theorem itemsLegible_iff {items : List Json} :
    ItemsLegible items ↔ ∀ j ∈ items, j.IsLegible := by
  induction items with
  | nil => simp [ItemsLegible]
  | cons j rest ih => rw [ItemsLegible, ih, List.forall_mem_cons]

theorem membersLegible_iff {members : List (String × Json)} :
    MembersLegible members ↔ ∀ m ∈ members, m.2.IsLegible := by
  induction members with
  | nil => simp [MembersLegible]
  | cons m rest ih => rw [MembersLegible, ih, List.forall_mem_cons]

theorem itemsExact_iff {items : List Json} :
    ItemsExact items ↔ ∀ j ∈ items, j.IsExact := by
  induction items with
  | nil => simp [ItemsExact]
  | cons j rest ih => rw [ItemsExact, ih, List.forall_mem_cons]

theorem membersExact_iff {members : List (String × Json)} :
    MembersExact members ↔ ∀ m ∈ members, m.2.IsExact := by
  induction members with
  | nil => simp [MembersExact]
  | cons m rest ih => rw [MembersExact, ih, List.forall_mem_cons]

theorem IsExact.isLegible {j : Json} (h : j.IsExact) : j.IsLegible := by
  induction j using parts with
  | arr items ih =>
      exact itemsLegible_iff.mpr fun j hj =>
        ih j hj (itemsExact_iff.mp h j hj)
  | obj members ih =>
      exact membersLegible_iff.mpr fun m hm =>
        ih m hm (membersExact_iff.mp h m hm)
  | int i => exact h
  | float x => exact h.elim
  | octets bytes => exact h.elim
  | str s => trivial
  | null => trivial
  | bool b => trivial

/-- A document starts with none of the characters that would be taken for
something else. -/
theorem print_cons {j : Json} (h : j.IsLegible) :
    ∃ c more, j.print = c :: more ∧ isGap c = false ∧ c ≠ ']' ∧
      c ≠ Char.ofNat 0xFEFF := by
  have hnumber : ∀ {text : List Char}, IsNumber text j →
      ∃ c more, text = c :: more ∧ isGap c = false ∧ c ≠ ']' ∧
        c ≠ Char.ofNat 0xFEFF := by
    intro text h
    obtain ⟨c, more, hcons, hgap, hmarks⟩ := h.cons
    simp only [List.mem_cons, not_or] at hmarks
    exact ⟨c, more, hcons, hgap, hmarks.1, hmarks.2.2.2.2.1⟩
  cases j with
  | null => exact ⟨'n', _, rfl, by decide⟩
  | bool b =>
      cases b with
      | true => exact ⟨'t', _, rfl, by decide⟩
      | false => exact ⟨'f', _, rfl, by decide⟩
  | int i =>
      rw [print]
      exact hnumber (isNumber_int h)
  | float x =>
      cases x with
      | nan => exact ⟨'N', _, rfl, by decide⟩
      | infinite negative =>
          cases negative with
          | false => exact ⟨'I', _, rfl, by decide⟩
          | true => exact ⟨'-', _, rfl, by decide⟩
      | finite negative mant exp canonical =>
          exact hnumber (isNumber_finite canonical)
  | str s => exact ⟨'"', _, rfl, by decide⟩
  | octets bytes => exact h.elim
  | arr items =>
      cases items with
      | nil => exact ⟨'[', _, by rw [print], by decide⟩
      | cons j rest => exact ⟨'[', _, by rw [print]; rfl, by decide⟩
  | obj members =>
      cases members with
      | nil => exact ⟨'{', _, by rw [print], by decide⟩
      | cons m rest => exact ⟨'{', _, by rw [print]; rfl, by decide⟩

theorem skipGap_cons {c : Char} {rest : List Char} (h : isGap c = false) :
    skipGap (c :: rest) = c :: rest := by
  rw [skipGap, List.dropWhile_cons, h]
  rfl

theorem skipGap_blank (rest : List Char) :
    skipGap (' ' :: rest) = skipGap rest := by
  rw [skipGap, List.dropWhile_cons, if_pos (by decide), skipGap]

theorem skipGap_print {j : Json} (h : j.IsLegible) (rest : List Char) :
    skipGap (j.print ++ rest) = j.print ++ rest := by
  obtain ⟨c, more, heq, hgap, -⟩ := print_cons h
  rw [heq, List.cons_append, skipGap_cons hgap]

/-- What stands at the head of a text where a value is looked for, when it is
neither a string, an array nor an object. -/
theorem readValue_scalar {fuel levels : Nat} {c : Char} {rest : List Char}
    (hquote : c ≠ '"') (harray : c ≠ '[') (hobject : c ≠ '{') :
    readValue (fuel + 1) levels (c :: rest) =
      match readWord? (c :: rest) with
      | some found => .ok found
      | none => readNumber (c :: rest) := by
  rw [readValue]
  cases readWord? (c :: rest) <;>
    simp only [if_neg hquote, if_neg harray, if_neg hobject]

theorem readValue_number {fuel levels : Nat} {text rest : List Char}
    {j : Json} (h : IsNumber text j) (hrest : Follows rest) :
    readValue (fuel + 1) levels (text ++ rest) = .ok (j, rest) := by
  obtain ⟨c, more, hcons, -, hmarks⟩ := h.cons
  have hword := h.readWord? rest
  have hnumber := h.readNumber hrest
  simp only [List.mem_cons, not_or] at hmarks
  rw [hcons, List.cons_append] at hword hnumber ⊢
  rw [readValue_scalar hmarks.2.1 hmarks.2.2.1 hmarks.2.2.2.1, hword, hnumber]

theorem stringText_append (s rest : List Char) :
    stringText s ++ rest = '"' :: (s.flatMap escapeChar ++ '"' :: rest) := by
  simp [stringText]

theorem readValue_string {fuel levels : Nat} (s : String) (rest : List Char) :
    readValue (fuel + 1) levels (stringText s.toList ++ rest) =
      .ok (.str (String.ofList (Text.joinHalves s.toList)), rest) := by
  rw [stringText_append, readValue, if_pos rfl, readString_flatMap]
  rfl

/-- The reader finds a document at the head of any text that goes on as a
document would. -/
def Reads (j : Json) : Prop :=
  ∀ {fuel levels : Nat} {rest : List Char}, j.IsLegible →
    2 * j.print.length ≤ fuel → j.height ≤ levels → Follows rest →
    readValue fuel levels (j.print ++ rest) = .ok (j.settled, rest)

theorem readItems_print : ∀ {items : List Json} {j : Json},
    (∀ x ∈ j :: items, Reads x) →
    ∀ {fuel levels : Nat} {rest : List Char},
      ItemsLegible (j :: items) →
      2 * (j.print.length + (printItems items).length) + 1 ≤ fuel →
      heightOfItems (j :: items) ≤ levels →
      readItems fuel levels (j.print ++ (printItems items ++ rest)) =
        .ok (settledItems (j :: items), rest) := by
  intro items
  induction items with
  | nil =>
      intro j hreads fuel levels rest hlegible hfuel hlevels
      obtain ⟨n, rfl⟩ : ∃ n, fuel = n + 1 := ⟨fuel - 1, by omega⟩
      rw [heightOfItems] at hlevels
      rw [readItems, hreads j (by simp) hlegible.1 (by omega) (by omega)
        fun c hc => by cases hc; simp]
      rfl
  | cons item items ih =>
      intro j hreads fuel levels rest hlegible hfuel hlevels
      obtain ⟨n, rfl⟩ : ∃ n, fuel = n + 1 := ⟨fuel - 1, by omega⟩
      obtain ⟨hj, hitems⟩ := hlegible
      rw [heightOfItems] at hlevels
      have hread : readItems n levels
          (item.print ++ (printItems items ++ rest)) =
          .ok (settledItems (item :: items), rest) := by
        refine ih (fun x hx => hreads x (by simp [List.mem_cons.mp hx]))
          hitems ?_ (by omega)
        simp only [printItems, List.length_append, List.length_cons] at hfuel
        omega
      have htext : printItems (item :: items) ++ rest =
          ',' :: ' ' :: (item.print ++ (printItems items ++ rest)) := by
        simp [printItems]
      rw [readItems, hreads j (by simp) hj (by omega) (by omega)
        fun c hc => by cases hc; simp]
      simp only [bind, Except.bind, htext, skipGap_cons (by decide :
        isGap ',' = false), skipGap_blank, skipGap_print hitems.1, hread]
      rfl

theorem readMembers_print : ∀ {members : List (String × Json)}
    {name : String} {j : Json},
    (∀ m ∈ (name, j) :: members, Reads m.2) →
    ∀ {fuel levels : Nat} {rest : List Char},
      MembersLegible ((name, j) :: members) →
      2 * ((stringText name.toList).length + j.print.length +
        (printMembers members).length + 2) + 1 ≤ fuel →
      heightOfMembers ((name, j) :: members) ≤ levels →
      readMembers fuel levels (stringText name.toList ++
          (':' :: ' ' :: (j.print ++ (printMembers members ++ rest)))) =
        .ok (settledMembers ((name, j) :: members), rest) := by
  intro members
  induction members with
  | nil =>
      intro name j hreads fuel levels rest hlegible hfuel hlevels
      obtain ⟨n, rfl⟩ : ∃ n, fuel = n + 1 := ⟨fuel - 1, by omega⟩
      rw [heightOfMembers] at hlevels
      rw [stringText_append, readMembers]
      simp only [readString_flatMap, bind, Except.bind,
        skipGap_cons (by decide : isGap ':' = false), skipGap_blank,
        skipGap_print hlegible.1]
      have hvalue : Reads j := hreads (name, j) (by simp)
      rw [hvalue hlegible.1 (by omega) (by omega) fun c hc => by cases hc; simp]
      rfl
  | cons m members ih =>
      intro name j hreads fuel levels rest hlegible hfuel hlevels
      obtain ⟨n, rfl⟩ : ∃ n, fuel = n + 1 := ⟨fuel - 1, by omega⟩
      -- The fuel covers what is still to be read, and every member costs some.
      obtain ⟨name', value⟩ := m
      obtain ⟨hj, hmembers⟩ := hlegible
      rw [heightOfMembers] at hlevels
      have hread : readMembers n levels (stringText name'.toList ++
          (':' :: ' ' :: (value.print ++ (printMembers members ++ rest)))) =
          .ok (settledMembers ((name', value) :: members), rest) := by
        refine ih (fun x hx => hreads x (by simp [List.mem_cons.mp hx]))
          hmembers ?_ (by omega)
        simp only [printMembers, List.length_append, List.length_cons] at hfuel
        omega
      have htext : printMembers ((name', value) :: members) ++ rest =
          ',' :: ' ' :: (stringText name'.toList ++ (':' :: ' ' ::
            (value.print ++ (printMembers members ++ rest)))) := by
        simp [printMembers]
      rw [stringText_append] at hread htext
      rw [stringText_append, readMembers]
      simp only [readString_flatMap, bind, Except.bind,
        skipGap_cons (by decide : isGap ':' = false), skipGap_blank,
        skipGap_print hj]
      have hvalue : Reads j := hreads (name, j) (by simp)
      rw [hvalue hj (by omega) (by omega) fun c hc => by cases hc; simp]
      simp only [htext, skipGap_cons (by decide : isGap ',' = false),
        skipGap_blank, skipGap_cons (by decide : isGap '"' = false), hread]
      rfl

theorem reads_arr {items : List Json} (ih : ∀ j ∈ items, Reads j) :
    Reads (.arr items) := by
  intro fuel levels rest hlegible hfuel hlevels hrest
  rw [height] at hlevels
  cases items with
  | nil =>
      rw [print, List.length_cons] at hfuel
      obtain ⟨n, rfl⟩ : ∃ n, fuel = n + 1 := ⟨fuel - 1, by omega⟩
      rw [print, List.cons_append, readValue, if_neg (by decide), if_pos rfl,
        if_neg (by omega)]
      rfl
  | cons item items =>
      obtain ⟨c, more, hhead, hgap, hclose, -⟩ := print_cons hlegible.1
      rw [print, List.length_append, List.length_cons] at hfuel
      obtain ⟨n, rfl⟩ : ∃ n, fuel = n + 1 := ⟨fuel - 1, by omega⟩
      have hread : readItems n (levels - 1)
          (item.print ++ (printItems items ++ rest)) =
          .ok (settledItems (item :: items), rest) :=
        readItems_print ih hlegible (by omega) (by omega)
      rw [hhead, List.cons_append] at hread
      rw [print, List.append_assoc, List.cons_append, hhead, List.cons_append,
        readValue, if_neg (by decide), if_pos rfl, if_neg (by omega),
        skipGap_cons hgap]
      split
      · next after heq => exact absurd (List.cons.inj heq).1 hclose
      · rw [hread]
        rfl

theorem reads_obj {members : List (String × Json)}
    (ih : ∀ m ∈ members, Reads m.2) : Reads (.obj members) := by
  intro fuel levels rest hlegible hfuel hlevels hrest
  rw [height] at hlevels
  cases members with
  | nil =>
      rw [print, List.length_cons] at hfuel
      obtain ⟨n, rfl⟩ : ∃ n, fuel = n + 1 := ⟨fuel - 1, by omega⟩
      rw [print, List.cons_append, readValue, if_neg (by decide),
        if_neg (by decide), if_pos rfl, if_neg (by omega)]
      rfl
  | cons m members =>
      obtain ⟨name, value⟩ := m
      simp only [print, List.length_append, List.length_cons] at hfuel
      obtain ⟨n, rfl⟩ : ∃ n, fuel = n + 1 := ⟨fuel - 1, by omega⟩
      have hread : readMembers n (levels - 1)
          (stringText name.toList ++
            (':' :: ' ' :: (value.print ++ (printMembers members ++ rest)))) =
          .ok (settledMembers ((name, value) :: members), rest) :=
        readMembers_print ih hlegible (by omega) (by omega)
      have htext : (obj ((name, value) :: members)).print ++ rest =
          '{' :: (stringText name.toList ++ (':' :: ' ' ::
            (value.print ++ (printMembers members ++ rest)))) := by
        simp [print]
      rw [stringText_append] at hread htext
      rw [htext, readValue, if_neg (by decide), if_neg (by decide), if_pos rfl,
        if_neg (by omega), skipGap_cons (by decide)]
      split
      · next after heq => cases heq
      · rw [hread]
        rfl

/-- Every document is found where it was written. -/
theorem reads (j : Json) : Reads j := by
  induction j using parts with
  | arr items ih => exact reads_arr ih
  | obj members ih => exact reads_obj ih
  | float x =>
      intro fuel levels rest _ hfuel _ hrest
      obtain ⟨n, rfl⟩ : ∃ n, fuel = n + 1 := ⟨fuel - 1, by
        obtain ⟨c, more, hcons, -⟩ := print_cons (j := .float x) trivial
        rw [hcons, List.length_cons] at hfuel
        omega⟩
      cases x with
      | nan => rfl
      | infinite negative => cases negative <;> rfl
      | finite negative mant exp canonical =>
          exact readValue_number (isNumber_finite canonical) hrest
  | octets bytes => exact fun hlegible => hlegible.elim
  | null =>
      intro fuel levels rest _ hfuel _ _
      obtain ⟨n, rfl⟩ : ∃ n, fuel = n + 1 :=
        ⟨fuel - 1, by simp [print] at hfuel; omega⟩
      rfl
  | bool b =>
      intro fuel levels rest _ hfuel _ _
      obtain ⟨n, rfl⟩ : ∃ n, fuel = n + 1 :=
        ⟨fuel - 1, by cases b <;> simp [print] at hfuel <;> omega⟩
      cases b <;> rfl
  | int i =>
      intro fuel levels rest hlegible hfuel _ hrest
      obtain ⟨c, more, hcons, -⟩ := print_cons hlegible
      rw [hcons, List.length_cons] at hfuel
      obtain ⟨n, rfl⟩ : ∃ n, fuel = n + 1 := ⟨fuel - 1, by omega⟩
      rw [print]
      exact readValue_number (isNumber_int hlegible) hrest
  | str s =>
      intro fuel levels rest _ hfuel _ _
      obtain ⟨n, rfl⟩ : ∃ n, fuel = n + 1 :=
        ⟨fuel - 1, by simp [print, stringText] at hfuel; omega⟩
      exact readValue_string s rest

/-- What was written is read as it was, but for halves that were joined. -/
theorem read_print {j : Json} (hlegible : j.IsLegible)
    (hheight : j.height ≤ maxLevels) : read j.print = .ok j.settled := by
  obtain ⟨c, more, hcons, -, -, hmark⟩ := print_cons hlegible
  have hvalue : readValue (2 * j.print.length + 2) maxLevels
      (j.print ++ []) = .ok (j.settled, []) :=
    reads j hlegible (by omega) hheight fun c hc => by cases hc
  rw [List.append_nil] at hvalue
  have hskip := skipGap_print hlegible []
  rw [List.append_nil] at hskip
  have hhead : j.print.head? ≠ some (Char.ofNat 0xFEFF) := by
    rw [hcons]
    simpa using hmark
  rw [read, if_neg hhead, readDecoded, readText, hskip, hvalue]
  rfl

end Json

end Signpost
