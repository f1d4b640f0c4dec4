import Mathlib
import Signpost.Zone.Names

/-!
# Names of zones stand for zones

Inputs are checked against the names of zones as they are written, while clocks
are read with the zone that a name resolves to, which goes by other rules: up
to case, with spelled-out signs replaced, and for ASCII alone. No name is lost
between the two, because every name of the table is ASCII and none spells out a
sign.
-/

namespace Signpost

namespace Text

/-- A character beyond ASCII has an octet beyond ASCII. -/
theorem toNat_le_of_octets {c : Char}
    (h : ∀ b ∈ String.utf8EncodeChar c, b < 128) : c.toNat ≤ 127 := by
  by_contra hbig
  have hlast : UInt8.ofNat (c.val.toNat % 64 + 128) ∈
      String.utf8EncodeChar c := by
    rw [String.utf8EncodeChar, if_neg (show ¬ c.val.toNat ≤ 127 from hbig)]
    split
    · simp
    · split <;> simp
  have hless := UInt8.lt_iff_toNat_lt.mp (h _ hlast)
  rw [UInt8.toNat_ofNat'] at hless
  have hbound : (128 : UInt8).toNat = 128 := rfl
  omega

/-- Octets of ASCII, which are quicker to go through than the characters they
write, are these characters. -/
theorem octets_of_ascii {s : String} (h : s.toByteArray.data.toList.all (· < 128) = true) :
    (∀ c ∈ s.toList, c.toNat ≤ 127) ∧
      s.toByteArray.data.toList = s.toList.map fun c => UInt8.ofNat c.toNat := by
  rw [← String.utf8Encode_toList, List.utf8Encode, List.toList_data_toByteArray,
    List.all_eq_true] at h
  have hascii : ∀ c ∈ s.toList, c.toNat ≤ 127 := fun c hc =>
    toNat_le_of_octets fun b hb =>
      of_decide_eq_true (h b (List.mem_flatMap.mpr ⟨c, hc, hb⟩))
  refine ⟨hascii, ?_⟩
  have hencode : ∀ c ∈ s.toList, String.utf8EncodeChar c = [UInt8.ofNat c.toNat] := by
    intro c hc
    rw [String.utf8EncodeChar, if_pos (show c.val.toNat ≤ 127 from hascii c hc)]
    rfl
  rw [← String.utf8Encode_toList, List.utf8Encode, List.toList_data_toByteArray,
    List.flatMap_congr hencode, ← List.map_eq_flatMap]

theorem exists_of_occursIn {a b : Char} {more s : List Char}
    (h : occursIn (a :: b :: more) s = true) :
    ∃ before after, s = before ++ a :: b :: after := by
  induction s with
  | nil => cases h
  | cons c rest ih =>
      rw [occursIn, Bool.or_eq_true, List.isPrefixOf_iff_prefix] at h
      rcases h with ⟨after, h⟩ | h
      · exact ⟨[], more ++ after, h.symm⟩
      · obtain ⟨before, after, rfl⟩ := ih h
        exact ⟨c :: before, after, rfl⟩

/-- Where a part does not occur, nothing is replaced. -/
theorem replaceAll_of_not_occursIn {part new s : List Char}
    (h : occursIn part s = false) : replaceAll part new s = s := by
  have hgo : ∀ (fuel : Nat) (s : List Char), occursIn part s = false →
      replaceAll.go part new fuel s = s := by
    intro fuel
    induction fuel with
    | zero => intro s _; cases s <;> rfl
    | succ fuel ih =>
        intro s hs
        cases s with
        | nil => rfl
        | cons c rest =>
            rw [occursIn, Bool.or_eq_false_iff] at hs
            rw [replaceAll.go, hs.1, Bool.and_false, if_neg (by decide), ih rest hs.2]
  exact hgo s.length s h

end Text

namespace Zone

/-- The octets of a name that is ASCII and has no small `m` or `p` behind an
underscore, as spelled-out signs do. -/
def isPlainOctets (octets : List UInt8) : Bool :=
  octets.all (· < 128) &&
    decide (octets.IsChain fun a b => ¬ (a = 95 ∧ (b = 109 ∨ b = 112)))

theorem isPlainOctets_of_isName {name : String} (h : isName name = true) :
    isPlainOctets name.toByteArray.data.toList = true := by
  have hall : all.all (fun z => z.names.all fun name =>
      isPlainOctets name.toByteArray.data.toList) = true := by
    decide +kernel
  obtain ⟨z, hz, hname⟩ := List.any_eq_true.mp h
  exact List.all_eq_true.mp (List.all_eq_true.mp hall z hz) name (by simpa using hname)

theorem toNat_le_of_isName {name : String} (h : isName name = true) :
    ∀ c ∈ name.toList, c.toNat ≤ 127 := by
  have hplain := isPlainOctets_of_isName h
  rw [isPlainOctets, Bool.and_eq_true] at hplain
  exact (Text.octets_of_ascii hplain.1).1

theorem plainName_of_isName {name : String} (h : isName name = true) :
    plainName name.toList = name.toList := by
  have hplain := isPlainOctets_of_isName h
  rw [isPlainOctets, Bool.and_eq_true, decide_eq_true_eq] at hplain
  have hchain := hplain.2
  rw [(Text.octets_of_ascii hplain.1).2] at hchain
  have hsign : ∀ (b : Char) (more : List Char), b = 'm' ∨ b = 'p' →
      Text.occursIn ('_' :: b :: more) name.toList = false := by
    intro b more hb
    by_contra hin
    rw [Bool.not_eq_false] at hin
    obtain ⟨before, after, heq⟩ := Text.exists_of_occursIn hin
    rw [heq, List.map_append, List.map_cons, List.map_cons,
      List.isChain_append_cons_cons] at hchain
    refine hchain.2.1 ⟨by decide, ?_⟩
    rcases hb with rfl | rfl
    · exact .inl (by decide)
    · exact .inr (by decide)
  have hplus : Text.occursIn "_plus_".toList name.toList = false :=
    hsign 'p' _ (.inr rfl)
  have hminus : Text.occursIn "_minus_".toList name.toList = false :=
    hsign 'm' _ (.inl rfl)
  rw [plainName, Text.replaceAll_of_not_occursIn hplus,
    Text.replaceAll_of_not_occursIn hminus]

theorem ne_empty_of_isName {name : String} (h : isName name = true) : name ≠ "" := by
  rintro rfl
  revert h
  decide +kernel

/-- The name of a zone resolves to a zone. -/
theorem resolve?_of_isName {name : String} (h : isName name = true) :
    ∃ z, resolve? name = some z := by
  rw [resolve?]
  split
  · exact ⟨_, rfl⟩
  · have hascii : name.toList.any (0x80 ≤ ·.toNat) = false := by
      rw [List.any_eq_false]
      intro c hc
      have hle := toNat_le_of_isName h c hc
      simp only [decide_eq_true_eq]
      omega
    rw [hascii, if_neg (by decide), plainName_of_isName h]
    obtain ⟨h', hh', hname⟩ := List.any_eq_true.mp h
    have hmem : name ∈ all.flatMap (·.names) :=
      List.mem_flatMap.mpr ⟨h', hh', by simpa using hname⟩
    refine Option.isSome_iff_exists.mp ?_
    rw [Option.isSome_map]
    exact List.find?_isSome.mpr ⟨name, hmem, beq_self_eq_true _⟩

end Zone

end Signpost
