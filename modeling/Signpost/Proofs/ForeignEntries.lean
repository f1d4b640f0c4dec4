import Signpost.Proofs.CacheTransparency

/-!
# What the cache can do to a redirection

Anything may lie under the keys of a cache that others can write to. Entries
of rules do no harm: whatever becomes of them, the visitor is sent to the
fallback. An entry of a link is read before there is a fallback, and nearly
everything that is wrong with it only makes it a miss. Three things do not.
Octets that are no UTF-8 stop a client that decodes before anyone has them. A
document that is nested too deep stops the reader and not only the reading.
And an expiry that says its offset from universal time passes the check but
cannot be compared with a clock that has none.

An expiry that comes from a row has no offset, so nothing else is left that a
redirection can fail with, as long as the store can be read, but that the link
is unknown or has expired.
-/

namespace Signpost

/-! ## Expiries -/

theorem LinkEntry.isExpired?_eq_none_iff {e : LinkEntry} {now : Clock} :
    e.isExpired? (.naive now) = none ↔
      ∃ m, e.expiresAt = some m ∧ m.offset.isSome = true := by
  rw [isExpired?]
  cases e.expiresAt with
  | none => simp
  | some m =>
      cases hoffset : m.offset <;>
        simp [Moment.before?, Moment.naive, hoffset]

/-- The expiry of a row can be compared with the clock. -/
theorem Link.isExpired?_entry (l : Link) (now : Clock) :
    l.entry.isExpired? (.naive now) ≠ none := by
  intro hnone
  obtain ⟨m, hm, hoffset⟩ := LinkEntry.isExpired?_eq_none_iff.mp hnone
  obtain ⟨clock, -, rfl⟩ := Option.map_eq_some_iff.mp hm
  cases hoffset

/-! ## Documents that are nested too deep -/

namespace Json

theorem readValue_brackets (rest : List Char) (levels : Nat) :
    ∀ fuel : Nat, 2 * levels < fuel →
      readValue fuel levels (List.replicate (levels + 1) '[' ++ rest) =
        .error (.tooDeep .array) := by
  induction levels with
  | zero =>
      intro fuel hfuel
      obtain ⟨fuel, rfl⟩ := Nat.exists_eq_succ_of_ne_zero hfuel.ne'
      rfl
  | succ levels ih =>
      intro fuel hfuel
      obtain ⟨fuel, rfl⟩ : ∃ n, fuel = n + 2 := ⟨fuel - 2, by omega⟩
      have hinner := ih fuel (by omega)
      have hitems : readItems (fuel + 1) levels
          (List.replicate (levels + 1) '[' ++ rest) =
            .error (.tooDeep .array) := by
        rw [readItems, hinner]
        rfl
      have hgap : skipGap (List.replicate (levels + 1) '[' ++ rest) =
          List.replicate (levels + 1) '[' ++ rest := skipGap_cons rfl
      rw [List.replicate_succ, List.cons_append, readValue, if_neg (by decide),
        if_pos rfl, if_neg (Nat.succ_ne_zero levels), hgap,
        Nat.add_sub_cancel]
      split
      · next hclosed => cases hclosed
      · rw [hitems]
        rfl

/-- A text that opens more arrays than may lie within each other is not read,
whatever else is in it. -/
theorem read_brackets (rest : List Char) :
    read (List.replicate (maxLevels + 1) '[' ++ rest) =
      .error (.tooDeep .array) := by
  have hgap : skipGap (List.replicate (maxLevels + 1) '[' ++ rest) =
      List.replicate (maxLevels + 1) '[' ++ rest := skipGap_cons rfl
  have hvalue := readValue_brackets rest maxLevels
    (2 * (List.replicate (maxLevels + 1) '[' ++ rest).length + 2)
    (by rw [List.length_append, List.length_replicate]; omega)
  have htext : readText maxLevels (List.replicate (maxLevels + 1) '[' ++ rest) =
      .error (.tooDeep .array) := by
    rw [readText, hgap, hvalue]
    rfl
  have hmark : (List.replicate (maxLevels + 1) '[' ++ rest).head? ≠
      some (Char.ofNat 0xFEFF) := by
    rw [List.replicate_succ, List.cons_append, List.head?_cons]
    decide
  rw [read, if_neg hmark, readDecoded, htext]

end Json

/-! ## Octets that write no text -/

namespace Cache

/-- What lies under a key. -/
def raw? (c : Cache) (key : String) : Option Raw :=
  (c.entries.find? (·.1 == key)).map (·.2.1)

theorem Raw.read_eq_illFormed_iff {decodes : Bool} {raw : Raw} {d : Text.IllFormed} :
    raw.read decodes = .error (.illFormed d) ↔
      decodes = true ∧ ∃ bytes, raw = .octets bytes ∧ Text.illFormed? bytes = some d := by
  have hlater : ∀ raw : Raw, raw.document.mapError Unreadable.tooDeep ≠
      .error (.illFormed d) := by
    intro raw h
    cases hdocument : raw.document <;> rw [hdocument] at h <;> cases h
  cases decodes with
  | false => exact iff_of_false (hlater raw) (by simp)
  | true =>
      rw [and_iff_right rfl]
      cases raw with
      | text s => exact iff_of_false (hlater (.text s)) (by simp)
      | other j => exact iff_of_false (hlater (.other j)) (by simp)
      | octets bytes =>
          have hread : (Raw.octets bytes).read true =
              ((Raw.octets bytes).decoded.mapError .illFormed >>= fun handed =>
                handed.document.mapError .tooDeep) := rfl
          rw [hread, Raw.decoded]
          simp only [octets.injEq, exists_eq_left']
          cases hill : Text.illFormed? bytes with
          | some d' =>
              show Except.error (Unreadable.illFormed d') = _ ↔ _
              simp
          | none => exact iff_of_false (hlater _) (by simp)

/-- Octets cannot be had from a client that decodes and finds no text in them,
while the cache is up. -/
theorem get_eq_illFormed_iff {c : Cache} {key : String} {d : Text.IllFormed} :
    c.get key = .error (.illFormed d) ↔
      c.isUp = true ∧ c.decodes = true ∧
        ∃ bytes, c.raw? key = some (.octets bytes) ∧ Text.illFormed? bytes = some d := by
  rw [get, raw?]
  cases c.entries.find? (·.1 == key) with
  | none => simp
  | some found =>
      obtain ⟨k, raw, ttl⟩ := found
      dsimp only [Option.map_some]
      split
      · next hup =>
          rw [and_iff_right hup]
          simp only [Option.some.injEq]
          rw [← Raw.read_eq_illFormed_iff]
          cases raw.read c.decodes <;> simp [Except.map]
      · next hdown => exact iff_of_false (by simp) fun h => hdown h.1

end Cache

/-! ## Redirections -/

/-- A redirection is answered: there is somewhere to send the visitor, or the
link is unknown or has expired. -/
inductive Service.IsAnswered (slug : String) : Except Failure Redirection → Prop
  | sent (r : Redirection) : IsAnswered slug (.ok r)
  | unknown : IsAnswered slug (.error (.refused (.slugNotFound slug)))
  | expired : IsAnswered slug (.error (.refused (.slugExpired slug)))

/-- What lies under a slug can be read, and is no link whose expiry says its
offset. -/
structure Cache.IsHarmless (c : Cache) (slug : String) : Prop where
  readable : ∀ u, c.get (slugKey slug) ≠ .error u
  comparable : ∀ e, c.link? slug = .ok (some e) →
    ∀ m, e.expiresAt = some m → m.offset = none

namespace Service

variable {s : Service} {slug : String} {f : Failure}

/-- A redirection fails only where its link is looked up. -/
theorem resolve_error_iff (v : Visitor) :
    (s.resolve slug v).1 = .error f ↔ (s.findLink slug).1 = .error f := by
  cases hfound : s.findLink slug with
  | mk result s' =>
      cases result with
      | error g =>
          rw [resolve, hfound]
          constructor <;>
            · intro h
              cases h
              rfl
      | ok e =>
          rw [resolve_of_findLink hfound]
          constructor <;>
            · intro h
              cases h

theorem unexpired_error {e : LinkEntry} (h : s.unexpired slug e = .error f) :
    f = .refused (.slugExpired slug) ∨
      f = .noOrder ∧ e.isExpired? (.naive s.now) = none := by
  rw [unexpired] at h
  split at h
  · cases h
  · cases h
    exact .inl rfl
  · next hnone =>
      cases h
      exact .inr ⟨rfl, hnone⟩

theorem findLink_of_unreadable {u : Cache.Unreadable}
    (h : s.cache.get (Cache.slugKey slug) = .error u) :
    (s.findLink slug).1 = .error (.unreadable u) := by
  have hlink : s.cache.link? slug = .error u := by
    rw [Cache.link?, h]
    rfl
  rw [findLink, hlink]

theorem findLink_of_noOrder {e : LinkEntry} {m : Moment}
    (hlink : s.cache.link? slug = .ok (some e)) (hm : e.expiresAt = some m)
    (hoffset : m.offset.isSome = true) :
    (s.findLink slug).1 = .error .noOrder := by
  have hnone : e.isExpired? (.naive s.now) = none :=
    LinkEntry.isExpired?_eq_none_iff.mpr ⟨m, hm, hoffset⟩
  rw [findLink, hlink]
  dsimp only
  rw [unexpired, hnone]

section

variable
  (hread : ∀ g, (s.consult (Plan.query (.linkBySlug slug))).1 ≠ .error g)
include hread

/-- All that looking up a link can fail with while the store can be read. -/
theorem findLink_error (h : (s.findLink slug).1 = .error f) :
    (f = .refused (.slugNotFound slug) ∨ f = .refused (.slugExpired slug)) ∨
      (∃ u, f = .unreadable u ∧
        s.cache.get (Cache.slugKey slug) = .error u) ∨
      f = .noOrder ∧ ∃ e m, s.cache.link? slug = .ok (some e) ∧
        e.expiresAt = some m ∧ m.offset.isSome = true := by
  rw [findLink] at h
  split at h
  · next u hlink =>
      cases h
      refine .inr (.inl ⟨u, rfl, ?_⟩)
      rw [Cache.link?] at hlink
      cases hget : s.cache.get (Cache.slugKey slug) with
      | error u' =>
          rw [hget] at hlink
          cases hlink
          rfl
      | ok found =>
          rw [hget] at hlink
          cases hlink
  · next e hlink =>
      rcases unexpired_error h with hexpired | ⟨hnoOrder, hnone⟩
      · exact .inl (.inr hexpired)
      · obtain ⟨m, hm, hoffset⟩ := LinkEntry.isExpired?_eq_none_iff.mp hnone
        exact .inr (.inr ⟨hnoOrder, e, m, hlink, hm, hoffset⟩)
  · split at h
    · next g s' hasked =>
        exact absurd (congrArg Prod.fst hasked) (hread g)
    · cases h
      exact .inl (.inl rfl)
    · next l s' hasked =>
        rcases unexpired_error h with hexpired | ⟨-, hnone⟩
        · exact .inl (.inr hexpired)
        · exact absurd hnone (l.isExpired?_entry _)

theorem resolve_unreadable_iff (v : Visitor) (u : Cache.Unreadable) :
    (s.resolve slug v).1 = .error (.unreadable u) ↔
      s.cache.get (Cache.slugKey slug) = .error u := by
  rw [resolve_error_iff]
  refine ⟨fun h => ?_, findLink_of_unreadable⟩
  rcases findLink_error hread h with (hf | hf) | ⟨_, hf, hget⟩ | ⟨hf, -⟩
  · cases hf
  · cases hf
  · cases hf
    exact hget
  · cases hf

theorem resolve_noOrder_iff (v : Visitor) :
    (s.resolve slug v).1 = .error .noOrder ↔
      ∃ e m, s.cache.link? slug = .ok (some e) ∧ e.expiresAt = some m ∧
        m.offset.isSome = true := by
  rw [resolve_error_iff]
  constructor
  · intro h
    rcases findLink_error hread h with (hf | hf) | ⟨_, hf, -⟩ | ⟨-, hentry⟩
    · cases hf
    · cases hf
    · cases hf
    · exact hentry
  · rintro ⟨e, m, hlink, hm, hoffset⟩
    exact findLink_of_noOrder hlink hm hoffset

theorem isAnswered_of_isHarmless (h : s.cache.IsHarmless slug) (v : Visitor) :
    IsAnswered slug (s.resolve slug v).1 := by
  cases hresult : (s.resolve slug v).1 with
  | ok r => exact .sent r
  | error f =>
      rcases findLink_error hread ((resolve_error_iff v).mp hresult) with
        (rfl | rfl) | ⟨u, -, hget⟩ | ⟨-, e, m, hlink, hm, hoffset⟩
      · exact .unknown
      · exact .expired
      · exact absurd hget (h.readable u)
      · rw [h.comparable e hlink m hm] at hoffset
        cases hoffset

end

/-- While the store can be read, a redirection is answered unless what the
cache holds of the link is nested too deep, is octets in which a client that
decodes finds no text, or has an expiry with an offset. Those three fail every
visitor of the link, and nothing that the cache holds of its rules fails
anybody. -/
theorem isAnswered_iff
    (hread : ∀ f, (s.consult (Plan.query (.linkBySlug slug))).1 ≠ .error f)
    (v : Visitor) :
    (IsAnswered slug (s.resolve slug v).1 ↔ s.cache.IsHarmless slug) ∧
    (∀ nest, (s.resolve slug v).1 = .error (.unreadable (.tooDeep nest)) ↔
      s.cache.get (Cache.slugKey slug) = .error (.tooDeep nest)) ∧
    (∀ d, (s.resolve slug v).1 = .error (.unreadable (.illFormed d)) ↔
      s.cache.isUp = true ∧ s.cache.decodes = true ∧
        ∃ bytes, s.cache.raw? (Cache.slugKey slug) = some (.octets bytes) ∧
          Text.illFormed? bytes = some d) ∧
    ((s.resolve slug v).1 = .error .noOrder ↔
      ∃ e m, s.cache.link? slug = .ok (some e) ∧ e.expiresAt = some m ∧
        m.offset.isSome = true) := by
  have hunreadable := resolve_unreadable_iff hread v
  have hnoOrder := resolve_noOrder_iff hread v
  refine ⟨⟨fun h => ⟨fun u hget => ?_, fun e hlink m hm => ?_⟩,
    fun h => isAnswered_of_isHarmless hread h v⟩, fun nest => hunreadable _,
    fun d => (hunreadable _).trans Cache.get_eq_illFormed_iff, hnoOrder⟩
  · have hfails := (hunreadable u).mpr hget
    rw [hfails] at h
    cases h
  · by_contra hoffset
    have hfails := hnoOrder.mpr
      ⟨e, m, hlink, hm, Option.ne_none_iff_isSome.mp hoffset⟩
    rw [hfails] at h
    cases h

/-- The service with one link, something else under its key in the cache, and a
client that decodes. -/
def withEntry (raw : Cache.Raw) : Service :=
  { withLink with
    cache := (Cache.empty true true).putRaw (Cache.slugKey "go") raw }

/-- A document of the wrong shape is as good as none. -/
theorem isAnswered_withEntry :
    (∀ f, ((withEntry (.text "[1, 2]")).consult
      (Plan.query (.linkBySlug "go"))).1 ≠ .error f) ∧
    IsAnswered "go" ((withEntry (.text "[1, 2]")).resolve "go" stranger).1 := by
  have hread : ∀ f, ((withEntry (.text "[1, 2]")).consult
      (Plan.query (.linkBySlug "go"))).1 ≠ .error f := fun f h => by cases h
  have hget : (withEntry (.text "[1, 2]")).cache.get (Cache.slugKey "go") =
      .ok (some (.arr [.int 1, .int 2])) := by
    rfl
  have hlink : (withEntry (.text "[1, 2]")).cache.link? "go" = .ok none := by
    rw [Cache.link?, hget]
    rfl
  refine ⟨hread, (isAnswered_iff hread stranger).1.mpr ⟨?_, ?_⟩⟩
  · intro u h
    rw [hget] at h
    cases h
  · intro e h
    rw [hlink] at h
    cases h

/-- The link in the cache, with an expiry in universal time. -/
def universalEntry : LinkEntry :=
  ⟨1, "go", "https://a.example.com", 1, some (.universal ⟨0⟩), false, none⟩

/-- A text that opens one array more than may lie within each other. -/
def brackets : String :=
  String.ofList (List.replicate (Json.maxLevels + 1) '[')

/-- The link can be read from the store, but neither an entry with an expiry
in universal time nor one that is nested too deep nor an octet that starts no
character lets it come to that. -/
theorem not_isAnswered_withEntry :
    (∀ raw f, ((withEntry raw).consult (Plan.query (.linkBySlug "go"))).1 ≠
      .error f) ∧
    ¬ IsAnswered "go" ((withEntry (.text universalEntry.toCache.write)).resolve
      "go" stranger).1 ∧
    ¬ IsAnswered "go"
      ((withEntry (.text brackets)).resolve "go" stranger).1 ∧
    ¬ IsAnswered "go"
      ((withEntry (.octets [0xFF])).resolve "go" stranger).1 := by
  have hlink : (withEntry (.text universalEntry.toCache.write)).cache.link?
      "go" = .ok (some universalEntry) := by
    decide +kernel
  have hget : (withEntry (.text brackets)).cache.get (Cache.slugKey "go") =
      .error (.tooDeep .array) := by
    have hfound : (withEntry (.text brackets)).cache.get
        (Cache.slugKey "go") =
          (Cache.Raw.read true (.text brackets)).map Cache.notNull := rfl
    have hread := Json.read_brackets []
    rw [List.append_nil] at hread
    rw [hfound, Cache.read_text, brackets, String.toList_ofList, hread]
    rfl
  have hoctet : (withEntry (.octets [0xFF])).cache.get (Cache.slugKey "go") =
      .error (.illFormed ⟨0, [0xFF], .start⟩) :=
    Cache.get_eq_illFormed_iff.mpr ⟨rfl, rfl, [0xFF], rfl, by decide +kernel⟩
  refine ⟨fun raw f h => ?_, fun h => ?_, fun h => ?_, fun h => ?_⟩
  · cases h
  · rw [(resolve_error_iff stranger).mpr
      (findLink_of_noOrder hlink rfl rfl)] at h
    cases h
  · rw [(resolve_error_iff stranger).mpr (findLink_of_unreadable hget)] at h
    cases h
  · rw [(resolve_error_iff stranger).mpr (findLink_of_unreadable hoctet)] at h
    cases h

end Service

end Signpost
