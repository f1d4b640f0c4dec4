import Mathlib
import Signpost.Audit
import Signpost.Proofs.JsonText

/-!
# What redaction conceals

Values under the names of secrets are redacted before they are recorded. Two
sets of named fields are told apart by what is recorded of them exactly when
they differ in a name or in a value under a name that is no secret's. So a
secret that is the value of a field cannot be learnt from the trail.

A secret that lies deeper can be. Redaction looks at the names of the fields
and not into their values, so an object that is itself the value of a field is
recorded as it is, with the secrets in it. `Audit.sanitize_conceals_iff` is the
exact rule: the secrets of some fields, however deep they lie, have no say in
what is recorded just when each of them lies under a field of a secret's name.
-/

namespace Signpost

namespace Json

mutual

/-- Two documents agree in everything but the values that stand under the names
of secrets, however deep these lie. -/
def AgreeButForSecrets : Json → Json → Prop
  | .arr items, .arr items' => ItemsAgree items items'
  | .obj members, .obj members' => MembersAgree members members'
  | j, j' => j' = j

def ItemsAgree : List Json → List Json → Prop
  | [], [] => True
  | j :: rest, j' :: rest' => AgreeButForSecrets j j' ∧ ItemsAgree rest rest'
  | _, _ => False

-- Under the name of a secret the values may be any, down to their kind.
def MembersAgree : List (String × Json) → List (String × Json) → Prop
  | [], [] => True
  | (name, j) :: rest, (name', j') :: rest' =>
    name' = name ∧ (Audit.isSensitive name = true ∨ AgreeButForSecrets j j') ∧
      MembersAgree rest rest'
  | _, _ => False

end

/-- The name of a secret occurs in a document, however deep. -/
inductive HoldsSecret : Json → Prop
  | item {items : List Json} {j : Json} (hj : j ∈ items) (h : HoldsSecret j) :
      HoldsSecret (.arr items)
  | name {members : List (String × Json)} {m : String × Json} (hm : m ∈ members)
      (h : Audit.isSensitive m.1 = true) : HoldsSecret (.obj members)
  | value {members : List (String × Json)} {m : String × Json} (hm : m ∈ members)
      (h : HoldsSecret m.2) : HoldsSecret (.obj members)

/-! ## Part by part -/

theorem itemsAgree_iff {items items' : List Json} :
    ItemsAgree items items' ↔ List.Forall₂ AgreeButForSecrets items items' := by
  induction items generalizing items' with
  | nil => cases items' <;> simp [ItemsAgree]
  | cons j rest ih => cases items' <;> simp [ItemsAgree, ih]

theorem membersAgree_iff {members members' : List (String × Json)} :
    MembersAgree members members' ↔
      List.Forall₂ (fun m m' => m'.1 = m.1 ∧
        (Audit.isSensitive m.1 = true ∨ AgreeButForSecrets m.2 m'.2)) members members' := by
  induction members generalizing members' with
  | nil => cases members' <;> simp [MembersAgree]
  | cons m rest ih => cases members' <;> simp [MembersAgree, ih, and_assoc]

theorem agree_arr_iff {items : List Json} {j : Json} :
    AgreeButForSecrets (.arr items) j ↔
      ∃ items', j = .arr items' ∧ List.Forall₂ AgreeButForSecrets items items' := by
  cases j <;> simp [AgreeButForSecrets, itemsAgree_iff]

theorem agree_obj_iff {members : List (String × Json)} {j : Json} :
    AgreeButForSecrets (.obj members) j ↔
      ∃ members', j = .obj members' ∧ MembersAgree members members' := by
  cases j <;> simp [AgreeButForSecrets]

/-- Lists are the same where each member is told apart from every other. -/
theorem eq_of_forall₂ {α : Type} {R : α → α → Prop} {xs ys : List α}
    (h : List.Forall₂ R xs ys) (hx : ∀ x ∈ xs, ∀ y, R x y → y = x) : ys = xs := by
  induction h with
  | nil => rfl
  | cons hfirst _ ih =>
      obtain ⟨hhead, htail⟩ := List.forall_mem_cons.mp hx
      rw [hhead _ hfirst, ih htail]

/-- A document without secrets is told apart from every other. -/
theorem AgreeButForSecrets.eq {j j' : Json} (h : AgreeButForSecrets j j')
    (hj : ¬ j.HoldsSecret) : j' = j := by
  induction j using parts generalizing j' with
  | arr items ih =>
      obtain ⟨items', rfl, hitems⟩ := agree_arr_iff.mp h
      rw [eq_of_forall₂ hitems fun x hx y hy => ih x hx hy fun hsecret =>
        hj (.item hx hsecret)]
  | obj members ih =>
      obtain ⟨members', rfl, hmembers⟩ := agree_obj_iff.mp h
      rw [eq_of_forall₂ (membersAgree_iff.mp hmembers) ?_]
      rintro m hm m' ⟨hname, hsecret | hvalue⟩
      · exact absurd (.name hm hsecret) hj
      · exact Prod.ext hname (ih m hm hvalue fun hsecret => hj (.value hm hsecret))
  | null | bool _ | int _ | float _ | str _ | octets _ => exact h

/-! ## Secrets that are changed -/

mutual

/-- A document with another in the place of each value under the name of a
secret. -/
def covered (cover : Json) : Json → Json
  | .arr items => .arr (coveredItems cover items)
  | .obj members => .obj (coveredMembers cover members)
  | j => j

def coveredItems (cover : Json) : List Json → List Json
  | [] => []
  | j :: rest => covered cover j :: coveredItems cover rest

def coveredMembers (cover : Json) : List (String × Json) → List (String × Json)
  | [] => []
  | (name, j) :: rest =>
    (name, if Audit.isSensitive name then cover else covered cover j) ::
      coveredMembers cover rest

end

variable {cover cover' : Json}

def coveredMember (cover : Json) (m : String × Json) : String × Json :=
  (m.1, if Audit.isSensitive m.1 then cover else covered cover m.2)

theorem covered_arr (items : List Json) :
    covered cover (.arr items) = .arr (items.map (covered cover)) := by
  rw [covered]
  congr 1
  induction items with
  | nil => rfl
  | cons j rest ih => rw [coveredItems, ih, List.map_cons]

theorem coveredMembers_eq (members : List (String × Json)) :
    coveredMembers cover members = members.map (coveredMember cover) := by
  induction members with
  | nil => rfl
  | cons m rest ih => rw [coveredMembers, ih, List.map_cons, coveredMember]

theorem covered_obj (members : List (String × Json)) :
    covered cover (.obj members) = .obj (members.map (coveredMember cover)) := by
  rw [covered, coveredMembers_eq]

/-- Other secrets make no difference to what is no secret. -/
theorem agree_covered (cover j : Json) : AgreeButForSecrets j (covered cover j) := by
  induction j using parts with
  | arr items ih =>
      rw [covered_arr, agree_arr_iff]
      exact ⟨_, rfl, List.forall₂_map_right_iff.mpr (List.forall₂_same.mpr ih)⟩
  | obj members ih =>
      rw [covered_obj, agree_obj_iff]
      refine ⟨_, rfl, membersAgree_iff.mpr ?_⟩
      refine List.forall₂_map_right_iff.mpr (List.forall₂_same.mpr fun m hm => ⟨rfl, ?_⟩)
      rw [coveredMember]
      cases hname : Audit.isSensitive m.1 with
      | true => exact .inl rfl
      | false => exact .inr (ih m hm)
  | null | bool _ | int _ | float _ | str _ | octets _ => rfl

/-- Where there is a secret the document is not the same with another. -/
theorem HoldsSecret.covered_ne {j : Json} (h : j.HoldsSecret) (hne : cover ≠ cover') :
    covered cover j ≠ covered cover' j := by
  induction h with
  | item hj _ ih =>
      rw [covered_arr, covered_arr]
      intro heq
      exact ih (List.map_inj_left.mp (Json.arr.inj heq) _ hj)
  | name hm hname =>
      rw [covered_obj, covered_obj]
      intro heq
      have hmember := List.map_inj_left.mp (Json.obj.inj heq) _ hm
      rw [coveredMember, coveredMember, hname] at hmember
      exact hne (Prod.mk.inj hmember).2
  | @value members m hm _ ih =>
      rw [covered_obj, covered_obj]
      intro heq
      have hmember := List.map_inj_left.mp (Json.obj.inj heq) _ hm
      rw [coveredMember, coveredMember] at hmember
      have hvalue := (Prod.mk.inj hmember).2
      split at hvalue
      · exact hne hvalue
      · exact ih hvalue

/-- Under a name there is what became of its value. -/
theorem lookup_map (f : String → Json → Json) (members : List (String × Json))
    (name : String) :
    lookup (members.map fun m => (m.1, f m.1 m.2)) name =
      (lookup members name).map (f name) := by
  rw [lookup, List.find?_map, Option.map_map, lookup, Option.map_map]
  show Option.map _ (members.find? (·.1 == name)) = _
  cases hfound : members.find? (·.1 == name) with
  | none => rfl
  | some m =>
      have hname : m.1 = name := by simpa using List.find?_some hfound
      simp [hname]

end Json

/-! ## What is recorded -/

namespace Audit

def recordedMember (m : String × Json) : String × Json :=
  (m.1, if isSensitive m.1 then redacted else m.2)

theorem recordedMember_eq_iff {m m' : String × Json} :
    recordedMember m = recordedMember m' ↔
      m'.1 = m.1 ∧ (isSensitive m.1 = true ∨ m'.2 = m.2) := by
  rw [recordedMember, recordedMember, Prod.mk.injEq, eq_comm]
  refine and_congr_right fun hname => ?_
  rw [hname]
  cases isSensitive m.1 with
  | true => simp
  | false => simp [eq_comm]

theorem sanitize_eq (members : List (String × Json)) :
    sanitize members =
      if members.isEmpty then .null else .obj (members.map recordedMember) :=
  rfl

/-- Fields are recorded alike when they have the same names and, under those
that are no secret's, the same values. -/
theorem sanitize_eq_iff {members others : List (String × Json)} :
    sanitize others = sanitize members ↔
      List.Forall₂ (fun m m' => m'.1 = m.1 ∧ (isSensitive m.1 = true ∨ m'.2 = m.2))
        members others := by
  have hmap : sanitize others = sanitize members ↔
      others.map recordedMember = members.map recordedMember := by
    rw [sanitize_eq, sanitize_eq]
    cases members <;> cases others <;> simp
  rw [hmap, eq_comm, ← List.forall₂_eq_eq_eq, List.forall₂_map_left_iff,
    List.forall₂_map_right_iff]
  simp only [recordedMember_eq_iff]

theorem get?_sanitize (members : List (String × Json)) (name : String) :
    (sanitize members).get? name =
      (Json.lookup members name).map fun value =>
        if isSensitive name then redacted else value := by
  rw [sanitize_eq]
  split
  · next hempty =>
      rw [List.isEmpty_iff.mp hempty]
      rfl
  · exact Json.lookup_map (fun n value => if isSensitive n then redacted else value)
      members name

/-- The secrets of fields, however deep they lie, have no say in what is recorded
just when each lies under a field of a secret's name. Names are recorded as
they are, and so are the values under those that are no secret's. -/
theorem sanitize_conceals_iff (members : List (String × Json)) :
    ((∀ others, Json.AgreeButForSecrets (.obj members) (.obj others) →
        sanitize others = sanitize members) ↔
      ∀ m ∈ members, isSensitive m.1 = true ∨ ¬ m.2.HoldsSecret) ∧
    ∀ name, (sanitize members).get? name =
      (Json.lookup members name).map fun value =>
        if isSensitive name then redacted else value := by
  refine ⟨⟨fun h m hm => ?_, fun h others hagree => ?_⟩, get?_sanitize members⟩
  · -- Two other sets of secrets would be told apart below a name that is none.
    rw [or_iff_not_imp_left]
    intro hname hsecret
    have hsame : ∀ cover, sanitize (members.map (Json.coveredMember cover)) =
        sanitize members := fun cover =>
      h _ (Json.covered_obj members ▸ Json.agree_covered cover (.obj members))
    have hvalue : ∀ cover, Json.covered cover m.2 = m.2 := fun cover => by
      have hforall := sanitize_eq_iff.mp (hsame cover)
      rw [List.forall₂_map_right_iff, List.forall₂_same] at hforall
      have hkept := (hforall m hm).2.resolve_left hname
      rwa [Json.coveredMember, if_neg hname] at hkept
    have hne : Json.null ≠ .bool true := nofun
    exact hsecret.covered_ne hne ((hvalue _).trans (hvalue _).symm)
  · obtain ⟨_, hobj, hmembers⟩ := Json.agree_obj_iff.mp hagree
    cases hobj
    refine sanitize_eq_iff.mpr (((List.forall₂_and_left _ _).mpr
      ⟨h, Json.membersAgree_iff.mp hmembers⟩).imp ?_)
    rintro m m' ⟨hplain, hname, hagree⟩
    refine ⟨hname, ?_⟩
    rcases hplain with hsecret | hplain
    · exact .inl hsecret
    · exact hagree.imp_right fun hvalue => hvalue.eq hplain

/-- A field with a token in it. -/
def login (token : String) : List (String × Json) :=
  [("login", .obj [("token", .str token)])]

/-- The token is told apart by what is recorded of the field. -/
theorem not_conceals_login :
    Json.AgreeButForSecrets (.obj (login "abc")) (.obj (login "xyz")) ∧
      sanitize (login "xyz") ≠ sanitize (login "abc") := by
  have hlogin : isSensitive "login" = false := by decide +kernel
  have htoken : isSensitive "token" = true := by decide +kernel
  constructor
  · simp [login, Json.AgreeButForSecrets, Json.MembersAgree, htoken]
  · rw [Ne, sanitize_eq_iff]
    simp [login, hlogin]

end Audit

end Signpost
