import Mathlib.Data.List.Sort
import Mathlib.Data.String.Basic
import Mathlib.Tactic.Tauto
import Admission.Identity
import Admission.Proofs.Json.Members
import Admission.Proofs.Role.Membership
import Admission.Proofs.Text.Lowercase

/-!
# Canonical role sets

A role names itself: trimming and lowering it again changes nothing. Role sets are sorted without
repetition, so that claims grant the same set whenever they name the same roles, in whichever
shape and order.
-/

namespace Admission.Role

variable {raw role other : String} {roles names texts others : List String} {items : List Json}
  {members : List (String × Json)} {claim : Json}

/-! ## Names of roles -/

/-- A text names the lower-case form of what is left of it after trimming, if anything is. -/
theorem normalize?_eq_some_iff : normalize? raw = some role ↔
    Text.trimSymbols raw.toList ≠ [] ∧
      role.toList = Lowercase.convert [] (Text.trimSymbols raw.toList) := by
  have empty : Text.trim raw = "" ↔ Text.trimSymbols raw.toList = [] := by
    rw [Text.trim, ← String.toList_inj, String.toList_ofList, String.toList_empty]
  unfold normalize?
  simp only [String.isEmpty_iff, empty]
  split
  · simp [*]
  · rename_i filled
    rw [Option.some.injEq, Text.lowercase, Text.trim, String.toList_ofList, ← String.toList_inj,
      String.toList_ofList]
    exact ⟨fun same => ⟨filled, same.symm⟩, fun named => named.2.symm⟩

/-- A text names no role exactly when it is blank. -/
theorem normalize?_eq_none_iff : normalize? raw = none ↔ Text.isBlankText raw = true := by
  rw [Text.isBlankText, List.all_eq_true, ← Text.trimSymbols_eq_nil_iff]
  constructor
  · intro unnamed
    by_contra filled
    have named : normalize? raw =
        some (String.ofList (Lowercase.convert [] (Text.trimSymbols raw.toList))) :=
      normalize?_eq_some_iff.mpr ⟨filled, String.toList_ofList⟩
    rw [unnamed] at named
    cases named
  · intro empty
    rw [Option.eq_none_iff_forall_ne_some]
    intro role named
    exact (normalize?_eq_some_iff.mp named).1 empty

/-- A role names itself. -/
theorem normalize?_role (named : normalize? raw = some role) : normalize? role = some role := by
  obtain ⟨filled, lowered⟩ := normalize?_eq_some_iff.mp named
  have trimmed : Text.trimSymbols role.toList = role.toList := by
    rw [lowered]
    exact Text.trimSymbols_of_trimmed
      (Lowercase.trimmed_convert (Text.trimmed_trimSymbols raw.toList))
  rw [normalize?_eq_some_iff, trimmed]
  constructor
  · rw [lowered]
    exact Lowercase.convert_ne_nil filled
  · rw [lowered, Lowercase.convert_convert]

/-! ## Sorted sets -/

theorem pairwise_insert (sorted : roles.Pairwise (· < ·)) :
    (insert role roles).Pairwise (· < ·) := by
  induction roles with
  | nil => exact List.pairwise_singleton _ _
  | cons first rest inductionHypothesis =>
      obtain ⟨least, rest⟩ := List.pairwise_cons.mp sorted
      unfold insert
      split
      · rename_i before
        refine List.pairwise_cons.mpr ⟨fun other among => ?_, sorted⟩
        rcases List.mem_cons.mp among with rfl | among
        · exact before
        · exact before.trans (least other among)
      · split
        · exact sorted
        · rename_i notBefore different
          refine List.pairwise_cons.mpr ⟨fun other among => ?_, inductionHypothesis rest⟩
          rcases mem_insert.mp among with rfl | among
          · exact lt_of_le_of_ne (not_lt.mp notBefore) (Ne.symm different)
          · exact least other among

/-- The roles that texts name are sorted, without repetition. -/
theorem pairwise_ofTexts (texts : List String) : (ofTexts texts).Pairwise (· < ·) := by
  refine List.foldlRecOn (texts.filterMap normalize?) _ List.Pairwise.nil ?_
  intro roles sorted role _
  exact pairwise_insert sorted

/-- Texts that name the same roles amount to the same set. -/
theorem ofTexts_congr (same : ∀ role, (∃ text ∈ texts, normalize? text = some role) ↔
    ∃ text ∈ others, normalize? text = some role) : ofTexts texts = ofTexts others := by
  refine (pairwise_ofTexts texts).eq_of_mem_iff (pairwise_ofTexts others) fun role => ?_
  rw [mem_ofTexts, mem_ofTexts]
  exact same role

/-! ## Claims -/

theorem mem_claimedTexts_array : raw ∈ claimedTexts (.array items) ↔ .text raw ∈ items := by
  simp only [claimedTexts, List.mem_filterMap, Json.text?_eq_some_iff]
  exact exists_eq_right

theorem mem_claimedTexts_object :
    raw ∈ claimedTexts (.object members) ↔ Json.lookup? members raw = some (.bool true) := by
  simp only [claimedTexts, List.mem_filterMap, ← Json.mem_distinct_iff]
  constructor
  · rintro ⟨⟨name, value⟩, among, granted⟩
    split at granted
    · rename_i truth
      cases granted
      rwa [← Json.bool?_eq_some_iff.mp truth]
    · cases granted
  · intro among
    exact ⟨_, among, rfl⟩

/-- A claim names roles in one of its shapes: as its only text, as the texts of an array in any
order, repeated and among other values, or as the members of an object that are true. Blank
texts do not count. -/
inductive Spells (names : List String) : Json → Prop where
  | alone {name : String} (only : names = [name]) : Spells names (.text name)
  | listed {items : List Json}
      (same : ∀ name, Text.isBlankText name = false → (.text name ∈ items ↔ name ∈ names)) :
      Spells names (.array items)
  | granted {members : List (String × Json)}
      (same : ∀ name, Text.isBlankText name = false →
        (Json.lookup? members name = some (.bool true) ↔ name ∈ names)) :
      Spells names (.object members)

/-- The texts of a claim are the names that it spells, blank ones aside. -/
theorem Spells.mem_claimedTexts (spells : Spells names claim) {name : String}
    (filled : Text.isBlankText name = false) : name ∈ claimedTexts claim ↔ name ∈ names := by
  cases spells with
  | alone only => rw [only, claimedTexts]
  | listed same => rw [mem_claimedTexts_array, same name filled]
  | granted same => rw [mem_claimedTexts_object, same name filled]

/-- A claim grants the roles that the names it spells amount to. -/
theorem Spells.ofClaim_eq (spells : Spells names claim) : ofClaim claim = ofTexts names := by
  refine ofTexts_congr fun role => ?_
  have filled {name : String} (named : normalize? name = some role) :
      Text.isBlankText name = false := by
    rw [← Bool.not_eq_true, ← normalize?_eq_none_iff, named]
    simp
  constructor
  · rintro ⟨name, among, named⟩
    exact ⟨name, (spells.mem_claimedTexts (filled named)).mp among, named⟩
  · rintro ⟨name, among, named⟩
    exact ⟨name, (spells.mem_claimedTexts (filled named)).mpr among, named⟩

theorem ofTexts_append : role ∈ ofTexts (texts ++ others) ↔
    role ∈ ofTexts texts ∨ role ∈ ofTexts others := by
  simp only [mem_ofTexts, List.mem_append, or_and_right, exists_or]

/-- A role that a claim grants names itself. -/
theorem normalize?_of_mem (among : role ∈ ofTexts texts) : normalize? role = some role := by
  obtain ⟨_, _, named⟩ := mem_ofTexts.mp among
  exact normalize?_role named

/-- The roles of a set amount to the set. -/
theorem ofTexts_ofTexts (texts : List String) : ofTexts (ofTexts texts) = ofTexts texts := by
  refine (pairwise_ofTexts _).eq_of_mem_iff (pairwise_ofTexts texts) fun role => ?_
  rw [mem_ofTexts]
  constructor
  · rintro ⟨other, among, named⟩
    rw [normalize?_of_mem among, Option.some.injEq] at named
    exact named ▸ among
  · intro among
    exact ⟨role, among, normalize?_of_mem among⟩

/-- Role sets are canonical. Every claim that spells names grants the same sorted set, that of
the array of these names, and its roles are the ones that the names name; arrays one after the
other grant what they grant together. Every role of a set names itself, so that the set is the
one that its own roles amount to, and an identity that holds the set has all of them. -/
theorem claims_grant_canonical_roles (names : List String) :
    (∀ claim, Spells names claim →
      ofClaim claim = ofClaim (.array (names.map .text)) ∧
        ∀ role, role ∈ ofClaim claim ↔ ∃ name ∈ names, normalize? name = some role) ∧
      (∀ (first second : List Json) role, role ∈ ofClaim (.array (first ++ second)) ↔
        role ∈ ofClaim (.array first) ∨ role ∈ ofClaim (.array second)) ∧
      ∀ claim, (ofClaim claim).Pairwise (· < ·) ∧
        (∀ role ∈ ofClaim claim, normalize? role = some role) ∧
        ofTexts (ofClaim claim) = ofClaim claim ∧
        ∀ identity : Identity, identity.roles = ofClaim claim →
          ∀ role ∈ identity.roles, identity.hasRole role = true := by
  refine ⟨?shapes, ?union, ?canonical⟩
  case shapes =>
    intro claim spells
    have listed : Spells names (.array (names.map .text)) :=
      .listed fun name _ => by simp
    exact ⟨spells.ofClaim_eq.trans listed.ofClaim_eq.symm,
      fun role => by rw [spells.ofClaim_eq, mem_ofTexts]⟩
  case union =>
    intro first second role
    have parts : claimedTexts (.array (first ++ second)) =
        claimedTexts (.array first) ++ claimedTexts (.array second) :=
      List.filterMap_append
    rw [ofClaim, parts, ofTexts_append]
    rfl
  case canonical =>
    intro claim
    refine ⟨pairwise_ofTexts _, fun role => normalize?_of_mem, ofTexts_ofTexts _, ?_⟩
    intro identity held role among
    rw [held] at among
    rw [Identity.hasRole, normalize?_of_mem among, Option.any_some, held]
    exact List.contains_iff_mem.mpr among

namespace Sample

/-- The names of two roles, one of them with a final sigma. -/
def pair : List String := ["Admin", "ΟΔΟΣ"]

/-- The names in an array, repeated and among others. -/
def listed : Json :=
  .array [.text " \t", .text "ΟΔΟΣ", .bool true, .text "Admin", .text "ΟΔΟΣ", .null]

/-- The members that grant them. -/
def flags : List (String × Json) :=
  [("ΟΔΟΣ", .bool false), ("Admin", .bool true), ("staff", .text "true"), ("ΟΔΟΣ", .bool true),
    ("viewer", .bool false)]

/-- A user whom these members grant roles. -/
def identity : Identity where
  uid := "uid"
  email := none
  roles := ofClaim (.object flags)
  locale := none
  claims := []
  token := "token"
  loader := none

theorem spells_listed : Spells pair listed := by
  refine .listed fun name filled => ?_
  have other : name ≠ " \t" := by
    rintro rfl
    exact absurd filled (by decide)
  simp only [List.mem_cons, Json.text.injEq, other, reduceCtorEq, List.not_mem_nil, pair]
  tauto

theorem spells_granted : Spells pair (.object flags) := by
  refine .granted fun name _ => ?_
  have distinct : Json.distinct flags = [("ΟΔΟΣ", .bool true), ("Admin", .bool true),
      ("staff", .text "true"), ("viewer", .bool false)] := by
    simp [Json.distinct, flags]
  rw [← Json.mem_distinct_iff, distinct]
  simp [pair, or_comm]

theorem normalize?_sigma : normalize? "ΟΔΟΣ" = some "οδος" := by decide +kernel

end Sample

open Sample in
/-- Two shapes of a claim grant the same roles, and a user who holds them has the one with a
final sigma. -/
theorem shapes_grant_alike :
    Spells pair listed ∧ Spells pair (.object flags) ∧
      ofClaim listed = ofClaim (.object flags) ∧
      identity.hasRole "οδος" = true := by
  obtain ⟨shapes, _, canonical⟩ := claims_grant_canonical_roles pair
  obtain ⟨alike, _⟩ := shapes listed spells_listed
  obtain ⟨grantedAlike, granted⟩ := shapes (.object flags) spells_granted
  have held : identity.roles = ofClaim (.object flags) := by rw [identity]
  have among : "οδος" ∈ identity.roles := by
    rw [held, granted]
    exact ⟨"ΟΔΟΣ", by simp [pair], normalize?_sigma⟩
  exact ⟨spells_listed, spells_granted, alike.trans grantedAlike.symm,
    (canonical (.object flags)).2.2.2 identity held "οδος" among⟩

end Admission.Role
