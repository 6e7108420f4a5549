import Mathlib.Data.List.Induction
import Admission.Proofs.Text.Case
import Admission.Proofs.Text.Splitting
import Admission.Webhook.Guard

/-!
# The provider that a path ends in

A path ends in its last segment that is not empty, whatever slashes follow it. Providers whose
names are in lower case are found by the lower-case form of that segment alone, so that paths
which differ in nothing but letter case and slashes at their end lead to the same provider.
-/

namespace Admission.Webhook

variable {path other segment : String} {symbols : List Char}

/-- A path ends in a segment: it is not empty and holds no slash, stands at the start of the path
or behind a slash, and nothing but slashes follows it. -/
structure EndsIn (path segment : String) : Prop where
  filled : segment ≠ ""
  whole : '/' ∉ segment.toList
  placed : ∃ front count,
    path.toList = front ++ segment.toList ++ List.replicate count '/' ∧
      (front = [] ∨ ∃ before, front = before ++ ['/'])

/-- Paths that differ in nothing but letter case and slashes at their end. -/
def Alike (path other : String) : Prop :=
  ∃ count otherCount, (Text.lowerAscii path).toList ++ List.replicate count '/' =
    (Text.lowerAscii other).toList ++ List.replicate otherCount '/'

/-- The last part between slashes that is not empty. -/
def lastPart? (symbols : List Char) : Option (List Char) :=
  (Text.split '/' symbols).reverse.find? fun segment => !segment.isEmpty

theorem lastSegment?_eq (path : String) :
    lastSegment? path = (lastPart? path.toList).map String.ofList := rfl

/-- Slashes at the end of a path do not count. -/
theorem lastPart?_append_slashes (symbols : List Char) (count : Nat) :
    lastPart? (symbols ++ List.replicate count '/') = lastPart? symbols := by
  induction count with
  | zero => rw [List.replicate_zero, List.append_nil]
  | succ count inductionHypothesis =>
      rw [List.replicate_succ', ← List.append_assoc, lastPart?, Text.split_append_separator,
        Text.split, List.reverse_append]
      exact inductionHypothesis

/-- A path has the segment for its last that it ends in. -/
theorem EndsIn.lastSegment?_eq (ends : EndsIn path segment) :
    lastSegment? path = some segment := by
  obtain ⟨front, count, shape, place⟩ := ends.placed
  have filled : segment.toList.isEmpty = false := by
    simpa [List.isEmpty_eq_false_iff] using ends.filled
  have alone : Text.split '/' segment.toList = [segment.toList] :=
    Text.split_of_notMem ends.whole
  have last : lastPart? (front ++ segment.toList) = some segment.toList := by
    rcases place with rfl | ⟨before, rfl⟩
    · rw [List.nil_append, lastPart?, alone]
      simp [filled]
    · rw [List.append_assoc, List.singleton_append, lastPart?, Text.split_append_separator,
        alone, List.reverse_append]
      simp [filled]
  rw [Webhook.lastSegment?_eq, shape, lastPart?_append_slashes, last, Option.map_some,
    String.ofList_toList]

/-- A character that is no slash begins a segment at the start of a path or behind a slash. -/
theorem endsIn_symbol {symbol : Char} (other : symbol ≠ '/')
    (place : symbols = [] ∨ ∃ before, symbols = before ++ ['/']) :
    EndsIn (String.ofList (symbols ++ [symbol])) (String.ofList [symbol]) where
  filled := by simp [← String.toList_inj]
  whole := by simpa using Ne.symm other
  placed := ⟨symbols, 0, by simp, place⟩

/-- A path ends in some segment, unless it is nothing but slashes. -/
theorem exists_endsIn_or_slashes (symbols : List Char) :
    (∃ segment, EndsIn (String.ofList symbols) segment) ∨
      ∃ count, symbols = List.replicate count '/' := by
  induction symbols using List.reverseRecOn with
  | nil => exact .inr ⟨0, rfl⟩
  | append_singleton symbols symbol inductionHypothesis =>
      by_cases slash : symbol = '/'
      · subst slash
        rcases inductionHypothesis with ⟨segment, filled, whole, front, count, shape, place⟩ |
          ⟨count, rfl⟩
        · refine .inl ⟨segment, filled, whole, front, count + 1, ?_, place⟩
          rw [String.toList_ofList] at shape ⊢
          rw [shape, List.replicate_succ', List.append_assoc]
        · exact .inr ⟨count + 1, List.replicate_succ'.symm⟩
      · left
        rcases inductionHypothesis with ⟨segment, filled, whole, front, count, shape, place⟩ |
          ⟨count, rfl⟩
        · rw [String.toList_ofList] at shape
          cases count with
          | zero =>
              -- The character goes on with the segment.
              refine ⟨String.ofList (segment.toList ++ [symbol]), ?_, ?_, front, 0, ?_, place⟩
              · rw [ne_eq, ← String.toList_inj, String.toList_ofList]
                exact List.append_ne_nil_of_right_ne_nil _ (List.cons_ne_nil _ _)
              · simpa using ⟨whole, Ne.symm slash⟩
              · rw [List.replicate_zero, List.append_nil] at shape ⊢
                rw [String.toList_ofList, String.toList_ofList, shape, List.append_assoc]
          | succ count =>
              rw [List.replicate_succ', ← List.append_assoc] at shape
              exact ⟨_, endsIn_symbol slash (.inr ⟨_, shape⟩)⟩
        · cases count with
          | zero => exact ⟨_, endsIn_symbol slash (.inl rfl)⟩
          | succ count => exact ⟨_, endsIn_symbol slash (.inr ⟨_, List.replicate_succ'⟩)⟩

/-- The last segment of a path is the one that it ends in. -/
theorem lastSegment?_eq_some_iff : lastSegment? path = some segment ↔ EndsIn path segment := by
  constructor
  · intro found
    rcases exists_endsIn_or_slashes path.toList with ⟨last, ends⟩ | ⟨count, shape⟩
    · rw [String.ofList_toList] at ends
      rw [ends.lastSegment?_eq, Option.some.injEq] at found
      exact found ▸ ends
    · have none : lastPart? (List.replicate count '/') = none := lastPart?_append_slashes [] count
      rw [lastSegment?_eq, shape, none] at found
      cases found
  · exact EndsIn.lastSegment?_eq

/-- The last segment of a path in lower case is that segment in lower case. -/
theorem lastSegment?_lowerAscii (path : String) :
    lastSegment? (Text.lowerAscii path) = (lastSegment? path).map Text.lowerAscii := by
  have keeps (symbol : Char) : symbol.toLower = '/' ↔ symbol = '/' := by
    have slash : '/'.toNat = 47 := rfl
    rw [← Char.toNat_inj, ← Char.toNat_inj, Text.toNat_toLower, slash]
    split <;> omega
  have empty (segment : List Char) : (segment.map Char.toLower).isEmpty = segment.isEmpty := by
    cases segment <;> rfl
  rw [lastSegment?_eq, lastSegment?_eq, Text.lowerAscii, String.toList_ofList, lastPart?, lastPart?,
    Text.split_map keeps, ← List.map_reverse, List.find?_map, Option.map_map, Option.map_map]
  simp only [Function.comp_def, empty, Text.lowerAscii, String.toList_ofList]

/-- Paths that are alike end in one segment up to the case of letters. -/
theorem Alike.lastSegment? (alike : Alike path other) :
    (lastSegment? path).map Text.lowerAscii = (lastSegment? other).map Text.lowerAscii := by
  obtain ⟨count, otherCount, same⟩ := alike
  rw [← lastSegment?_lowerAscii, ← lastSegment?_lowerAscii, lastSegment?_eq, lastSegment?_eq,
    ← lastPart?_append_slashes _ count, same, lastPart?_append_slashes]

/-- Providers in lower case are found by the lower-case form of the last segment. -/
theorem providerSecret?_eq {providers : List String} (secretName : String → String)
    (lowered : ∀ provider ∈ providers, Text.lowerAscii provider = provider) (path : String) :
    providerSecret? (providers.map fun provider => (provider, secretName provider)) path =
      ((Webhook.lastSegment? path).map Text.lowerAscii).bind fun provider =>
        if provider ∈ providers then some (secretName provider) else none := by
  cases found : Webhook.lastSegment? path with
  | none => simp [providerSecret?, found]
  | some segment =>
      have sought : providers.find? (fun provider => Text.sameIgnoringCase provider segment) =
          if Text.lowerAscii segment ∈ providers then some (Text.lowerAscii segment) else none := by
        have same (provider : String) (among : provider ∈ providers) :
            Text.sameIgnoringCase provider segment = true ↔
              provider = Text.lowerAscii segment := by
          rw [Text.sameIgnoringCase, beq_iff_eq, lowered provider among]
        cases hit : providers.find? fun provider => Text.sameIgnoringCase provider segment with
        | none =>
            rw [if_neg]
            exact fun among => List.find?_eq_none.mp hit _ among ((same _ among).mpr rfl)
        | some provider =>
            have among := List.mem_of_find?_eq_some hit
            have satisfied : Text.sameIgnoringCase provider segment = true := by
              simpa only using List.find?_some hit
            obtain rfl := (same provider among).mp satisfied
            rw [if_pos among]
      simp only [providerSecret?, found, Option.bind_eq_bind, Option.bind_some, Option.map_some,
        List.find?_map, Function.comp_def, sought]
      split <;> rfl

end Admission.Webhook
