import Admission.Bytes.Base64

/-!
# Reading back base64 text

Reading inverts writing in both variants, and writing inverts reading: a text is read as bytes
exactly when it is their written form. The last group of a written form is read apart from the
others, since only there filling symbols may stand.
-/

namespace Admission.Base64

variable {variant : Variant} {value : Nat} {symbol : Char}

theorem value?_symbol (small : value < 64) :
    variant.value? (variant.symbol value) = some value := by
  have all : ∀ index ∈ List.range 64, variant.value? (variant.symbol index) = some index := by
    cases variant <;> decide
  exact all value (List.mem_range.mpr small)

/-- A symbol that has a value is the one that the value is written as. -/
theorem value?_eq_some_iff :
    variant.value? symbol = some value ↔ value < 64 ∧ symbol = variant.symbol value := by
  constructor
  · intro read
    have bounds (first last : Char) : first ≤ symbol ∧ symbol ≤ last ↔
        first.toNat ≤ symbol.toNat ∧ symbol.toNat ≤ last.toNat := Iff.rfl
    have back : Char.ofNat symbol.toNat = symbol := Char.ofNat_toNat symbol
    simp only [Variant.value?, bounds, Char.reduceToNat] at read
    unfold Variant.symbol
    split at read
    · cases read
      rw [if_pos (by omega), Nat.add_sub_cancel' (by omega), back]
      exact ⟨by omega, rfl⟩
    · split at read
      · cases read
        rw [if_neg (by omega), if_pos (by omega), Nat.add_sub_cancel' (by omega), back]
        exact ⟨by omega, rfl⟩
      · split at read
        · cases read
          rw [if_neg (by omega), if_neg (by omega), if_pos (by omega), Nat.add_sub_cancel, back]
          exact ⟨by omega, rfl⟩
        · split at read
          · rename_i written
            cases read
            exact ⟨by decide, written⟩
          · split at read
            · rename_i written
              cases read
              exact ⟨by decide, written⟩
            · cases read
  · rintro ⟨small, rfl⟩
    exact value?_symbol small

/-- No symbol of a value is the filling symbol. -/
theorem symbol_ne_filling (small : value < 64) : variant.symbol value ≠ '=' := by
  have all : ∀ index ∈ List.range 64, variant.symbol index ≠ '=' := by
    cases variant <;> decide
  exact all value (List.mem_range.mpr small)

/-- What holds of every symbol, and of the filling symbol where it is used, holds of every
symbol of a written form. -/
theorem forall_mem_encode {property : Char → Prop}
    (symbols : ∀ value < 64, property (variant.symbol value))
    (filling : variant.padded = true → property '=') (bytes : Bytes) :
    ∀ symbol ∈ encode variant bytes, property symbol := by
  have filled (count : Nat) : ∀ symbol ∈ variant.filling count, property symbol := by
    intro symbol member
    cases variant with
    | standard =>
        obtain rfl := List.eq_of_mem_replicate (show symbol ∈ List.replicate count '=' from member)
        exact filling rfl
    | urlSafe => cases member
  induction bytes using encode.induct with
  | case1 => simp [encode]
  | case2 first =>
      have bound : first.toNat < 256 := first.toNat_lt_size
      simp only [encode, List.forall_mem_cons]
      exact ⟨symbols _ (by omega), symbols _ (by omega), filled 2⟩
  | case3 first second =>
      have firstBound : first.toNat < 256 := first.toNat_lt_size
      have secondBound : second.toNat < 256 := second.toNat_lt_size
      simp only [encode, List.forall_mem_cons]
      exact ⟨symbols _ (by omega), symbols _ (by omega), symbols _ (by omega), filled 1⟩
  | case4 first second third rest inductionHypothesis =>
      have firstBound : first.toNat < 256 := first.toNat_lt_size
      have secondBound : second.toNat < 256 := second.toNat_lt_size
      have thirdBound : third.toNat < 256 := third.toNat_lt_size
      simp only [encode, List.forall_mem_cons]
      exact ⟨symbols _ (by omega), symbols _ (by omega), symbols _ (by omega),
        symbols _ (by omega), inductionHypothesis⟩

/-- The two symbols of a single byte give it back. -/
theorem lastOne?_symbols (first : UInt8) :
    lastOne? variant (variant.symbol (first.toNat * 16 / 64))
      (variant.symbol (first.toNat * 16 % 64)) = some [first] := by
  have bound : first.toNat < 256 := first.toNat_lt_size
  have high : variant.value? (variant.symbol (first.toNat * 16 / 64)) =
      some (first.toNat * 16 / 64) := value?_symbol (by omega)
  have low : variant.value? (variant.symbol (first.toNat * 16 % 64)) =
      some (first.toNat * 16 % 64) := value?_symbol (by omega)
  have joined : first.toNat * 16 / 64 * 64 + first.toNat * 16 % 64 = first.toNat * 16 := by omega
  simp [lastOne?, high, low, joined]

/-- The three symbols of two bytes give them back. -/
theorem lastTwo?_symbols {bits : Nat} (first second : UInt8)
    (spelled : bits = (first.toNat * 256 + second.toNat) * 4) :
    lastTwo? variant (variant.symbol (bits / 4096)) (variant.symbol (bits / 64 % 64))
      (variant.symbol (bits % 64)) = some [first, second] := by
  have firstBound : first.toNat < 256 := first.toNat_lt_size
  have secondBound : second.toNat < 256 := second.toNat_lt_size
  have high : variant.value? (variant.symbol (bits / 4096)) = some (bits / 4096) :=
    value?_symbol (by omega)
  have middle : variant.value? (variant.symbol (bits / 64 % 64)) = some (bits / 64 % 64) :=
    value?_symbol (by omega)
  have low : variant.value? (variant.symbol (bits % 64)) = some (bits % 64) :=
    value?_symbol (by omega)
  have joined : (bits / 4096 * 64 + bits / 64 % 64) * 64 + bits % 64 = bits := by omega
  have noRest : bits % 4 = 0 := by omega
  have firstBack : bits / 1024 = first.toNat := by omega
  have secondBack : bits / 4 % 256 = second.toNat := by omega
  simp [lastTwo?, high, middle, low, joined, noRest, firstBack, secondBack]

/-- The four symbols of three bytes give them back. -/
theorem group?_symbols {bits : Nat} (first second third : UInt8)
    (spelled : bits = (first.toNat * 256 + second.toNat) * 256 + third.toNat) :
    group? variant (variant.symbol (bits / 262144)) (variant.symbol (bits / 4096 % 64))
      (variant.symbol (bits / 64 % 64)) (variant.symbol (bits % 64)) =
        some [first, second, third] := by
  have firstBound : first.toNat < 256 := first.toNat_lt_size
  have secondBound : second.toNat < 256 := second.toNat_lt_size
  have thirdBound : third.toNat < 256 := third.toNat_lt_size
  have high : variant.value? (variant.symbol (bits / 262144)) = some (bits / 262144) :=
    value?_symbol (by omega)
  have upper : variant.value? (variant.symbol (bits / 4096 % 64)) = some (bits / 4096 % 64) :=
    value?_symbol (by omega)
  have lower : variant.value? (variant.symbol (bits / 64 % 64)) = some (bits / 64 % 64) :=
    value?_symbol (by omega)
  have low : variant.value? (variant.symbol (bits % 64)) = some (bits % 64) :=
    value?_symbol (by omega)
  have joined : ((bits / 262144 * 64 + bits / 4096 % 64) * 64 + bits / 64 % 64) * 64 + bits % 64 =
      bits := by omega
  have firstBack : bits / 65536 = first.toNat := by omega
  have secondBack : bits / 256 % 256 = second.toNat := by omega
  have thirdBack : bits % 256 = third.toNat := by omega
  simp [group?, high, upper, lower, low, joined, firstBack, secondBack, thirdBack]

/-- A full group in front is read apart from the rest. -/
theorem decode?_group {first second third fourth : Char} {rest : List Char} (full : fourth ≠ '=') :
    decode? variant (first :: second :: third :: fourth :: rest) = (do
      let head ← group? variant first second third fourth
      let tail ← decode? variant rest
      return head ++ tail) := by
  cases rest with
  | nil =>
      have alone : decode? variant [first, second, third, fourth] =
          group? variant first second third fourth := by
        rw [decode?, if_neg (fun filled => full filled.2)]
      rw [alone]
      cases group? variant first second third fourth <;> simp [decode?]
  | cons next rest =>
      rw [decode?]
      simp

/-- Reading inverts writing. -/
theorem decode?_encode (bytes : Bytes) : decode? variant (encode variant bytes) = some bytes := by
  induction bytes using encode.induct with
  | case1 => rfl
  | case2 first =>
      cases variant with
      | standard => simpa [encode, Variant.filling, Variant.padded, decode?] using
          lastOne?_symbols first
      | urlSafe => simpa [encode, Variant.filling, Variant.padded, decode?] using
          lastOne?_symbols first
  | case3 first second =>
      have written : Variant.standard.symbol ((first.toNat * 256 + second.toNat) * 4 % 64) ≠ '=' :=
        symbol_ne_filling (by omega)
      cases variant with
      | standard => simpa [encode, Variant.filling, Variant.padded, decode?, written] using
          lastTwo?_symbols first second rfl
      | urlSafe => simpa [encode, Variant.filling, Variant.padded, decode?] using
          lastTwo?_symbols first second rfl
  | case4 first second third rest inductionHypothesis =>
      rw [encode, decode?_group (symbol_ne_filling (by omega)),
        group?_symbols first second third rfl, inductionHypothesis]
      rfl

section Groups

variable {first second third fourth : Char} {bytes : Bytes} {rest symbols : List Char}

/-- A last group of two symbols is read as the byte that is written as them. -/
theorem lastOne?_eq_some (read : lastOne? variant first second = some bytes) :
    [first, second] ++ variant.filling 2 = encode variant bytes := by
  simp only [lastOne?, Option.bind_eq_bind, Option.bind_eq_some_iff] at read
  obtain ⟨high, highRead, low, lowRead, read⟩ := read
  obtain ⟨highSmall, rfl⟩ := value?_eq_some_iff.mp highRead
  obtain ⟨lowSmall, rfl⟩ := value?_eq_some_iff.mp lowRead
  split at read
  · rename_i noRest
    cases read
    have bits : (UInt8.ofNat ((high * 64 + low) / 16)).toNat * 16 = high * 64 + low := by
      rw [UInt8.toNat_ofNat']
      omega
    have highBack : (high * 64 + low) / 64 = high := by omega
    have lowBack : (high * 64 + low) % 64 = low := by omega
    simp only [encode, bits, highBack, lowBack, List.cons_append, List.nil_append]
  · cases read

/-- A last group of three symbols is read as the two bytes that are written as them. -/
theorem lastTwo?_eq_some (read : lastTwo? variant first second third = some bytes) :
    [first, second, third] ++ variant.filling 1 = encode variant bytes := by
  simp only [lastTwo?, Option.bind_eq_bind, Option.bind_eq_some_iff] at read
  obtain ⟨high, highRead, middle, middleRead, low, lowRead, read⟩ := read
  obtain ⟨highSmall, rfl⟩ := value?_eq_some_iff.mp highRead
  obtain ⟨middleSmall, rfl⟩ := value?_eq_some_iff.mp middleRead
  obtain ⟨lowSmall, rfl⟩ := value?_eq_some_iff.mp lowRead
  split at read
  · rename_i noRest
    cases read
    generalize bitsEq : (high * 64 + middle) * 64 + low = bits at *
    have spelled : ((UInt8.ofNat (bits / 1024)).toNat * 256 +
        (UInt8.ofNat (bits / 4 % 256)).toNat) * 4 = bits := by
      rw [UInt8.toNat_ofNat', UInt8.toNat_ofNat']
      omega
    have highBack : bits / 4096 = high := by omega
    have middleBack : bits / 64 % 64 = middle := by omega
    have lowBack : bits % 64 = low := by omega
    simp only [encode, spelled, highBack, middleBack, lowBack, List.cons_append, List.nil_append]
  · cases read

/-- A full group is read as the three bytes that are written as its symbols. -/
theorem group?_eq_some (read : group? variant first second third fourth = some bytes)
    (tail : Bytes) :
    [first, second, third, fourth] ++ encode variant tail = encode variant (bytes ++ tail) := by
  simp only [group?, Option.bind_eq_bind, Option.bind_eq_some_iff] at read
  obtain ⟨high, highRead, upper, upperRead, lower, lowerRead, low, lowRead, read⟩ := read
  obtain ⟨highSmall, rfl⟩ := value?_eq_some_iff.mp highRead
  obtain ⟨upperSmall, rfl⟩ := value?_eq_some_iff.mp upperRead
  obtain ⟨lowerSmall, rfl⟩ := value?_eq_some_iff.mp lowerRead
  obtain ⟨lowSmall, rfl⟩ := value?_eq_some_iff.mp lowRead
  cases read
  generalize bitsEq : ((high * 64 + upper) * 64 + lower) * 64 + low = bits at *
  have spelled : ((UInt8.ofNat (bits / 65536)).toNat * 256 +
      (UInt8.ofNat (bits / 256 % 256)).toNat) * 256 + (UInt8.ofNat (bits % 256)).toNat = bits := by
    rw [UInt8.toNat_ofNat', UInt8.toNat_ofNat', UInt8.toNat_ofNat']
    omega
  have highBack : bits / 262144 = high := by omega
  have upperBack : bits / 4096 % 64 = upper := by omega
  have lowerBack : bits / 64 % 64 = lower := by omega
  have lowBack : bits % 64 = low := by omega
  simp only [List.cons_append, List.nil_append, encode, spelled, highBack, upperBack, lowerBack,
    lowBack]

/-- Only the written form of some bytes is read as them. -/
theorem eq_encode_of_decode? (read : decode? variant symbols = some bytes) :
    symbols = encode variant bytes := by
  fun_induction decode? variant symbols generalizing bytes with
  | case1 => cases read; rfl
  | case2 | case3 | case5 => cases read
  | case4 first second unpadded =>
      rw [← lastOne?_eq_some read, Variant.filling, if_neg unpadded, List.append_nil]
  | case6 first second third unpadded =>
      rw [← lastTwo?_eq_some read, Variant.filling, if_neg unpadded, List.append_nil]
  | case7 first second fourth filled =>
      rw [← lastOne?_eq_some read, Variant.filling, if_pos filled.1, filled.2]
      rfl
  | case8 first second third fourth filled =>
      rw [← lastTwo?_eq_some read, Variant.filling, if_pos filled.1, filled.2]
      rfl
  | case9 first second third fourth full =>
      simpa [encode] using group?_eq_some read []
  | case10 first second third fourth rest _ inductionHypothesis =>
      simp only [Option.bind_eq_bind, Option.bind_eq_some_iff, Option.pure_def,
        Option.some.injEq] at read
      obtain ⟨head, headRead, tail, tailRead, rfl⟩ := read
      rw [← group?_eq_some headRead tail, ← inductionHypothesis tailRead]
      rfl

/-- A text is read as bytes exactly when it is their written form. -/
theorem decode?_eq_some_iff : decode? variant symbols = some bytes ↔
    symbols = encode variant bytes :=
  ⟨eq_encode_of_decode?, fun written => written ▸ decode?_encode bytes⟩

/-- A text is the written form of bytes exactly when it is read as them. -/
theorem eq_text_iff {raw : String} :
    raw = text variant bytes ↔ decode? variant raw.toList = some bytes := by
  rw [decode?_eq_some_iff, text, ← String.toList_inj, String.toList_ofList]

end Groups

/-- The written form of bytes that do not make up full groups is filled up. -/
theorem filling_mem_encode (bytes : Bytes) (incomplete : bytes.length % 3 ≠ 0) :
    '=' ∈ encode .standard bytes := by
  induction bytes using encode.induct with
  | case1 => exact absurd rfl incomplete
  | case2 first => simp [encode, Variant.filling, Variant.padded]
  | case3 first second => simp [encode, Variant.filling, Variant.padded]
  | case4 first second third rest inductionHypothesis =>
      have shorter : rest.length % 3 ≠ 0 := by
        simp only [List.length_cons] at incomplete
        omega
      have among := inductionHypothesis shorter
      simp [encode, among]

end Admission.Base64
