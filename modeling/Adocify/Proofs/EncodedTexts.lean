import Mathlib.Data.Nat.Basic
import Adocify.Charset.Utf8

/-! Every text is read back from its UTF-8 encoding, and nothing but encodings is read. The first byte of a sequence
tells its length, and the number of the character is put together again from groups of six bits. -/

namespace Adocify.Utf8

theorem toNat_ofNat {n : Nat} (small : n < 0x100) : (UInt8.ofNat n).toNat = n :=
  UInt8.toNat_ofNat_of_lt' small

theorem toNat_tailByte (n : Nat) : (tailByte n).toNat = 0x80 + n % 0x40 :=
  toNat_ofNat (by omega)

theorem isTail_tailByte (n : Nat) : isTail (tailByte n) = true := by
  simp only [isTail, UInt8.le_iff_toNat_le, toNat_tailByte, Bool.and_eq_true, decide_eq_true_eq]
  change 0x80 ≤ 0x80 + n % 0x40 ∧ 0x80 + n % 0x40 ≤ 0xbf
  omega

section

variable {a b c d : UInt8} {position : Nat} {rest : List UInt8}

theorem not_lt_of_le (least : b.toNat ≤ a.toNat) : ¬a < b := Nat.not_lt.mpr least

theorem decodeFrom_one (short : a.toNat < 0x80) :
    decodeFrom position (a :: rest) = (decodeFrom (position + 1) rest).map (Char.ofNat a.toNat :: ·) := by
  have first : a < 0x80 := short
  rw [decodeFrom.eq_def]
  simp only [if_pos first]

theorem decodeFrom_two (start : 0xc2 ≤ a.toNat) (short : a.toNat < 0xe0) (tail : isTail b = true) :
    decodeFrom position (a :: b :: rest) = (decodeFrom (position + 2) rest).map (charOf a 0x20 [b] :: ·) := by
  have one : ¬a < 0x80 := not_lt_of_le (Nat.le_trans (by decide) start)
  have invalid : ¬a < 0xc2 := not_lt_of_le (Nat.le_trans (by decide) start)
  have two : a < 0xe0 := short
  rw [decodeFrom.eq_def]
  simp only [if_neg one, if_neg invalid, if_pos two, if_pos tail]

theorem decodeFrom_three (start : 0xe0 ≤ a.toNat) (short : a.toNat < 0xf0) (second : isSecondOfThree a b = true)
    (tail : isTail c = true) : decodeFrom position (a :: b :: c :: rest) =
      (decodeFrom (position + 3) rest).map (charOf a 0x10 [b, c] :: ·) := by
  have one : ¬a < 0x80 := not_lt_of_le (Nat.le_trans (by decide) start)
  have invalid : ¬a < 0xc2 := not_lt_of_le (Nat.le_trans (by decide) start)
  have two : ¬a < 0xe0 := not_lt_of_le (Nat.le_trans (by decide) start)
  have three : a < 0xf0 := short
  rw [decodeFrom.eq_def]
  simp only [if_neg one, if_neg invalid, if_neg two, if_pos three, second, tail, Bool.and_self, if_true]

theorem decodeFrom_four (start : 0xf0 ≤ a.toNat) (short : a.toNat < 0xf5) (second : isSecondOfFour a b = true)
    (third : isTail c = true) (fourth : isTail d = true) : decodeFrom position (a :: b :: c :: d :: rest) =
      (decodeFrom (position + 4) rest).map (charOf a 0x08 [b, c, d] :: ·) := by
  have one : ¬a < 0x80 := not_lt_of_le (Nat.le_trans (by decide) start)
  have invalid : ¬a < 0xc2 := not_lt_of_le (Nat.le_trans (by decide) start)
  have two : ¬a < 0xe0 := not_lt_of_le (Nat.le_trans (by decide) start)
  have three : ¬a < 0xf0 := not_lt_of_le start
  have four : a < 0xf5 := short
  rw [decodeFrom.eq_def]
  simp only [if_neg one, if_neg invalid, if_neg two, if_neg three, if_pos four, second, third, fourth, Bool.and_self,
    if_true]

end

section

variable {n : Nat}

/-- Numbers below the range of three bytes and surrogates do not come up. -/
theorem second_of_three (least : 0x800 ≤ n) (most : n < 0x10000) (valid : n < 0xd800 ∨ 0xdfff < n) :
    isSecondOfThree (UInt8.ofNat (0xe0 + n / 0x1000)) (tailByte (n / 0x40)) = true := by
  have first : (UInt8.ofNat (0xe0 + n / 0x1000)).toNat = 0xe0 + n / 0x1000 := toNat_ofNat (by omega)
  simp only [isSecondOfThree, isTail_tailByte, Bool.true_and, Bool.and_eq_true, Bool.or_eq_true, bne_iff_ne, ne_eq,
    decide_eq_true_eq, UInt8.le_iff_toNat_le, UInt8.lt_iff_toNat_lt, ← UInt8.toNat_inj, first, toNat_tailByte]
  change (¬0xe0 + n / 0x1000 = 0xe0 ∨ 0xa0 ≤ 0x80 + n / 0x40 % 0x40) ∧
    (¬0xe0 + n / 0x1000 = 0xed ∨ 0x80 + n / 0x40 % 0x40 < 0xa0)
  omega

theorem second_of_four (least : 0x10000 ≤ n) (most : n < 0x110000) :
    isSecondOfFour (UInt8.ofNat (0xf0 + n / 0x40000)) (tailByte (n / 0x1000)) = true := by
  have first : (UInt8.ofNat (0xf0 + n / 0x40000)).toNat = 0xf0 + n / 0x40000 := toNat_ofNat (by omega)
  simp only [isSecondOfFour, isTail_tailByte, Bool.true_and, Bool.and_eq_true, Bool.or_eq_true, bne_iff_ne, ne_eq,
    decide_eq_true_eq, UInt8.le_iff_toNat_le, UInt8.lt_iff_toNat_lt, ← UInt8.toNat_inj, first, toNat_tailByte]
  change (¬0xf0 + n / 0x40000 = 0xf0 ∨ 0x90 ≤ 0x80 + n / 0x1000 % 0x40) ∧
    (¬0xf0 + n / 0x40000 = 0xf4 ∨ 0x80 + n / 0x1000 % 0x40 < 0x90)
  omega

end

/-- The bits of the first byte and of those behind it make up the number. -/
theorem charOf_eq {character : Char} {first mask : Nat} {tails : List UInt8} (small : first < 0x100)
    (whole : tails.foldl (fun n b => n * 0x40 + b.toNat % 0x40) (first % mask) = character.toNat) :
    charOf (UInt8.ofNat first) mask tails = character := by
  rw [charOf, toNat_ofNat small, whole, Char.ofNat_toNat]

theorem decodeFrom_char (position : Nat) (character : Char) (rest : List UInt8) :
    decodeFrom position (encodeChar character ++ rest) =
      (decodeFrom (position + (encodeChar character).length) rest).map (character :: ·) := by
  have valid : character.toNat < 0xd800 ∨ 0xdfff < character.toNat ∧ character.toNat < 0x110000 := character.valid
  have number := Char.ofNat_toNat character
  simp only [encodeChar]
  split
  next one =>
    have byte := toNat_ofNat (n := character.toNat) (by omega)
    rw [List.singleton_append, decodeFrom_one (by omega), byte, number]
    rfl
  split
  next more two =>
    have first := toNat_ofNat (n := 0xc0 + character.toNat / 0x40) (by omega)
    have whole : charOf (UInt8.ofNat (0xc0 + character.toNat / 0x40)) 0x20 [tailByte character.toNat] = character := by
      apply charOf_eq (by omega)
      simp only [List.foldl_cons, List.foldl_nil, toNat_tailByte]
      omega
    change decodeFrom position (_ :: _ :: rest) = _
    rw [decodeFrom_two (by omega) (by omega) (isTail_tailByte _), whole]
    rfl
  split
  next more longer three =>
    have first := toNat_ofNat (n := 0xe0 + character.toNat / 0x1000) (by omega)
    have second := second_of_three (n := character.toNat) (by omega) three (by omega)
    have whole : charOf (UInt8.ofNat (0xe0 + character.toNat / 0x1000)) 0x10
        [tailByte (character.toNat / 0x40), tailByte character.toNat] = character := by
      apply charOf_eq (by omega)
      simp only [List.foldl_cons, List.foldl_nil, toNat_tailByte]
      omega
    change decodeFrom position (_ :: _ :: _ :: rest) = _
    rw [decodeFrom_three (by omega) (by omega) second (isTail_tailByte _), whole]
    rfl
  next more longer longest =>
    have first := toNat_ofNat (n := 0xf0 + character.toNat / 0x40000) (by omega)
    have second := second_of_four (n := character.toNat) (by omega) (by omega)
    have whole : charOf (UInt8.ofNat (0xf0 + character.toNat / 0x40000)) 0x08
        [tailByte (character.toNat / 0x1000), tailByte (character.toNat / 0x40), tailByte character.toNat] =
          character := by
      apply charOf_eq (by omega)
      simp only [List.foldl_cons, List.foldl_nil, toNat_tailByte]
      omega
    change decodeFrom position (_ :: _ :: _ :: _ :: rest) = _
    rw [decodeFrom_four (by omega) (by omega) second (isTail_tailByte _) (isTail_tailByte _), whole]
    rfl

theorem encode_cons (character : Char) (rest : Text) : encode (character :: rest) = encodeChar character ++ encode rest :=
  List.flatMap_cons

theorem decode_encode (text : Text) : decode (encode text) = .ok text := by
  have anywhere (position : Nat) : decodeFrom position (encode text) = .ok text := by
    induction text generalizing position with
    | nil => rfl
    | cons character rest ih =>
      rw [encode_cons, decodeFrom_char]
      exact congrArg (Except.map (character :: ·)) (ih _)
  exact anywhere 0

/-! ### Encodings only -/

section

variable {a b c d : UInt8} {n : Nat} {bytes : List UInt8} {text : Text}

theorem toNat_isTail (tail : isTail b = true) : 0x80 ≤ b.toNat ∧ b.toNat ≤ 0xbf := by
  simp only [isTail, UInt8.le_iff_toNat_le, Bool.and_eq_true, decide_eq_true_eq] at tail
  exact tail

theorem tailByte_eq (tail : isTail b = true) (low : n % 0x40 = b.toNat % 0x40) : tailByte n = b := by
  have range := toNat_isTail tail
  apply UInt8.toNat_inj.mp
  rw [toNat_tailByte]
  omega

theorem ofNat_eq (same : n = b.toNat) : UInt8.ofNat n = b := by
  rw [same, UInt8.ofNat_toNat]

theorem toNat_charOf (valid : n < 0xd800 ∨ 0xdfff < n ∧ n < 0x110000) : (Char.ofNat n).toNat = n := by
  rw [Char.ofNat, dif_pos valid]
  rfl

theorem encodeChar_one (short : a.toNat < 0x80) : encodeChar (Char.ofNat a.toNat) = [a] := by
  have number := toNat_charOf (n := a.toNat) (by omega)
  simp only [encodeChar, number, if_pos short, UInt8.ofNat_toNat]

theorem encodeChar_two (start : 0xc2 ≤ a.toNat) (short : a.toNat < 0xe0) (tail : isTail b = true) :
    encodeChar (charOf a 0x20 [b]) = [a, b] := by
  have range := toNat_isTail tail
  have number := toNat_charOf (n := a.toNat % 0x20 * 0x40 + b.toNat % 0x40) (by omega)
  simp only [encodeChar, charOf, List.foldl_cons, List.foldl_nil, number]
  rw [if_neg (by omega), if_pos (by omega), ofNat_eq (b := a) (by omega), tailByte_eq tail (by omega)]

theorem encodeChar_three (start : 0xe0 ≤ a.toNat) (short : a.toNat < 0xf0) (second : isSecondOfThree a b = true)
    (third : isTail c = true) : encodeChar (charOf a 0x10 [b, c]) = [a, b, c] := by
  simp only [isSecondOfThree, Bool.and_eq_true, Bool.or_eq_true, bne_iff_ne, ne_eq, decide_eq_true_eq,
    UInt8.le_iff_toNat_le, UInt8.lt_iff_toNat_lt, ← UInt8.toNat_inj] at second
  obtain ⟨⟨tail, long⟩, plain⟩ := second
  change ¬a.toNat = 0xe0 ∨ 0xa0 ≤ b.toNat at long
  change ¬a.toNat = 0xed ∨ b.toNat < 0xa0 at plain
  have range := toNat_isTail tail
  have range' := toNat_isTail third
  have number := toNat_charOf (n := (a.toNat % 0x10 * 0x40 + b.toNat % 0x40) * 0x40 + c.toNat % 0x40) (by omega)
  simp only [encodeChar, charOf, List.foldl_cons, List.foldl_nil, number]
  rw [if_neg (by omega), if_neg (by omega), if_pos (by omega), ofNat_eq (b := a) (by omega),
    tailByte_eq tail (by omega), tailByte_eq third (by omega)]

theorem encodeChar_four (start : 0xf0 ≤ a.toNat) (short : a.toNat < 0xf5) (second : isSecondOfFour a b = true)
    (third : isTail c = true) (fourth : isTail d = true) : encodeChar (charOf a 0x08 [b, c, d]) = [a, b, c, d] := by
  simp only [isSecondOfFour, Bool.and_eq_true, Bool.or_eq_true, bne_iff_ne, ne_eq, decide_eq_true_eq,
    UInt8.le_iff_toNat_le, UInt8.lt_iff_toNat_lt, ← UInt8.toNat_inj] at second
  obtain ⟨⟨tail, long⟩, within⟩ := second
  change ¬a.toNat = 0xf0 ∨ 0x90 ≤ b.toNat at long
  change ¬a.toNat = 0xf4 ∨ b.toNat < 0x90 at within
  have range := toNat_isTail tail
  have range' := toNat_isTail third
  have range'' := toNat_isTail fourth
  have number := toNat_charOf
    (n := ((a.toNat % 0x08 * 0x40 + b.toNat % 0x40) * 0x40 + c.toNat % 0x40) * 0x40 + d.toNat % 0x40) (by omega)
  simp only [encodeChar, charOf, List.foldl_cons, List.foldl_nil, number]
  rw [if_neg (by omega), if_neg (by omega), if_neg (by omega), ofNat_eq (b := a) (by omega),
    tailByte_eq tail (by omega), tailByte_eq third (by omega), tailByte_eq fourth (by omega)]

theorem map_cons_iff {result : Except DecodeError Text} {first : Char} :
    result.map (first :: ·) = .ok text ↔ ∃ rest, result = .ok rest ∧ first :: rest = text := by
  cases result with
  | error problem => simp [Except.map]
  | ok rest => simp [Except.map]

theorem decodeFrom_sound {position : Nat} (decoded : decodeFrom position bytes = .ok text) : bytes = encode text := by
  fun_induction decodeFrom position bytes generalizing text with
  | case1 =>
    obtain rfl := Except.ok.inj decoded
    rfl
  | case2 position a rest one ih =>
    obtain ⟨others, later, rfl⟩ := map_cons_iff.mp decoded
    rw [encode_cons, encodeChar_one one, ← ih later]
    rfl
  | case5 position a more least two b rest tail ih =>
    obtain ⟨others, later, rfl⟩ := map_cons_iff.mp decoded
    rw [encode_cons, encodeChar_two (Nat.not_lt.mp least) two tail, ← ih later]
    rfl
  | case10 position a more least longer three b c rest tails ih =>
    obtain ⟨others, later, rfl⟩ := map_cons_iff.mp decoded
    obtain ⟨second, third⟩ := Bool.and_eq_true_iff.mp tails
    rw [encode_cons, encodeChar_three (Nat.not_lt.mp longer) three second third, ← ih later]
    rfl
  | case17 position a more least longer longest four b c d rest tails ih =>
    obtain ⟨others, later, rfl⟩ := map_cons_iff.mp decoded
    obtain ⟨front, fourth⟩ := Bool.and_eq_true_iff.mp tails
    obtain ⟨second, third⟩ := Bool.and_eq_true_iff.mp front
    rw [encode_cons, encodeChar_four (Nat.not_lt.mp longest) four second third fourth, ← ih later]
    rfl
  | _ => cases decoded

theorem decode_iff : decode bytes = .ok text ↔ bytes = encode text :=
  ⟨decodeFrom_sound, fun same => same ▸ decode_encode text⟩

end

end Adocify.Utf8
