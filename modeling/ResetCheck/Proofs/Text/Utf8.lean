import ResetCheck.Text.Utf8

/-!
# Reading what was written as UTF-8

Bytes that a text is written as are read as that text.

* `Text.decode_utf8EncodeChar`: the bytes of one character are read as that character.
* `Text.decode?_toUTF8`: the bytes of a text are read as that text.
-/

namespace ResetCheck.Text

/-! ## Characters by the number of their bytes -/

section Bytes

variable {a b c d : UInt8} (rest : List UInt8)

theorem decode_one (ha : a.toNat < 0x80) :
    decode (a :: rest) = some (Char.ofNat a.toNat) :: decode rest := by
  rw [decode.eq_def]
  exact if_pos ha

theorem decode_two (ha : 0xC2 ≤ a.toNat ∧ a.toNat ≤ 0xDF) (hb : isTail b) :
    decode (a :: b :: rest) =
      some (Char.ofNat (a.toNat % 0x20 * 0x40 + tailBits b)) :: decode rest := by
  have hsmall : ¬a.toNat < 0x80 := by omega
  have htwo : (0xC2 ≤ a.toNat && a.toNat ≤ 0xDF) = true := by simp [ha]
  rw [decode.eq_def]
  simp only [hsmall, htwo, hb, if_true, if_false]

theorem decode_three (ha : 0xE0 ≤ a.toNat ∧ a.toNat ≤ 0xEF) (hb : isSecondOfThree a b)
    (hc : isTail c) :
    decode (a :: b :: c :: rest) =
      some (Char.ofNat (a.toNat % 0x10 * 0x1000 + tailBits b * 0x40 + tailBits c)) ::
        decode rest := by
  have hsmall : ¬a.toNat < 0x80 := by omega
  have htwo : ¬(0xC2 ≤ a.toNat && a.toNat ≤ 0xDF) = true := by simp; omega
  have hthree : (0xE0 ≤ a.toNat && a.toNat ≤ 0xEF) = true := by simp [ha]
  rw [decode.eq_def]
  simp only [hsmall, htwo, hthree, hb, hc, if_true, if_false, Bool.false_eq_true]

theorem decode_four (ha : 0xF0 ≤ a.toNat ∧ a.toNat ≤ 0xF4) (hb : isSecondOfFour a b)
    (hc : isTail c) (hd : isTail d) :
    decode (a :: b :: c :: d :: rest) =
      some (Char.ofNat (a.toNat % 0x8 * 0x40000 + tailBits b * 0x1000 + tailBits c * 0x40 +
        tailBits d)) :: decode rest := by
  have hsmall : ¬a.toNat < 0x80 := by omega
  have htwo : ¬(0xC2 ≤ a.toNat && a.toNat ≤ 0xDF) = true := by simp; omega
  have hthree : ¬(0xE0 ≤ a.toNat && a.toNat ≤ 0xEF) = true := by simp; omega
  have hfour : (0xF0 ≤ a.toNat && a.toNat ≤ 0xF4) = true := by simp [ha]
  rw [decode.eq_def]
  simp only [hsmall, htwo, hthree, hfour, hb, hc, hd, if_true, if_false, Bool.false_eq_true]

end Bytes

/-! ## Texts -/

theorem toNat_ofNat_of_lt {n : Nat} (h : n < 0x100) : (UInt8.ofNat n).toNat = n := by
  rw [UInt8.toNat_ofNat']
  exact Nat.mod_eq_of_lt h

/-- The last byte of a character. -/
theorem isTail_ofNat (v : Nat) : isTail (UInt8.ofNat (v % 64 + 128)) := by
  have hbyte : (UInt8.ofNat (v % 64 + 128)).toNat = v % 64 + 128 := toNat_ofNat_of_lt (by omega)
  simp only [isTail, hbyte, Bool.and_eq_true, decide_eq_true_eq]
  omega

theorem tailBits_ofNat (v : Nat) : tailBits (UInt8.ofNat (v % 64 + 128)) = v % 64 := by
  rw [tailBits, toNat_ofNat_of_lt (by omega)]
  omega

/-- The bytes of a character are read as that character, whatever comes after them. -/
theorem decode_utf8EncodeChar (c : Char) (rest : List UInt8) :
    decode (String.utf8EncodeChar c ++ rest) = some c :: decode rest := by
  have hvalid : c.toNat < 0xD800 ∨ 0xDFFF < c.toNat ∧ c.toNat < 0x110000 := c.valid
  have hencode : String.utf8EncodeChar c =
      let v := c.toNat
      if v ≤ 127 then [UInt8.ofNat v]
      else if v ≤ 2047 then [UInt8.ofNat (v / 64 % 32 + 192), UInt8.ofNat (v % 64 + 128)]
      else if v ≤ 65535 then
        [UInt8.ofNat (v / 4096 % 16 + 224), UInt8.ofNat (v / 64 % 64 + 128),
          UInt8.ofNat (v % 64 + 128)]
      else
        [UInt8.ofNat (v / 262144 % 8 + 240), UInt8.ofNat (v / 4096 % 64 + 128),
          UInt8.ofNat (v / 64 % 64 + 128), UInt8.ofNat (v % 64 + 128)] := rfl
  have hread : ∀ n, n = c.toNat → some (Char.ofNat n) :: decode rest = some c :: decode rest := by
    intro n hn
    rw [hn, Char.ofNat_toNat]
  rw [hencode]
  generalize c.toNat = v at hvalid hread
  dsimp only
  split
  · next hone =>
    have ha : (UInt8.ofNat v).toNat = v := toNat_ofNat_of_lt (by omega)
    rw [List.singleton_append, decode_one rest (by rw [ha]; omega), ha]
    exact hread v rfl
  split
  · next hone htwo =>
    have ha : (UInt8.ofNat (v / 64 % 32 + 192)).toNat = v / 64 + 192 := by
      rw [toNat_ofNat_of_lt] <;> omega
    refine (decode_two rest (by omega) (isTail_ofNat v)).trans ?_
    rw [ha, tailBits_ofNat]
    apply hread
    omega
  split
  · next htwo hthree =>
    have ha : (UInt8.ofNat (v / 4096 % 16 + 224)).toNat = v / 4096 + 224 := by
      rw [toNat_ofNat_of_lt] <;> omega
    have hb : (UInt8.ofNat (v / 64 % 64 + 128)).toNat = v / 64 % 64 + 128 :=
      toNat_ofNat_of_lt (by omega)
    -- neither overlong nor one half of a pair of surrogates
    have hsecond : isSecondOfThree (UInt8.ofNat (v / 4096 % 16 + 224))
        (UInt8.ofNat (v / 64 % 64 + 128)) := by
      simp only [isSecondOfThree, ha, hb, Bool.and_eq_true, decide_eq_true_eq, beq_iff_eq]
      constructor <;> split <;> omega
    refine (decode_three rest (by omega) hsecond (isTail_ofNat v)).trans ?_
    rw [ha, tailBits_ofNat, tailBits_ofNat]
    apply hread
    omega
  · next hthree =>
    have ha : (UInt8.ofNat (v / 262144 % 8 + 240)).toNat = v / 262144 + 240 := by
      rw [toNat_ofNat_of_lt] <;> omega
    have hb : (UInt8.ofNat (v / 4096 % 64 + 128)).toNat = v / 4096 % 64 + 128 :=
      toNat_ofNat_of_lt (by omega)
    have hsecond : isSecondOfFour (UInt8.ofNat (v / 262144 % 8 + 240))
        (UInt8.ofNat (v / 4096 % 64 + 128)) := by
      simp only [isSecondOfFour, ha, hb, Bool.and_eq_true, decide_eq_true_eq, beq_iff_eq]
      constructor <;> split <;> omega
    refine (decode_four rest (by omega) hsecond (isTail_ofNat _) (isTail_ofNat v)).trans ?_
    rw [ha, tailBits_ofNat, tailBits_ofNat, tailBits_ofNat]
    apply hread
    omega

theorem decode_utf8EncodeChars (s : List Char) :
    decode (s.flatMap String.utf8EncodeChar) = s.map some := by
  induction s with
  | nil => rfl
  | cons c s ih => rw [List.flatMap_cons, decode_utf8EncodeChar, ih, List.map_cons]

theorem toList_loop_eq (bytes : ByteArray) (i : Nat) (r : List UInt8) :
    ByteArray.toList.loop bytes i r = r.reverse ++ bytes.data.toList.drop i := by
  induction i, r using ByteArray.toList.loop.induct bytes with
  | case1 i r hlt ih =>
    have hi : i < bytes.data.toList.length := by simpa using hlt
    have hget : bytes.get! i = bytes.data.toList[i] := getElem!_pos bytes.data i hi
    rw [ByteArray.toList.loop, if_pos hlt, ih, List.drop_eq_getElem_cons hi, hget]
    simp
  | case2 i r hge =>
    have hlength : bytes.data.toList.length ≤ i := by simpa using hge
    rw [ByteArray.toList.loop, if_neg hge, List.drop_eq_nil_of_le hlength, List.append_nil]

theorem toList_toUTF8 (s : String) : s.toUTF8.toList = s.toList.flatMap String.utf8EncodeChar := by
  have hbytes : s.toUTF8 = (s.toList.flatMap String.utf8EncodeChar).toByteArray := by
    rw [String.toUTF8_eq_toByteArray, ← String.utf8Encode_toList]
    rfl
  rw [hbytes, ByteArray.toList, toList_loop_eq, List.data_toByteArray]
  simp

/-- The bytes of a text are read as that text. -/
theorem decode?_toUTF8 (s : String) : decode? s.toUTF8.toList = some s := by
  have hmap : ∀ cs : List Char, (cs.map some).mapM id = some cs := by
    intro cs
    induction cs with
    | nil => rfl
    | cons c cs ih => simp [ih]
  rw [decode?, toList_toUTF8, decode_utf8EncodeChars, hmap, Option.map_some, String.ofList_toList]

end ResetCheck.Text
