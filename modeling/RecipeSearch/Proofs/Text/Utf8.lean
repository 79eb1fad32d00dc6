import RecipeSearch.Text.Utf8

/-!
# Reading the bytes of a text

The bytes of a text are well-formed, and reading them gives the text (`ofUtf8?_utf8`, `ofUtf8Lossy_utf8`). Each
character is read from its own bytes, whatever follows them (`leads_utf8EncodeChar`).
-/

namespace RecipeSearch.Text

/-- The bytes of a character: as many as its code point needs, with six bits of it in each but the first. -/
theorem utf8EncodeChar_eq (c : Char) :
    String.utf8EncodeChar c =
      if c.toNat ≤ 0x7f then [UInt8.ofNat c.toNat]
      else if c.toNat ≤ 0x7ff then [UInt8.ofNat (c.toNat / 64 % 32 + 192), UInt8.ofNat (c.toNat % 64 + 128)]
      else if c.toNat ≤ 0xffff then
        [UInt8.ofNat (c.toNat / 4096 % 16 + 224), UInt8.ofNat (c.toNat / 64 % 64 + 128),
          UInt8.ofNat (c.toNat % 64 + 128)]
      else
        [UInt8.ofNat (c.toNat / 262144 % 8 + 240), UInt8.ofNat (c.toNat / 4096 % 64 + 128),
          UInt8.ofNat (c.toNat / 64 % 64 + 128), UInt8.ofNat (c.toNat % 64 + 128)] := rfl

theorem toNat_ofNat_of_lt {n : Nat} (h : n < 256) : (UInt8.ofNat n).toNat = n := by
  rw [UInt8.toNat_ofNat', Nat.mod_eq_of_lt h]

/-- Code points are those up to U+10FFFF that are no surrogates. -/
theorem toNat_bounds (c : Char) : c.toNat < 0xd800 ∨ 0xdfff < c.toNat ∧ c.toNat < 0x110000 := c.valid

namespace Lead

variable {b b0 : UInt8}

/-! ## Conditions on bytes, as numbers -/

theorem isContinuation_iff : isContinuation b = true ↔ 0x80 ≤ b.toNat ∧ b.toNat ≤ 0xbf := by
  simp [isContinuation, UInt8.le_iff_toNat_le]

theorem isSecond_iff :
    isSecond b0 b = true ↔
      isContinuation b = true ∧ (b0.toNat = 0xe0 → 0xa0 ≤ b.toNat) ∧ (b0.toNat = 0xed → b.toNat ≤ 0x9f) ∧
        (b0.toNat = 0xf0 → 0x90 ≤ b.toNat) ∧ (b0.toNat = 0xf4 → b.toNat ≤ 0x8f) := by
  have hval (n : UInt8) : b0 = n ↔ b0.toNat = n.toNat := UInt8.toNat_inj.symm
  simp only [isSecond, isContinuation, hval, UInt8.le_iff_toNat_le, UInt8.reduceToNat, Bool.and_eq_true,
    decide_eq_true_eq]
  repeat' split
  all_goals simp only [Bool.and_eq_true, decide_eq_true_eq]; omega

theorem width_eq (b : UInt8) :
    width b =
      if b.toNat < 0x80 then some 1
      else if 0xc2 ≤ b.toNat ∧ b.toNat ≤ 0xdf then some 2
      else if 0xe0 ≤ b.toNat ∧ b.toNat ≤ 0xef then some 3
      else if 0xf0 ≤ b.toNat ∧ b.toNat ≤ 0xf4 then some 4
      else none := by
  simp [width, UInt8.lt_iff_toNat_lt, UInt8.le_iff_toNat_le]

theorem toNat_continuation (n : Nat) : (UInt8.ofNat (n % 64 + 128)).toNat = n % 64 + 128 :=
  toNat_ofNat_of_lt (by omega)

theorem isContinuation_ofNat (n : Nat) : isContinuation (UInt8.ofNat (n % 64 + 128)) = true := by
  rw [isContinuation_iff, toNat_continuation]
  omega

/-! ## Characters at the start of bytes -/

section Character

variable {c : Char} {rest : List UInt8}

theorem ofBytes_one (h : c.toNat ≤ 0x7f) : ofBytes (UInt8.ofNat c.toNat) rest = char c 1 := by
  have hb : (UInt8.ofNat c.toNat).toNat = c.toNat := toNat_ofNat_of_lt (by omega)
  have hwidth : width (UInt8.ofNat c.toNat) = some 1 := by
    rw [width_eq, hb, if_pos (Nat.lt_succ_of_le h)]
  simp only [ofBytes, hwidth, hb, Char.ofNat_toNat]

/-- The number of a character of two bytes, spread over them, lies in the ranges of such bytes. -/
theorem ofBytes_two (h : 0x7f < c.toNat) (h' : c.toNat ≤ 0x7ff) :
    ofBytes (UInt8.ofNat (c.toNat / 64 % 32 + 192)) (UInt8.ofNat (c.toNat % 64 + 128) :: rest) = char c 2 := by
  have hb0 : (UInt8.ofNat (c.toNat / 64 % 32 + 192)).toNat = c.toNat / 64 + 192 := by
    rw [toNat_ofNat_of_lt] <;> omega
  have hwidth : width (UInt8.ofNat (c.toNat / 64 % 32 + 192)) = some 2 := by
    rw [width_eq, hb0, if_neg (by omega), if_pos (by omega)]
  have hsecond : isSecond (UInt8.ofNat (c.toNat / 64 % 32 + 192)) (UInt8.ofNat (c.toNat % 64 + 128)) = true := by
    rw [isSecond_iff, isContinuation_iff, hb0, toNat_continuation]
    omega
  have hnumber : (c.toNat / 64 + 192) % 32 * 64 + (c.toNat % 64 + 128) % 64 = c.toNat := by omega
  simp only [ofBytes, hwidth, hsecond, if_true, assemble, List.foldl_cons, List.foldl_nil, hb0, toNat_continuation,
    hnumber, Char.ofNat_toNat]

/-- A character of three bytes is neither spelled longer than it has to be nor a surrogate. -/
theorem ofBytes_three (h : 0x7ff < c.toNat) (h' : c.toNat ≤ 0xffff) :
    ofBytes (UInt8.ofNat (c.toNat / 4096 % 16 + 224))
      (UInt8.ofNat (c.toNat / 64 % 64 + 128) :: UInt8.ofNat (c.toNat % 64 + 128) :: rest) = char c 3 := by
  have hc := toNat_bounds c
  have hb0 : (UInt8.ofNat (c.toNat / 4096 % 16 + 224)).toNat = c.toNat / 4096 + 224 := by
    rw [toNat_ofNat_of_lt] <;> omega
  have hwidth : width (UInt8.ofNat (c.toNat / 4096 % 16 + 224)) = some 3 := by
    rw [width_eq, hb0, if_neg (by omega), if_neg (by omega), if_pos (by omega)]
  have hsecond : isSecond (UInt8.ofNat (c.toNat / 4096 % 16 + 224)) (UInt8.ofNat (c.toNat / 64 % 64 + 128)) = true := by
    rw [isSecond_iff, isContinuation_iff, hb0, toNat_continuation]
    omega
  have hnumber : ((c.toNat / 4096 + 224) % 16 * 64 + (c.toNat / 64 % 64 + 128) % 64) * 64 +
      (c.toNat % 64 + 128) % 64 = c.toNat := by
    omega
  simp only [ofBytes, hwidth, hsecond, isContinuation_ofNat, if_true, assemble, List.foldl_cons, List.foldl_nil, hb0,
    toNat_continuation, hnumber, Char.ofNat_toNat]

/-- A character of four bytes is neither spelled longer than it has to be nor above U+10FFFF. -/
theorem ofBytes_four (h : 0xffff < c.toNat) :
    ofBytes (UInt8.ofNat (c.toNat / 262144 % 8 + 240))
      (UInt8.ofNat (c.toNat / 4096 % 64 + 128) :: UInt8.ofNat (c.toNat / 64 % 64 + 128) ::
        UInt8.ofNat (c.toNat % 64 + 128) :: rest) = char c 4 := by
  have hc := toNat_bounds c
  have hb0 : (UInt8.ofNat (c.toNat / 262144 % 8 + 240)).toNat = c.toNat / 262144 + 240 := by
    rw [toNat_ofNat_of_lt] <;> omega
  have hwidth : width (UInt8.ofNat (c.toNat / 262144 % 8 + 240)) = some 4 := by
    rw [width_eq, hb0, if_neg (by omega), if_neg (by omega), if_neg (by omega), if_pos (by omega)]
  have hsecond :
      isSecond (UInt8.ofNat (c.toNat / 262144 % 8 + 240)) (UInt8.ofNat (c.toNat / 4096 % 64 + 128)) = true := by
    rw [isSecond_iff, isContinuation_iff, hb0, toNat_continuation]
    omega
  have hnumber : (((c.toNat / 262144 + 240) % 8 * 64 + (c.toNat / 4096 % 64 + 128) % 64) * 64 +
      (c.toNat / 64 % 64 + 128) % 64) * 64 + (c.toNat % 64 + 128) % 64 = c.toNat := by
    omega
  simp only [ofBytes, hwidth, hsecond, isContinuation_ofNat, if_true, assemble, List.foldl_cons, List.foldl_nil, hb0,
    toNat_continuation, hnumber, Char.ofNat_toNat]

end Character

end Lead

/-! ## Numbers of bytes -/

theorem utf8ByteSize_ofList (cs : List Char) : (String.ofList cs).utf8ByteSize = (utf8 cs).length := by
  rw [String.utf8ByteSize, String.toByteArray_ofList, List.utf8Encode, List.size_toByteArray, utf8]

theorem length_utf8_append (xs ys : List Char) : (utf8 (xs ++ ys)).length = (utf8 xs).length + (utf8 ys).length := by
  rw [utf8, List.flatMap_append, List.length_append, utf8, utf8]

theorem length_utf8_cons (c : Char) (cs : List Char) :
    (utf8 (c :: cs)).length = (String.utf8EncodeChar c).length + (utf8 cs).length := by
  rw [utf8, List.flatMap_cons, List.length_append, utf8]

/-- A text has no more bytes than one that it is part of. -/
theorem length_utf8_le_of_sublist {xs ys : List Char} (h : xs.Sublist ys) : (utf8 xs).length ≤ (utf8 ys).length := by
  induction h with
  | slnil => exact Nat.le_refl 0
  | cons c _ ih =>
    rw [length_utf8_cons]
    omega
  | cons_cons c _ ih =>
    rw [length_utf8_cons, length_utf8_cons]
    omega

/-- A character takes at least one byte. -/
theorem length_le_length_utf8 (cs : List Char) : cs.length ≤ (utf8 cs).length := by
  induction cs with
  | nil => exact Nat.le_refl 0
  | cons c cs ih =>
    have hpos : 0 < (String.utf8EncodeChar c).length := List.length_pos_iff.2 String.utf8EncodeChar_ne_nil
    rw [length_utf8_cons, List.length_cons]
    omega

/-! ## Reading -/

/-- No more leads than bytes. -/
theorem length_leads_le (bs : List UInt8) : (leads bs).length ≤ bs.length := by
  induction bs using leads.induct with
  | case1 => simp [leads]
  | case2 b bs lead ih =>
    rw [leads, List.length_cons, List.length_cons]
    have hdrop : (bs.drop (lead.size - 1)).length ≤ bs.length := by
      rw [List.length_drop]
      exact Nat.sub_le _ _
    exact Nat.succ_le_succ (Nat.le_trans ih hdrop)

/-- **A character is read from its own bytes**, whatever follows them. -/
theorem leads_utf8EncodeChar (c : Char) (rest : List UInt8) :
    leads (String.utf8EncodeChar c ++ rest) = .char c (String.utf8EncodeChar c).length :: leads rest := by
  rw [utf8EncodeChar_eq]
  split
  · next h => rw [List.singleton_append, leads, Lead.ofBytes_one h]; rfl
  · next h =>
    split
    · next h' =>
      simp only [List.cons_append, List.nil_append]
      rw [leads, Lead.ofBytes_two (by omega) h']
      rfl
    · split
      · next h'' =>
        simp only [List.cons_append, List.nil_append]
        rw [leads, Lead.ofBytes_three (by omega) h'']
        rfl
      · next h'' =>
        simp only [List.cons_append, List.nil_append]
        rw [leads, Lead.ofBytes_four (by omega)]
        rfl

theorem leads_utf8 (cs : List Char) :
    leads (utf8 cs) = cs.map fun c => .char c (String.utf8EncodeChar c).length := by
  induction cs with
  | nil => rw [utf8, List.flatMap_nil, leads]; rfl
  | cons c cs ih => rw [utf8, List.flatMap_cons, leads_utf8EncodeChar, ← utf8, ih, List.map_cons]

/-- **Reading the bytes of a text gives the text.** -/
theorem ofUtf8?_utf8 (cs : List Char) : ofUtf8? (utf8 cs) = some cs := by
  rw [ofUtf8?, leads_utf8]
  induction cs with
  | nil => rfl
  | cons c cs ih =>
    rw [List.map_cons, List.mapM_cons, ih]
    rfl

theorem ofUtf8Lossy_utf8 (cs : List Char) : ofUtf8Lossy (utf8 cs) = cs := by
  rw [ofUtf8Lossy, leads_utf8, List.map_map]
  exact List.map_id cs

end RecipeSearch.Text
