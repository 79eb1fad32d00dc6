import RecipeSearch.Proofs.Text.Pieces
import RecipeSearch.Proofs.Text.Utf8
import RecipeSearch.Text.Percent

/-!
# Reading what was percent-encoded

A byte that is written as `%` and two digits is read as that byte (`percentDecode_percentByte`), and an encoded text as
the bytes of the text (`percentDecode_percentEncode`). The value of a form field is read as it was meant
(`formDecode_formEncode`), and so is a field with its name (`formFields_formEncode`), as what is written holds none of
the characters that separate fields (`not_mem_formEncode`).
-/

namespace RecipeSearch.Text

/-! ## Digits -/

theorem hexValue?_hexDigit {n : Nat} (h : n < 16) : hexValue? (hexDigit n) = some n := by
  have hall : ∀ n < 16, hexValue? (hexDigit n) = some n := by decide
  exact hall n h

theorem isFormPlain_hexDigit {n : Nat} (h : n < 16) : isFormPlain (hexDigit n) = true := by
  have hall : ∀ n < 16, isFormPlain (hexDigit n) = true := by decide
  exact hall n h

/-! ## Bytes -/

theorem percentDecode_percentByte (b : UInt8) (cs : List Char) :
    percentDecode (percentByte b ++ cs) = b :: percentDecode cs := by
  have hb : b.toNat < 256 := b.toNat_lt
  have hhigh := hexValue?_hexDigit (n := b.toNat / 16) (by omega)
  have hlow := hexValue?_hexDigit (n := b.toNat % 16) (by omega)
  have hnumber : b.toNat / 16 * 16 + b.toNat % 16 = b.toNat := Nat.div_add_mod' _ _
  simp only [percentByte, List.cons_append, List.nil_append, percentDecode, hhigh, hlow, hnumber, UInt8.ofNat_toNat]

theorem percentDecode_percentBytes (bs : List UInt8) (cs : List Char) :
    percentDecode (bs.flatMap percentByte ++ cs) = bs ++ percentDecode cs := by
  induction bs with
  | nil => rfl
  | cons b bs ih => rw [List.flatMap_cons, List.append_assoc, percentDecode_percentByte, ih, List.cons_append]

theorem percentDecode_cons_of_ne {c : Char} (hc : c ≠ '%') (cs : List Char) :
    percentDecode (c :: cs) = String.utf8EncodeChar c ++ percentDecode cs := by
  rw [percentDecode]
  intro a b cs' h
  exact absurd h hc

/-- **An encoded text is read as the bytes of the text**, whatever follows it. -/
theorem percentDecode_percentEncode {keep : Char → Bool} (hkeep : keep '%' = false) (cs rest : List Char) :
    percentDecode (percentEncode keep cs ++ rest) = utf8 cs ++ percentDecode rest := by
  induction cs with
  | nil => rfl
  | cons c cs ih =>
    rw [percentEncode, List.flatMap_cons, List.append_assoc, ← percentEncode, utf8, List.flatMap_cons, ← utf8,
      List.append_assoc, ← ih]
    split
    · next hc =>
      have hne : c ≠ '%' := by
        rintro rfl
        rw [hkeep] at hc
        cases hc
      exact percentDecode_cons_of_ne hne _
    · exact percentDecode_percentBytes _ _

/-! ## Characters that are written -/

theorem mem_percentByte {b : UInt8} {d : Char} (h : d ∈ percentByte b) : isFormPlain d = true ∨ d = '%' := by
  have hb : b.toNat < 256 := b.toNat_lt
  simp only [percentByte, List.mem_cons, List.not_mem_nil, or_false] at h
  rcases h with rfl | rfl | rfl
  · exact .inr rfl
  · exact .inl (isFormPlain_hexDigit (by omega))
  · exact .inl (isFormPlain_hexDigit (by omega))

theorem mem_percentEncode {cs : List Char} {d : Char} (h : d ∈ percentEncode isFormPlain cs) :
    isFormPlain d = true ∨ d = '%' := by
  obtain ⟨c, -, hd⟩ := List.mem_flatMap.1 h
  split at hd
  · next hc =>
    rw [List.mem_singleton.1 hd]
    exact .inl hc
  · obtain ⟨b, -, hd⟩ := List.mem_flatMap.1 hd
    exact mem_percentByte hd

/-- The value of a form field holds no other characters than plain ones, `%` and `+`. -/
theorem not_mem_formEncode {d : Char} (hplain : isFormPlain d = false) (hpercent : d ≠ '%') (hplus : d ≠ '+')
    (cs : List Char) : d ∉ formEncode cs := by
  intro h
  obtain ⟨c, -, hd⟩ := List.mem_flatMap.1 h
  split at hd
  · exact hplus (List.mem_singleton.1 hd)
  · rcases mem_percentEncode hd with hd | hd
    · rw [hplain] at hd
      cases hd
    · exact hpercent hd

/-! ## Form fields -/

theorem formEncode_cons (c : Char) (cs : List Char) : formEncode (c :: cs) = formEncode [c] ++ formEncode cs := by
  rw [formEncode, formEncode, formEncode, List.flatMap_cons, List.flatMap_singleton]

/-- A character that is written byte by byte takes three characters for each. -/
theorem length_percentEncode {c : Char} (hc : isFormPlain c = false) :
    (percentEncode isFormPlain [c]).length = 3 * (String.utf8EncodeChar c).length := by
  have hbytes (bs : List UInt8) : (bs.flatMap percentByte).length = 3 * bs.length := by
    induction bs with
    | nil => rfl
    | cons b bs ih =>
      rw [List.flatMap_cons, List.length_append, ih, percentByte]
      simp
      omega
  rw [percentEncode, List.flatMap_singleton, if_neg (by simp [hc]), hbytes]

theorem percentDecode_formEncode (cs : List Char) :
    percentDecode ((formEncode cs).map fun c => if c = '+' then ' ' else c) = utf8 cs := by
  induction cs with
  | nil => rfl
  | cons c cs ih =>
    rw [formEncode, List.flatMap_cons, List.map_append, ← formEncode, utf8, List.flatMap_cons, ← utf8, ← ih]
    split
    · next hc =>
      rw [hc]
      exact percentDecode_cons_of_ne (by decide) _
    · have hsame : ((percentEncode isFormPlain [c]).map fun d => if d = '+' then ' ' else d) =
          percentEncode isFormPlain [c] := by
        refine (List.map_congr_left fun d hd => ?_).trans (List.map_id _)
        have hplus : d ≠ '+' := by
          rintro rfl
          rcases mem_percentEncode hd with hd | hd <;> cases hd
        exact if_neg hplus
      rw [hsame, percentDecode_percentEncode rfl]
      simp [utf8]

/-- **The value of a form field is read as it was meant.** -/
theorem formDecode_formEncode (cs : List Char) : formDecode (formEncode cs) = cs := by
  rw [formDecode, percentDecode_formEncode, ofUtf8Lossy_utf8]

/-- What is read has no more bytes than what was written. -/
theorem length_percentDecode_le (cs : List Char) : (percentDecode cs).length ≤ (utf8 cs).length := by
  induction cs using percentDecode.induct with
  | case1 => exact Nat.le_refl 0
  | case2 a b cs high low hhigh hlow ih =>
    have htext : (utf8 ('%' :: a :: b :: cs)).length = (utf8 ['%', a, b]).length + (utf8 cs).length :=
      length_utf8_append ['%', a, b] cs
    have hthree : 3 ≤ (utf8 ['%', a, b]).length := length_le_length_utf8 ['%', a, b]
    simp only [percentDecode, hhigh, hlow, List.length_cons]
    omega
  | case3 a b cs hvalues ih =>
    have hread : percentDecode ('%' :: a :: b :: cs) = String.utf8EncodeChar '%' ++ percentDecode (a :: b :: cs) := by
      rw [percentDecode]
      split
      · next high low hhigh hlow => exact (hvalues high low hhigh hlow).elim
      · rfl
    rw [hread, List.length_append, length_utf8_cons]
    omega
  | case4 c cs hc ih =>
    rw [percentDecode, List.length_append, length_utf8_cons]
    · omega
    · exact hc

/-- The value of a form field has no more characters than what was sent has bytes. -/
theorem length_formDecode_le (cs : List Char) : (formDecode cs).length ≤ (utf8 cs).length := by
  have hspaces (cs : List Char) : (utf8 (cs.map fun c => if c = '+' then ' ' else c)).length = (utf8 cs).length := by
    induction cs with
    | nil => rfl
    | cons c cs ih =>
      rw [List.map_cons, length_utf8_cons, length_utf8_cons, ih]
      split
      · next h => rw [h]; rfl
      · rfl
  rw [formDecode, ofUtf8Lossy, List.length_map]
  calc (leads _).length ≤ (percentDecode _).length := length_leads_le _
    _ ≤ (utf8 _).length := length_percentDecode_le _
    _ = (utf8 cs).length := hspaces cs

/-- **A form of one field is read as that field.** -/
theorem formFields_formEncode (name value : List Char) :
    formFields (formEncode name ++ '=' :: formEncode value) = [(String.ofList name, String.ofList value)] := by
  have hseparator : '&' ∉ formEncode name ++ '=' :: formEncode value := by
    have h := not_mem_formEncode (d := '&') rfl (by decide) (by decide)
    simp [h]
  have hequals : ∀ c ∈ formEncode name, decide (c ≠ '=') = true := by
    intro c hc
    have h := not_mem_formEncode (d := '=') rfl (by decide) (by decide) name
    exact decide_eq_true fun heq => h (heq ▸ hc)
  have hruns : runs (· ≠ '&') (formEncode name ++ '=' :: formEncode value) =
      [formEncode name ++ '=' :: formEncode value] := by
    have hword := pieces_word (p := (· ≠ '&')) (w := formEncode name ++ '=' :: formEncode value) (by simp)
      fun c hc => decide_eq_true fun heq => hseparator (heq ▸ hc)
    rw [runs, hword]
    rfl
  rw [formFields, hruns, List.map_singleton, List.takeWhile_append_of_pos hequals, List.dropWhile_append_of_pos hequals]
  simp [formDecode_formEncode]

end RecipeSearch.Text
