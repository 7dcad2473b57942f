import Shoreline.Url.Address

/-!
# `Shoreline.Proofs.Url.Segment` — what a segment of a path stands for

A text becomes a segment of a path by percent-encoding, and a segment stands for what it decodes to. The
unreserved characters are left as they are, and the dot is one of them: so every text is read back from its
segment, but the segments of `.` and `..` are dot segments, and no other way to write them would help, for
all segments that decode to one or two dots are dot segments.

## Contents
- `Text.encode_injective`; `decodeBytes_cons`, `decodeBytes_encodeByte`, `decodeBytes_segment`.
- `pathChar_of_mem_segment`: the characters of a segment.
- `dotForms`; `isDot_iff`, `isDoubleDot_iff`: dot segments are those that decode to dots.
-/

namespace Shoreline

open Text

/-- Different texts have different bytes. -/
theorem Text.encode_injective {s t : String} (h : Text.encode s = Text.encode t) : s = t := by
  have hbytes : s.toList.utf8Encode = t.toList.utf8Encode := congrArg List.toByteArray h
  rw [← String.toByteArray_inj, ← String.ofList_toList (s := s), ← String.ofList_toList (s := t),
    String.toByteArray_ofList, String.toByteArray_ofList]
  exact hbytes

namespace Url

/-! ## Decoding -/

/-- A character that begins no escape stands for itself. -/
theorem decodeBytes_cons {c : Char} (h : c ≠ '%') (s : List Char) :
    decodeBytes (c :: s) = String.utf8EncodeChar c ++ decodeBytes s := by
  rw [decodeBytes]
  rintro a b r hc -
  exact h hc

theorem decodeBytes_encodeByte (b : UInt8) (s : List Char) :
    decodeBytes (encodeByte b ++ s) = b :: decodeBytes s := by
  have hb : b.toNat < 256 := b.toNat_lt
  have hhigh := (hexValue?_digit (b.toNat / 16) (by omega)).2
  have hlow := (hexValue?_digit (b.toNat % 16) (by omega)).2
  have hsum : b.toNat / 16 * 16 + b.toNat % 16 = b.toNat := Nat.div_add_mod' b.toNat 16
  unfold encodeByte
  rw [List.cons_append, List.cons_append, List.cons_append, List.nil_append, decodeBytes, hhigh, hlow]
  dsimp only
  rw [hsum]
  exact congrArg (· :: decodeBytes s) (UInt8.ofNat_toNat (x := b))

theorem decodeBytes_encodeBytes (bytes : List UInt8) (s : List Char) :
    decodeBytes (bytes.flatMap encodeByte ++ s) = bytes ++ decodeBytes s := by
  induction bytes with
  | nil => rfl
  | cons b bytes ih =>
    rw [List.flatMap_cons, List.append_assoc, decodeBytes_encodeByte, ih]
    rfl

/-- Whatever is encoded is read back, if the percent sign is encoded too. -/
theorem decodeBytes_encode {plain : Char → Bool} (h : plain '%' = false) (s : List Char) :
    decodeBytes (encode plain s) = s.flatMap String.utf8EncodeChar := by
  induction s with
  | nil => rfl
  | cons c s ih =>
    unfold encode at ih ⊢
    rw [List.flatMap_cons, List.flatMap_cons]
    split
    · next hplain =>
      have hc : c ≠ '%' := by
        rintro rfl
        rw [h] at hplain
        cases hplain
      rw [List.singleton_append, decodeBytes_cons hc, ih]
    · rw [decodeBytes_encodeBytes, ih]

/-- **Every text is read back from its segment.** -/
theorem decodeBytes_segment (s : String) : decodeBytes (segment s).toList = Text.encode s := by
  unfold segment
  rw [String.toList_ofList, decodeBytes_encode (by decide)]
  rfl

/-! ## The characters of a segment -/

theorem toNat_lt_of_le {c : Char} {high : UInt32} (h : c.val ≤ high) (hhigh : high.toNat < 128) :
    c.toNat < 128 :=
  Nat.lt_of_le_of_lt (UInt32.le_iff_toNat_le.mp h) hhigh

theorem toNat_lt_of_isAlphanum {c : Char} (h : c.isAlphanum = true) : c.toNat < 128 := by
  rcases Bool.or_eq_true_iff.mp h with hletter | hdigit
  · have hcases : (c.isUpper || c.isLower) = true := hletter
    rcases Bool.or_eq_true_iff.mp hcases with hupper | hlower
    · have hrange : 'A'.val ≤ c.val ∧ c.val ≤ 'Z'.val := of_decide_eq_true hupper
      exact toNat_lt_of_le hrange.2 (by decide)
    · have hrange : (decide ('a'.val ≤ c.val) && decide (c.val ≤ 'z'.val)) = true := hlower
      exact toNat_lt_of_le (of_decide_eq_true (Bool.and_eq_true_iff.mp hrange).2) (by decide)
  · have hrange : (decide ('0'.val ≤ c.val) && decide (c.val ≤ '9'.val)) = true := hdigit
    exact toNat_lt_of_le (of_decide_eq_true (Bool.and_eq_true_iff.mp hrange).2) (by decide)

theorem toNat_lt_of_isUnreserved {c : Char} (h : isUnreserved c = true) : c.toNat < 128 := by
  unfold isUnreserved at h
  simp only [Bool.or_eq_true, decide_eq_true_eq] at h
  rcases h with (((h | rfl) | rfl) | rfl) | rfl
  · exact toNat_lt_of_isAlphanum h
  all_goals decide

/-- What is written into a segment may stand in a path and does not end the segment. -/
theorem pathChar_of_isUnreserved {c : Char} (h : isUnreserved c = true) :
    isPathChar c = true ∧ isSlash c = false := by
  have hall : ∀ n < 128, isUnreserved (Char.ofNat n) = true →
      isPathChar (Char.ofNat n) = true ∧ isSlash (Char.ofNat n) = false := by decide +kernel
  have hc := hall c.toNat (toNat_lt_of_isUnreserved h)
  rw [Char.ofNat_toNat] at hc
  exact hc h

theorem isUnreserved_upperHex : ∀ n < 16, isUnreserved (upperHex n) = true := by decide

theorem pathChar_of_mem_segment {s : String} {c : Char} (h : c ∈ (segment s).toList) :
    isPathChar c = true ∧ isSlash c = false := by
  unfold segment encode at h
  rw [String.toList_ofList] at h
  obtain ⟨d, -, hc⟩ := List.mem_flatMap.mp h
  split at hc
  · next hplain =>
    rw [List.mem_singleton.mp hc]
    exact pathChar_of_isUnreserved hplain
  · obtain ⟨b, -, hb⟩ := List.mem_flatMap.mp hc
    have hbyte : b.toNat < 256 := b.toNat_lt
    unfold encodeByte at hb
    rcases List.mem_cons.mp hb with rfl | hb
    · decide
    · rcases List.mem_cons.mp hb with rfl | hb
      · exact pathChar_of_isUnreserved (isUnreserved_upperHex _ (by omega))
      · rw [List.mem_singleton.mp hb]
        exact pathChar_of_isUnreserved (isUnreserved_upperHex _ (by omega))

/-! ## Dots -/

/-- Only one character has the byte of a dot at its beginning. -/
theorem eq_dot_of_utf8EncodeChar {c : Char} {rest bytes : List UInt8}
    (h : String.utf8EncodeChar c ++ rest = 0x2E :: bytes) : c = '.' ∧ rest = bytes := by
  unfold String.utf8EncodeChar at h
  dsimp only at h
  split at h
  · next hone =>
    obtain ⟨hhead, htail⟩ := List.cons.inj h
    have hnat : c.val.toNat % 256 = 46 := congrArg UInt8.toNat hhead
    refine ⟨Char.toNat_inj.mp ?_, htail⟩
    show c.val.toNat = 46
    omega
  · -- a longer sequence begins with a byte that stands for no character alone
    exfalso
    split at h
    · have hnat : (c.val.toNat / 64 % 32 + 192) % 256 = 46 :=
        congrArg UInt8.toNat (List.cons.inj h).1
      omega
    · split at h
      · have hnat : (c.val.toNat / 4096 % 16 + 224) % 256 = 46 :=
          congrArg UInt8.toNat (List.cons.inj h).1
        omega
      · have hnat : (c.val.toNat / 262144 % 8 + 240) % 256 = 46 :=
          congrArg UInt8.toNat (List.cons.inj h).1
        omega

/-- The ways to write a dot in a segment. -/
def dotForms : List (List Char) := [['.'], ['%', '2', 'e'], ['%', '2', 'E']]

theorem decodeBytes_dotForm {d : List Char} (h : d ∈ dotForms) (s : List Char) :
    decodeBytes (d ++ s) = 0x2E :: decodeBytes s := by
  unfold dotForms at h
  simp only [List.mem_cons, List.not_mem_nil, or_false] at h
  rcases h with rfl | rfl | rfl
  all_goals rfl

/-- There is no other way. -/
theorem dotForm_of_decodeBytes {s : List Char} {bytes : List UInt8}
    (h : decodeBytes s = 0x2E :: bytes) : ∃ d ∈ dotForms, ∃ r, s = d ++ r ∧ decodeBytes r = bytes := by
  unfold decodeBytes at h
  split at h
  · next a b r =>
    split at h
    · next m n hm hn =>
      obtain ⟨hhead, htail⟩ := List.cons.inj h
      obtain ⟨hm16, ha⟩ := eq_digit_of_hexValue? hm
      obtain ⟨hn16, hb⟩ := eq_digit_of_hexValue? hn
      have hvalue : (m * 16 + n) % 256 = 46 := congrArg UInt8.toNat hhead
      obtain rfl : m = 2 := by omega
      obtain rfl : n = 14 := by omega
      have ha2 : a = '2' := by
        rcases ha with rfl | rfl
        all_goals decide
      rcases hb with rfl | rfl
      · exact ⟨['%', '2', 'e'], by decide, r, by rw [ha2]; rfl, htail⟩
      · exact ⟨['%', '2', 'E'], by decide, r, by rw [ha2]; rfl, htail⟩
    · exact absurd (List.cons.inj h).1 (by decide)
  · next c r _ =>
    obtain ⟨rfl, htail⟩ := eq_dot_of_utf8EncodeChar h
    exact ⟨['.'], by decide, r, rfl, htail⟩
  · cases h

theorem eq_nil_of_decodeBytes {s : List Char} (h : decodeBytes s = []) : s = [] := by
  unfold decodeBytes at h
  split at h
  · split at h
    · cases h
    · cases h
  · exact absurd (List.append_eq_nil_iff.mp h).1 String.utf8EncodeChar_ne_nil
  · rfl

theorem toLower_of_le {c : Char} (h : 128 ≤ c.toNat) : c.toLower = c := by
  unfold Char.toLower
  refine dif_neg ?_
  rintro ⟨-, hhigh⟩
  have hle : c.toNat ≤ 90 := UInt32.le_iff_toNat_le.mp hhigh
  omega

/-- Small letters are made of capitals only. -/
theorem eq_of_toLower {c d : Char} (h : c.toLower = d) (hd : d.isLower = false) : c = d := by
  have hall : ∀ n < 128, (Char.ofNat n).toLower.isLower = true ∨
      (Char.ofNat n).toLower = Char.ofNat n := by decide
  rcases Nat.lt_or_ge c.toNat 128 with hlow | hhigh
  · have hc := hall c.toNat hlow
    rw [Char.ofNat_toNat, h, hd] at hc
    rcases hc with hlower | hsame
    · cases hlower
    · exact hsame.symm
  · rw [← h, toLower_of_le hhigh]

theorem eq_e_of_toLower {c : Char} (h : c.toLower = 'e') : c = 'e' ∨ c = 'E' := by
  have hall : ∀ n < 128, (Char.ofNat n).toLower = 'e' → Char.ofNat n = 'e' ∨ Char.ofNat n = 'E' := by
    decide
  rcases Nat.lt_or_ge c.toNat 128 with hlow | hhigh
  · have hc := hall c.toNat hlow
    rw [Char.ofNat_toNat] at hc
    exact hc h
  · rw [toLower_of_le hhigh] at h
    exact .inl h

theorem mem_dotForms_iff (s : List Char) :
    s ∈ dotForms ↔ s.map Char.toLower = ".".toList ∨ s.map Char.toLower = "%2e".toList := by
  constructor
  · have hall : ∀ d ∈ dotForms, d.map Char.toLower = ".".toList ∨ d.map Char.toLower = "%2e".toList := by
      decide
    exact hall s
  · rintro (hdot | hescape)
    · obtain ⟨c, rfl, hc⟩ := List.map_eq_singleton_iff.mp hdot
      rw [eq_of_toLower hc (by decide)]
      decide
    · obtain ⟨c, r, rfl, hc, hr⟩ := List.map_eq_cons_iff.mp hescape
      obtain ⟨c', r, rfl, hc', hr⟩ := List.map_eq_cons_iff.mp hr
      obtain ⟨c'', rfl, hc''⟩ := List.map_eq_singleton_iff.mp hr
      rw [eq_of_toLower hc (by decide), eq_of_toLower hc' (by decide)]
      rcases eq_e_of_toLower hc'' with rfl | rfl
      all_goals decide

/-- **A segment is a dot segment exactly if it stands for a dot.** -/
theorem isDot_iff (s : List Char) : isDot s = true ↔ decodeBytes s = Text.encode "." := by
  have hforms : isDot s = true ↔ s ∈ dotForms := by
    rw [mem_dotForms_iff]
    unfold isDot
    simp only [Bool.or_eq_true, beq_iff_eq]
  rw [hforms]
  constructor
  · intro h
    rw [← List.append_nil s, decodeBytes_dotForm h]
    rfl
  · intro h
    have hone : decodeBytes s = [0x2E] := h
    obtain ⟨d, hd, r, rfl, hr⟩ := dotForm_of_decodeBytes hone
    rw [eq_nil_of_decodeBytes hr, List.append_nil]
    exact hd

/-- **A segment is a double dot segment exactly if it stands for two dots.** -/
theorem isDoubleDot_iff (s : List Char) : isDoubleDot s = true ↔ decodeBytes s = Text.encode ".." := by
  constructor
  · intro h
    obtain ⟨a, b, rfl, ha, hb⟩ : ∃ a b, s = a ++ b ∧ a ∈ dotForms ∧ b ∈ dotForms := by
      -- each of the four spellings is one way to write a dot after another
      have hsplit : ∀ {t t' : List Char}, (t = ".".toList ∨ t = "%2e".toList) →
          (t' = ".".toList ∨ t' = "%2e".toList) → s.map Char.toLower = t ++ t' →
          ∃ a b, s = a ++ b ∧ a ∈ dotForms ∧ b ∈ dotForms := by
        intro t t' ht ht' hmap
        obtain ⟨a, b, rfl, rfl, rfl⟩ := List.map_eq_append_iff.mp hmap
        exact ⟨a, b, rfl, (mem_dotForms_iff a).mpr ht, (mem_dotForms_iff b).mpr ht'⟩
      unfold isDoubleDot at h
      simp only [Bool.or_eq_true, beq_iff_eq] at h
      rcases h with ((h | h) | h) | h
      · exact hsplit (.inl rfl) (.inl rfl) h
      · exact hsplit (.inl rfl) (.inr rfl) h
      · exact hsplit (.inr rfl) (.inl rfl) h
      · exact hsplit (.inr rfl) (.inr rfl) h
    rw [decodeBytes_dotForm ha, ← List.append_nil b, decodeBytes_dotForm hb]
    rfl
  · intro h
    have hpairs : ∀ a ∈ dotForms, ∀ b ∈ dotForms, isDoubleDot (a ++ b) = true := by decide
    have htwo : decodeBytes s = [0x2E, 0x2E] := h
    obtain ⟨a, ha, r, rfl, hr⟩ := dotForm_of_decodeBytes htwo
    obtain ⟨b, hb, t, rfl, ht⟩ := dotForm_of_decodeBytes hr
    rw [eq_nil_of_decodeBytes ht, List.append_nil]
    exact hpairs a ha b hb

end Url

end Shoreline
