import AsmGloss.Text.Utf8

/-!
# Reading what was encoded

The first byte of a character says how many bytes follow it, and the bounds on
the second leave each character one encoding.  So a text is read back from its
encoding, character by character.
-/

namespace AsmGloss.Text.Utf8

section Leads

variable {a b c d : UInt8} {mayFollow : UInt8 → Bool}

theorem isContinuation_iff :
    isContinuation b = true ↔ 0x80 ≤ b.toNat ∧ b.toNat ≤ 0xBF := by
  simp [isContinuation, UInt8.le_iff_toNat_le]

/-- The kinds of first bytes, by their numbers. -/
theorem lead_eq (a : UInt8) :
    lead a =
      if a.toNat < 0x80 then (0, isContinuation)
      else if a.toNat < 0xC2 then (4, isContinuation)
      else if a.toNat < 0xE0 then (1, isContinuation)
      else if a.toNat = 0xE0 then
        (2, fun second => 0xA0 ≤ second && second ≤ 0xBF)
      else if a.toNat = 0xED then
        (2, fun second => 0x80 ≤ second && second ≤ 0x9F)
      else if a.toNat < 0xF0 then (2, isContinuation)
      else if a.toNat = 0xF0 then
        (3, fun second => 0x90 ≤ second && second ≤ 0xBF)
      else if a.toNat = 0xF4 then
        (3, fun second => 0x80 ≤ second && second ≤ 0x8F)
      else if a.toNat < 0xF4 then (3, isContinuation)
      else (4, isContinuation) := by
  simp only [lead, UInt8.lt_iff_toNat_lt, beq_iff_eq, ← UInt8.toNat_inj]
  rfl

theorem lead_of_single (single : a.toNat < 0x80) :
    lead a = (0, isContinuation) := by
  rw [lead_eq, if_pos single]

theorem lead_of_pair (least : 0xC2 ≤ a.toNat) (most : a.toNat < 0xE0) :
    lead a = (1, isContinuation) := by
  rw [lead_eq, if_neg (by omega), if_neg (by omega), if_pos most]

/-- The second of three bytes is bounded behind the least first byte, and
behind that of the surrogates. -/
theorem exists_lead_of_triple (least : 0xE0 ≤ a.toNat) (most : a.toNat < 0xF0)
    (continues : isContinuation b = true)
    (notOverlong : a.toNat = 0xE0 → 0xA0 ≤ b.toNat)
    (noSurrogate : a.toNat = 0xED → b.toNat ≤ 0x9F) :
    ∃ mayFollow, lead a = (2, mayFollow) ∧ mayFollow b = true := by
  obtain ⟨lower, upper⟩ := isContinuation_iff.mp continues
  rw [lead_eq, if_neg (by omega), if_neg (by omega), if_neg (by omega)]
  split
  · rename_i first
    refine ⟨_, rfl, ?_⟩
    simpa [UInt8.le_iff_toNat_le] using ⟨notOverlong first, upper⟩
  · split
    · rename_i surrogates
      refine ⟨_, rfl, ?_⟩
      simpa [UInt8.le_iff_toNat_le] using ⟨lower, noSurrogate surrogates⟩
    · exact ⟨_, rfl, continues⟩

/-- The second of four bytes is bounded behind the least first byte, and behind
the greatest. -/
theorem exists_lead_of_quadruple (least : 0xF0 ≤ a.toNat)
    (most : a.toNat ≤ 0xF4) (continues : isContinuation b = true)
    (notOverlong : a.toNat = 0xF0 → 0x90 ≤ b.toNat)
    (inRange : a.toNat = 0xF4 → b.toNat ≤ 0x8F) :
    ∃ mayFollow, lead a = (3, mayFollow) ∧ mayFollow b = true := by
  obtain ⟨lower, upper⟩ := isContinuation_iff.mp continues
  rw [lead_eq, if_neg (by omega), if_neg (by omega), if_neg (by omega),
    if_neg (by omega), if_neg (by omega), if_neg (by omega)]
  split
  · rename_i first
    refine ⟨_, rfl, ?_⟩
    simpa [UInt8.le_iff_toNat_le] using ⟨notOverlong first, upper⟩
  · split
    · rename_i last
      refine ⟨_, rfl, ?_⟩
      simpa [UInt8.le_iff_toNat_le] using ⟨lower, inRange last⟩
    · exact ⟨_, if_pos (by omega), continues⟩

variable {rest : List UInt8}

theorem decode_single (single : a.toNat < 0x80) :
    decode (a :: rest) = Char.ofNat a.toNat :: decode rest := by
  rw [decode, lead_of_single single]
  rfl

theorem decode_pair (least : 0xC2 ≤ a.toNat) (most : a.toNat < 0xE0)
    (continues : isContinuation b = true) :
    decode (a :: b :: rest) =
      Char.ofNat (a.toNat % 0x20 * 0x40 + payload b) :: decode rest := by
  rw [decode, lead_of_pair least most]
  exact if_pos continues

theorem decode_triple (found : lead a = (2, mayFollow))
    (follows : mayFollow b = true) (continues : isContinuation c = true) :
    decode (a :: b :: c :: rest) =
      Char.ofNat ((a.toNat % 0x10 * 0x40 + payload b) * 0x40 + payload c) ::
        decode rest := by
  rw [decode, found]
  simp only [follows, continues, if_true]

theorem decode_quadruple (found : lead a = (3, mayFollow))
    (follows : mayFollow b = true) (continues : isContinuation c = true)
    (ends : isContinuation d = true) :
    decode (a :: b :: c :: d :: rest) =
      Char.ofNat
          (((a.toNat % 0x08 * 0x40 + payload b) * 0x40 + payload c) * 0x40 +
            payload d) :: decode rest := by
  rw [decode, found]
  simp only [follows, continues, ends, if_true]

end Leads

theorem toNat_ofNat_of_lt {number : Nat} (small : number < 256) :
    (UInt8.ofNat number).toNat = number := by
  simpa using Nat.mod_eq_of_lt small

/-- A byte that continues a character holds six bits of it. -/
theorem isContinuation_ofNat (number : Nat) :
    isContinuation (UInt8.ofNat (number % 64 + 128)) = true ∧
      payload (UInt8.ofNat (number % 64 + 128)) = number % 64 := by
  rw [isContinuation_iff, payload, toNat_ofNat_of_lt (by omega)]
  omega

/-- The first byte of a pair holds the bits that are left, and so do those of
triples and quadruples. -/
theorem decode_encodeChar_append (c : Char) (rest : List UInt8) :
    decode (String.utf8EncodeChar c ++ rest) = c :: decode rest := by
  have valid : c.toNat < 0xD800 ∨ 0xDFFF < c.toNat ∧ c.toNat < 0x110000 :=
    c.valid
  have whole {number : Nat} (same : number = c.toNat) :
      Char.ofNat number :: decode rest = c :: decode rest := by
    rw [same, Char.ofNat_toNat]
  have last := isContinuation_ofNat c.toNat
  have middle := isContinuation_ofNat (c.toNat / 64)
  have early := isContinuation_ofNat (c.toNat / 4096)
  have encoded : String.utf8EncodeChar c =
      if c.toNat ≤ 127 then [UInt8.ofNat c.toNat]
      else if c.toNat ≤ 2047 then
        [UInt8.ofNat (c.toNat / 64 % 32 + 192),
          UInt8.ofNat (c.toNat % 64 + 128)]
      else if c.toNat ≤ 65535 then
        [UInt8.ofNat (c.toNat / 4096 % 16 + 224),
          UInt8.ofNat (c.toNat / 64 % 64 + 128),
          UInt8.ofNat (c.toNat % 64 + 128)]
      else
        [UInt8.ofNat (c.toNat / 262144 % 8 + 240),
          UInt8.ofNat (c.toNat / 4096 % 64 + 128),
          UInt8.ofNat (c.toNat / 64 % 64 + 128),
          UInt8.ofNat (c.toNat % 64 + 128)] :=
    rfl
  rw [encoded]
  split
  · have first : (UInt8.ofNat c.toNat).toNat = c.toNat :=
      toNat_ofNat_of_lt (by omega)
    rw [List.singleton_append, decode_single (by omega)]
    exact whole first
  · split
    · have first : (UInt8.ofNat (c.toNat / 64 % 32 + 192)).toNat =
          c.toNat / 64 % 32 + 192 :=
        toNat_ofNat_of_lt (by omega)
      rw [List.cons_append, List.singleton_append,
        decode_pair (by omega) (by omega) last.1]
      exact whole (by rw [last.2]; omega)
    · split
      · have first : (UInt8.ofNat (c.toNat / 4096 % 16 + 224)).toNat =
            c.toNat / 4096 % 16 + 224 :=
          toNat_ofNat_of_lt (by omega)
        have second : (UInt8.ofNat (c.toNat / 64 % 64 + 128)).toNat =
            c.toNat / 64 % 64 + 128 :=
          toNat_ofNat_of_lt (by omega)
        obtain ⟨mayFollow, found, follows⟩ := exists_lead_of_triple
          (a := UInt8.ofNat (c.toNat / 4096 % 16 + 224)) (by omega) (by omega)
          middle.1 (by omega) (by omega)
        rw [List.cons_append, List.cons_append, List.singleton_append,
          decode_triple found follows last.1]
        exact whole (by rw [middle.2, last.2]; omega)
      · have first : (UInt8.ofNat (c.toNat / 262144 % 8 + 240)).toNat =
            c.toNat / 262144 % 8 + 240 :=
          toNat_ofNat_of_lt (by omega)
        have second : (UInt8.ofNat (c.toNat / 4096 % 64 + 128)).toNat =
            c.toNat / 4096 % 64 + 128 :=
          toNat_ofNat_of_lt (by omega)
        obtain ⟨mayFollow, found, follows⟩ := exists_lead_of_quadruple
          (a := UInt8.ofNat (c.toNat / 262144 % 8 + 240)) (by omega) (by omega)
          early.1 (by omega) (by omega)
        rw [List.cons_append, List.cons_append, List.cons_append,
          List.singleton_append, decode_quadruple found follows middle.1 last.1]
        exact whole (by rw [early.2, middle.2, last.2]; omega)

/-- Text is read as it was written. -/
theorem decode_encode (text : List Char) : decode (encode text) = text := by
  induction text with
  | nil => rfl
  | cons c text induction =>
      rw [encode, List.flatMap_cons, decode_encodeChar_append]
      exact congrArg (c :: ·) induction

theorem encode_injective {left right : List Char}
    (same : encode left = encode right) : left = right := by
  have decoded := congrArg decode same
  rwa [decode_encode, decode_encode] at decoded

end AsmGloss.Text.Utf8
