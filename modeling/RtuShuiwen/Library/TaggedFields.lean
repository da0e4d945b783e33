import RtuShuiwen.Library.ByteLayout

/-! # Sequences of tagged fields

Byte strings made of fields, each a 16-bit tag, high byte first, and a value whose length the tag
determines. `decode` reads such a string for a given length function; **`decode_encode`** says that
it recovers a sequence of fields whose values have the lengths of their tags. -/

namespace TaggedFields

open ByteLayout

/-- A tag and the value behind it. -/
abbrev Field := UInt16 × List UInt8

/-- The bytes of a sequence of fields. -/
def encode (fields : List Field) : List UInt8 := fields.flatMap fun f => u16be f.1 ++ f.2

/-- Read a sequence of fields; a value behind tag `t` has `len t` bytes. -/
def decode (len : UInt16 → ℕ) : List UInt8 → Option (List Field)
  | [] => some []
  | [_] => none
  | hi :: lo :: bs =>
      if bs.length < len (ofBytes16 hi lo) then none
      else
        (decode len (bs.drop (len (ofBytes16 hi lo)))).map
          ((ofBytes16 hi lo, bs.take (len (ofBytes16 hi lo))) :: ·)
termination_by bs => bs.length
decreasing_by
  simp only [List.length_drop, List.length_cons]
  omega

variable {len : UInt16 → ℕ}

/-- The first field of a sequence is read first. -/
theorem decode_field (f : Field) (hlen : f.2.length = len f.1) (rest : List UInt8) :
    decode len (u16be f.1 ++ f.2 ++ rest) = (decode len rest).map (f :: ·) := by
  have htag : ofBytes16 (f.1 >>> 8).toUInt8 f.1.toUInt8 = f.1 := ofBytes16_toBytes f.1
  have henough : ¬ (f.2 ++ rest).length < len f.1 := by
    rw [List.length_append, hlen]
    omega
  show decode len ((f.1 >>> 8).toUInt8 :: f.1.toUInt8 :: (f.2 ++ rest)) = _
  rw [decode, htag, if_neg henough, List.drop_left' hlen, List.take_left' hlen]

/-- **The round trip**: fields whose values have the lengths of their tags are recovered. -/
theorem decode_encode (fields : List Field) (hlen : ∀ f ∈ fields, f.2.length = len f.1) :
    decode len (encode fields) = some fields := by
  induction fields with
  | nil => rw [encode, List.flatMap_nil, decode]
  | cons f fields ih =>
      have hrest : ∀ g ∈ fields, g.2.length = len g.1 := fun g hg => hlen g (List.mem_cons_of_mem f hg)
      rw [encode, List.flatMap_cons, ← encode, decode_field f (hlen f List.mem_cons_self), ih hrest]
      rfl

end TaggedFields
