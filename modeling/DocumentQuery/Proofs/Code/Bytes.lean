import DocumentQuery.Filter.Shape

/-!
# Bytes that can be read back

Words, counts and texts are written as bytes so that the reader of a stream knows where each of them
ends: a word has eight bytes, and a text ends at the first byte that UTF-8 never uses.
-/

namespace DocumentQuery

namespace SipHash

theorem wordBytes_inj {v w : UInt64} : wordBytes v = wordBytes w ↔ v = w := by
  constructor
  · intro h
    simp only [wordBytes, List.cons.injEq, and_true, ← UInt8.toNat_inj, UInt64.toNat_toUInt8,
      UInt64.toNat_shiftRight, Nat.shiftRight_eq_div_pow] at h
    have hv := v.toNat_lt
    have hw := w.toNat_lt
    apply UInt64.toNat_inj.mp
    simp at h
    omega
  · rintro rfl
    rfl

theorem wordBytes_append_inj {v w : UInt64} {xs ys : List UInt8}
    (h : wordBytes v ++ xs = wordBytes w ++ ys) : v = w ∧ xs = ys := by
  obtain ⟨hw, hx⟩ := List.append_inj h (by simp)
  exact ⟨wordBytes_inj.mp hw, hx⟩

theorem textBytes_inj {s t : String} : textBytes s = textBytes t ↔ s = t := by
  constructor
  · intro h
    have hb : s.toList.utf8Encode = t.toList.utf8Encode := congrArg List.toByteArray h
    rw [String.utf8Encode_toList, String.utf8Encode_toList] at hb
    exact String.toByteArray_inj.mp hb
  · rintro rfl
    rfl

theorem ff_ne_ofNat {n : Nat} (h : n < 255) : 0xff ≠ UInt8.ofNat n := by
  intro he
  have hn := congrArg UInt8.toNat he
  rw [UInt8.toNat_ofNat', Nat.mod_eq_of_lt (by omega)] at hn
  exact absurd hn (by simp; omega)

/-- UTF-8 never uses the byte that ends a text. -/
theorem ff_not_mem_textBytes (s : String) : 0xff ∉ textBytes s := by
  intro h
  obtain ⟨c, -, hc⟩ := List.mem_flatMap.mp h
  -- a code has one to four bytes, and the first of four is the largest there is
  simp only [String.utf8EncodeChar] at hc
  split at hc
  · rw [List.mem_singleton] at hc
    exact ff_ne_ofNat (by omega) hc
  · split at hc
    · simp only [List.mem_cons, List.not_mem_nil, or_false] at hc
      rcases hc with hc | hc <;> exact ff_ne_ofNat (by omega) hc
    · split at hc
      · simp only [List.mem_cons, List.not_mem_nil, or_false] at hc
        rcases hc with hc | hc | hc <;> exact ff_ne_ofNat (by omega) hc
      · simp only [List.mem_cons, List.not_mem_nil, or_false] at hc
        rcases hc with hc | hc | hc | hc <;> exact ff_ne_ofNat (by omega) hc

end SipHash

theorem countCode_append_inj {m n : Nat} (hm : m < UInt64.size) (hn : n < UInt64.size)
    {xs ys : List UInt8} (h : countCode m ++ xs = countCode n ++ ys) : m = n ∧ xs = ys := by
  obtain ⟨hw, hx⟩ := SipHash.wordBytes_append_inj h
  refine ⟨?_, hx⟩
  have hv : (UInt64.ofNat m).toNat = (UInt64.ofNat n).toNat := by rw [hw]
  rwa [UInt64.toNat_ofNat_of_lt' hm, UInt64.toNat_ofNat_of_lt' hn] at hv

/-- Lists that are followed by a byte which neither has can be told from what follows. -/
theorem append_cons_inj_of_not_mem {b : UInt8} {as cs xs ys : List UInt8} (ha : b ∉ as)
    (hc : b ∉ cs) (h : as ++ b :: xs = cs ++ b :: ys) : as = cs ∧ xs = ys := by
  induction as generalizing cs with
  | nil =>
    cases cs with
    | nil => simpa using h
    | cons c cs =>
      simp only [List.nil_append, List.cons_append, List.cons.injEq] at h
      exact absurd h.1 (by simp only [List.mem_cons, not_or] at hc; exact hc.1)
  | cons a as ih =>
    simp only [List.mem_cons, not_or] at ha
    cases cs with
    | nil =>
      simp only [List.nil_append, List.cons_append, List.cons.injEq] at h
      exact absurd h.1.symm ha.1
    | cons c cs =>
      simp only [List.mem_cons, not_or] at hc
      simp only [List.cons_append, List.cons.injEq] at h
      obtain ⟨hcs, hx⟩ := ih ha.2 hc.2 h.2
      exact ⟨by rw [h.1, hcs], hx⟩

theorem Schema.textCode_append_inj {s t : String} {xs ys : List UInt8}
    (h : Schema.textCode s ++ xs = Schema.textCode t ++ ys) : s = t ∧ xs = ys := by
  simp only [Schema.textCode, List.append_assoc, List.singleton_append] at h
  obtain ⟨hs, hx⟩ := append_cons_inj_of_not_mem (SipHash.ff_not_mem_textBytes s)
    (SipHash.ff_not_mem_textBytes t) h
  exact ⟨SipHash.textBytes_inj.mp hs, hx⟩

end DocumentQuery
