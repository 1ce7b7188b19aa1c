import DocumentQuery.Value

/-!
# Literals in JSON

Every JSON value is read as a literal, but there are literals that JSON cannot write: bytes, doubles
that are not finite, and scalars that were wrapped as JSON. `Value.Writable` is what is left, and it
is exactly what reading gives.

A JSON object holds each name once. The members of `Json.object` are a list, so this is a condition
of its own here, `Json.DistinctNames`.
-/

namespace DocumentQuery

namespace Binary64

theorem divideToEven_le (num den : Nat) : divideToEven num den ≤ num / den + 1 := by
  simp only [divideToEven]
  split
  · exact Nat.le_succ _
  · split
    · exact Nat.le_refl _
    · omega

theorem binaryExponent_one {n : Nat} (hn : n ≠ 0) : binaryExponent n 1 = n.log2 := by
  have hle : 1 * Nat.pow 2 (n.log2 : Int).toNat ≤ n * Nat.pow 2 (-(n.log2 : Int)).toNat := by
    have hneg : (-(n.log2 : Int)).toNat = 0 := by omega
    rw [hneg, Int.toNat_natCast, Nat.one_mul]
    exact Nat.le_trans (Nat.log2_self_le hn) (Nat.le_mul_of_pos_right n (Nat.pow_pos (by decide)))
  have hone : Nat.log2 1 = 0 := by decide
  simp only [binaryExponent, hone, Int.natCast_zero, Int.sub_zero, if_pos hle]

theorem isFinite_ofMagnitude {n : Nat} (h : n < 2047 * Nat.pow 2 52) :
    (ofMagnitude n).isFinite = true := by
  have hfraction : Nat.pow 2 52 = 4503599627370496 := by decide
  have hsign : Nat.pow 2 63 = 9223372036854775808 := by decide
  rw [hfraction] at h
  have hbits : (UInt64.ofNat n).toNat = n := by
    rw [UInt64.toNat_ofNat']
    omega
  simp only [isFinite, biasedExponent, magnitude, ofMagnitude, hbits, hfraction, hsign,
    decide_eq_true_eq]
  omega

/-- The digits of a number with 64 bits are few enough that rounding cannot leave the finite
doubles. -/
theorem isFinite_ofNat {n : Nat} (h : n < 0x10000000000000000) : (ofNat n).isFinite = true := by
  by_cases hn : n = 0
  · subst hn
    decide
  have hp : Nat.pow 2 52 = 4503599627370496 := by decide
  have hlog : n.log2 < 64 := (Nat.log2_lt hn).mpr (by omega)
  have hlt : n < 2 ^ (n.log2 + 1) := Nat.lt_log2_self
  have hscale : max ((n.log2 : Int) - 52) (-1074) = (n.log2 : Int) - 52 := by omega
  simp only [ofNat, nearest, hn, Nat.one_ne_zero, or_self, if_false, binaryExponent_one hn, hscale]
  apply isFinite_ofMagnitude
  -- the significand has 53 bits, and a carry makes it one bit longer at most
  have hdigits : divideToEven (n * Nat.pow 2 (-((n.log2 : Int) - 52)).toNat)
      (1 * Nat.pow 2 ((n.log2 : Int) - 52).toNat) ≤ 2 ^ 53 + 1 := by
    refine Nat.le_trans (divideToEven_le _ _) (Nat.succ_le_succ ?_)
    apply Nat.div_le_of_le_mul
    rw [Nat.one_mul]
    have hexp : 2 ^ (n.log2 + 1) * Nat.pow 2 (-((n.log2 : Int) - 52)).toNat =
        Nat.pow 2 ((n.log2 : Int) - 52).toNat * 2 ^ 53 := by
      change 2 ^ _ * 2 ^ _ = 2 ^ _ * 2 ^ _
      rw [← Nat.pow_add, ← Nat.pow_add]
      congr 1
      omega
    rw [← hexp]
    exact Nat.mul_le_mul_right _ (Nat.le_of_lt hlt)
  refine Nat.lt_of_le_of_lt (Nat.min_le_left _ _) ?_
  have htoNat : ((n.log2 : Int) - 52 + 1074).toNat ≤ 1085 := by omega
  have hmul := Nat.mul_le_mul_right (Nat.pow 2 52) htoNat
  omega

theorem isFinite_ofInt {n : Int} (hn : 0 ≤ n) (h : n < 0x10000000000000000) :
    (ofInt n).isFinite = true := by
  cases n with
  | ofNat n => exact isFinite_ofNat (Int.ofNat_lt.mp h)
  | negSucc n => omega

end Binary64

namespace Json

mutual

/-- Whether every object in the value holds each name once. -/
def DistinctNames : Json → Prop
  | .array items => DistinctNamesOfItems items
  | .object members => (members.map Prod.fst).Nodup ∧ DistinctNamesOfMembers members
  | _ => True

def DistinctNamesOfItems : List Json → Prop
  | [] => True
  | item :: rest => item.DistinctNames ∧ DistinctNamesOfItems rest

def DistinctNamesOfMembers : List (String × Json) → Prop
  | [] => True
  | (_, value) :: rest => value.DistinctNames ∧ DistinctNamesOfMembers rest

end

theorem distinctNamesOfItems_iff {items : List Json} :
    DistinctNamesOfItems items ↔ ∀ item ∈ items, item.DistinctNames := by
  induction items with
  | nil => simp [DistinctNamesOfItems]
  | cons item rest ih => simp [DistinctNamesOfItems, ih]

theorem distinctNames_single {name : String} {value : Json} :
    (Json.object [(name, value)]).DistinctNames ↔ value.DistinctNames := by
  simp [DistinctNames, DistinctNamesOfMembers]

end Json

namespace Value

/-- Whether the literal can be written in JSON. Only arrays and objects stay JSON. -/
def Writable : Value → Prop
  | .null | .bool _ | .integer _ | .text _ => True
  | .real x => x.isFinite = true
  | .blob _ => False
  | .json (.array items) => (Json.array items).DistinctNames
  | .json (.object members) => (Json.object members).DistinctNames
  | .json _ => False

/-- An integer that is too large for a signed word is read as the double next to it. -/
theorem ofNumber_of_not_lt {n : Int} {fits : Json.FitsWord n} (h : ¬n < 0x8000000000000000) :
    ofNumber (.integer n fits) = .real (.ofInt n) := by
  have hnone : (Json.Number.integer n fits).toInt64? = none := if_neg h
  simp only [ofNumber, hnone, Json.Number.toBinary64]

theorem writable_ofNumber (n : Json.Number) : (ofNumber n).Writable := by
  cases n with
  | integer n fits =>
    by_cases h : n < 0x8000000000000000
    · simp only [ofNumber, Json.Number.toInt64?, if_pos h, Writable]
    · rw [ofNumber_of_not_lt h]
      exact Binary64.isFinite_ofInt (by omega) fits.2
  | real x finite => exact finite

theorem writable_ofJson {j : Json} (h : j.DistinctNames) : (ofJson j).Writable := by
  cases j with
  | null | bool | string => trivial
  | number n => exact writable_ofNumber n
  | array items => exact h
  | object members => exact h

theorem asInt64?_integerJson (n : Int64) : (integerJson n).asInt64? = some n := by
  have hlt : n.toInt < 0x8000000000000000 := by
    have := n.toInt_lt
    omega
  simp only [integerJson, Json.asInt64?, Json.Number.toInt64?, if_pos hlt, Int64.ofInt_toInt]

theorem ofJson_toJson {v : Value} (h : v.Writable) : ofJson v.toJson = v := by
  cases v with
  | null | bool | text => rfl
  | integer n =>
    have hn : (integerJson n).asInt64? = some n := asInt64?_integerJson n
    simp only [integerJson, Json.asInt64?] at hn
    simp only [toJson, integerJson, ofJson, ofNumber, hn]
  | real x =>
    have hx : x.isFinite = true := h
    simp only [toJson, realJson, dif_pos hx, ofJson, ofNumber, Json.Number.toInt64?,
      Json.Number.toBinary64]
  | blob bytes => exact h.elim
  | json j =>
    cases j with
    | array | object => rfl
    | null | bool | number | string => exact h.elim

theorem distinctNames_toJson {v : Value} (h : v.Writable) : v.toJson.DistinctNames := by
  cases v with
  | null | bool | text | integer => trivial
  | real x =>
    have hx : x.isFinite = true := h
    simp only [toJson, realJson, dif_pos hx, Json.DistinctNames]
  | blob bytes => exact h.elim
  | json j =>
    cases j with
    | array | object => exact h
    | null | bool | number | string => trivial

theorem map_ofJson_toJson {vs : List Value} (h : ∀ v ∈ vs, v.Writable) :
    (vs.map toJson).map ofJson = vs := by
  rw [List.map_map]
  conv => rhs; rw [← List.map_id vs]
  exact List.map_congr_left fun v hv => ofJson_toJson (h v hv)

end Value

end DocumentQuery
