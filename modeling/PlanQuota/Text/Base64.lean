/-! Base64 with its usual alphabet and padding. -/
namespace PlanQuota.Base64

/-- The character for six bits. -/
def digit (n : Nat) : Char :=
  if n < 26 then Char.ofNat (0x41 + n)
  else if n < 52 then Char.ofNat (0x61 + (n - 26))
  else if n < 62 then Char.ofNat (0x30 + (n - 52))
  else if n = 62 then '+' else '/'

/-- Every digit can be printed. -/
theorem toNat_digit (n : Nat) : 0x20 ≤ (digit n).toNat ∧ (digit n).toNat < 0x7F := by
  have hsmall : ∀ m < 64, 0x20 ≤ (digit m).toNat ∧ (digit m).toNat < 0x7F := by decide
  by_cases h : n < 64
  · exact hsmall n h
  · have hlast : digit n = '/' := by
      rw [digit, if_neg (by omega), if_neg (by omega), if_neg (by omega), if_neg (by omega)]
    rw [hlast]
    decide

/-- Three bytes make four characters; what is missing of the last three is padded. -/
def encode : List UInt8 → List Char
  | [] => []
  | [a] => [digit (a.toNat / 4), digit (a.toNat % 4 * 16), '=', '=']
  | [a, b] =>
    [digit (a.toNat / 4), digit (a.toNat % 4 * 16 + b.toNat / 16), digit (b.toNat % 16 * 4), '=']
  | a :: b :: c :: r =>
    digit (a.toNat / 4) :: digit (a.toNat % 4 * 16 + b.toNat / 16) ::
      digit (b.toNat % 16 * 4 + c.toNat / 64) :: digit (c.toNat % 64) :: encode r

theorem toNat_of_mem_encode {bytes : List UInt8} :
    ∀ c ∈ encode bytes, 0x20 ≤ c.toNat ∧ c.toNat < 0x7F := by
  induction bytes using encode.induct with
  | case1 => simp [encode]
  | case2 a => simp [encode, toNat_digit]
  | case3 a b => simp [encode, toNat_digit]
  | case4 a b c rest ih => simpa [encode, toNat_digit] using ih

example : encode [0x66, 0x6F, 0x6F, 0x62] = "Zm9vYg==".toList := by decide +kernel
example : encode [0xFB, 0xFF, 0xBF, 0x3E, 0x3F] = "+/+/Pj8=".toList := by decide +kernel

end PlanQuota.Base64
