set_option autoImplicit false

/-!
# The order of texts

Texts are ordered by their characters.  `lt_iff_bytes_lt` says that this is the order of their UTF-8
bytes: the first byte of a character tells how many there are, larger characters have more, and of
as many bytes the earlier ones weigh more.
-/

namespace PathRouting.Text

/-- The bytes of a text in UTF-8. -/
def bytes (text : String) : List UInt8 :=
  text.toByteArray.data.toList

theorem bytes_eq_flatMap (text : String) :
    bytes text = text.toList.flatMap String.utf8EncodeChar := by
  unfold bytes
  rw [← String.utf8Encode_toList, List.utf8Encode]
  exact congrArg Array.toList List.data_toByteArray

/-! ## Characters -/

theorem toNat_val_lt (char : Char) : char.val.toNat < 0x110000 := by
  rcases char.valid with hlow | hhigh
  · have hbelow : char.val.toNat < 0xd800 := hlow
    omega
  · exact hhigh.2

/-- Of two numbers the smaller one has the smaller digit to the base 64 where they differ first. -/
theorem digits_lt {v w : Nat} (hlt : v < w) :
    v / 262144 < w / 262144 ∨ v / 262144 = w / 262144 ∧
      (v / 4096 % 64 < w / 4096 % 64 ∨ v / 4096 % 64 = w / 4096 % 64 ∧
        (v / 64 % 64 < w / 64 % 64 ∨ v / 64 % 64 = w / 64 % 64 ∧ v % 64 < w % 64)) := by
  omega

/-- The bytes of a smaller character come first, whatever follows them. -/
theorem utf8EncodeChar_append_lt {char other : Char} (hlt : char < other)
    (rest others : List UInt8) :
    String.utf8EncodeChar char ++ rest < String.utf8EncodeChar other ++ others := by
  have hval : char.val.toNat < other.val.toNat := hlt
  have hlimit := toNat_val_lt other
  unfold String.utf8EncodeChar
  generalize char.val.toNat = v at hval
  generalize other.val.toNat = w at *
  have hdigits := digits_lt hval
  -- No byte overflows: the marks of the bytes leave room for the digits.
  have hnext : ∀ n : Nat, (n % 64 + 128) % 256 = n % 64 + 128 := by omega
  have htwo : ∀ n : Nat, (n % 32 + 192) % 256 = n % 32 + 192 := by omega
  have hthree : ∀ n : Nat, (n % 16 + 224) % 256 = n % 16 + 224 := by omega
  have hfour : (v / 262144 % 8 + 240) % 256 = v / 262144 + 240 := by omega
  have hfour' : (w / 262144 % 8 + 240) % 256 = w / 262144 + 240 := by omega
  dsimp only
  repeat' split
  all_goals
    simp only [List.cons_append, List.nil_append, List.cons_lt_cons_iff, UInt8.lt_iff_toNat_lt,
      UInt8.toNat_ofNat', ← UInt8.toNat_inj, Nat.reducePow, hnext, htwo, hthree, hfour, hfour']
    clear hnext htwo hthree hfour hfour'
    omega

/-! ## Texts -/

theorem append_lt_append {left right : List UInt8} (hlt : left < right) (lead : List UInt8) :
    lead ++ left < lead ++ right := by
  induction lead with
  | nil => exact hlt
  | cons byte rest ih => exact List.cons_lt_cons_iff.mpr (Or.inr ⟨rfl, ih⟩)

/-- Smaller characters in front give smaller bytes in front. -/
theorem flatMap_utf8EncodeChar_lt {left right : List Char} (hlt : left < right) :
    left.flatMap String.utf8EncodeChar < right.flatMap String.utf8EncodeChar := by
  induction hlt with
  | @nil char rest =>
    rw [List.flatMap_nil, List.flatMap_cons]
    obtain ⟨byte, others, hbytes⟩ :=
      List.exists_cons_of_ne_nil (String.utf8EncodeChar_ne_nil (c := char))
    rw [hbytes]
    exact List.nil_lt_cons byte _
  | @cons char rest others _ ih =>
    rw [List.flatMap_cons, List.flatMap_cons]
    exact append_lt_append ih _
  | @rel char other rest others hchar =>
    rw [List.flatMap_cons, List.flatMap_cons]
    exact utf8EncodeChar_append_lt hchar _ _

theorem bytes_lt_of_lt {left right : String} (hlt : left < right) : bytes left < bytes right := by
  rw [bytes_eq_flatMap, bytes_eq_flatMap]
  exact flatMap_utf8EncodeChar_lt hlt

/-- Texts are in the order of their bytes. -/
theorem lt_iff_bytes_lt {left right : String} : left < right ↔ bytes left < bytes right := by
  constructor
  · exact bytes_lt_of_lt
  · intro hlt
    by_cases hright : right < left
    · exact absurd (bytes_lt_of_lt hright) (List.lt_asymm hlt)
    · apply String.not_le.mp
      intro hle
      have hsame : left = right := String.le_antisymm (String.not_lt.mp hright) hle
      subst hsame
      exact List.lt_irrefl _ hlt

end PathRouting.Text
