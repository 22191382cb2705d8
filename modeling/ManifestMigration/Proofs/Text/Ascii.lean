import ManifestMigration.Text.Digit

/-! ASCII characters: what can be checked for each of them, and where the classes of characters and the
    forms of letters stay inside ASCII. -/

namespace ManifestMigration.Text

/-- Written in ASCII. -/
def IsAscii (s : List Char) : Prop := ∀ c ∈ s, c.toNat < 128

instance decidableIsAscii : DecidablePred IsAscii := fun s =>
  List.decidableBAll (fun c : Char => c.toNat < 128) s

variable {s t : List Char}

theorem isAscii_append : IsAscii (s ++ t) ↔ IsAscii s ∧ IsAscii t := List.forall_mem_append

/-- What holds of the ASCII characters one by one holds of each of them. -/
theorem of_ascii (p : Char → Bool) (hp : ∀ n ∈ List.range 128, p (Char.ofNat n) = true) {c : Char}
    (hc : c.toNat < 128) : p c = true := by
  have h := hp c.toNat (List.mem_range.mpr hc)
  rwa [Char.ofNat_toNat] at h

theorem isDigit_iff_of_ascii {c : Char} (hc : c.toNat < 128) :
    isDigit c = true ↔ c.isDigit = true := by
  have h := of_ascii (fun c => isDigit c == c.isDigit) (by decide +kernel) hc
  rw [beq_iff_eq.mp h]

theorem toNat_lt_of_isDigit {c : Char} (h : c.isDigit = true) : c.toNat < 128 := by
  obtain ⟨-, hhigh⟩ : 48 ≤ c.toNat ∧ c.toNat ≤ 57 := by
    simpa [Char.isDigit, UInt32.le_iff_toNat_le] using h
  omega

/-- Only capital letters have another lower-case form. -/
theorem toNat_lt_of_toLower {c : Char} (h : c.toLower.toNat < 128) : c.toNat < 128 := by
  by_cases hupper : c.val ≥ 'A'.val ∧ c.val ≤ 'Z'.val
  · have hhigh : c.toNat ≤ 90 := hupper.2
    omega
  · rwa [show c.toLower = c from dif_neg hupper] at h

theorem not_upper_of_not_lt {c : Char} (hc : ¬ c.toNat < 128) :
    ¬ (c.val ≥ 'A'.val ∧ c.val ≤ 'Z'.val) := by
  rintro ⟨-, hhigh⟩
  have hhigh' : c.toNat ≤ 90 := hhigh
  omega

theorem toLower_of_not_lt {c : Char} (hc : ¬ c.toNat < 128) : c.toLower = c :=
  dif_neg (not_upper_of_not_lt hc)

/-- A letter stays a letter in lower case, and nothing else becomes one. -/
theorem isAlphanum_toLower (c : Char) : c.toLower.isAlphanum = c.isAlphanum := by
  by_cases hc : c.toNat < 128
  · have h := of_ascii (fun c => c.toLower.isAlphanum == c.isAlphanum) (by decide +kernel) hc
    exact beq_iff_eq.mp h
  · rw [toLower_of_not_lt hc]

theorem isUpper_toLower (c : Char) : c.toLower.isUpper = false := by
  by_cases hc : c.toNat < 128
  · have h := of_ascii (fun c => !c.toLower.isUpper) (by decide +kernel) hc
    rwa [Bool.not_eq_true'] at h
  · rw [toLower_of_not_lt hc]
    exact decide_eq_false (not_upper_of_not_lt hc)

/-! ### Texts byte by byte -/

/-- The characters of a text in ASCII. The characters of any text are collected in its bytes by their
    positions, which takes the kernel far longer than to go through the bytes once. -/
def asciiChars? (s : String) : Option (List Char) :=
  let bytes := s.toByteArray.data.toList
  let chars := bytes.map fun b => Char.ofNat b.toNat
  if chars.flatMap String.utf8EncodeChar = bytes then some chars else none

theorem toList_of_asciiChars? {s : String} {chars : List Char} (h : asciiChars? s = some chars) :
    s.toList = chars := by
  rw [asciiChars?] at h
  split at h
  case isFalse => cases h
  case isTrue hbytes =>
    obtain rfl := Option.some.inj h
    have hback : String.ofList (s.toByteArray.data.toList.map fun b => Char.ofNat b.toNat) = s := by
      rw [← String.toByteArray_inj, String.toByteArray_ofList, List.utf8Encode, hbytes]
      exact ByteArray.ext List.data_toByteArray
    exact (congrArg String.toList hback).symm.trans String.toList_ofList

end ManifestMigration.Text
