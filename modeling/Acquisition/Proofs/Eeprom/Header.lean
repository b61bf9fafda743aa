import Mathlib
import Acquisition.Eeprom.Header
import Acquisition.Proofs.Effect
/-! The header of the identification memory as a byte layout: parsing accepts exactly the strings of
at least twelve bytes with the right signature, version and length, and otherwise names the first
check that failed. -/

namespace ByteArray

theorem toList_loop (b : ByteArray) (i : Nat) (r : List UInt8) :
    toList.loop b i r = r.reverse ++ b.data.toList.drop i := by
  fun_induction toList.loop b i r with
  | case1 i r within ih =>
    have inside : i < b.data.toList.length := by rwa [Array.length_toList, size_data]
    have got : b.get! i = b.data.toList[i] := by
      rw [Array.getElem_toList]
      exact getElem!_pos b.data i (by rwa [size_data])
    rw [ih, List.drop_eq_getElem_cons inside, List.reverse_cons, List.append_assoc, List.singleton_append, got]
  | case2 i r beyond =>
    have past : b.data.toList.length ≤ i := by
      rw [Array.length_toList, size_data]
      exact Nat.le_of_not_lt beyond
    rw [List.drop_eq_nil_of_le past, List.append_nil]

theorem toList_eq_data (b : ByteArray) : b.toList = b.data.toList := by
  rw [toList, toList_loop, List.reverse_nil, List.nil_append, List.drop_zero]

theorem toList_mk_toArray (l : List UInt8) : (⟨l.toArray⟩ : ByteArray).toList = l :=
  toList_eq_data _

theorem length_toList (b : ByteArray) : b.toList.length = b.size := by
  rw [toList_eq_data, Array.length_toList, size_data]

end ByteArray

namespace Acquisition.Eeprom

theorem littleEndian_nil : littleEndian [] = 0 := rfl

theorem littleEndian_cons (b : UInt8) (bs : List UInt8) :
    littleEndian (b :: bs) = b.toNat + 256 * littleEndian bs := by
  show littleEndian bs * 256 + b.toNat = _
  omega

def leBytes : Nat → Nat → List UInt8
  | 0, _ => []
  | width + 1, n => n.toUInt8 :: leBytes width (n / 256)

theorem length_leBytes (width n : Nat) : (leBytes width n).length = width := by
  induction width generalizing n with
  | zero => rfl
  | succ width ih => simp [leBytes, ih]

theorem littleEndian_leBytes (width : Nat) {n : Nat} (fits : n < 256 ^ width) :
    littleEndian (leBytes width n) = n := by
  induction width generalizing n with
  | zero =>
    rw [Nat.pow_zero, Nat.lt_one_iff] at fits
    rw [fits]
    rfl
  | succ width ih =>
    have rest : n / 256 < 256 ^ width := by
      rw [Nat.div_lt_iff_lt_mul (by decide)]
      simpa [pow_succ] using fits
    rw [leBytes, littleEndian_cons, ih rest, Nat.toUInt8_eq, UInt8.toNat_ofNat']
    omega

def Header.encode (h : Header) (reserved : UInt8) : List UInt8 :=
  h.signature ++ [h.version, reserved] ++ leBytes 2 h.atoms ++ leBytes 4 h.length

/-- A header the parser takes back: the format's signature and version, the
fields within their 16 and 32 bits, and a length that covers the header. -/
structure Header.Valid (h : Header) : Prop where
  signature : h.signature = hatSignature
  version : h.version = formatVersion
  atoms : h.atoms < 2 ^ 16
  length : headerSize ≤ h.length
  length_fits : h.length < 2 ^ 32

/-- The fields of a byte string read at their offsets. -/
def fieldsAt (bs : List UInt8) : Header where
  signature := bs.take 4
  version := bs.getD 4 0
  atoms := (bs.getD 6 0).toNat + 256 * (bs.getD 7 0).toNat
  length := (bs.getD 8 0).toNat + 256 * (bs.getD 9 0).toNat + 65536 * (bs.getD 10 0).toNat +
    16777216 * (bs.getD 11 0).toNat

/-- The first check a byte string fails as a header, in the parser's order. -/
def headerDefect (bs : List UInt8) : Option Cause :=
  if bs.length < headerSize then some .badLength
  else if bs.take 4 ≠ hatSignature then some .badSignature
  else if bs.getD 4 0 ≠ formatVersion then some .badVersion
  else if (fieldsAt bs).length < headerSize then some .badLength
  else none

theorem take_succ_drop (bs : List UInt8) (i : Nat) (within : i < bs.length) (w : Nat) :
    (bs.drop i).take (w + 1) = bs.getD i 0 :: (bs.drop (i + 1)).take w := by
  rw [List.drop_eq_getElem_cons within, List.take_succ_cons, List.getD_eq_getElem _ _ within]

theorem littleEndian_fields (bs : List UInt8) (long : headerSize ≤ bs.length) :
    littleEndian ((bs.drop 6).take 2) = (fieldsAt bs).atoms ∧
      littleEndian ((bs.drop 8).take 4) = (fieldsAt bs).length := by
  have : 12 ≤ bs.length := long
  simp only [take_succ_drop bs 6 (by omega), take_succ_drop bs 7 (by omega), take_succ_drop bs 8 (by omega),
    take_succ_drop bs 9 (by omega), take_succ_drop bs 10 (by omega), take_succ_drop bs 11 (by omega),
    List.take_zero, littleEndian_cons, littleEndian_nil, fieldsAt]
  omega

/-- What parsing gives: the fields at their offsets when no check fails, and
otherwise an error recognised by the first check that fails, and by it alone. -/
theorem parse_cases (b : ByteArray) :
    (headerDefect b.toList = none ∧ Header.parse b = .ok (fieldsAt b.toList)) ∨
      ∃ c, headerDefect b.toList = some c ∧ ∃ f, Header.parse b = .error f ∧ f.causes = [c] := by
  unfold Header.parse headerDefect
  rw [← ByteArray.length_toList]
  by_cases short : b.toList.length < headerSize
  · exact .inr ⟨_, if_pos short, _, if_pos short, rfl⟩
  obtain ⟨atoms, length⟩ := littleEndian_fields b.toList (Nat.le_of_not_lt short)
  simp only [short, if_false, atoms, length, bne_iff_ne, ne_eq]
  by_cases signature : b.toList.take 4 = hatSignature
  · by_cases version : b.toList.getD 4 0 = formatVersion
    · rw [List.getD_eq_getElem?_getD] at version
      by_cases covered : (fieldsAt b.toList).length < headerSize
      · exact .inr ⟨.badLength, by simp [signature, version, covered], by simp [signature, version, covered, Fault.of]⟩
      · have fits := covered
        simp only [fieldsAt, List.getD_eq_getElem?_getD] at fits
        exact .inl ⟨by simp [signature, version, covered], by simp [signature, version, fits, fieldsAt]⟩
    · rw [List.getD_eq_getElem?_getD] at version
      exact .inr ⟨.badVersion, by simp [signature, version], by simp [signature, version, Fault.of]⟩
  · exact .inr ⟨.badSignature, by simp [signature], by simp [signature, Fault.of]⟩

theorem headerDefect_eq_none (bs : List UInt8) :
    headerDefect bs = none ↔ headerSize ≤ bs.length ∧ bs.take 4 = hatSignature ∧
      bs.getD 4 0 = formatVersion ∧ headerSize ≤ (fieldsAt bs).length := by
  unfold headerDefect
  split_ifs <;> simp_all

/-- The encoding of a valid header, whatever its reserved byte and whatever
follows it, has the header's fields at their offsets and passes every check. -/
theorem fieldsAt_encode {h : Header} (valid : h.Valid) (reserved : UInt8) (rest : List UInt8) :
    fieldsAt (h.encode reserved ++ rest) = h ∧ headerDefect (h.encode reserved ++ rest) = none := by
  obtain ⟨signature, version, atoms, length, length_fits⟩ := valid
  obtain ⟨sig, ver, atoms', length'⟩ := h
  simp only at signature version atoms length length_fits
  subst signature version
  -- each field sits in its own slice of the encoding, least significant byte first
  set bs := Header.encode ⟨hatSignature, formatVersion, atoms', length'⟩ reserved ++ rest
  have long : headerSize ≤ bs.length := by
    simp [bs, Header.encode, length_leBytes, hatSignature, headerSize]
    omega
  have atomsAt : (bs.drop 6).take 2 = leBytes 2 atoms' := by
    simp [bs, Header.encode, hatSignature, leBytes]
  have lengthAt : (bs.drop 8).take 4 = leBytes 4 length' := by
    simp [bs, Header.encode, hatSignature, leBytes]
  obtain ⟨readsAtoms, readsLength⟩ := littleEndian_fields bs long
  rw [atomsAt, littleEndian_leBytes 2 atoms] at readsAtoms
  rw [lengthAt, littleEndian_leBytes 4 length_fits] at readsLength
  have fields : fieldsAt bs = ⟨hatSignature, formatVersion, atoms', length'⟩ := by
    simp only [fieldsAt, Header.mk.injEq]
    refine ⟨?_, ?_, readsAtoms.symm, readsLength.symm⟩
    · simp [bs, Header.encode, hatSignature]
    · simp [bs, Header.encode, hatSignature]
  refine ⟨fields, (headerDefect_eq_none _).2 ⟨long, ?_, ?_, ?_⟩⟩
  · simp [bs, Header.encode, hatSignature]
  · simp [bs, Header.encode, hatSignature]
  · rw [fields]
    exact length

/-- Reading the header reads twelve bytes at address 0 and parses them; a
failed read gives the memory's error behind the header's context. -/
theorem run'_read {σ : Type} (read : UInt32 → Nat → Op σ ByteArray) (s : σ) :
    (Header.read read).run' s = match (read 0 headerSize).run' s with
      | (.ok bytes, s') => (Header.parse bytes, s')
      | (.error f, s') => (.error (f.context "could not read eeprom header"), s') := by
  unfold Header.read
  rw [Op.run'_bind, Op.run'_withContext]
  rcases (read 0 headerSize).run' s with ⟨f | bytes, s'⟩
  · rfl
  · exact Op.run'_ofExcept _ _

/-- A valid header, encoded with any reserved byte and followed by anything,
parses back to itself. -/
theorem parse_encode {h : Header} (valid : h.Valid) (reserved : UInt8) (rest : List UInt8) :
    Header.parse (List.toByteArray (h.encode reserved ++ rest)) = .ok h := by
  obtain ⟨fields, passes⟩ := fieldsAt_encode valid reserved rest
  have bytes : (List.toByteArray (h.encode reserved ++ rest)).toList = h.encode reserved ++ rest := by
    rw [ByteArray.toList_eq_data, List.toList_data_toByteArray]
  rcases parse_cases (List.toByteArray (h.encode reserved ++ rest)) with ⟨-, parsed⟩ | ⟨c, defect, -⟩
  · rw [parsed, bytes, fields]
  · rw [bytes, passes] at defect
    cases defect

/-- The header parser accepts exactly the strings of twelve bytes or more with
the format's signature and version and a length of at least twelve. It then
gives the fields at their offsets, least significant byte first, whatever the
reserved byte and the bytes after the header; otherwise its error is that of
the first failing check among length, signature, version and declared length.
So every valid header comes back from its encoding, and reading the header
parses the twelve bytes at address 0 or gives the memory's error. -/
theorem parse_accepts_exactly_valid_headers (b : ByteArray) :
    ((∃ h, Header.parse b = .ok h) ↔ headerSize ≤ b.size ∧ b.toList.take 4 = hatSignature ∧
        b.toList.getD 4 0 = formatVersion ∧ headerSize ≤ (fieldsAt b.toList).length) ∧
      (∀ h, Header.parse b = .ok h → h = fieldsAt b.toList) ∧
      (∀ f, Header.parse b = .error f → ∃ c, headerDefect b.toList = some c ∧ f.causes = [c]) ∧
      (∀ (h : Header) (reserved : UInt8) (rest : List UInt8), h.Valid →
        Header.parse (List.toByteArray (h.encode reserved ++ rest)) = .ok h) ∧
      (∀ {σ : Type} (read : UInt32 → Nat → Op σ ByteArray) (s : σ),
        (Header.read read).run' s = match (read 0 headerSize).run' s with
          | (.ok bytes, s') => (Header.parse bytes, s')
          | (.error f, s') => (.error (f.context "could not read eeprom header"), s')) := by
  refine ⟨?_, ?_, ?_, fun h reserved rest valid => parse_encode valid reserved rest, run'_read⟩
  · rw [← ByteArray.length_toList, ← headerDefect_eq_none]
    rcases parse_cases b with ⟨none, parsed⟩ | ⟨c, defect, f, parsed, -⟩
    · exact ⟨fun _ => none, fun _ => ⟨_, parsed⟩⟩
    · simp [defect, parsed]
  · intro h parsed
    rcases parse_cases b with ⟨-, parsed'⟩ | ⟨c, -, f, parsed', -⟩
    · rw [parsed] at parsed'
      exact Except.ok.inj parsed'
    · rw [parsed] at parsed'
      cases parsed'
  · intro f parsed
    rcases parse_cases b with ⟨-, parsed'⟩ | ⟨c, defect, f', parsed', causes⟩
    · rw [parsed] at parsed'
      cases parsed'
    · rw [parsed] at parsed'
      cases parsed'
      exact ⟨c, defect, causes⟩

end Acquisition.Eeprom
