import Tribase.Record.Stored
import Tribase.Numeral.Placement
import Tribase.Proofs.Numeral.Reading
import Tribase.Proofs.Numeral.Written

/-!
# Stored integers come back

An octet string is stored as its length and its shortest hexadecimal numeral, and comes back from
entries, from a list and from framed bytes: byte for byte, or not at all.

* `load_stored`: length and numeral give the octet string back, up to a thousand leading zeros;
* `ofEntries_len_bits`, `ofEntries_bits_len`, `ofList_items`, `ofFrame_toFrame`: each way of reading
  finds what was stored;
* `ReadsBack x read`: the reading is `x` exactly where the leading zeros are not too many, and a
  refusal otherwise;
* **`stored_readsBack`**: all ways of reading do, and what is stored determines the octet string.
-/

namespace Tribase

/-! ## 1. Length and numeral -/

theorem PadCap.isCapped_standard (n : Nat) : standard.isCapped n = decide (1000 < n) := rfl

namespace Octets

theorem readRadix_hexDigits {x : Octets} (htext : x.hexDigits.utf8ByteSize ≤ Estimate.maxSize) :
    readRadix x.hexDigits 16 = .ok x.trim := by
  have h := x.shortest_hexDigits
  rw [trim_eq_ofNat]
  exact readRadix_of_numeralValue? (by decide) htext h.ne_nil (h.spells.numeralValue? (by decide))

/-- Without its leading zeros and then with them, an octet string is itself again. -/
theorem pad_trim {x : Octets} {cap : PadCap} (h : x.leadingZeroBytes ≤ cap.bytes) :
    x.trim.pad x.leadingZeroBytes cap = x := by
  refine Octets.ext ?_
  rw [pad, PadCap.clamp, Nat.min_eq_left h]
  exact x.replicate_append_trim

/-- **Loading what was stored** gives the octet string, or refuses its leading zeros. -/
theorem load_stored {x : Octets} (htext : x.hexDigits.utf8ByteSize ≤ Estimate.maxSize) :
    x.stored.load =
      if x.leadingZeroBytes ≤ 1000 then .ok x
      else .error (.tooManyZeros x.length x.leadingZeroBytes 1000) := by
  have hsplit := x.leadingZeroBytes_add_length_trim
  have hzeros : x.length - x.trim.length = x.leadingZeroBytes := by omega
  unfold Stored.load stored
  rw [readRadix_hexDigits htext]
  simp only [hzeros, PadCap.isCapped_standard]
  rw [if_neg (by omega)]
  by_cases h : x.leadingZeroBytes ≤ 1000
  · rw [if_neg (by simpa using h), if_pos h]
    exact congrArg Except.ok (pad_trim h)
  · rw [if_pos (by simpa using h), if_neg h]
    rfl

/-- What is stored determines the octet string. -/
theorem stored_injective {x y : Octets} (h : y.stored = x.stored) : y = x := by
  have hlen : y.length = x.length := congrArg Stored.len h
  have hbits : y.hexDigits = x.hexDigits := congrArg Stored.bits h
  have hy := y.shortest_hexDigits.spells
  rw [hbits] at hy
  exact eq_of_value_eq hlen (hy.value_unique x.shortest_hexDigits.spells (by decide))

end Octets

/-! ## 2. Entries and lists -/

namespace Stored

/-- The entry of the length; its key is lent or handed over. -/
def lenEntry (s : Stored) (lent : Bool) : Datum × Datum :=
  (.text "len" lent, .integer s.len)

/-- The entry of the numeral; its key is lent or handed over, its value is lent. -/
def bitsEntry (s : Stored) (lent : Bool) : Datum × Datum :=
  (.text "bits" lent, .text s.bits true)

/-- Length and numeral as a list. -/
def items (s : Stored) : List Datum :=
  [.integer s.len, .text s.bits true]

/-- One step of the run over the entries. -/
theorem collect_cons (len? : Option Nat) (bits? : Option String) (key d : Datum)
    (rest : List (Datum × Datum)) :
    collect len? bits? ((key, d) :: rest) =
      match readKey key with
      | .error e => .error e
      | .ok .len =>
        if len?.isSome then .error (.duplicateField "len")
        else
          match readCount d with
          | .error e => .error e
          | .ok len => collect (some len) bits? rest
      | .ok .bits =>
        if bits?.isSome then .error (.duplicateField "bits")
        else
          match readBits d with
          | .error e => .error e
          | .ok bits => collect len? (some bits) rest := by
  cases len? <;> cases bits? <;> rfl

/-- A list of two is read as its elements under the names of the fields. -/
theorem ofList_two (d d' : Datum) (lent lent' : Bool) :
    Octets.ofList [d, d'] = Octets.ofEntries [(.text "len" lent, d), (.text "bits" lent', d')] := by
  have hentries : ofList [d, d'] = ofEntries [(.text "len" lent, d), (.text "bits" lent', d')] := by
    rw [ofEntries, collect_cons]
    unfold ofList
    dsimp only
    cases readCount d with
    | error e => rfl
    | ok n =>
      show (readBits d').map (Stored.mk n) = collect (some n) none [(.text "bits" lent', d')]
      rw [collect_cons]
      cases readBits d' <;> rfl
  rw [Octets.ofList, Octets.ofEntries, hentries]
  cases ofEntries [(.text "len" lent, d), (.text "bits" lent', d')] with
  | error e => rfl
  | ok t =>
    dsimp only
    cases t.loadRecord <;> rfl

theorem readCount_natCast {n : Nat} (h : n < 2 ^ 64) : readCount (.integer n) = .ok n :=
  if_pos h

section

variable {s : Stored} (hlen : s.len < 2 ^ 64)
include hlen

theorem ofEntries_len_bits (lentLen lentBits : Bool) :
    Octets.ofEntries [s.lenEntry lentLen, s.bitsEntry lentBits] = s.loadRecord := by
  have h : ofEntries [s.lenEntry lentLen, s.bitsEntry lentBits] = .ok s := by
    simp [ofEntries, collect, lenEntry, bitsEntry, readKey, readBits, readCount_natCast hlen]
  rw [Octets.ofEntries, h]

theorem ofEntries_bits_len (lentLen lentBits : Bool) :
    Octets.ofEntries [s.bitsEntry lentBits, s.lenEntry lentLen] = s.loadRecord := by
  have h : ofEntries [s.bitsEntry lentBits, s.lenEntry lentLen] = .ok s := by
    simp [ofEntries, collect, lenEntry, bitsEntry, readKey, readBits, readCount_natCast hlen]
  rw [Octets.ofEntries, h]

theorem ofList_items : Octets.ofList s.items = s.loadRecord :=
  (ofList_two _ _ true true).trans (ofEntries_len_bits hlen true true)

end

/-! ## 3. Framed bytes -/

theorem takeBytes_append (bytes rest : List UInt8) :
    takeBytes bytes.length (bytes ++ rest) = .ok (bytes, rest) := by
  rw [takeBytes, if_pos (by simp), List.take_left, List.drop_left]

theorem takeCount_append {n : Nat} (h : n < 2 ^ 64) (rest : List UInt8) :
    takeCount (countFrame n ++ rest) = .ok (n, rest) := by
  have hword : n < 256 ^ 8 := lt_of_lt_of_eq h (by decide)
  have htake := takeBytes_append (countFrame n) rest
  rw [countFrame, Byte.length_lowBytes] at htake
  rw [takeCount, countFrame, htake]
  show Except.ok (Byte.valueLow (Byte.lowBytes 8 n), rest) = .ok (n, rest)
  rw [Byte.valueLow_lowBytes, Nat.mod_eq_of_lt hword]

theorem fromUTF8?_of_text (text : String) :
    String.fromUTF8? ⟨text.toUTF8.data.toList.toArray⟩ = some text := by
  rw [Array.toArray_toList]
  exact dif_pos text.isValidUTF8

/-- **Framed bytes are read back from the front**, whatever follows them. -/
theorem ofFrame_toFrame {s : Stored} (hlen : s.len < 2 ^ 64) (hbits : s.bits.utf8ByteSize < 2 ^ 64)
    (rest : List UInt8) : ofFrame (s.toFrame ++ rest) = .ok s := by
  have htext : s.bits.toUTF8.data.toList.length < 2 ^ 64 := hbits
  unfold ofFrame toFrame
  simp only [List.append_assoc]
  rw [takeCount_append hlen]
  simp only [bind, Except.bind]
  rw [takeCount_append htext]
  simp only [takeBytes_append, fromUTF8?_of_text]

end Stored

/-! ## 4. All ways of reading -/

/-- The reading is the octet string exactly where it has at most a thousand leading zero bytes, and
    a refusal where it has more. -/
structure ReadsBack {ε : Type} (x : Octets) (read : Except ε Octets) : Prop where
  ok_iff : read = .ok x ↔ x.leadingZeroBytes ≤ 1000
  refused : 1000 < x.leadingZeroBytes → ∃ e, read = .error e

/-- A reading that hands on what loading says reads back what was stored. -/
theorem readsBack_of_load {ε : Type} {x : Octets} {read : Except ε Octets} {wrap : LoadError → ε}
    (htext : x.hexDigits.utf8ByteSize ≤ Estimate.maxSize)
    (h : read = x.stored.load.mapError wrap) : ReadsBack x read := by
  rw [Octets.load_stored htext] at h
  by_cases hz : x.leadingZeroBytes ≤ 1000
  · rw [if_pos hz] at h
    exact ⟨⟨fun _ => hz, fun _ => h⟩, fun hlt => absurd hz (Nat.not_le.mpr hlt)⟩
  · rw [if_neg hz] at h
    refine ⟨⟨fun hok => ?_, fun hle => absurd hle hz⟩, fun _ => ⟨_, h⟩⟩
    rw [hok] at h
    cases h

/-- **Stored integers come back byte for byte, or not at all.** What is stored is the length and the
    lower case hexadecimal numeral; it determines the octet string; and from entries in either
    order, from a list, and from framed bytes with anything after them it is read back exactly where
    the octet string has at most a thousand leading zero bytes. Octet string and numeral are such as
    memory can hold. -/
theorem stored_readsBack (x : Octets) :
    (x.stored = ⟨x.length, x.format .lowerHex {}⟩ ∧ x.stored.bits ≠ "" ∧
      (∀ c ∈ x.stored.bits.toList, c ∈ "0123456789abcdef".toList) ∧
      (x.stored.bits.toList.head? = some '0' → x.stored.bits = "0")) ∧
    (∀ y : Octets, y.stored = x.stored → y = x) ∧
    (x.length ≤ Estimate.maxSize → x.stored.bits.utf8ByteSize ≤ Estimate.maxSize →
      ∀ (lentLen lentBits : Bool) (rest : List UInt8),
        ReadsBack x (Octets.ofEntries [x.stored.lenEntry lentLen, x.stored.bitsEntry lentBits]) ∧
        ReadsBack x (Octets.ofEntries [x.stored.bitsEntry lentBits, x.stored.lenEntry lentLen]) ∧
        ReadsBack x (Octets.ofList x.stored.items) ∧
        ReadsBack x (Octets.ofFrame (x.stored.toFrame ++ rest))) := by
  have hshort := x.shortest_hexDigits
  refine ⟨⟨?_, ?_, hshort.spells.mem_lower (by decide), ?_⟩, fun y => Octets.stored_injective, ?_⟩
  · have htext : x.format .lowerHex {} = x.hexDigits := by
      refine String.toList_inj.mp ?_
      simp [Octets.format, Placement.layOut]
    rw [htext]
    rfl
  · intro hempty
    have hbits : x.hexDigits = "" := hempty
    exact hshort.ne_nil (by rw [hbits]; rfl)
  · intro hzero
    exact String.toList_inj.mp (hshort.lead hzero)
  · intro hlen htext lentLen lentBits rest
    have hword : Estimate.maxSize < 2 ^ 64 := by decide
    have hlen' : x.stored.len < 2 ^ 64 := Nat.lt_of_le_of_lt hlen hword
    have htext' : x.stored.bits.utf8ByteSize < 2 ^ 64 := Nat.lt_of_le_of_lt htext hword
    have hframe : Octets.ofFrame (x.stored.toFrame ++ rest) = x.stored.load.mapError .content := by
      rw [Octets.ofFrame, Stored.ofFrame_toFrame hlen' htext' rest]
      rfl
    exact ⟨readsBack_of_load htext (Stored.ofEntries_len_bits hlen' lentLen lentBits),
      readsBack_of_load htext (Stored.ofEntries_bits_len hlen' lentLen lentBits),
      readsBack_of_load htext (Stored.ofList_items hlen'), readsBack_of_load htext hframe⟩

/-- Two leading zeros and an odd number of digits, framed and with a byte after it. -/
theorem stored_readsBack_framed :
    Octets.ofFrame ((Octets.mk [0, 0, 1, 255]).stored.toFrame ++ [7]) = .ok ⟨[0, 0, 1, 255]⟩ := by
  have h := (stored_readsBack ⟨[0, 0, 1, 255]⟩).2.2 (by decide) (by decide) true false [7]
  exact h.2.2.2.ok_iff.mpr (by decide)

end Tribase
