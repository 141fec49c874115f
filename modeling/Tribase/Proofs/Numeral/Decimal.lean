import Mathlib.Logic.Relation
import Tribase.Proofs.Numeral.Written

/-!
# The decimal writer, pass by pass

The writer divides a window of bytes by ten, again and again. A pass leaves the quotient in place of
the window and finds one digit, and the window shrinks where its first bytes have become zero.

* `Byte.divisions`: the single divisions of a long division; `longDivide_fst_toNat`: none is cut;
* `Tally`: the writer between two passes, `Tally.pass?` one pass, `Tally.Run` any number of them;
* `Tally.Accounts n t`: what is left and what is found are quotient and remainder of `n`;
* `exists_end_of_fall`: steps that make a number fall come to an end, and so do the passes;
* `Tally.Run.decimalDigits_eq`: what the writer finds is what is found at the end;
* **`decimal_numeral`**: the numeral, and what holds of every pass on the way to it.
-/

namespace Tribase

/-! ## 1. Single divisions -/

namespace Byte

/-- One division: the remainder brought down from the left, and the byte. -/
structure Division where
  rem : UInt8
  byte : UInt8
deriving DecidableEq, Repr

/-- The quotient in full, before it is put into a byte. -/
def Division.quotient (d : Division) (div : UInt8) : Nat :=
  (d.rem.toNat * 256 + d.byte.toNat) / div.toNat

/-- The divisions that a long division makes, one for each byte. -/
def divisions (div : UInt8) : UInt8 → List UInt8 → List Division
  | _, [] => []
  | rem, x :: xs => ⟨rem, x⟩ :: divisions div (divide rem x div).2 xs

/-- The bytes of the quotient are what the single divisions give. -/
theorem longDivide_fst (div rem : UInt8) (bytes : List UInt8) :
    (longDivide div rem bytes).1 =
      (divisions div rem bytes).map fun d => (divide d.rem d.byte div).1 := by
  induction bytes generalizing rem with
  | nil => rfl
  | cons x xs ih => exact congrArg ((divide rem x div).1 :: ·) (ih (divide rem x div).2)

/-- A quotient fits in a byte where the remainder is below the divisor. -/
theorem divide_fst_toNat {d : Division} {div : UInt8} (h : d.rem < div) :
    (divide d.rem d.byte div).1.toNat = d.quotient div := by
  have hlt : d.rem.toNat < div.toNat := h
  have hbyte := d.byte.toNat_lt
  have hfits : d.quotient div < 256 := Nat.div_lt_of_lt_mul (by omega)
  exact UInt8.toNat_ofNat_of_lt' hfits

/-- **Every remainder stays below the divisor**, once the first one does. -/
theorem rem_lt_of_mem_divisions {div rem : UInt8} (h : rem < div) (bytes : List UInt8) :
    ∀ d ∈ divisions div rem bytes, d.rem < div := by
  induction bytes generalizing rem with
  | nil => exact List.forall_mem_nil _
  | cons x xs ih => exact List.forall_mem_cons.mpr ⟨h, ih (divide_snd_lt h x)⟩

/-- So no quotient is cut. -/
theorem longDivide_fst_toNat {div rem : UInt8} (h : rem < div) (bytes : List UInt8) :
    (longDivide div rem bytes).1.map UInt8.toNat =
      (divisions div rem bytes).map (·.quotient div) := by
  rw [longDivide_fst, List.map_map]
  exact List.map_congr_left fun d hd => divide_fst_toNat (rem_lt_of_mem_divisions h bytes d hd)

end Byte

/-! ## 2. Passes -/

/-- Steps that make a number fall come to an end. -/
theorem exists_end_of_fall {α : Type} (step? : α → Option α) (measure : α → Nat)
    (hfall : ∀ t t', step? t = some t' → measure t' < measure t) (t : α) :
    ∃ last, Relation.ReflTransGen (fun t t' => step? t = some t') t last ∧ step? last = none := by
  induction hn : measure t using Nat.strong_induction_on generalizing t with
  | _ n ih =>
    cases hstep : step? t with
    | none => exact ⟨t, .refl, hstep⟩
    | some t' =>
      obtain ⟨last, hrun, hend⟩ := ih _ (hn ▸ hfall t t' hstep) t' rfl
      exact ⟨last, .head hstep hrun, hend⟩

/-- The writer between two passes: the bytes still to be divided, and the digits found so far. -/
structure Tally where
  bytes : List UInt8
  found : List Char
deriving DecidableEq, Repr

namespace Tally

/-- Where the writer starts. -/
def start (x : Octets) : Tally :=
  ⟨x.bytes, []⟩

/-- The bytes that a pass divides: those from the first nonzero one on. -/
def window (t : Tally) : List UInt8 :=
  t.bytes.dropWhile (· == 0)

/-- The divisions that a pass makes. -/
def divisions (t : Tally) : List Byte.Division :=
  Byte.divisions 10 0 t.window

/-- One pass: the quotient takes the place of the window, and the remainder is a digit. Where the
    window is empty, the writer is at its end. -/
def pass? (t : Tally) : Option Tally :=
  if t.window = [] then none
  else
    some ⟨(Byte.longDivide 10 0 t.window).1,
      Nat.digitChar (Byte.longDivide 10 0 t.window).2.toNat :: t.found⟩

/-- Any number of passes. -/
def Run : Tally → Tally → Prop :=
  Relation.ReflTransGen fun t t' => t.pass? = some t'

/-- The numeral that the digits make. -/
def numeral (t : Tally) : String :=
  match t.found with
  | [] => "0"
  | digits => String.ofList digits

variable {t t' : Tally}

/-- What a pass is. -/
theorem pass?_eq_some_iff :
    t.pass? = some t' ↔ t.window ≠ [] ∧ t'.bytes = (Byte.longDivide 10 0 t.window).1 ∧
      t'.found = Nat.digitChar (Byte.longDivide 10 0 t.window).2.toNat :: t.found := by
  unfold pass?
  split
  · simp_all
  · rename_i hne
    obtain ⟨bytes, found⟩ := t'
    simp [hne, eq_comm]

/-- The value of the window is that of the bytes. -/
theorem valueHigh_window (t : Tally) : Byte.valueHigh t.window = Byte.valueHigh t.bytes :=
  Byte.valueHigh_dropWhile_zero t.bytes

/-- Where there is a window there is a number. -/
theorem valueHigh_pos (h : t.window ≠ []) : 0 < Byte.valueHigh t.bytes := by
  obtain ⟨top, rest, hcons⟩ := List.exists_cons_of_ne_nil h
  exact Byte.valueHigh_pos_of_dropWhile hcons

/-- **A pass divides the number by ten** and finds the remainder. -/
theorem valueHigh_pass? (h : t.pass? = some t') :
    Byte.valueHigh t'.bytes = Byte.valueHigh t.bytes / 10 ∧
      t'.found = Nat.digitChar (Byte.valueHigh t.bytes % 10) :: t.found := by
  obtain ⟨_, hbytes, hfound⟩ := pass?_eq_some_iff.mp h
  obtain ⟨hdiv, hrem⟩ := Octets.longDivide_ten t.window
  rw [valueHigh_window] at hdiv
  rw [hbytes, hfound]
  have hmod : (Byte.longDivide 10 0 t.window).2.toNat = Byte.valueHigh t.bytes % 10 := by omega
  exact ⟨by omega, by rw [hmod]⟩

/-- The account of the number: the bytes left are its quotient by a power of ten, and the digits
    found spell the remainder. -/
structure Accounts (n : Nat) (t : Tally) : Prop where
  left : Byte.valueHigh t.bytes = n / 10 ^ t.found.length
  found : Spells 10 (n % 10 ^ t.found.length) t.found

theorem accounts_start (x : Octets) : Accounts x.value (start x) where
  left := (Nat.div_one x.value).symm
  found := ⟨[], rfl, by simp, (Nat.mod_one x.value).symm⟩

/-- A pass keeps the account. -/
theorem Accounts.pass {n : Nat} (h : Accounts n t) (hpass : t.pass? = some t') : Accounts n t' := by
  obtain ⟨hleft, ds, hfound, hlt, hval⟩ := h
  obtain ⟨hquot, hdigit⟩ := valueHigh_pass? hpass
  have hlen : t'.found.length = t.found.length + 1 := by rw [hdigit, List.length_cons]
  rw [hleft] at hquot hdigit
  refine ⟨?_, n / 10 ^ t.found.length % 10 :: ds, ?_, ?_, ?_⟩
  · rw [hlen, hquot, Nat.div_div_eq_div_mul, Nat.pow_succ]
  · rw [hdigit, hfound, List.map_cons]
  · exact List.forall_mem_cons.mpr ⟨Nat.mod_lt _ (by decide), hlt⟩
  · have hds : ds.length = t.found.length := by rw [hfound, List.length_map]
    rw [hlen, Nat.mod_pow_succ, positional_cons, hds, hval]
    ring

/-- So does a run. -/
theorem Run.accounts {x : Octets} (h : Run (start x) t) : Accounts x.value t := by
  induction h with
  | refl => exact accounts_start x
  | tail _ hpass ih => exact ih.pass hpass

/-- **The passes come to an end**, since the number falls with each of them. -/
theorem exists_end (t : Tally) : ∃ last, Run t last ∧ last.pass? = none := by
  refine exists_end_of_fall pass? (fun t => Byte.valueHigh t.bytes) (fun t t' hpass => ?_) t
  have hpos := valueHigh_pos (pass?_eq_some_iff.mp hpass).1
  rw [(valueHigh_pass? hpass).1]
  omega

/-- The writer makes one pass and goes on. -/
theorem decimalDigits_of_pass? (h : t.pass? = some t') :
    Octets.decimalDigits t.bytes t.found = Octets.decimalDigits t'.bytes t'.found := by
  obtain ⟨hne, hbytes, hfound⟩ := pass?_eq_some_iff.mp h
  rw [Octets.decimalDigits, hbytes, hfound]
  unfold window at hne ⊢
  split
  · rename_i hnil
    exact absurd hnil hne
  · rename_i top rest hcons
    rw [hcons]

theorem decimalDigits_of_end (h : t.pass? = none) :
    Octets.decimalDigits t.bytes t.found = t.found := by
  have hnil : t.bytes.dropWhile (· == 0) = [] := by
    unfold pass? at h
    split at h
    · assumption
    · cases h
  rw [Octets.decimalDigits]
  split
  · rfl
  · rename_i hcons
    rw [hnil] at hcons
    cases hcons

/-- What the writer finds is what is found at the end. -/
theorem Run.decimalDigits_eq {last : Tally} (h : Run t last) (hend : last.pass? = none) :
    Octets.decimalDigits t.bytes t.found = last.found := by
  induction h using Relation.ReflTransGen.head_induction_on with
  | refl => exact decimalDigits_of_end hend
  | head hpass _ ih => rw [decimalDigits_of_pass? hpass, ih]

end Tally

namespace Octets

/-- **The decimal numeral.** It is the one shortest decimal spelling of the value, whatever the
    length and the leading zeros; the passes that find its digits come to an end; and in every pass
    on the way the remainders are below ten and the quotients bytes, so that none is cut. -/
theorem decimal_numeral (x : Octets) :
    (∀ s : String, Shortest 10 x.value s.toList ↔ s = x.decimal) ∧
    (∃ last, Tally.Run (.start x) last ∧ last.pass? = none ∧ x.decimal = last.numeral) ∧
    ∀ t, Tally.Run (.start x) t → t.Accounts x.value ∧ (∀ d ∈ t.divisions, d.rem < 10) ∧
      ∀ t', t.pass? = some t' → t'.bytes.map UInt8.toNat = t.divisions.map (·.quotient 10) := by
  refine ⟨fun s => ⟨fun h => ?_, fun h => h ▸ x.shortest_decimal⟩, ?_,
    fun t hrun => ⟨hrun.accounts, ?_, ?_⟩⟩
  · exact String.toList_injective (h.unique x.shortest_decimal (by decide))
  · obtain ⟨last, hrun, hend⟩ := Tally.exists_end (.start x)
    refine ⟨last, hrun, hend, ?_⟩
    unfold decimal Tally.numeral
    rw [← hrun.decimalDigits_eq hend]
    rfl
  · exact Byte.rem_lt_of_mem_divisions (by decide) t.window
  · intro t' hpass
    rw [(Tally.pass?_eq_some_iff.mp hpass).2.1]
    exact Byte.longDivide_fst_toNat (by decide) t.window

end Octets

end Tribase
