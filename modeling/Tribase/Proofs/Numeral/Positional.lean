import Mathlib.Tactic.Ring
import Tribase.Numeral.Basic

/-!
# Positional notation

The theory of `positional`, the number that digits stand for, most significant digit first.

* `positional_append`: what follows shifts what stands before it;
* `positional_lt`: `n` digits stay below `radix ^ n`;
* `eq_of_positional_eq_of_length`: digits of one count are determined by their number;
* `length_le_of_positional_lt`: without a leading zero there are no more digits than needed;
* `positional_flatMap`: a digit of `radix ^ k` can be spelled by `k` digits of the radix;
* `numeralValue?` is the number that a text stands for in which every character is a digit.
-/

namespace Tribase

/-! ## 1. Horner's rule -/

@[simp] theorem positional_nil (radix : Nat) : positional radix [] = 0 := rfl

/-- From a start value, the rule shifts it by one place for each digit. -/
theorem foldl_positional (radix : Nat) (ds : List Nat) (v : Nat) :
    ds.foldl (fun v d => v * radix + d) v = v * radix ^ ds.length + positional radix ds := by
  induction ds generalizing v with
  | nil => simp
  | cons d ds ih =>
    have hd : positional radix (d :: ds) = (0 * radix + d) * radix ^ ds.length + positional radix ds :=
      ih (0 * radix + d)
    rw [List.foldl_cons, ih, hd, List.length_cons]
    ring

theorem positional_cons (radix d : Nat) (ds : List Nat) :
    positional radix (d :: ds) = d * radix ^ ds.length + positional radix ds := by
  have h : positional radix (d :: ds) = (0 * radix + d) * radix ^ ds.length + positional radix ds :=
    foldl_positional radix ds (0 * radix + d)
  rw [h, Nat.zero_mul, Nat.zero_add]

theorem positional_append (radix : Nat) (ds es : List Nat) :
    positional radix (ds ++ es) = positional radix ds * radix ^ es.length + positional radix es := by
  rw [positional, List.foldl_append]
  exact foldl_positional radix es (positional radix ds)

@[simp] theorem positional_singleton (radix d : Nat) : positional radix [d] = d := by
  simp [positional]

/-- Zeros in front add nothing. -/
@[simp] theorem positional_replicate_zero_append (radix n : Nat) (ds : List Nat) :
    positional radix (List.replicate n 0 ++ ds) = positional radix ds := by
  induction n with
  | zero => rfl
  | succ n ih =>
    rw [List.replicate_succ, List.cons_append, positional_cons, Nat.zero_mul, Nat.zero_add, ih]

theorem positional_dropWhile_zero (radix : Nat) (ds : List Nat) :
    positional radix (ds.dropWhile (· == 0)) = positional radix ds := by
  induction ds with
  | nil => rfl
  | cons d ds ih =>
    by_cases hd : d = 0
    · subst hd
      rw [List.dropWhile_cons_of_pos (by simp), ih, positional_cons, Nat.zero_mul, Nat.zero_add]
    · rw [List.dropWhile_cons_of_neg (by simpa using hd)]

/-! ## 2. Bounds, and what they determine -/

theorem positional_lt {radix : Nat} {ds : List Nat} (h : ∀ d ∈ ds, d < radix) :
    positional radix ds < radix ^ ds.length := by
  induction ds with
  | nil => simp
  | cons d ds ih =>
    have hd : d < radix := h d List.mem_cons_self
    have hds := ih fun e he => h e (List.mem_cons_of_mem d he)
    have hstep : (d + 1) * radix ^ ds.length ≤ radix * radix ^ ds.length :=
      Nat.mul_le_mul_right _ hd
    rw [positional_cons, List.length_cons, Nat.pow_succ']
    rw [Nat.add_mul, Nat.one_mul] at hstep
    omega

/-- A leading digit other than zero puts the number in the highest place. -/
theorem le_positional_cons {radix d : Nat} (hd : d ≠ 0) (ds : List Nat) :
    radix ^ ds.length ≤ positional radix (d :: ds) := by
  rw [positional_cons]
  exact Nat.le_add_right_of_le (Nat.le_mul_of_pos_left _ (Nat.pos_of_ne_zero hd))

/-- Digits of one count are determined by their number. -/
theorem eq_of_positional_eq_of_length {radix : Nat} {ds es : List Nat}
    (hlen : ds.length = es.length) (hds : ∀ d ∈ ds, d < radix) (hes : ∀ e ∈ es, e < radix)
    (h : positional radix ds = positional radix es) : ds = es := by
  induction ds generalizing es with
  | nil => exact (List.eq_nil_of_length_eq_zero hlen.symm).symm
  | cons d ds ih =>
    cases es with
    | nil => simp at hlen
    | cons e es =>
      have hlen' : ds.length = es.length := by simpa using hlen
      have hds' : ∀ d ∈ ds, d < radix := fun x hx => hds x (List.mem_cons_of_mem d hx)
      have hes' : ∀ e ∈ es, e < radix := fun x hx => hes x (List.mem_cons_of_mem e hx)
      have hlow := positional_lt hds'
      have hlow' := positional_lt hes'
      rw [positional_cons, positional_cons, hlen', Nat.mul_comm d, Nat.mul_comm e] at h
      rw [hlen'] at hlow
      -- quotient and remainder by the place of the first digit
      have hpos : 0 < radix ^ es.length := Nat.zero_lt_of_lt hlow
      have hdiv := congrArg (· / radix ^ es.length) h
      have hmod := congrArg (· % radix ^ es.length) h
      simp only [Nat.mul_add_div hpos, Nat.div_eq_of_lt hlow, Nat.div_eq_of_lt hlow',
        Nat.add_zero] at hdiv
      simp only [Nat.mul_add_mod, Nat.mod_eq_of_lt hlow, Nat.mod_eq_of_lt hlow'] at hmod
      rw [hdiv, ih hlen' hds' hes' hmod]

/-- No digit, or a first digit other than zero. -/
def NoLeadingZero (ds : List Nat) : Prop :=
  ds.head? ≠ some 0

theorem noLeadingZero_dropWhile (ds : List Nat) : NoLeadingZero (ds.dropWhile (· == 0)) := by
  have h := List.head?_dropWhile_not (· == 0) ds
  intro hz
  rw [hz] at h
  simp at h

/-- **Without a leading zero, a number below `radix ^ k` has at most `k` digits.** -/
theorem length_le_of_positional_lt {radix k : Nat} {ds : List Nat} (hr : 1 < radix)
    (hlead : NoLeadingZero ds) (h : positional radix ds < radix ^ k) : ds.length ≤ k := by
  cases ds with
  | nil => exact Nat.zero_le k
  | cons d ds =>
    have hd : d ≠ 0 := fun e => hlead (by rw [e]; rfl)
    have hlt := Nat.lt_of_le_of_lt (le_positional_cons hd ds) h
    exact (Nat.pow_lt_pow_iff_right hr).mp hlt

/-! ## 3. Digits of a power of the radix -/

/-- Where each digit of `radix ^ k` is spelled by `k` digits of the radix, so is the number. -/
theorem positional_flatMap {radix k : Nat} {spell : Nat → List Nat} {ds : List Nat}
    (hlen : ∀ d ∈ ds, (spell d).length = k) (hval : ∀ d ∈ ds, positional radix (spell d) = d) :
    positional radix (ds.flatMap spell) = positional (radix ^ k) ds ∧
      (ds.flatMap spell).length = k * ds.length := by
  induction ds with
  | nil => exact ⟨rfl, rfl⟩
  | cons d ds ih =>
    obtain ⟨ihval, ihlen⟩ := ih (fun e he => hlen e (List.mem_cons_of_mem d he))
      fun e he => hval e (List.mem_cons_of_mem d he)
    rw [List.flatMap_cons]
    constructor
    · rw [positional_append, ihval, ihlen, hval d List.mem_cons_self, positional_cons, Nat.pow_mul]
    · rw [List.length_append, ihlen, hlen d List.mem_cons_self, List.length_cons]
      ring

/-! ## 4. Texts of digits -/

/-- The digits that the characters are in the radix, where each of them is one. -/
def digitsIn? (radix : Nat) (cs : List Char) : Option (List Nat) :=
  cs.mapM (digitIn? radix)

/-- The number that a text of digits stands for; a text with any other character has none. -/
def numeralValue? (radix : Nat) (cs : List Char) : Option Nat :=
  (digitsIn? radix cs).map (positional radix)

theorem digitsIn?_eq_some_iff {radix : Nat} {cs : List Char} {ds : List Nat} :
    digitsIn? radix cs = some ds ↔ cs.map (digitIn? radix) = ds.map some := by
  induction cs generalizing ds with
  | nil =>
    rw [digitsIn?, List.mapM_nil, List.map_nil]
    cases ds <;> simp
  | cons c cs ih =>
    rw [digitsIn?, List.mapM_cons, ← digitsIn?, List.map_cons]
    cases hc : digitIn? radix c with
    | none => cases ds <;> simp
    | some d =>
      cases hcs : digitsIn? radix cs with
      | none =>
        cases ds with
        | nil => simp
        | cons e es =>
          have hne : cs.map (digitIn? radix) ≠ es.map some := fun h => by
            rw [ih.mpr h] at hcs
            cases hcs
          simp [hne]
      | some es =>
        rw [ih.mp hcs]
        cases ds <;> simp [List.map_inj_right]

theorem numeralValue?_eq_some_iff {radix n : Nat} {cs : List Char} :
    numeralValue? radix cs = some n ↔
      ∃ ds, cs.map (digitIn? radix) = ds.map some ∧ positional radix ds = n := by
  rw [numeralValue?, Option.map_eq_some_iff]
  simp only [digitsIn?_eq_some_iff]

/-- Every digit that a text spells is below the radix. -/
theorem lt_of_map_digitIn? {radix : Nat} {cs : List Char} {ds : List Nat}
    (h : cs.map (digitIn? radix) = ds.map some) : ∀ d ∈ ds, d < radix := by
  intro d hd
  have hmem : some d ∈ cs.map (digitIn? radix) := h ▸ List.mem_map_of_mem hd
  obtain ⟨c, _, hc⟩ := List.mem_map.mp hmem
  exact digitIn?_lt hc

/-- The written digits up to fifteen stand for themselves, in either case. -/
theorem digitIn?_digitChar {radix d : Nat} (hr : radix ≤ 16) (hd : d < radix) :
    digitIn? radix (Nat.digitChar d) = some d ∧
      digitIn? radix (Nat.digitChar d).toUpper = some d := by
  have hall : ∀ d < 16, digitValue? (Nat.digitChar d) = some d ∧
      digitValue? (Nat.digitChar d).toUpper = some d := by decide
  obtain ⟨hlow, hup⟩ := hall d (Nat.lt_of_lt_of_le hd hr)
  rw [digitIn?, digitIn?, hlow, hup]
  simp [hd]

theorem digitIn?_zero {radix : Nat} (hr : 0 < radix) : digitIn? radix '0' = some 0 := by
  have h : digitValue? '0' = some 0 := by decide
  rw [digitIn?, h]
  simp [hr]

/-- The separator is no digit. -/
theorem digitIn?_underscore (radix : Nat) : digitIn? radix '_' = none := by
  have h : digitValue? '_' = none := by decide
  rw [digitIn?, h]
  rfl

theorem numeralValue?_map_digitChar {radix : Nat} {ds : List Nat} (hr : radix ≤ 16)
    (hds : ∀ d ∈ ds, d < radix) :
    numeralValue? radix (ds.map Nat.digitChar) = some (positional radix ds) := by
  refine numeralValue?_eq_some_iff.mpr ⟨ds, ?_, rfl⟩
  rw [List.map_map]
  exact List.map_congr_left fun d hd => (digitIn?_digitChar hr (hds d hd)).1

theorem numeralValue?_map_toUpper {radix : Nat} {ds : List Nat} (hr : radix ≤ 16)
    (hds : ∀ d ∈ ds, d < radix) :
    numeralValue? radix ((ds.map Nat.digitChar).map Char.toUpper) = some (positional radix ds) := by
  refine numeralValue?_eq_some_iff.mpr ⟨ds, ?_, rfl⟩
  rw [List.map_map, List.map_map]
  exact List.map_congr_left fun d hd => (digitIn?_digitChar hr (hds d hd)).2

/-- Written zeros in front add nothing. -/
theorem numeralValue?_replicate_zero_append {radix n : Nat} {cs : List Char} (hr : 0 < radix)
    (k : Nat) (h : numeralValue? radix cs = some n) :
    numeralValue? radix (List.replicate k '0' ++ cs) = some n := by
  obtain ⟨ds, hds, hval⟩ := numeralValue?_eq_some_iff.mp h
  refine numeralValue?_eq_some_iff.mpr ⟨List.replicate k 0 ++ ds, ?_, ?_⟩
  · rw [List.map_append, List.map_append, hds, List.map_replicate, List.map_replicate,
      digitIn?_zero hr]
  · rw [positional_replicate_zero_append, hval]

end Tribase
