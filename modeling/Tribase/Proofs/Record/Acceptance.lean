import Mathlib.Data.List.Induction
import Tribase.Proofs.Record.RoundTrip

/-!
# What a record has to be

Which entries make a stored integer, and which refusal meets all others.

* `Offence before entry e`: after the entries `before`, the entry is refused with `e`, for its key, for
  coming again, or for its value, in this order;
* `Accepted entries y`: one length and one numeral in either order, that make `y`;
* `Refused entries e`: the first offence, or else a missing field, or else the content;
* `Holds name before slot`: what the slot of a field holds once the entries `before` are read;
* **`ofEntries_decides`**: entries are read exactly where they are accepted, and refused with `e`
  exactly where `Refused` says so.
-/

namespace Tribase

namespace Stored

/-! ## 1. Single values -/

/-- Why a key names no field. -/
inductive BadKey : Datum → RecordError → Prop where
  | kind (d : Datum) (h : ∀ name lent, d ≠ .text name lent) : BadKey d (.wrongKind d.found .fieldName)
  | name (s : String) (lent : Bool) (hlen : s ≠ "len") (hbits : s ≠ "bits") :
      BadKey (.text s lent) (.unknownField s)

/-- Why a value is no count. -/
inductive BadCount : Datum → RecordError → Prop where
  | kind (d : Datum) (h : ∀ n, d ≠ .integer n) : BadCount d (.wrongKind d.found .count)
  | range (n : Int) (h : n < 0 ∨ 2 ^ 64 ≤ n) : BadCount (.integer n) (.wrongValue (.integer n) .count)

/-- Why a value is no lent text. -/
inductive BadBits : Datum → RecordError → Prop where
  | kind (d : Datum) (h : ∀ s, d ≠ .text s true) : BadBits d (.wrongKind d.found .lentText)

theorem readKey_of_bad {d : Datum} {e : RecordError} (h : BadKey d e) : readKey d = .error e := by
  cases h with
  | kind d h =>
    cases d with
    | text s lent => exact absurd rfl (h s lent)
    | _ => rfl
  | name s lent hlen hbits =>
    unfold readKey
    split
    · rename_i heq
      cases heq
      exact absurd rfl hlen
    · rename_i heq
      cases heq
      exact absurd rfl hbits
    · rename_i heq
      cases heq
      rfl
    · rename_i hno
      exact absurd rfl (hno s lent)

/-- A key names the length, or the numeral, or is refused. -/
theorem readKey_cases (d : Datum) :
    (∃ lent, d = .text "len" lent ∧ readKey d = .ok .len) ∨
    (∃ lent, d = .text "bits" lent ∧ readKey d = .ok .bits) ∨ ∃ e, BadKey d e := by
  cases d with
  | text s lent =>
    by_cases hlen : s = "len"
    · subst hlen
      exact .inl ⟨lent, rfl, rfl⟩
    · by_cases hbits : s = "bits"
      · subst hbits
        exact .inr (.inl ⟨lent, rfl, rfl⟩)
      · exact .inr (.inr ⟨_, .name s lent hlen hbits⟩)
  | _ => exact .inr (.inr ⟨_, .kind _ (fun _ _ h => by cases h)⟩)

theorem readCount_of_bad {d : Datum} {e : RecordError} (h : BadCount d e) :
    readCount d = .error e := by
  cases h with
  | kind d h =>
    cases d with
    | integer n => exact absurd rfl (h n)
    | _ => rfl
  | range n h =>
    cases n with
    | ofNat n =>
      have hn : ¬ n < 2 ^ 64 := by
        rcases h with h | h
        · exact absurd h (by simp)
        · exact Nat.not_lt.mpr (Int.ofNat_le.mp h)
      exact if_neg hn
    | negSucc n => rfl

/-- A value is a count below `2 ^ 64`, or is refused. -/
theorem readCount_cases (d : Datum) :
    (∃ n : Nat, n < 2 ^ 64 ∧ d = .integer n ∧ readCount d = .ok n) ∨ ∃ e, BadCount d e := by
  cases d with
  | integer n =>
    by_cases h : n < 0 ∨ 2 ^ 64 ≤ n
    · exact .inr ⟨_, .range n h⟩
    · obtain ⟨m, rfl⟩ := Int.eq_ofNat_of_zero_le (a := n) (by omega)
      have hm : m < 2 ^ 64 := by omega
      exact .inl ⟨m, hm, rfl, if_pos hm⟩
  | _ => exact .inr ⟨_, .kind _ (fun _ h => by cases h)⟩

theorem readBits_of_bad {d : Datum} {e : RecordError} (h : BadBits d e) : readBits d = .error e := by
  cases h with
  | kind h =>
    unfold readBits
    split
    · exact absurd rfl (h _)
    · rfl

/-- A value is a lent text, or is refused. -/
theorem readBits_cases (d : Datum) :
    (∃ s, d = .text s true ∧ readBits d = .ok s) ∨ ∃ e, BadBits d e := by
  by_cases h : ∃ s, d = .text s true
  · obtain ⟨s, rfl⟩ := h
    exact .inl ⟨s, rfl, rfl⟩
  · exact .inr ⟨_, .kind d fun s hs => h ⟨s, hs⟩⟩

/-! ## 2. Entries -/

/-- Some entry has the name for its key. -/
def Named (name : String) (entries : List (Datum × Datum)) : Prop :=
  ∃ lent d, (Datum.text name lent, d) ∈ entries

/-- Why an entry is refused after the entries `before`: its key, then its coming again, then its
    value. -/
inductive Offence (before : List (Datum × Datum)) : Datum × Datum → RecordError → Prop where
  | key {key d : Datum} {e : RecordError} (h : BadKey key e) : Offence before (key, d) e
  | again {name : String} {lent : Bool} {d : Datum} (hname : name = "len" ∨ name = "bits")
      (h : Named name before) : Offence before (.text name lent, d) (.duplicateField name)
  | len {lent : Bool} {d : Datum} {e : RecordError} (hnew : ¬ Named "len" before)
      (h : BadCount d e) : Offence before (.text "len" lent, d) e
  | bits {lent : Bool} {d : Datum} {e : RecordError} (hnew : ¬ Named "bits" before)
      (h : BadBits d e) : Offence before (.text "bits" lent, d) e

/-- No entry is refused after those before it. -/
def Clean (entries : List (Datum × Datum)) : Prop :=
  ∀ before entry after e, entries = before ++ entry :: after → ¬ Offence before entry e

/-- The first entry that is refused after those before it. -/
def FirstOffence (entries : List (Datum × Datum)) (e : RecordError) : Prop :=
  ∃ before entry after, entries = before ++ entry :: after ∧ Clean before ∧ Offence before entry e

/-- **The refusals of a record**: the first offence; with none, a missing length; then a missing
    numeral; and last what loading says of the content. -/
inductive Refused (entries : List (Datum × Datum)) : RecordError → Prop where
  | offence {e : RecordError} (h : FirstOffence entries e) : Refused entries e
  | noLen (hclean : Clean entries) (hlen : ¬ Named "len" entries) :
      Refused entries (.missingField "len")
  | noBits (hclean : Clean entries) (hlen : Named "len" entries) (hbits : ¬ Named "bits" entries) :
      Refused entries (.missingField "bits")
  | content (hclean : Clean entries) {lent lent' : Bool} {n : Nat} {s : String} {f : LoadError}
      (hlen : (Datum.text "len" lent, Datum.integer n) ∈ entries)
      (hbits : (Datum.text "bits" lent', Datum.text s true) ∈ entries)
      (hload : load ⟨n, s⟩ = .error f) : Refused entries (.content f)

/-- The text is hexadecimal digits of either case and separators, at least one digit, for `v`. -/
def HexText (s : String) (v : Nat) : Prop :=
  Octets.withoutSeparators s.toList ≠ [] ∧
    numeralValue? 16 (Octets.withoutSeparators s.toList) = some v

/-- **The records that are read**: one length below `2 ^ 64` and one lent numeral, in either order,
    whose value fits in the length with at most a thousand zero bytes in front. -/
def Accepted (entries : List (Datum × Datum)) (y : Octets) : Prop :=
  ∃ (n : Nat) (s : String) (v : Nat) (lent lent' : Bool),
    (entries = [(.text "len" lent, .integer n), (.text "bits" lent', .text s true)] ∨
      entries = [(.text "bits" lent', .text s true), (.text "len" lent, .integer n)]) ∧
    n < 2 ^ 64 ∧ HexText s v ∧ byteLength v ≤ n ∧ n - byteLength v ≤ 1000 ∧
    y.length = n ∧ y.value = v

/-! ## 3. Runs over entries -/

/-- What the slot of a field holds after the entries: nothing where no entry has its name, and the
    one value that all entries of the name have. -/
def Holds {α : Type} (name : String) (wrap : α → Datum) (before : List (Datum × Datum)) :
    Option α → Prop
  | none => ¬ Named name before
  | some a => Named name before ∧ ∀ lent d, (Datum.text name lent, d) ∈ before → d = wrap a

/-- Both slots after the entries. -/
structure Slots (before : List (Datum × Datum)) (len? : Option Nat) (bits? : Option String) :
    Prop where
  len : Holds "len" (fun n : Nat => .integer n) before len?
  bits : Holds "bits" (fun s => .text s true) before bits?

section

variable {α : Type} {name : String} {wrap : α → Datum} {before : List (Datum × Datum)}

theorem Holds.isSome_iff {slot : Option α} (h : Holds name wrap before slot) :
    slot.isSome = true ↔ Named name before := by
  cases slot with
  | none => exact ⟨fun hf => absurd hf Bool.false_ne_true, fun hn => absurd hn h⟩
  | some a => exact ⟨fun _ => h.1, fun _ => rfl⟩

/-- An entry of another name leaves the slot alone. -/
theorem Holds.append_other {slot : Option α} {entry : Datum × Datum}
    (h : Holds name wrap before slot) (hother : ∀ lent d, entry ≠ (.text name lent, d)) :
    Holds name wrap (before ++ [entry]) slot := by
  have hback : ∀ lent d, (Datum.text name lent, d) ∈ before ++ [entry] →
      (Datum.text name lent, d) ∈ before := by
    intro lent d hmem
    rcases List.mem_append.mp hmem with hmem | hmem
    · exact hmem
    · exact absurd (List.mem_singleton.mp hmem).symm (hother lent d)
  cases slot with
  | none =>
    rintro ⟨lent, d, hmem⟩
    exact h ⟨lent, d, hback lent d hmem⟩
  | some a =>
    obtain ⟨⟨lent, d, hmem⟩, hall⟩ := h
    exact ⟨⟨lent, d, List.mem_append_left _ hmem⟩, fun l d' hm => hall l d' (hback l d' hm)⟩

/-- The first entry of the name fills the slot. -/
theorem holds_append_new (hnew : ¬ Named name before) (lent : Bool) (a : α) :
    Holds name wrap (before ++ [(.text name lent, wrap a)]) (some a) := by
  refine ⟨⟨lent, wrap a, List.mem_append_right _ (List.mem_singleton_self _)⟩, fun l d hmem => ?_⟩
  rcases List.mem_append.mp hmem with hmem | hmem
  · exact absurd ⟨l, d, hmem⟩ hnew
  · exact (Prod.mk.inj (List.mem_singleton.mp hmem)).2

end

section

variable {before : List (Datum × Datum)} {entry : Datum × Datum} {len? : Option Nat}
  {bits? : Option String}

/-- An offence ends the run. -/
theorem collect_of_offence (hslots : Slots before len? bits?) {e : RecordError}
    (h : Offence before entry e) (rest : List (Datum × Datum)) :
    collect len? bits? (entry :: rest) = .error e := by
  cases h with
  | key h => rw [collect_cons, readKey_of_bad h]
  | again hname h =>
    rcases hname with rfl | rfl
    · rw [collect_cons]
      exact if_pos (hslots.len.isSome_iff.mpr h)
    · rw [collect_cons]
      exact if_pos (hslots.bits.isSome_iff.mpr h)
  | len hnew h =>
    rw [collect_cons, readCount_of_bad h]
    exact if_neg fun hsome => hnew (hslots.len.isSome_iff.mp hsome)
  | bits hnew h =>
    rw [collect_cons, readBits_of_bad h]
    exact if_neg fun hsome => hnew (hslots.bits.isSome_iff.mp hsome)

/-- **One entry without an offence** fills one slot, and the run goes on. -/
theorem collect_of_no_offence (hslots : Slots before len? bits?) (h : ∀ e, ¬ Offence before entry e) :
    ∃ len?' bits?', Slots (before ++ [entry]) len?' bits?' ∧
      ∀ rest, collect len? bits? (entry :: rest) = collect len?' bits?' rest := by
  obtain ⟨key, d⟩ := entry
  rcases readKey_cases key with ⟨lent, rfl, hkey⟩ | ⟨lent, rfl, hkey⟩ | ⟨e, hbad⟩
  · have hnew : ¬ Named "len" before := fun hn => h _ (.again (.inl rfl) hn)
    rcases readCount_cases d with ⟨n, _, rfl, hread⟩ | ⟨e, hbad⟩
    · refine ⟨some n, bits?, ⟨holds_append_new hnew lent n, ?_⟩, fun rest => ?_⟩
      · refine hslots.bits.append_other fun lent' d' heq => ?_
        simp at heq
      · rw [collect_cons, hkey, hread]
        exact if_neg fun hsome => hnew (hslots.len.isSome_iff.mp hsome)
    · exact absurd (.len hnew hbad) (h e)
  · have hnew : ¬ Named "bits" before := fun hn => h _ (.again (.inr rfl) hn)
    rcases readBits_cases d with ⟨s, rfl, hread⟩ | ⟨e, hbad⟩
    · refine ⟨len?, some s, ⟨?_, holds_append_new hnew lent s⟩, fun rest => ?_⟩
      · refine hslots.len.append_other fun lent' d' heq => ?_
        simp at heq
      · rw [collect_cons, hkey, hread]
        exact if_neg fun hsome => hnew (hslots.bits.isSome_iff.mp hsome)
    · exact absurd (.bits hnew hbad) (h e)
  · exact absurd (.key hbad) (h e)

end

theorem clean_append_singleton {before : List (Datum × Datum)} {entry : Datum × Datum} :
    Clean (before ++ [entry]) ↔ Clean before ∧ ∀ e, ¬ Offence before entry e := by
  constructor
  · intro h
    refine ⟨fun b x a e heq => ?_, fun e => h before entry [] e rfl⟩
    exact h b x (a ++ [entry]) e (by rw [heq, List.append_assoc]; rfl)
  · rintro ⟨hbefore, hentry⟩ b x a e heq
    rcases List.eq_nil_or_concat a with rfl | ⟨a', y, rfl⟩
    · obtain ⟨rfl, hx⟩ := List.append_inj' heq rfl
      cases hx
      exact hentry e
    · have heq' : before ++ [entry] = (b ++ x :: a') ++ [y] := by simpa using heq
      exact hbefore b x a' e (List.append_inj' heq' rfl).1

/-- **A run over entries without an offence** reaches slots that hold what the entries say. -/
theorem collect_of_clean {before : List (Datum × Datum)} (h : Clean before) :
    ∃ len? bits?, Slots before len? bits? ∧
      ∀ rest, collect none none (before ++ rest) = collect len? bits? rest := by
  induction before using List.reverseRecOn with
  | nil => exact ⟨none, none, ⟨by simp [Holds, Named], by simp [Holds, Named]⟩, fun _ => rfl⟩
  | append_singleton before entry ih =>
    obtain ⟨hbefore, hentry⟩ := clean_append_singleton.mp h
    obtain ⟨len?, bits?, hslots, hrun⟩ := ih hbefore
    obtain ⟨len?', bits?', hslots', hstep⟩ := collect_of_no_offence hslots hentry
    refine ⟨len?', bits?', hslots', fun rest => ?_⟩
    rw [List.append_assoc, hrun, ← hstep]
    rfl

/-- Either no entry offends, or there is a first one that does. -/
theorem clean_or_firstOffence (entries : List (Datum × Datum)) :
    Clean entries ∨ ∃ e, FirstOffence entries e := by
  induction entries using List.reverseRecOn with
  | nil => exact .inl fun b x a e heq => by simp at heq
  | append_singleton before entry ih =>
    rcases ih with hclean | ⟨e, b, x, a, rfl, hclean, hoff⟩
    · by_cases hentry : ∃ e, Offence before entry e
      · obtain ⟨e, he⟩ := hentry
        exact .inr ⟨e, before, entry, [], rfl, hclean, he⟩
      · exact .inl (clean_append_singleton.mpr ⟨hclean, fun e he => hentry ⟨e, he⟩⟩)
    · exact .inr ⟨e, b, x, a ++ [entry], by simp, hclean, hoff⟩

/-! ## 4. The content -/

theorem readRadix_eq_ok_iff_hexText {s : String} (hsize : s.utf8ByteSize ≤ Estimate.maxSize)
    {x : Octets} : Octets.readRadix s 16 = .ok x ↔ ∃ v, HexText s v ∧ x = Octets.ofNat v := by
  rw [Octets.readRadix_eq_ok_iff (by decide) hsize]
  constructor
  · rintro ⟨ds, hds, hne, rfl⟩
    refine ⟨positional 16 ds, ⟨fun hnil => ?_, Option.map_eq_some_iff.mpr ⟨ds, hds, rfl⟩⟩, rfl⟩
    rw [hnil] at hds
    exact hne (Option.some.inj hds).symm
  · rintro ⟨v, ⟨hne, hval⟩, rfl⟩
    obtain ⟨ds, hds, rfl⟩ := Option.map_eq_some_iff.mp hval
    refine ⟨ds, hds, fun hnil => ?_, rfl⟩
    rw [hnil] at hds
    exact hne (List.map_eq_nil_iff.mp (digitsIn?_eq_some_iff.mp hds))

/-- **Length and text make an octet string** iff the text is hexadecimal for a number that fits in
    the length with at most a thousand zero bytes in front. -/
theorem load_eq_ok_iff {n : Nat} {s : String} (hsize : s.utf8ByteSize ≤ Estimate.maxSize)
    {y : Octets} :
    load ⟨n, s⟩ = .ok y ↔ ∃ v, HexText s v ∧ byteLength v ≤ n ∧ n - byteLength v ≤ 1000 ∧
      y.length = n ∧ y.value = v := by
  constructor
  · intro h
    unfold load at h
    split at h
    · cases h
    · rename_i x hx
      obtain ⟨v, hv, rfl⟩ := (readRadix_eq_ok_iff_hexText hsize).mp hx
      simp only [Octets.length_ofNat, PadCap.isCapped_standard, decide_eq_true_eq] at h
      split at h
      · cases h
      · rename_i hle
        split at h
        · cases h
        · rename_i hcap
          cases h
          refine ⟨v, hv, Nat.le_of_not_lt hle, Nat.le_of_not_lt hcap, ?_, by simp⟩
          rw [Octets.length_pad, PadCap.clamp, Octets.length_ofNat]
          show min (n - byteLength v) 1000 + byteLength v = n
          omega
  · rintro ⟨v, hv, hle, hcap, hlen, hval⟩
    have hread := (readRadix_eq_ok_iff_hexText hsize).mpr ⟨v, hv, rfl⟩
    have hpad : (Octets.ofNat v).pad (n - byteLength v) .standard = y := by
      refine Octets.eq_of_value_eq ?_ (by rw [Octets.value_pad, Octets.value_ofNat, hval])
      rw [Octets.length_pad, PadCap.clamp, Octets.length_ofNat, hlen]
      show min (n - byteLength v) 1000 + byteLength v = n
      omega
    unfold load
    rw [hread]
    simp only [Octets.length_ofNat, PadCap.isCapped_standard, decide_eq_true_eq]
    rw [if_neg (Nat.not_lt.mpr hle), if_neg (Nat.not_lt.mpr hcap), hpad]

theorem loadRecord_eq_ok_iff {t : Stored} {y : Octets} : t.loadRecord = .ok y ↔ t.load = .ok y := by
  rw [loadRecord]
  cases t.load with
  | error f => simp [Except.mapError]
  | ok x => simp [Except.mapError]

/-! ## 5. Shapes of what is read -/

section

variable {n : Nat} {s : String} {t : Stored} {entries : List (Datum × Datum)}

/-- An entry that is read fills the slot of its field, which was free. -/
theorem of_collect_cons {len? : Option Nat} {bits? : Option String} {entry : Datum × Datum}
    (h : collect len? bits? (entry :: entries) = .ok t) :
    (∃ (n : Nat) (lent : Bool), len? = none ∧ n < 2 ^ 64 ∧ entry = (.text "len" lent, .integer n) ∧
      collect (some n) bits? entries = .ok t) ∨
    (∃ (s : String) (lent : Bool), bits? = none ∧ entry = (.text "bits" lent, .text s true) ∧
      collect len? (some s) entries = .ok t) := by
  obtain ⟨key, d⟩ := entry
  rw [collect_cons] at h
  rcases readKey_cases key with ⟨lent, rfl, hkey⟩ | ⟨lent, rfl, hkey⟩ | ⟨e, hbad⟩
  · cases len? with
    | some n =>
      rw [hkey] at h
      cases h
    | none =>
      rcases readCount_cases d with ⟨n, hn, rfl, hread⟩ | ⟨e, hbad⟩
      · rw [hkey, hread] at h
        exact .inl ⟨n, lent, rfl, hn, rfl, h⟩
      · rw [hkey, readCount_of_bad hbad] at h
        cases h
  · cases bits? with
    | some s =>
      rw [hkey] at h
      cases h
    | none =>
      rcases readBits_cases d with ⟨s, rfl, hread⟩ | ⟨e, hbad⟩
      · rw [hkey, hread] at h
        exact .inr ⟨s, lent, rfl, rfl, h⟩
      · rw [hkey, readBits_of_bad hbad] at h
        cases h
  · rw [readKey_of_bad hbad] at h
    cases h

/-- With both slots filled, nothing may follow. -/
theorem of_collect_some_some (h : collect (some n) (some s) entries = .ok t) :
    entries = [] ∧ t = ⟨n, s⟩ := by
  cases entries with
  | nil =>
    cases h
    exact ⟨rfl, rfl⟩
  | cons entry rest =>
    rcases of_collect_cons h with ⟨_, _, hfree, _⟩ | ⟨_, _, hfree, _⟩
    · cases hfree
    · cases hfree

/-- With the length read, a numeral has to follow, and nothing after it. -/
theorem of_collect_some_none (h : collect (some n) none entries = .ok t) :
    ∃ s lent, entries = [(.text "bits" lent, .text s true)] ∧ t = ⟨n, s⟩ := by
  cases entries with
  | nil => cases h
  | cons entry rest =>
    rcases of_collect_cons h with ⟨_, _, hfree, _⟩ | ⟨s, lent, _, rfl, hrest⟩
    · cases hfree
    · obtain ⟨rfl, rfl⟩ := of_collect_some_some hrest
      exact ⟨s, lent, rfl, rfl⟩

/-- With the numeral read, a length has to follow, and nothing after it. -/
theorem of_collect_none_some (h : collect none (some s) entries = .ok t) :
    ∃ (n : Nat) (lent : Bool), n < 2 ^ 64 ∧ entries = [(.text "len" lent, .integer n)] ∧
      t = ⟨n, s⟩ := by
  cases entries with
  | nil => cases h
  | cons entry rest =>
    rcases of_collect_cons h with ⟨n, lent, _, hn, rfl, hrest⟩ | ⟨_, _, hfree, _⟩
    · obtain ⟨rfl, rfl⟩ := of_collect_some_some hrest
      exact ⟨n, lent, hn, rfl, rfl⟩
    · cases hfree

/-- **Entries that are read are one length and one numeral**, in either order. -/
theorem of_ofEntries (h : ofEntries entries = .ok t) :
    ∃ lent lent', t.len < 2 ^ 64 ∧ (entries = [t.lenEntry lent, t.bitsEntry lent'] ∨
      entries = [t.bitsEntry lent', t.lenEntry lent]) := by
  cases entries with
  | nil => cases h
  | cons entry rest =>
    rcases of_collect_cons h with ⟨n, lent, _, hn, rfl, hrest⟩ | ⟨s, lent', _, rfl, hrest⟩
    · obtain ⟨s, lent', rfl, rfl⟩ := of_collect_some_none hrest
      exact ⟨lent, lent', hn, .inl rfl⟩
    · obtain ⟨n, lent, hn, rfl, rfl⟩ := of_collect_none_some hrest
      exact ⟨lent, lent', hn, .inr rfl⟩

end

/-! ## 6. Verdicts -/

section

variable {entries : List (Datum × Datum)}

theorem ofEntries_of_clean (h : Clean entries) :
    ∃ len? bits?, Slots entries len? bits? ∧ ofEntries entries = collect len? bits? [] := by
  obtain ⟨len?, bits?, hslots, hrun⟩ := collect_of_clean h
  have hend := hrun []
  rw [List.append_nil] at hend
  exact ⟨len?, bits?, hslots, hend⟩

theorem ofEntries_of_refused {e : RecordError} (h : Refused entries e) :
    Octets.ofEntries entries = .error e := by
  cases h with
  | offence h =>
    obtain ⟨before, entry, after, rfl, hclean, hoff⟩ := h
    obtain ⟨len?, bits?, hslots, hrun⟩ := collect_of_clean hclean
    rw [Octets.ofEntries, ofEntries, hrun, collect_of_offence hslots hoff]
  | noLen hclean hlen =>
    obtain ⟨len?, bits?, hslots, hend⟩ := ofEntries_of_clean hclean
    cases len? with
    | some n => exact absurd hslots.len.1 hlen
    | none => rw [Octets.ofEntries, hend, collect]
  | noBits hclean hlen hbits =>
    obtain ⟨len?, bits?, hslots, hend⟩ := ofEntries_of_clean hclean
    cases len? with
    | none => exact absurd hlen hslots.len
    | some n =>
      cases bits? with
      | some s => exact absurd hslots.bits.1 hbits
      | none => rw [Octets.ofEntries, hend, collect]
  | @content hclean lent lent' n s f hlen hbits hload =>
    obtain ⟨len?, bits?, hslots, hend⟩ := ofEntries_of_clean hclean
    cases len? with
    | none => exact absurd ⟨lent, _, hlen⟩ hslots.len
    | some m =>
      cases bits? with
      | none => exact absurd ⟨lent', _, hbits⟩ hslots.bits
      | some u =>
        -- the slots hold what the two entries say
        have hn := hslots.len.2 lent _ hlen
        have hs := hslots.bits.2 lent' _ hbits
        simp only [Datum.integer.injEq, Int.natCast_inj] at hn
        simp only [Datum.text.injEq, and_true] at hs
        subst hn hs
        rw [Octets.ofEntries, hend, collect]
        show (load ⟨n, s⟩).mapError RecordError.content = .error (.content f)
        rw [hload]
        rfl

/-- Whatever is not read has a refusal. -/
theorem exists_refused {e : RecordError} (h : Octets.ofEntries entries = .error e) :
    ∃ e', Refused entries e' := by
  rcases clean_or_firstOffence entries with hclean | ⟨e', hoff⟩
  · obtain ⟨len?, bits?, hslots, hend⟩ := ofEntries_of_clean hclean
    cases len? with
    | none => exact ⟨_, .noLen hclean hslots.len⟩
    | some n =>
      cases bits? with
      | none => exact ⟨_, .noBits hclean hslots.len.1 hslots.bits⟩
      | some s =>
        obtain ⟨⟨lent, d, hlen⟩, hlenAll⟩ := hslots.len
        obtain ⟨⟨lent', d', hbits⟩, hbitsAll⟩ := hslots.bits
        rw [hlenAll lent d hlen] at hlen
        rw [hbitsAll lent' d' hbits] at hbits
        cases hload : load ⟨n, s⟩ with
        | error f => exact ⟨_, .content hclean hlen hbits hload⟩
        | ok y =>
          rw [Octets.ofEntries, hend, collect] at h
          have hok : (load ⟨n, s⟩).mapError RecordError.content = .error e := h
          rw [hload] at hok
          cases hok
  · exact ⟨e', .offence hoff⟩

theorem mem_bitsEntry {t : Stored} {lent lent' : Bool}
    (h : entries = [t.lenEntry lent, t.bitsEntry lent'] ∨
      entries = [t.bitsEntry lent', t.lenEntry lent]) : t.bitsEntry lent' ∈ entries := by
  rcases h with rfl | rfl
  · exact List.mem_cons_of_mem _ (List.mem_singleton_self _)
  · exact List.mem_cons_self

section

variable (hsize : ∀ key s, (key, Datum.text s true) ∈ entries → s.utf8ByteSize ≤ Estimate.maxSize)
  {y : Octets}
include hsize

theorem accepted_of_ofEntries (h : Octets.ofEntries entries = .ok y) : Accepted entries y := by
  rw [Octets.ofEntries] at h
  cases ht : ofEntries entries with
  | error e =>
    rw [ht] at h
    cases h
  | ok t =>
    rw [ht] at h
    obtain ⟨lent, lent', hn, hshape⟩ := of_ofEntries ht
    have htext := hsize _ _ (mem_bitsEntry hshape)
    obtain ⟨v, hfits⟩ := (load_eq_ok_iff htext).mp (loadRecord_eq_ok_iff.mp h)
    exact ⟨t.len, t.bits, v, lent, lent', hshape, hn, hfits⟩

theorem ofEntries_of_accepted (h : Accepted entries y) : Octets.ofEntries entries = .ok y := by
  obtain ⟨n, s, v, lent, lent', hshape, hn, hfits⟩ := h
  have htext := hsize _ _ (mem_bitsEntry (t := ⟨n, s⟩) hshape)
  have hload := loadRecord_eq_ok_iff.mpr ((load_eq_ok_iff htext).mpr ⟨v, hfits⟩)
  rcases hshape with rfl | rfl
  · exact (ofEntries_len_bits (s := ⟨n, s⟩) hn lent lent').trans hload
  · exact (ofEntries_bits_len (s := ⟨n, s⟩) hn lent lent').trans hload

end

end

/-- **Records are decided entry by entry**, for any texts that memory can hold. Exactly the accepted
    entries are read, as the octet string that they make; all others are refused, with the first
    offence, or else with a missing field, or else for their content; and a list of two is read as
    its elements under the names of the fields. -/
theorem ofEntries_decides (entries : List (Datum × Datum))
    (hsize : ∀ key s, (key, Datum.text s true) ∈ entries → s.utf8ByteSize ≤ Estimate.maxSize) :
    (∀ y, Octets.ofEntries entries = .ok y ↔ Accepted entries y) ∧
    (∀ e, Octets.ofEntries entries = .error e ↔ Refused entries e) ∧
    ∀ (d d' : Datum) (lent lent' : Bool), Octets.ofList [d, d'] =
      Octets.ofEntries [(.text "len" lent, d), (.text "bits" lent', d')] := by
  refine ⟨fun y => ⟨accepted_of_ofEntries hsize, ofEntries_of_accepted hsize⟩,
    fun e => ⟨fun h => ?_, ofEntries_of_refused⟩, ofList_two⟩
  obtain ⟨e', he'⟩ := exists_refused h
  have hsame := (ofEntries_of_refused he').symm.trans h
  cases hsame
  exact he'

/-- Digits of either case, a separator, two zero bytes in front, and the numeral before the length. -/
theorem ofEntries_decides_swapped :
    Octets.ofEntries [(.text "bits" false, .text "1_fF" true), (.text "len" true, .integer 4)] =
      .ok ⟨[0, 0, 1, 255]⟩ := by
  refine ((ofEntries_decides _ ?_).1 _).mpr
    ⟨4, "1_fF", 511, true, false, .inr rfl, by decide, ⟨by decide, by decide⟩, by decide, by decide,
      rfl, by decide⟩
  intro key s hmem
  simp only [List.mem_cons, Prod.mk.injEq, Datum.text.injEq, List.not_mem_nil, or_false] at hmem
  rcases hmem with ⟨_, rfl, _⟩ | ⟨_, h⟩
  · decide
  · cases h

end Stored

end Tribase
