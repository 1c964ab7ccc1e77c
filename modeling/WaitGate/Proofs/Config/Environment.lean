import Mathlib.Data.List.TakeWhile
import Mathlib.Data.Nat.Digits.Defs
import WaitGate.Config
/-!
# Intervals read from the environment

`Config.ofEnv` reads the drain check interval from the text of an environment variable. The text
is accepted exactly when it *writes a count of milliseconds* (`Config.WritesMillis`): blanks, an
optional `+`, one or more ASCII digits whose decimal value `n` is below `2 ^ 64`, and blanks. An
accepted text gives the default label and `max n 1` milliseconds; any other text, and an absent
variable, give the default configuration, whose 100 milliseconds are not floored.

The description is stated without the reader's own steps: no trimming function and no fold over
the digits appear in it. Two facts carry the proof.

* Trimming removes blanks only, and exactly those at the ends: a text is its trimmed form between
  two runs of blanks (`Text.trimBlanks_split`), and a text that neither starts nor ends with a
  blank, put between blanks, is trimmed back to itself (`Text.trimBlanks_of_split`).
* Reading digits from the left, ten times the number so far plus the next digit, gives their
  decimal value (`Config.digitsValue_eq_ofDigits`).

`Config.parseMillis?_eq_some_iff` puts them together; the floor of one millisecond is the maximum
of the two counts (`Span.longer_milli`).
-/

namespace WaitGate

namespace Text

/-- Trimming removes only blanks: a text is its trimmed form with blanks before and after it. -/
theorem trimBlanks_split (cs : List Char) :
    ∃ pre post, cs = pre ++ trimBlanks cs ++ post ∧ (∀ c ∈ pre, blank c = true) ∧
      (∀ c ∈ post, blank c = true) := by
  -- the blanks dropped at the front, then, on the reversed rest, those dropped at the back
  set rest := cs.dropWhile blank with hrest
  refine ⟨cs.takeWhile blank, (rest.reverse.takeWhile blank).reverse, ?_,
    fun c hc => List.mem_takeWhile_imp hc, fun c hc => ?_⟩
  · have hback : rest = trimBlanks cs ++ (rest.reverse.takeWhile blank).reverse := by
      conv_lhs => rw [← List.reverse_reverse rest,
        ← @List.takeWhile_append_dropWhile _ blank rest.reverse]
      rw [List.reverse_append, trimBlanks, ← hrest]
    conv_lhs => rw [← @List.takeWhile_append_dropWhile _ blank cs, ← hrest, hback]
    rw [List.append_assoc]
  · exact List.mem_takeWhile_imp (List.mem_reverse.mp hc)

/-- A text that neither starts nor ends with a blank, put between blanks, trims back to itself. -/
theorem trimBlanks_of_split {pre t post : List Char} (hpre : ∀ c ∈ pre, blank c = true)
    (hpost : ∀ c ∈ post, blank c = true) (hhead : ∀ a rest, t = a :: rest → blank a = false)
    (hlast : ∀ init z, t = init ++ [z] → blank z = false) :
    trimBlanks (pre ++ t ++ post) = t := by
  have hfront : (pre ++ t ++ post).dropWhile blank = (t ++ post).dropWhile blank := by
    rw [List.append_assoc, List.dropWhile_append_of_pos hpre]
  rcases List.eq_nil_or_concat t with rfl | ⟨init, z, ht⟩
  · -- nothing but blanks
    rw [trimBlanks, hfront, List.nil_append, List.dropWhile_eq_nil_iff.mpr hpost]
    rfl
  · -- the text starts with a character that is kept, and ends with one
    rw [List.concat_eq_append] at ht
    subst ht
    obtain ⟨a, rest, hcons⟩ := List.exists_cons_of_ne_nil (List.append_ne_nil_of_right_ne_nil
      init (List.cons_ne_nil z []))
    have hkeep : (init ++ [z] ++ post).dropWhile blank = init ++ [z] ++ post := by
      rw [hcons, List.cons_append,
        List.dropWhile_cons_of_neg (by rw [hhead a rest hcons]; decide)]
    have hz : blank z = false := hlast init z rfl
    rw [trimBlanks, hfront, hkeep, List.reverse_append, List.dropWhile_append_of_pos
      (fun c hc => hpost c (List.mem_reverse.mp hc)), List.reverse_append,
      List.reverse_singleton, List.singleton_append,
      List.dropWhile_cons_of_neg (by rw [hz]; decide)]
    simp

/-- No ASCII digit is a blank. -/
theorem blank_of_isDigit {c : Char} (h : c.isDigit = true) : blank c = false := by
  simp only [Char.isDigit, Bool.and_eq_true, decide_eq_true_eq] at h
  obtain ⟨hlo, hhi⟩ := h
  -- an ASCII digit lies between 48 and 57, below every blank but the ASCII controls and space
  rw [ge_iff_le, UInt32.le_iff_toNat_le] at hlo
  rw [UInt32.le_iff_toNat_le] at hhi
  have hlo' : 48 ≤ c.toNat := hlo
  have hhi' : c.toNat ≤ 57 := hhi
  simp only [blank, Bool.or_eq_false_iff, Bool.and_eq_false_iff, decide_eq_false_iff_not,
    beq_eq_false_iff_ne]
  omega

end Text

namespace Span

/-- A count of milliseconds raised to one millisecond is the larger of the two counts. -/
theorem longer_milli (n : Nat) (h : n < 2 ^ 64) :
    (ofMillis n h).longer milli = ofMillis (Max.max n 1) (by omega) := by
  by_cases hn : 1 ≤ n
  · -- at least a millisecond: the count stays
    have hle : milli ≤ ofMillis n h := by
      show milli.toNanos ≤ (ofMillis n h).toNanos
      simp only [milli, toNanos_ofMillis]
      omega
    have hmax : Max.max n 1 = n := by omega
    simp only [longer, if_pos hle, hmax]
  · -- nothing: one millisecond instead
    have hlt : ¬milli ≤ ofMillis n h := by
      show ¬milli.toNanos ≤ (ofMillis n h).toNanos
      simp only [milli, toNanos_ofMillis]
      omega
    have hmax : Max.max n 1 = 1 := by omega
    simp only [longer, if_neg hlt, hmax]
    rfl

end Span

namespace Config

/-- Reading ASCII digits from the left, ten times the number so far plus the next digit, gives
their decimal value on top of `10 ^ (count of digits)` times the start. -/
theorem foldl_digits (ds : List Char) (acc : Nat) :
    ds.foldl (fun n c => 10 * n + digitValue c) acc =
      acc * 10 ^ ds.length + Nat.ofDigits 10 (ds.reverse.map digitValue) := by
  induction ds generalizing acc with
  | nil => simp
  | cons c ds ih =>
    rw [List.foldl_cons, ih, List.reverse_cons, List.map_append, Nat.ofDigits_append,
      List.map_singleton, Nat.ofDigits_singleton, List.length_map, List.length_reverse,
      List.length_cons, Nat.pow_succ]
    ring

/-- The number written by ASCII digits is their decimal value. -/
theorem digitsValue_eq_ofDigits (ds : List Char) :
    digitsValue ds = Nat.ofDigits 10 (ds.reverse.map digitValue) := by
  simp [digitsValue, foldl_digits]

/-- The text of an environment variable writes `n` milliseconds: blanks, an optional `+`, one or
more ASCII digits whose decimal value is `n`, below `2 ^ 64`, and blanks. -/
def WritesMillis (cs : List Char) (n : Nat) : Prop :=
  ∃ pre sign ds post, cs = pre ++ sign ++ ds ++ post ∧
    (∀ c ∈ pre, Text.blank c = true) ∧ (∀ c ∈ post, Text.blank c = true) ∧
    (sign = [] ∨ sign = ['+']) ∧ ds ≠ [] ∧ (∀ c ∈ ds, c.isDigit = true) ∧
    Nat.ofDigits 10 (ds.reverse.map digitValue) = n ∧ n < 2 ^ 64

/-- The check the reader makes on the digits after the sign: there are some, all ASCII digits, and
their value is below `2 ^ 64`; it then gives that value. -/
theorem digits_check_eq_some {ds : List Char} {n : Nat} :
    (if (!ds.isEmpty && ds.all Char.isDigit && decide (digitsValue ds < 18446744073709551616)) = true
      then some (digitsValue ds) else none) = some n ↔
    ds ≠ [] ∧ (∀ c ∈ ds, c.isDigit = true) ∧ Nat.ofDigits 10 (ds.reverse.map digitValue) = n ∧
      n < 2 ^ 64 := by
  simp only [Bool.and_eq_true, Bool.not_eq_true', List.isEmpty_eq_false_iff, List.all_eq_true,
    decide_eq_true_eq, Option.ite_none_right_eq_some, Option.some.injEq, digitsValue_eq_ofDigits]
  constructor
  · rintro ⟨⟨⟨hne, hdigits⟩, hlt⟩, rfl⟩
    exact ⟨hne, hdigits, rfl, hlt⟩
  · rintro ⟨hne, hdigits, rfl, hlt⟩
    exact ⟨⟨⟨hne, hdigits⟩, hlt⟩, rfl⟩

/-- Blanks around an optional `+` and one or more ASCII digits trim away, leaving the sign and the
digits. -/
theorem trimBlanks_sign_digits {pre sign ds post : List Char}
    (hpre : ∀ c ∈ pre, Text.blank c = true) (hpost : ∀ c ∈ post, Text.blank c = true)
    (hsign : sign = [] ∨ sign = ['+']) (hne : ds ≠ []) (hdigits : ∀ c ∈ ds, c.isDigit = true) :
    Text.trimBlanks (pre ++ sign ++ ds ++ post) = sign ++ ds := by
  rw [List.append_assoc pre sign ds]
  refine Text.trimBlanks_of_split hpre hpost (fun a r har => ?_) (fun init z hz => ?_)
  · -- the first character is the sign or the first digit
    rcases hsign with rfl | rfl
    · obtain ⟨d, rest, rfl⟩ := List.exists_cons_of_ne_nil hne
      rw [List.nil_append, List.cons.injEq] at har
      rw [← har.1]
      exact Text.blank_of_isDigit (hdigits d List.mem_cons_self)
    · rw [List.singleton_append, List.cons.injEq] at har
      rw [← har.1]
      decide
  · -- the last character is the last digit
    have hlast := congrArg List.getLast? hz
    rw [List.getLast?_append, List.getLast?_concat, List.getLast?_eq_some_getLast hne,
      Option.some_or, Option.some.injEq] at hlast
    rw [← hlast]
    exact Text.blank_of_isDigit (hdigits _ (List.getLast_mem hne))

/-- The reader accepts exactly the texts that write a count of milliseconds, with that count. -/
theorem parseMillis?_eq_some_iff (s : String) (n : Nat) :
    parseMillis? s = some n ↔ WritesMillis s.toList n := by
  constructor
  · intro h
    obtain ⟨pre, post, hsplit, hpre, hpost⟩ := Text.trimBlanks_split s.toList
    simp only [parseMillis?] at h
    generalize Text.trimBlanks s.toList = t at h hsplit
    split at h
    · -- a `+`, then the digits
      rename_i rest
      obtain ⟨hne, hdigits, hvalue, hlt⟩ := digits_check_eq_some.mp h
      exact ⟨pre, ['+'], rest, post, by simpa using hsplit, hpre, hpost, .inr rfl, hne, hdigits,
        hvalue, hlt⟩
    · -- no sign
      obtain ⟨hne, hdigits, hvalue, hlt⟩ := digits_check_eq_some.mp h
      exact ⟨pre, [], t, post, by simpa using hsplit, hpre, hpost, .inl rfl, hne, hdigits,
        hvalue, hlt⟩
  · rintro ⟨pre, sign, ds, post, hs, hpre, hpost, hsign, hne, hdigits, hvalue, hlt⟩
    have hchecked := digits_check_eq_some.mpr ⟨hne, hdigits, hvalue, hlt⟩
    simp only [parseMillis?, hs, trimBlanks_sign_digits hpre hpost hsign hne hdigits]
    rcases hsign with rfl | rfl
    · -- without a sign the text starts with a digit, so not with `+`
      obtain ⟨d, rest, rfl⟩ := List.exists_cons_of_ne_nil hne
      have hd := hdigits d List.mem_cons_self
      rw [List.nil_append]
      split
      · rename_i rest' hplus
        rw [(List.cons.injEq _ _ _ _).mp hplus |>.1] at hd
        cases hd
      · exact hchecked
    · exact hchecked

/-- The configuration read from the environment. An absent variable gives the default
configuration. A text that writes `n` milliseconds gives the label `gate` and `max n 1`
milliseconds: `n` milliseconds, `n / 1000` seconds and `n % 1000` millions of nanoseconds, raised to
one millisecond, which always fits. Every other text gives the default configuration, 100
milliseconds under the label `gate`, whatever spoils it: nothing but blanks, a lone `+`, a `-`
(also in `-0`), a separator, a digit outside ASCII, or a value of `2 ^ 64` or more. -/
theorem ofEnv_reads_millis :
    ofEnv none = default ∧
    ∀ s : String,
      (∀ n, WritesMillis s.toList n →
        ∃ h : max n 1 < 2 ^ 64, ofEnv (some s) = ⟨"gate", Span.ofMillis (max n 1) h⟩) ∧
      ((∀ n, ¬ WritesMillis s.toList n) → ofEnv (some s) = default) := by
  refine ⟨rfl, fun s => ⟨fun n hn => ?_, fun hnone => ?_⟩⟩
  · have hparse := (parseMillis?_eq_some_iff s n).mpr hn
    obtain ⟨-, -, -, -, -, -, -, -, -, -, -, hlt⟩ := hn
    refine ⟨by omega, ?_⟩
    have hfits : n < 18446744073709551616 := hlt
    simp only [ofEnv, Option.bind_some, hparse]
    rw [dif_pos hfits, minInterval, Span.longer_milli n hlt]
  · -- the reader accepts no count, so the default stands
    have hparse : parseMillis? s = none := by
      cases h : parseMillis? s with
      | none => rfl
      | some n => exact absurd ((parseMillis?_eq_some_iff s n).mp h) (hnone n)
    simp [ofEnv, hparse]

/-- A count between blanks, after a plus sign, is that many milliseconds. -/
theorem ofEnv_reads_seven :
    WritesMillis " +7 ".toList 7 ∧
      ∃ h : max 7 1 < 2 ^ 64, ofEnv (some " +7 ") = ⟨"gate", Span.ofMillis (max 7 1) h⟩ := by
  have hwrites : WritesMillis " +7 ".toList 7 :=
    ⟨[' '], ['+'], ['7'], [' '], by decide +kernel,
      fun c hc => by rw [List.mem_singleton.mp hc]; decide,
      fun c hc => by rw [List.mem_singleton.mp hc]; decide, .inr rfl,
      by simp, fun c hc => by rw [List.mem_singleton.mp hc]; decide, by decide, by decide⟩
  exact ⟨hwrites, (ofEnv_reads_millis.2 " +7 ").1 7 hwrites⟩

example : ofEnv (some "18446744073709551616") = default := by decide +kernel
example : ofEnv (some "　+0 ") = ⟨"gate", Span.milli⟩ := by decide +kernel

end Config

end WaitGate
